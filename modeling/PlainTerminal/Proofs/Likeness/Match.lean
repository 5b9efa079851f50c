import Mathlib.Data.List.Infix
import PlainTerminal.Likeness.Match
import PlainTerminal.Proofs.Command.Policy
import PlainTerminal.Proofs.Likeness.EditDistance

/-!
# No bonus lifts a match out of its class

A file name fits a query in one of five ways, or not at all: `Fit` orders them, and `fit` says which
one it is in terms of prefixes, parts, subsequences and edits. The points of `score` are a mixture:
a number for the way in which the name fits, less what a long name and every edit cost, and more for
an equal extension. What carries this module is that the mixtures do not overlap: every way has its
own range of points, and the ranges lie one above the other. So whoever has the most points fits in
the best way there is, whatever was taken off or added.

The rest is about the choice. It runs through the entries once and keeps the last one that nothing
before it beats, which is the last of the best, because to be no better is total and transitive.
-/

namespace PlainTerminal.Likeness

/-! ## The ways to fit -/

/-- How a file name fits a query, from not at all to the whole name. -/
inductive Fit where
  | none
  | near
  | part
  | beginning
  | stem
  | whole
deriving DecidableEq, Repr

namespace Fit

/-- The place of a fit in the order, higher for a better one. -/
def rank : Fit → Nat
  | none => 0
  | near => 1
  | part => 2
  | beginning => 3
  | stem => 4
  | whole => 5

/-- The fewest points that a fit can come to. -/
def least : Fit → Int
  | none => 0
  | near => 60
  | part => 160
  | beginning => 260
  | stem => 400
  | whole => 1000

/-- The most points that a fit can come to. -/
def most : Fit → Int
  | none => 0
  | near => 155
  | part => 225
  | beginning => 325
  | stem => 425
  | whole => 1025

/-- The points of a better fit are above those of a worse one. -/
theorem most_lt_least {worse better : Fit} (h : worse.rank < better.rank) :
    worse.most < better.least := by
  revert h
  cases worse <;> cases better <;> decide

theorem least_pos {f : Fit} (h : f ≠ none) : 0 < f.least := by
  revert h
  cases f <;> decide

end Fit

/-- At most two edits lead from a query to a name or to its stem, or the characters of the query
stand in the name in the same order. -/
def IsNear (query name : String) : Prop :=
  editDistance query.toList name.toList ≤ 2 ∨ editDistance query.toList (stem name).toList ≤ 2 ∨
    query.toList.Sublist name.toList

instance (query name : String) : Decidable (IsNear query name) :=
  inferInstanceAs (Decidable (_ ∨ _ ∨ _))

/-- How a name fits a query that is in the same letter case. A query of one or two bytes fits only
as it is spelt. -/
def fitAsSpelt (query name : String) : Fit :=
  if name = query then .whole
  else if stem name = query then .stem
  else if query.toList <+: name.toList then .beginning
  else if query.toList <:+: name.toList then .part
  else if 2 < query.utf8ByteSize ∧ IsNear query name then .near
  else .none

/-- How a file name fits a query, letter case aside. -/
def fit (query name : String) : Fit := fitAsSpelt (Text.lowercase query) (Text.lowercase name)

/-! ## What the tests of the score decide -/

/-- Taking the characters of a text as they come finds it in another one if it is there at all. -/
theorem isSubsequence_iff_sublist (a b : List Char) : isSubsequence a b = true ↔ a.Sublist b := by
  induction b generalizing a with
  | nil =>
      cases a with
      | nil => simp [isSubsequence]
      | cons x a => simp [isSubsequence]
  | cons y b ih =>
      cases a with
      | nil => simp [isSubsequence]
      | cons x a =>
          rw [isSubsequence]
          by_cases hxy : x = y
          · -- The first chance to place a character is as good as any later one.
            subst hxy
            rw [if_pos rfl, ih, List.cons_sublist_cons]
          · rw [if_neg hxy, ih, List.cons_sublist_cons']
            simp [hxy]

theorem eq_of_editDistance_eq_zero {a b : List Char} (h : editDistance a b = 0) : a = b := by
  have hedits := edits_editDistance a b
  rw [h] at hedits
  cases hedits
  rfl

/-- Different texts are at least one edit apart. -/
theorem one_le_distance {a b : String} (h : b ≠ a) : 1 ≤ distance a b := by
  rw [distance_eq_editDistance, Nat.one_le_iff_ne_zero]
  intro hzero
  have heq := eq_of_editDistance_eq_zero hzero
  exact h (String.toList_injective heq.symm)

/-- A name and its extension are what the last dot divides, if something stands before it. -/
theorem splitExtension_eq_some_iff {name stem extension : List Char} :
    splitExtension name = some (stem, extension) ↔
      name = stem ++ '.' :: extension ∧ stem ≠ [] ∧ '.' ∉ extension := by
  unfold splitExtension
  rw [List.span_eq_takeWhile_dropWhile]
  dsimp only
  constructor
  · intro h
    have hsplit := List.takeWhile_append_dropWhile (p := (· ≠ '.')) (l := name.reverse)
    have hnotDot : ∀ c ∈ name.reverse.takeWhile (· ≠ '.'), c ≠ '.' := by
      intro c hc
      simpa using List.mem_takeWhile_imp hc
    have hhead := List.head?_dropWhile_not (· ≠ '.') name.reverse
    revert h hsplit hnotDot hhead
    generalize name.reverse.takeWhile (· ≠ '.') = after
    generalize name.reverse.dropWhile (· ≠ '.') = rest
    intro h hsplit hnotDot hhead
    match rest with
    | [] => cases h
    | [_] => cases h
    | dot :: c :: before =>
        simp only [Option.some.injEq, Prod.mk.injEq] at h
        obtain ⟨rfl, rfl⟩ := h
        obtain rfl : dot = '.' := by simpa using hhead
        refine ⟨?_, by simp, fun hdot => hnotDot '.' (List.mem_reverse.mp hdot) rfl⟩
        have hname := congrArg List.reverse hsplit
        simpa using hname.symm
  · rintro ⟨rfl, hne, hext⟩
    have hnotDot : ∀ c ∈ extension.reverse, decide (c ≠ '.') = true := by
      intro c hc
      rw [decide_eq_true_eq]
      rintro rfl
      exact hext (List.mem_reverse.mp hc)
    have hreverse : (stem ++ '.' :: extension).reverse
        = extension.reverse ++ '.' :: stem.reverse := by
      simp
    have hstem : stem.reverse ≠ [] := fun h => hne (List.reverse_eq_nil_iff.mp h)
    rw [hreverse, List.takeWhile_append_of_pos hnotDot, List.dropWhile_append_of_pos hnotDot,
      List.takeWhile_cons_of_neg (by simp), List.dropWhile_cons_of_neg (by simp)]
    obtain ⟨c, rest, hrest⟩ := List.exists_cons_of_ne_nil hstem
    rw [hrest]
    simp [← hrest]

theorem isNear_iff (query name : String) : IsNear query name ↔
    min (distance query (stem name)) (distance query name) ≤ 2 ∨
      query.toList.Sublist name.toList := by
  have hmin : min (distance query (stem name)) (distance query name) ≤ 2 ↔
      distance query (stem name) ≤ 2 ∨ distance query name ≤ 2 := by omega
  unfold IsNear
  rw [hmin, distance_eq_editDistance, distance_eq_editDistance, or_assoc]
  exact or_left_comm

/-! ## The points of a fit -/

/-- Points before the bonus are such as a fit may earn, with room left for the bonus. -/
def Fit.Earns (f : Fit) : Option Int → Prop
  | Option.none => f = none
  | some points => f ≠ none ∧ f.least ≤ points ∧ points + 25 ≤ f.most

/-- **The points before the bonus stay in the range of the fit.** -/
theorem earns_basePoints (query name : String) {penalty : Int} (hnonneg : 0 ≤ penalty)
    (hle : penalty ≤ 40) : (fitAsSpelt query name).Earns (basePoints query name penalty) := by
  unfold basePoints fitAsSpelt
  simp only [List.isPrefixOf_iff_prefix, Policy.occursIn_iff, isSubsequence_iff_sublist]
  by_cases hwhole : name = query
  · rw [if_pos hwhole, if_pos hwhole]
    exact ⟨by decide, by decide, by decide⟩
  rw [if_neg hwhole, if_neg hwhole]
  by_cases hstem : stem name = query
  · rw [if_pos hstem, if_pos hstem]
    exact ⟨by decide, by decide, by decide⟩
  rw [if_neg hstem, if_neg hstem]
  by_cases hbeginning : query.toList <+: name.toList
  · rw [if_pos hbeginning, if_pos hbeginning]
    show _ ∧ (260 : Int) ≤ 300 - penalty ∧ 300 - penalty + 25 ≤ (325 : Int)
    exact ⟨by decide, by omega, by omega⟩
  rw [if_neg hbeginning, if_neg hbeginning]
  by_cases hpart : query.toList <:+: name.toList
  · rw [if_pos hpart, if_pos hpart]
    show _ ∧ (160 : Int) ≤ 200 - penalty ∧ 200 - penalty + 25 ≤ (225 : Int)
    exact ⟨by decide, by omega, by omega⟩
  rw [if_neg hpart, if_neg hpart]
  -- What is left is at least one edit away, from the whole name and from its stem.
  have hname := one_le_distance hwhole
  have hstemName := one_le_distance hstem
  simp only [isNear_iff]
  generalize hsteps : min (distance query (stem name)) (distance query name) = steps
  have hone : 1 ≤ steps := by omega
  by_cases hlong : 2 < query.utf8ByteSize
  · by_cases hclose : steps ≤ 2
    · rw [if_pos ⟨hlong, Or.inl hclose⟩, if_pos ⟨hclose, hlong⟩]
      show _ ∧ (60 : Int) ≤ 150 - steps * 20 - penalty ∧
        150 - steps * 20 - penalty + 25 ≤ (155 : Int)
      exact ⟨by decide, by omega, by omega⟩
    · have hfar : ¬ (steps ≤ 2 ∧ query.utf8ByteSize > 2) := fun h => hclose h.1
      rw [if_neg hfar]
      by_cases hsublist : query.toList.Sublist name.toList
      · rw [if_pos ⟨hlong, Or.inr hsublist⟩, if_pos ⟨hlong, hsublist⟩]
        show _ ∧ (60 : Int) ≤ 100 - penalty ∧ 100 - penalty + 25 ≤ (155 : Int)
        exact ⟨by decide, by omega, by omega⟩
      · rw [if_neg (by simp [hclose, hsublist]), if_neg (by simp [hsublist])]
        rfl
  · -- A short query fits only as it is spelt.
    rw [if_neg (by simp [hlong]), if_neg (by simp [hlong]), if_neg (by simp [hlong])]
    rfl

theorem lengthPenalty_range (name : String) :
    0 ≤ lengthPenalty name ∧ lengthPenalty name ≤ 40 := by
  unfold lengthPenalty
  omega

theorem score_empty (name : String) : score "" name = 0 := if_pos rfl

/-- **The points of a name are in the range of its fit**, whatever it costs and earns besides. -/
theorem score_range {query : String} (hquery : query ≠ "") (name : String) :
    (fit query name).least ≤ score query name ∧ score query name ≤ (fit query name).most := by
  have hpenalty := lengthPenalty_range name
  have hearns := earns_basePoints (Text.lowercase query) (Text.lowercase name) hpenalty.1 hpenalty.2
  unfold score fit
  rw [if_neg hquery]
  dsimp only
  generalize fitAsSpelt (Text.lowercase query) (Text.lowercase name) = f at hearns ⊢
  cases hbase : basePoints (Text.lowercase query) (Text.lowercase name) (lengthPenalty name) with
  | none =>
      rw [hbase] at hearns
      obtain rfl : f = .none := hearns
      exact ⟨Int.le_refl 0, Int.le_refl 0⟩
  | some points =>
      rw [hbase] at hearns
      obtain ⟨hne, hleast, hmost⟩ := hearns
      have hpos := Fit.least_pos hne
      dsimp only
      split
      · omega
      · omega

/-- A name has points exactly if it fits. -/
theorem score_pos_iff {query : String} (hquery : query ≠ "") (name : String) :
    0 < score query name ↔ fit query name ≠ .none := by
  have hrange := score_range hquery name
  constructor
  · intro hpos hnone
    rw [hnone] at hrange
    have hmost : Fit.none.most = 0 := rfl
    omega
  · intro hfit
    have hleast := Fit.least_pos hfit
    omega

/-- **More points are never for a worse fit.** -/
theorem rank_fit_le_of_score_le {query : String} (hquery : query ≠ "") {worse better : String}
    (h : score query worse ≤ score query better) :
    (fit query worse).rank ≤ (fit query better).rank := by
  by_contra hrank
  have hgap := Fit.most_lt_least (Nat.lt_of_not_le hrank)
  have hworse := score_range hquery worse
  have hbetter := score_range hquery better
  omega

/-! ## The choice -/

theorem noBetterThan_iff (query a b : String) : noBetterThan query a b = true ↔
    score query a < score query b ∨
      (score query a = score query b ∧ b.utf8ByteSize ≤ a.utf8ByteSize) := by
  simp [noBetterThan]

theorem noBetterThan_total {query a b : String} (h : ¬ noBetterThan query a b = true) :
    noBetterThan query b a = true := by
  rw [noBetterThan_iff] at h ⊢
  omega

theorem noBetterThan_trans {query a b c : String} (hab : noBetterThan query a b = true)
    (hbc : noBetterThan query b c = true) : noBetterThan query a c = true := by
  rw [noBetterThan_iff] at hab hbc ⊢
  omega

/-- One step of the choice. -/
def choose (query : String) (best : Option String) (name : String) : Option String :=
  match best with
  | none => some name
  | some b => if noBetterThan query b name then some name else some b

theorem bestMatch_eq (query : String) (entries : List String) : bestMatch query entries =
    (entries.filter fun e => 0 < score query e).foldl (choose query) none := rfl

/-- Where the choice is left when it has been through some names: at the last one that is at least
as good as all of them. -/
theorem foldl_choose (query : String) (names : List String) :
    (names = [] ∧ names.foldl (choose query) none = none) ∨
      ∃ before found after, names = before ++ found :: after ∧
        names.foldl (choose query) none = some found ∧
        (∀ e ∈ before, noBetterThan query e found = true) ∧
        ∀ e ∈ after, ¬ noBetterThan query found e = true := by
  induction names using List.reverseRecOn with
  | nil => exact Or.inl ⟨rfl, rfl⟩
  | append_singleton names name ih =>
      right
      rw [List.foldl_append, List.foldl_cons, List.foldl_nil]
      rcases ih with ⟨rfl, hnone⟩ | ⟨before, found, after, hnames, hsome, hbefore, hafter⟩
      · exact ⟨[], name, [], rfl, by rw [hnone]; rfl, nofun, nofun⟩
      · rw [hsome]
        by_cases hlast : noBetterThan query found name = true
        · -- The new name takes over, and everything before it is no better.
          refine ⟨names, name, [], rfl, if_pos hlast, ?_, nofun⟩
          intro e he
          rw [hnames] at he
          rcases List.mem_append.mp he with he | he
          · exact noBetterThan_trans (hbefore e he) hlast
          · rcases List.mem_cons.mp he with rfl | he
            · exact hlast
            · exact noBetterThan_trans (noBetterThan_total (hafter e he)) hlast
        · refine ⟨before, found, after ++ [name], ?_, if_neg hlast, hbefore, ?_⟩
          · rw [hnames, List.append_assoc, List.cons_append]
          · intro e he
            rcases List.mem_append.mp he with he | he
            · exact hafter e he
            · obtain rfl := List.mem_singleton.mp he
              exact hlast

/-- Nothing is chosen exactly if no entry has points. -/
theorem bestMatch_eq_none_iff (query : String) (entries : List String) :
    bestMatch query entries = none ↔ ∀ e ∈ entries, ¬ 0 < score query e := by
  have hnil : (entries.filter fun e => 0 < score query e) = [] ↔
      ∀ e ∈ entries, ¬ 0 < score query e := by
    rw [List.filter_eq_nil_iff]
    simp only [decide_eq_true_eq]
  rw [bestMatch_eq, ← hnil]
  rcases foldl_choose query (entries.filter fun e => 0 < score query e) with
    ⟨hempty, hnone⟩ | ⟨before, found, after, hnames, hsome, -, -⟩
  · rw [hnone, hempty]
    exact iff_of_true rfl rfl
  · rw [hsome, hnames]
    exact iff_of_false nofun (by simp)

/-- The chosen entry stands before those that are beaten by it and behind those that are no better,
as far as they have points. -/
theorem exists_split_of_bestMatch {query found : String} {entries : List String}
    (h : bestMatch query entries = some found) :
    ∃ before after, entries = before ++ found :: after ∧ 0 < score query found ∧
      (∀ e ∈ before, 0 < score query e → noBetterThan query e found = true) ∧
      ∀ e ∈ after, 0 < score query e → ¬ noBetterThan query found e = true := by
  rw [bestMatch_eq] at h
  rcases foldl_choose query (entries.filter fun e => 0 < score query e) with
    ⟨-, hnone⟩ | ⟨front, best, back, hnames, hsome, hfront, hback⟩
  · rw [hnone] at h
    cases h
  · obtain rfl : best = found := Option.some.inj (hsome.symm.trans h)
    obtain ⟨before, rest, rfl, rfl, hrest⟩ := List.filter_eq_append_iff.mp hnames
    obtain ⟨idle, after, rfl, hidle, hpos, rfl⟩ := List.filter_eq_cons_iff.mp hrest
    refine ⟨before ++ idle, after, by rw [List.append_assoc], by simpa using hpos, ?_, ?_⟩
    · intro e he hscore
      rcases List.mem_append.mp he with he | he
      · exact hfront e (List.mem_filter.mpr ⟨he, by simpa using hscore⟩)
      · -- Between the kept names stand only such as have no points.
        exact absurd (by simpa using hscore) (hidle e he)
    · intro e he hscore
      exact hback e (List.mem_filter.mpr ⟨he, by simpa using hscore⟩)

/-- What is chosen is an entry. -/
theorem mem_of_bestMatch {query found : String} {entries : List String}
    (h : bestMatch query entries = some found) : found ∈ entries := by
  obtain ⟨before, after, rfl, -⟩ := exists_split_of_bestMatch h
  simp

/-- The entry that a query most likely means. -/
structure IsBest (query : String) (entries : List String) (found : String) : Prop where
  /-- It fits. -/
  fits : fit query found ≠ .none
  /-- Nothing fits in a better way. -/
  rank_le : ∀ e ∈ entries, (fit query e).rank ≤ (fit query found).rank
  /-- Nothing has more points. -/
  score_le : ∀ e ∈ entries, score query e ≤ score query found
  /-- Nothing that has as many points is shorter. -/
  size_le : ∀ e ∈ entries, score query e = score query found →
    found.utf8ByteSize ≤ e.utf8ByteSize
  /-- It is one of the entries, and none behind it has as many points and is as short. -/
  last : ∃ before after, entries = before ++ found :: after ∧
    ∀ e ∈ after, score query e = score query found → e.utf8ByteSize ≠ found.utf8ByteSize

/-- What is chosen is at least as good as every entry. -/
theorem noBetterThan_of_bestMatch {query found : String} {entries : List String}
    (h : bestMatch query entries = some found) {e : String} (he : e ∈ entries) :
    noBetterThan query e found = true := by
  obtain ⟨before, after, rfl, hfound, hbefore, hafter⟩ := exists_split_of_bestMatch h
  by_cases hscore : 0 < score query e
  · rcases List.mem_append.mp he with he | he
    · exact hbefore e he hscore
    · rcases List.mem_cons.mp he with rfl | he
      · rw [noBetterThan_iff]
        omega
      · exact noBetterThan_total (hafter e he hscore)
  · rw [noBetterThan_iff]
    omega

/-- **The best match**: there is none exactly if nothing fits, and otherwise it is the last of the
shortest of those with the most points, which fits in the best way in which any entry does. -/
theorem bestMatch_isBest (query : String) (entries : List String) :
    (bestMatch query entries = none ↔ query = "" ∨ ∀ e ∈ entries, fit query e = .none) ∧
      ∀ found, bestMatch query entries = some found → IsBest query entries found := by
  by_cases hquery : query = ""
  · subst hquery
    have hnone : bestMatch "" entries = none := by
      rw [bestMatch_eq_none_iff]
      intro e _
      rw [score_empty]
      omega
    refine ⟨iff_of_true hnone (Or.inl rfl), fun found hfound => ?_⟩
    rw [hnone] at hfound
    cases hfound
  refine ⟨?_, fun found hfound => ?_⟩
  · rw [bestMatch_eq_none_iff, or_iff_right hquery]
    simp only [score_pos_iff hquery, ne_eq, not_not]
  · have hbest := fun e he => (noBetterThan_iff query e found).mp
      (noBetterThan_of_bestMatch hfound (e := e) he)
    have hscore : ∀ e ∈ entries, score query e ≤ score query found := by
      intro e he
      have he' := hbest e he
      omega
    obtain ⟨before, after, hentries, hpos, -, hafter⟩ := exists_split_of_bestMatch hfound
    refine ⟨(score_pos_iff hquery found).mp hpos, ?_, hscore, ?_, before, after, hentries, ?_⟩
    · exact fun e he => rank_fit_le_of_score_le hquery (hscore e he)
    · intro e he heq
      have he' := hbest e he
      omega
    · intro e he heq hsize
      refine hafter e he (by omega) ((noBetterThan_iff query found e).mpr ?_)
      omega

/-- Two stems are one edit away from the query, and the names are equally long. -/
theorem bestMatch_isBest_last :
    bestMatch "smily" ["src", "smiley.txt", "README.md", "smile.jpeg"] = some "smile.jpeg" ∧
      IsBest "smily" ["src", "smiley.txt", "README.md", "smile.jpeg"] "smile.jpeg" :=
  ⟨by decide +kernel, (bestMatch_isBest _ _).2 _ (by decide +kernel)⟩

end PlainTerminal.Likeness
