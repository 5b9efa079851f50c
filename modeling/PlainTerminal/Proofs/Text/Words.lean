import Mathlib.Data.List.Basic
import Mathlib.Data.List.TakeDrop
import Mathlib.Data.List.TakeWhile
import PlainTerminal.Text.Blank

/-!
# What trimming and splitting leave

Trimming takes blanks away at the two ends and nothing else; cutting at the first blank loses that
blank alone; and the words of a text have no blanks in them. So a text is always one of its parts
with something put around it, which is how facts about a command and about its operands are carried
from one to the other.
-/

namespace PlainTerminal.Text

/-- The pieces of a list between separators hold no separator. -/
theorem of_mem_splitOnP {α : Type} {p : α → Bool} {s l : List α} (h : l ∈ s.splitOnP p) :
    ∀ x ∈ l, p x = false := by
  induction s generalizing l with
  | nil =>
      rw [List.splitOnP_nil, List.mem_singleton] at h
      subst h
      intro x hx
      cases hx
  | cons a s ih =>
      rw [List.splitOnP_cons_eq_if_modifyHead] at h
      by_cases ha : p a
      · -- A separator begins a piece of its own.
        rw [if_pos ha] at h
        rcases List.mem_cons.mp h with rfl | h
        · intro x hx
          cases hx
        · exact ih h
      · rw [if_neg ha] at h
        obtain ⟨first, others, hs⟩ := List.exists_cons_of_ne_nil (List.splitOnP_ne_nil p s)
        -- Any other element goes to the front of the first piece.
        rw [hs] at h ih
        rw [List.modifyHead_cons] at h
        rcases List.mem_cons.mp h with rfl | h
        · intro x hx
          rcases List.mem_cons.mp hx with rfl | hx
          · exact Bool.eq_false_iff.mpr ha
          · exact ih (List.mem_cons_self ..) x hx
        · exact ih (List.mem_cons_of_mem _ h)

/-- The pieces of a list between separators hold everything else. -/
theorem flatten_splitOnP {α : Type} (p : α → Bool) (s : List α) :
    (s.splitOnP p).flatten = s.filter fun x => !p x := by
  induction s with
  | nil => rfl
  | cons a s ih =>
      rw [List.splitOnP_cons_eq_if_modifyHead]
      by_cases ha : p a
      · rw [if_pos ha, List.flatten_cons, List.nil_append, ih,
          List.filter_cons_of_neg (by simp [ha])]
      · obtain ⟨first, others, hs⟩ := List.exists_cons_of_ne_nil (List.splitOnP_ne_nil p s)
        rw [if_neg ha, hs, List.modifyHead_cons, List.filter_cons_of_pos (by simp [ha]), ← ih, hs]
        rfl

/-! ## Trimming -/

/-- What stripping takes away at the two ends. -/
theorem stripChars_split (p : Char → Bool) (s : List Char) :
    ∃ a b, s = a ++ stripChars p s ++ b ∧ (∀ c ∈ a, p c = true) ∧ ∀ c ∈ b, p c = true := by
  refine ⟨s.takeWhile p, ((s.dropWhile p).reverse.takeWhile p).reverse, ?_, ?_, ?_⟩
  · have hback : stripChars p s ++ ((s.dropWhile p).reverse.takeWhile p).reverse
        = s.dropWhile p := by
      rw [stripChars, ← List.reverse_append, List.takeWhile_append_dropWhile,
        List.reverse_reverse]
    rw [List.append_assoc, hback, List.takeWhile_append_dropWhile]
  · exact fun c hc => List.mem_takeWhile_imp hc
  · exact fun c hc => List.mem_takeWhile_imp (List.mem_reverse.mp hc)

/-- Nothing is stripped between ends that do not go. -/
theorem stripChars_eq_self {p : Char → Bool} {s : List Char}
    (hhead : ∀ c, s.head? = some c → p c = false)
    (hlast : ∀ c, s.getLast? = some c → p c = false) : stripChars p s = s := by
  have hfront : s.dropWhile p = s := by
    cases s with
    | nil => rfl
    | cons c rest => rw [List.dropWhile_cons_of_neg (by simp [hhead c rfl])]
  have hback : s.reverse.dropWhile p = s.reverse := by
    cases hs : s.reverse with
    | nil => rfl
    | cons c rest =>
        have hc : s.getLast? = some c := by rw [← List.head?_reverse, hs]; rfl
        rw [List.dropWhile_cons_of_neg (by simp [hlast c hc])]
  rw [stripChars, hfront, hback, List.reverse_reverse]

/-- What is stripped may stand at the end. -/
theorem stripChars_append {p : Char → Bool} {s b : List Char} (hb : ∀ c ∈ b, p c = true) :
    stripChars p (s ++ b) = stripChars p s := by
  have hreverse : ∀ c ∈ b.reverse, p c = true := fun c hc => hb c (List.mem_reverse.mp hc)
  rw [stripChars, stripChars, List.dropWhile_append]
  split
  · rename_i hempty
    rw [List.isEmpty_iff.mp hempty, List.dropWhile_eq_nil_iff.mpr hb]
  · rw [List.reverse_append, List.dropWhile_append_of_pos hreverse]

/-- What is stripped may stand in front. -/
theorem stripChars_append_left {p : Char → Bool} {a : List Char} (ha : ∀ c ∈ a, p c = true)
    (s : List Char) : stripChars p (a ++ s) = stripChars p s := by
  rw [stripChars, stripChars, List.dropWhile_append_of_pos ha]

/-- What is left begins with what is not stripped. -/
theorem head?_stripChars {p : Char → Bool} {s : List Char} {c : Char}
    (h : (stripChars p s).head? = some c) : p c = false := by
  have hback : stripChars p s ++ ((s.dropWhile p).reverse.takeWhile p).reverse = s.dropWhile p := by
    rw [stripChars, ← List.reverse_append, List.takeWhile_append_dropWhile, List.reverse_reverse]
  have hhead : (s.dropWhile p).head? = some c := by
    rw [← hback, List.head?_append, h]
    rfl
  have hnot := List.head?_dropWhile_not p s
  rw [hhead] at hnot
  simpa using hnot

/-- What is left ends with what is not stripped. -/
theorem getLast?_stripChars {p : Char → Bool} {s : List Char} {c : Char}
    (h : (stripChars p s).getLast? = some c) : p c = false := by
  rw [stripChars, List.getLast?_reverse] at h
  have hnot := List.head?_dropWhile_not p (s.dropWhile p).reverse
  rw [h] at hnot
  simpa using hnot

/-- The two ends are treated alike. -/
theorem stripChars_reverse (p : Char → Bool) (s : List Char) :
    stripChars p s.reverse = (stripChars p s).reverse := by
  obtain ⟨a, b, hsplit, ha, hb⟩ := stripChars_split p s
  have hkept : stripChars p (stripChars p s).reverse = (stripChars p s).reverse := by
    refine stripChars_eq_self (fun c hc => ?_) fun c hc => ?_
    · rw [List.head?_reverse] at hc
      exact getLast?_stripChars hc
    · rw [List.getLast?_reverse] at hc
      exact head?_stripChars hc
  have hreverse : s.reverse = b.reverse ++ ((stripChars p s).reverse ++ a.reverse) := by
    conv_lhs => rw [hsplit]
    rw [List.reverse_append, List.reverse_append]
  rw [hreverse, stripChars_append_left fun c hc => hb c (List.mem_reverse.mp hc),
    stripChars_append fun c hc => ha c (List.mem_reverse.mp hc), hkept]

/-- What is not stripped stays in front. -/
theorem head?_stripChars_cons {p : Char → Bool} {c : Char} (hc : p c = false) (s : List Char) :
    (stripChars p (c :: s)).head? = some c := by
  obtain ⟨a, b, hsplit, ha, hb⟩ := stripChars_split p (c :: s)
  generalize stripChars p (c :: s) = kept at hsplit ⊢
  cases a with
  | cons x a =>
      obtain rfl := (List.cons.inj hsplit).1
      rw [ha c List.mem_cons_self] at hc
      cases hc
  | nil =>
      cases kept with
      | cons x kept =>
          obtain rfl := (List.cons.inj hsplit).1
          rfl
      | nil =>
          have hmem : c ∈ b := by
            rw [List.nil_append, List.nil_append] at hsplit
            exact hsplit ▸ List.mem_cons_self
          rw [hb c hmem] at hc
          cases hc

@[simp] theorem trim_trim (text : String) : trim (trim text) = trim text := by
  rw [trim, trim, String.toList_ofList,
    stripChars_eq_self (fun _ => head?_stripChars) fun _ => getLast?_stripChars]

/-- Trimming leaves nothing of blanks, and of nothing else. -/
theorem trim_eq_empty_iff {text : String} : trim text = "" ↔ isBlankText text = true := by
  rw [trim, isBlankText, List.all_eq_true, String.ofList_eq_empty_iff]
  constructor
  · intro h
    obtain ⟨a, b, hsplit, ha, hb⟩ := stripChars_split isBlank text.toList
    rw [h, List.append_nil] at hsplit
    rw [hsplit]
    exact List.forall_mem_append.mpr ⟨ha, hb⟩
  · intro h
    rw [← List.append_nil text.toList, stripChars_append_left h]
    rfl

/-- A text is trimmed if it neither begins nor ends with a blank. -/
theorem trim_eq_self_iff {s : List Char} : trim (String.ofList s) = String.ofList s ↔
    (∀ c, s.head? = some c → isBlank c = false) ∧
      ∀ c, s.getLast? = some c → isBlank c = false := by
  rw [trim, String.toList_ofList]
  constructor
  · intro h
    have hself : stripChars isBlank s = s := String.ofList_injective h
    rw [← hself]
    exact ⟨fun _ => head?_stripChars, fun _ => getLast?_stripChars⟩
  · rintro ⟨hhead, hlast⟩
    rw [stripChars_eq_self hhead hlast]

/-- Nothing is trimmed in front of a text that begins with two characters that are not blank, and
neither of them is trimmed at its end. -/
theorem toList_trim_cons {text : String} {x y : Char} {rest : List Char}
    (h : text.toList = x :: y :: rest) (hx : isBlank x = false) (hy : isBlank y = false) :
    ∃ rest', (trim text).toList = x :: y :: rest' := by
  obtain ⟨a, b, hsplit, ha, hb⟩ := stripChars_split isBlank text.toList
  rw [trim, String.toList_ofList]
  rw [h] at hsplit ⊢
  cases a with
  | cons c a =>
      obtain rfl : x = c := (List.cons.inj hsplit).1
      exact absurd (ha x List.mem_cons_self) (by simp [hx])
  | nil =>
      rw [List.nil_append] at hsplit
      generalize stripChars isBlank (x :: y :: rest) = kept at hsplit ⊢
      match kept, hsplit with
      | [], hsplit =>
          obtain rfl : x :: y :: rest = b := hsplit
          exact absurd (hb x List.mem_cons_self) (by simp [hx])
      | [_], hsplit =>
          obtain rfl : y :: rest = b := (List.cons.inj hsplit).2
          exact absurd (hb y List.mem_cons_self) (by simp [hy])
      | _ :: _ :: kept, hsplit =>
          obtain ⟨rfl, htail⟩ := List.cons.inj hsplit
          obtain ⟨rfl, -⟩ := List.cons.inj htail
          exact ⟨kept, rfl⟩

/-- A word that is all there is. -/
structure IsWord (s : List Char) : Prop where
  ne_nil : s ≠ []
  not_blank : ∀ c ∈ s, isBlank c = false

theorem isWord_iff {s : List Char} :
    IsWord s ↔ s ≠ [] ∧ s.all (fun c => !isBlank c) = true := by
  constructor
  · intro h
    refine ⟨h.ne_nil, List.all_eq_true.mpr fun c hc => ?_⟩
    rw [h.not_blank c hc]
    rfl
  · rintro ⟨hne, hall⟩
    refine ⟨hne, fun c hc => ?_⟩
    simpa using List.all_eq_true.mp hall c hc

instance : DecidablePred IsWord := fun _ => decidable_of_iff _ isWord_iff.symm

theorem trim_word {s : List Char} (h : IsWord s) : trim (String.ofList s) = String.ofList s := by
  refine trim_eq_self_iff.mpr ⟨fun c hc => ?_, fun c hc => ?_⟩
  · exact h.not_blank c (List.mem_of_mem_head? hc)
  · exact h.not_blank c (List.mem_of_getLast? hc)

/-- Nothing is trimmed of a text that begins with what is not blank and ends with a word. -/
theorem trim_cons_append_word {c : Char} {front word : List Char} (hc : isBlank c = false)
    (hword : IsWord word) :
    trim (String.ofList (c :: front ++ word)) = String.ofList (c :: front ++ word) := by
  refine trim_eq_self_iff.mpr ⟨?_, ?_⟩
  · rintro d ⟨⟩
    exact hc
  · intro d hd
    rw [List.getLast?_append_of_ne_nil _ hword.ne_nil] at hd
    exact hword.not_blank d (List.mem_of_getLast? hd)

/-! ## Words -/

theorem words_word {s : List Char} (h : IsWord s) :
    words (String.ofList s) = [String.ofList s] := by
  rw [words, wordsOf, String.toList_ofList, List.splitOnP_eq_singleton h.not_blank]
  simp [h.ne_nil]

/-- A text whose pieces but the first are empty has nothing but blanks after the first. -/
theorem blanks_after_first {s first : List Char} {others : List (List Char)}
    (hsplit : s.splitOnP isBlank = first :: others) (hempty : ∀ l ∈ others, l = []) :
    ∃ b, s = first ++ b ∧ ∀ c ∈ b, isBlank c = true := by
  induction s generalizing first others with
  | nil =>
      rw [List.splitOnP_nil] at hsplit
      cases hsplit
      exact ⟨[], rfl, nofun⟩
  | cons c s ih =>
      rw [List.splitOnP_cons_eq_if_modifyHead] at hsplit
      obtain ⟨first', others', hs⟩ := List.exists_cons_of_ne_nil (List.splitOnP_ne_nil isBlank s)
      rw [hs] at hsplit
      by_cases hc : isBlank c = true
      · rw [if_pos hc] at hsplit
        cases hsplit
        obtain ⟨b, rfl, hb⟩ := ih hs fun l hl => hempty l (List.mem_cons_of_mem _ hl)
        obtain rfl := hempty first' List.mem_cons_self
        refine ⟨c :: b, rfl, fun d hd => ?_⟩
        rcases List.mem_cons.mp hd with rfl | hd
        · exact hc
        · exact hb d hd
      · rw [if_neg hc, List.modifyHead_cons] at hsplit
        cases hsplit
        obtain ⟨b, rfl, hb⟩ := ih hs hempty
        exact ⟨b, rfl, hb⟩

/-- A text of one word is that word with blanks around it. -/
theorem wordsOf_eq_singleton {s word : List Char} (h : wordsOf s = [word]) :
    ∃ a b, s = a ++ word ++ b ∧ (∀ c ∈ a, isBlank c = true) ∧ ∀ c ∈ b, isBlank c = true := by
  induction s with
  | nil => cases h
  | cons c s ih =>
      obtain ⟨first, others, hs⟩ := List.exists_cons_of_ne_nil (List.splitOnP_ne_nil isBlank s)
      unfold wordsOf at h ih
      rw [List.splitOnP_cons_eq_if_modifyHead, hs] at h
      by_cases hc : isBlank c = true
      · rw [if_pos hc, List.filter_cons_of_neg (by simp), ← hs] at h
        obtain ⟨a, b, rfl, ha, hb⟩ := ih h
        refine ⟨c :: a, b, rfl, fun d hd => ?_, hb⟩
        rcases List.mem_cons.mp hd with rfl | hd
        · exact hc
        · exact ha d hd
      · rw [if_neg hc, List.modifyHead_cons, List.filter_cons_of_pos (by simp)] at h
        obtain ⟨rfl, hothers⟩ := List.cons.inj h
        have hempty : ∀ l ∈ others, l = [] := by
          intro l hl
          by_contra hne
          have hmem : l ∈ others.filter (· ≠ []) := List.mem_filter.mpr ⟨hl, by simpa using hne⟩
          rw [hothers] at hmem
          cases hmem
        obtain ⟨b, rfl, hb⟩ := blanks_after_first hs hempty
        exact ⟨[], b, rfl, nofun, hb⟩

/-- A word of a text is a word by itself. -/
theorem isWord_of_mem_words {text word : String} (h : word ∈ words text) :
    IsWord word.toList := by
  obtain ⟨piece, hpiece, rfl⟩ := List.mem_map.mp h
  obtain ⟨hmem, hne⟩ := List.mem_filter.mp hpiece
  rw [String.toList_ofList]
  exact ⟨by simpa using hne, of_mem_splitOnP hmem⟩

theorem words_of_mem_words {text word : String} (h : word ∈ words text) : words word = [word] := by
  have hword := words_word (isWord_of_mem_words h)
  rwa [String.ofList_toList] at hword

/-- A blank keeps the words on its two sides apart. -/
theorem wordsOf_append_cons (a b : List Char) {c : Char} (hc : isBlank c = true) :
    wordsOf (a ++ c :: b) = wordsOf a ++ wordsOf b := by
  unfold wordsOf
  rw [List.splitOnP_append_cons a b hc, List.filter_append]

/-- There are no words in blanks. -/
theorem wordsOf_blanks_append {a : List Char} (ha : ∀ c ∈ a, isBlank c = true) (s : List Char) :
    wordsOf (a ++ s) = wordsOf s := by
  induction a with
  | nil => rfl
  | cons c a ih =>
      rw [List.cons_append, ← List.nil_append (c :: _),
        wordsOf_append_cons [] _ (ha c List.mem_cons_self),
        ih fun d hd => ha d (List.mem_cons_of_mem c hd)]
      rfl

theorem wordsOf_append_blanks {b : List Char} (hb : ∀ c ∈ b, isBlank c = true) (s : List Char) :
    wordsOf (s ++ b) = wordsOf s := by
  cases b with
  | nil => rw [List.append_nil]
  | cons c b =>
      have hrest : wordsOf (b ++ []) = wordsOf [] :=
        wordsOf_blanks_append (fun d hd => hb d (List.mem_cons_of_mem c hd)) []
      rw [List.append_nil] at hrest
      rw [wordsOf_append_cons s b (hb c List.mem_cons_self), hrest]
      exact List.append_nil _

theorem words_trim (text : String) : words (trim text) = words text := by
  obtain ⟨a, b, hsplit, ha, hb⟩ := stripChars_split isBlank text.toList
  unfold words trim
  rw [String.toList_ofList, hsplit, wordsOf_append_blanks hb, wordsOf_blanks_append ha, ← hsplit]

/-- Texts with a space between any two have the words of each, in order. -/
theorem words_intercalate (texts : List String) :
    words (" ".intercalate texts) = texts.flatMap words := by
  induction texts with
  | nil => rfl
  | cons text rest ih =>
      by_cases hrest : rest = []
      · subst hrest
        rw [String.intercalate_singleton, List.flatMap_singleton]
      · have hchars : (" ".intercalate (text :: rest)).toList
            = text.toList ++ ' ' :: (" ".intercalate rest).toList := by
          rw [String.intercalate_cons_of_ne_nil hrest, String.toList_append, String.toList_append,
            List.append_assoc]
          rfl
        rw [List.flatMap_cons, ← ih, words, hchars, wordsOf_append_cons _ _ (by decide),
          List.map_append]
        rfl

/-- The words of a text hold all of it but the blanks. -/
theorem flatten_wordsOf (s : List Char) : (wordsOf s).flatten = s.filter fun c => !isBlank c := by
  rw [wordsOf, List.flatten_filter_ne_nil, flatten_splitOnP]

/-! ## The first word and the rest -/

/-- The two ways in which a text is cut at its first blank. -/
theorem splitAtBlank_cases (text : String) :
    (∀ c ∈ (splitAtBlank text).1.toList, isBlank c = false) ∧
    ((text = (splitAtBlank text).1 ∧ (splitAtBlank text).2 = "") ∨
      ∃ b raw, isBlank b = true ∧ text.toList = (splitAtBlank text).1.toList ++ b :: raw ∧
        (splitAtBlank text).2 = trim (String.ofList raw)) := by
  have hsplit := List.takeWhile_append_dropWhile (p := fun c => !isBlank c) (l := text.toList)
  have hword : ∀ c ∈ text.toList.takeWhile fun c => !isBlank c, isBlank c = false :=
    fun c hc => by simpa using List.mem_takeWhile_imp hc
  unfold splitAtBlank
  rw [List.span_eq_takeWhile_dropWhile]
  cases hrest : text.toList.dropWhile fun c => !isBlank c with
  | nil =>
      rw [hrest, List.append_nil] at hsplit
      refine ⟨by rw [String.toList_ofList]; exact hword, Or.inl ⟨?_, rfl⟩⟩
      rw [hsplit]
      exact String.ofList_toList.symm
  | cons b raw =>
      have hb : isBlank b = true := by
        have := List.head?_dropWhile_not (fun c => !isBlank c) text.toList
        rw [hrest] at this
        simpa using this
      rw [hrest] at hsplit
      refine ⟨by rw [String.toList_ofList]; exact hword, Or.inr ⟨b, raw, hb, ?_, rfl⟩⟩
      rw [String.toList_ofList, hsplit]

/-- Without blanks in front, the first word is what stands before the first blank, and the other
words are behind it. -/
theorem words_eq_cons {text : String} (h : trim text ≠ "") :
    words text = (splitAtBlank (trim text)).1 :: words (splitAtBlank (trim text)).2 := by
  obtain ⟨hword, hcut⟩ := splitAtBlank_cases (trim text)
  rw [← words_trim]
  generalize splitAtBlank (trim text) = cut at hword hcut ⊢
  obtain ⟨first, rest⟩ := cut
  have hfirst : first ≠ "" → words first = [first] := by
    intro hne
    have hwords := words_word ⟨mt String.toList_eq_nil_iff.mp hne, hword⟩
    rwa [String.ofList_toList] at hwords
  rcases hcut with ⟨heq, hrest⟩ | ⟨b, raw, hb, heq, hrest⟩
  · obtain rfl : trim text = first := heq
    obtain rfl : rest = "" := hrest
    exact hfirst h
  · -- A trimmed text does not begin with a blank.
    have hne : first ≠ "" := by
      rintro rfl
      have hhead : (stripChars isBlank text.toList).head? = some b := by
        rw [trim, String.toList_ofList] at heq
        rw [heq]
        rfl
      rw [head?_stripChars hhead] at hb
      cases hb
    have happend : words (trim text) = words first ++ words (String.ofList raw) := by
      unfold words
      rw [heq, wordsOf_append_cons _ _ hb, List.map_append, String.toList_ofList]
    obtain rfl : rest = trim (String.ofList raw) := hrest
    rw [happend, hfirst hne, words_trim]
    rfl

theorem headD_words (text : String) : (words text).headD "" = (splitAtBlank (trim text)).1 := by
  by_cases h : trim text = ""
  · rw [← words_trim, h]
    rfl
  · rw [words_eq_cons h]
    rfl

/-- A text with words in it is cut behind the first of them. -/
theorem splitAtBlank_of_words {text first : String} {others : List String}
    (h : words text = first :: others) :
    ∃ rest, splitAtBlank (trim text) = (first, rest) ∧ words rest = others := by
  have hne : trim text ≠ "" := by
    intro hempty
    have hnone : words text = [] := by
      rw [← words_trim, hempty]
      rfl
    exact List.cons_ne_nil _ _ (h.symm.trans hnone)
  rw [words_eq_cons hne, List.cons.injEq] at h
  cases hcut : splitAtBlank (trim text) with
  | mk cut rest =>
      rw [hcut] at h
      obtain ⟨rfl, hothers⟩ := h
      exact ⟨rest, rfl, hothers⟩

/-- What follows the first word is trimmed. -/
theorem trim_splitAtBlank (text : String) :
    trim (splitAtBlank text).2 = (splitAtBlank text).2 := by
  rcases (splitAtBlank_cases text).2 with ⟨-, hrest⟩ | ⟨_, _, -, -, hrest⟩
  · rw [hrest]
    rfl
  · rw [hrest, trim_trim]

/-- A word, a blank and something are cut at that blank. -/
theorem splitAtBlank_append {word raw : List Char} {b : Char}
    (hword : word.all (fun c => !isBlank c) = true) (hb : isBlank b = true) :
    splitAtBlank (String.ofList (word ++ b :: raw))
      = (String.ofList word, trim (String.ofList raw)) := by
  have h : ∀ c ∈ word, (!isBlank c) = true := List.all_eq_true.mp hword
  have htake : (word ++ b :: raw).takeWhile (fun c => !isBlank c) = word := by
    rw [List.takeWhile_append_of_pos h, List.takeWhile_cons_of_neg (by simp [hb]),
      List.append_nil]
  have hdrop : (word ++ b :: raw).dropWhile (fun c => !isBlank c) = b :: raw := by
    rw [List.dropWhile_append_of_pos h, List.dropWhile_cons_of_neg (by simp [hb])]
  rw [splitAtBlank, String.toList_ofList, List.span_eq_takeWhile_dropWhile, htake, hdrop]

/-- A word is not cut. -/
theorem splitAtBlank_word {word : List Char} (h : IsWord word) :
    splitAtBlank (String.ofList word) = (String.ofList word, "") := by
  have hall := List.all_eq_true.mp (isWord_iff.mp h).2
  have htake : word.takeWhile (fun c => !isBlank c) = word := List.takeWhile_eq_self_iff.mpr hall
  have hdrop : word.dropWhile (fun c => !isBlank c) = [] := List.dropWhile_eq_nil_iff.mpr hall
  rw [splitAtBlank, String.toList_ofList, List.span_eq_takeWhile_dropWhile, htake, hdrop]

/-- A word and what is typed behind it, if anything is, are told apart. -/
theorem splitAtBlank_trim {word : List Char} {b : Char} {rest : String} (hword : IsWord word)
    (hb : isBlank b = true) (hrest : trim rest = rest) :
    splitAtBlank (trim (String.ofList (word ++ b :: rest.toList)))
      = (String.ofList word, rest) := by
  by_cases hempty : rest = ""
  · subst hempty
    have hstrip : trim (String.ofList (word ++ [b])) = trim (String.ofList word) := by
      unfold trim
      rw [String.toList_ofList, String.toList_ofList, stripChars_append]
      intro c hc
      rw [List.mem_singleton.mp hc]
      exact hb
    show splitAtBlank (trim (String.ofList (word ++ [b]))) = _
    rw [hstrip, trim_word hword, splitAtBlank_word hword]
  · have hwhole : trim (String.ofList (word ++ b :: rest.toList))
        = String.ofList (word ++ b :: rest.toList) := by
      rw [trim, String.toList_ofList, stripChars_eq_self]
      · intro c hc
        rw [List.head?_append_of_ne_nil _ hword.ne_nil] at hc
        exact hword.not_blank c (List.mem_of_mem_head? hc)
      · intro c hc
        have hne : rest.toList ≠ [] := mt String.toList_eq_nil_iff.mp hempty
        rw [List.getLast?_append_of_ne_nil _ (List.cons_ne_nil _ _), ← List.singleton_append,
          List.getLast?_append_of_ne_nil _ hne, ← hrest, trim, String.toList_ofList] at hc
        exact getLast?_stripChars hc
    rw [hwhole, splitAtBlank_append (isWord_iff.mp hword).2 hb, String.ofList_toList, hrest]

/-- A program and what it is given are told apart. -/
theorem splitAtBlank_command {start program rest : String} (hstart : start = program ++ " ")
    (hword : IsWord program.toList) (hrest : trim rest = rest) :
    splitAtBlank (trim (start ++ rest)) = (program, rest) := by
  have hlist : start ++ rest = String.ofList (program.toList ++ ' ' :: rest.toList) := by
    rw [hstart, ← String.ofList_toList (s := program ++ " " ++ rest), String.toList_append,
      String.toList_append, List.append_assoc]
    rfl
  rw [hlist, splitAtBlank_trim hword (by decide) hrest, String.ofList_toList]

end PlainTerminal.Text
