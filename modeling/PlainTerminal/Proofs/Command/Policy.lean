import Mathlib.Data.List.Infix
import PlainTerminal.Command.Policy
import PlainTerminal.Command.Quoted
import PlainTerminal.Proofs.Text.Words

/-!
# What a refused command is made of

A command is refused if one of the patterns occurs in it, letter case aside. Lower case goes letter
by letter but for the two small sigmas, and no pattern has a sigma, so to be refused is a matter of
the letters alone: `folded` writes them in lower case one by one. No pattern begins or ends with a
blank or has one of the characters in it that are special in double quotes. So neither the blanks
around a command nor quoting its operands has a say in whether it is refused.
-/

namespace PlainTerminal.Policy

open Text

/-- All phrases and files that are looked for. -/
def patterns : List String := dangerousPhrases ++ sensitiveFiles

/-! ## Letter by letter -/

/-- A final sigma as the other one. -/
def unfinal (c : Char) : Char := if c = '\u03c2' then '\u03c3' else c

/-- The lower-case form of a letter by itself. -/
def foldChar (c : Char) : List Char :=
  if c = '\u03a3' then ['\u03c3']
  else if c = '\u0130' then ['i', '\u0307']
  else [unfinal (smallLetter c)]

/-- The lower-case form of a text, letter by letter. -/
def folded (s : List Char) : List Char := s.flatMap foldChar

@[simp] theorem folded_cons (c : Char) (s : List Char) :
    folded (c :: s) = foldChar c ++ folded s := List.flatMap_cons

@[simp] theorem folded_append (s t : List Char) : folded (s ++ t) = folded s ++ folded t :=
  List.flatMap_append

/-- But for the sigmas, lower case is formed letter by letter. -/
theorem map_unfinal_lowercaseAfter (before s : List Char) :
    (lowercaseAfter before s).map unfinal = folded s := by
  induction s generalizing before with
  | nil => rfl
  | cons c rest ih =>
      rw [lowercaseAfter, List.map_append, ih, folded_cons]
      congr 1
      unfold foldChar
      by_cases hsigma : c = '\u03a3'
      · -- The one letter whose lower case depends on the letters around it.
        rw [if_pos hsigma, if_pos hsigma]
        split
        · rfl
        · rfl
      · rw [if_neg hsigma, if_neg hsigma]
        split
        · decide
        · rfl

/-! ## Occurrences -/

theorem occursIn_iff (needle s : List Char) :
    Likeness.occursIn needle s = true ↔ needle <:+: s := by
  induction s with
  | nil =>
      rw [Likeness.occursIn, List.isEmpty_iff, List.infix_nil]
  | cons c rest ih =>
      rw [Likeness.occursIn, Bool.or_eq_true, ih, List.isPrefixOf_iff_prefix, List.infix_cons_iff]

/-- A text without sigmas occurs with final sigmas put right if it does so without. -/
theorem infix_map_unfinal_iff {p s : List Char} (h : ∀ c ∈ p, c ≠ '\u03c3' ∧ c ≠ '\u03c2') :
    p <:+: s.map unfinal ↔ p <:+: s := by
  constructor
  · rintro ⟨a, b, heq⟩
    obtain ⟨front, s₃, rfl, hfront, -⟩ := List.map_eq_append_iff.mp heq.symm
    obtain ⟨s₁, s₂, rfl, -, hs₂⟩ := List.map_eq_append_iff.mp hfront
    have hself : s₂.map unfinal = s₂ := by
      refine (List.map_congr_left fun c hc => ?_).trans (List.map_id s₂)
      have hmem : unfinal c ∈ p := hs₂ ▸ List.mem_map_of_mem hc
      unfold unfinal at hmem ⊢
      split
      · -- A letter that was put right is a sigma, and the pattern has none.
        rename_i hfinal
        rw [if_pos hfinal] at hmem
        exact absurd rfl (h _ hmem).1
      · rfl
    rw [← hs₂, hself]
    exact ⟨s₁, s₃, rfl⟩
  · intro hp
    have hself : p.map unfinal = p := by
      refine (List.map_congr_left fun c hc => ?_).trans (List.map_id p)
      exact if_neg (h c hc).2
    have hmap := hp.map unfinal
    rwa [hself] at hmap

/-- What the patterns have in common: they are not empty, they have no small sigma and no character
that is special in double quotes, and they begin and end with no blank. -/
theorem patterns_plain : ∀ p ∈ patterns, p.toList ≠ [] ∧
    (p.toList.all fun c => c ≠ '\u03c3' ∧ c ≠ '\u03c2' ∧ Quoted.isSpecial c = false) = true ∧
    (p.toList.head?.all fun c => !isBlank c) = true ∧
    (p.toList.getLast?.all fun c => !isBlank c) = true := by
  -- All of it is checked at once, so the patterns are taken apart only once.
  decide

theorem patterns_no_sigma :
    ∀ p ∈ patterns, ∀ c ∈ p.toList, c ≠ '\u03c3' ∧ c ≠ '\u03c2' := by
  intro p hp c hc
  have hpc := of_decide_eq_true (List.all_eq_true.mp (patterns_plain p hp).2.1 c hc)
  exact ⟨hpc.1, hpc.2.1⟩

/-- One of the patterns occurs in the text, letter case aside. -/
def Denied (s : List Char) : Prop := ∃ p ∈ patterns, p.toList <:+: folded s

theorem firstIn_isSome_iff (text : String) (phrases : List String) :
    (firstIn text phrases).isSome = true ↔ ∃ p ∈ phrases, p.toList <:+: text.toList := by
  rw [firstIn, List.find?_isSome]
  simp only [occursIn_iff]

/-! ## The blanks around a command -/

theorem foldChar_blank {c : Char} (h : isBlank c = true) : foldChar c = [c] := by
  have hall : ∀ r ∈ blankRanges, ∀ n ∈ List.range' r.1 (r.2 - r.1 + 1),
      foldChar (Char.ofNat n) = [Char.ofNat n] := by
    decide
  unfold isBlank inRanges at h
  obtain ⟨r, hr, hin⟩ := List.any_eq_true.mp h
  have hc := hall r hr c.toNat (by
    rw [List.mem_range'_1]
    simp only [Bool.and_eq_true, decide_eq_true_eq] at hin
    omega)
  rwa [Char.ofNat_toNat] at hc

theorem folded_blanks {s : List Char} (h : ∀ c ∈ s, isBlank c = true) : folded s = s := by
  induction s with
  | nil => rfl
  | cons c rest ih =>
      rw [folded_cons, foldChar_blank (h c List.mem_cons_self),
        ih fun d hd => h d (List.mem_cons_of_mem _ hd)]
      rfl

/-- A text that begins with no blank occurs behind blanks only if it does so without them. -/
theorem infix_blanks_append_iff {p a s : List Char} (hne : p ≠ [])
    (hp : ∀ c, p.head? = some c → isBlank c = false) (ha : ∀ c ∈ a, isBlank c = true) :
    p <:+: a ++ s ↔ p <:+: s := by
  induction a with
  | nil => rfl
  | cons c a ih =>
      rw [List.cons_append, List.infix_cons_iff, ih fun d hd => ha d (List.mem_cons_of_mem _ hd)]
      refine or_iff_right ?_
      intro hprefix
      obtain hnil | ⟨t, ht, -⟩ := List.prefix_cons_iff.mp hprefix
      · exact hne hnil
      · have hc := hp c (by rw [ht]; rfl)
        rw [ha c List.mem_cons_self] at hc
        cases hc

theorem infix_append_blanks_iff {p s b : List Char} (hne : p ≠ [])
    (hp : ∀ c, p.getLast? = some c → isBlank c = false) (hb : ∀ c ∈ b, isBlank c = true) :
    p <:+: s ++ b ↔ p <:+: s := by
  rw [← List.reverse_infix, List.reverse_append,
    infix_blanks_append_iff (by simpa using hne) (by simpa using hp)
      (fun c hc => hb c (List.mem_reverse.mp hc)), List.reverse_infix]

theorem patterns_ne_nil : ∀ p ∈ patterns, p.toList ≠ [] := fun p hp => (patterns_plain p hp).1

theorem patterns_head : ∀ p ∈ patterns, ∀ c, p.toList.head? = some c → isBlank c = false := by
  intro p hp c hc
  have hpc := (patterns_plain p hp).2.2.1
  rw [hc] at hpc
  simpa using hpc

theorem patterns_last : ∀ p ∈ patterns, ∀ c, p.toList.getLast? = some c → isBlank c = false := by
  intro p hp c hc
  have hpc := (patterns_plain p hp).2.2.2
  rw [hc] at hpc
  simpa using hpc

/-- The blanks around a text have no say. -/
theorem denied_blanks_iff {a s b : List Char} (ha : ∀ c ∈ a, isBlank c = true)
    (hb : ∀ c ∈ b, isBlank c = true) : Denied (a ++ s ++ b) ↔ Denied s := by
  unfold Denied
  refine exists_congr fun p => and_congr_right fun hp => ?_
  rw [folded_append, folded_append, folded_blanks ha, folded_blanks hb,
    infix_append_blanks_iff (patterns_ne_nil p hp) (patterns_last p hp) hb,
    infix_blanks_append_iff (patterns_ne_nil p hp) (patterns_head p hp) ha]

theorem denied_trim_iff (text : String) : Denied (trim text).toList ↔ Denied text.toList := by
  obtain ⟨a, b, hsplit, ha, hb⟩ := stripChars_split isBlank text.toList
  rw [trim, String.toList_ofList, hsplit, denied_blanks_iff ha hb, ← hsplit]

/-- Lower case as a whole shows the same patterns as lower case letter by letter. -/
theorem denied_iff_lowercase (text : String) :
    Denied text.toList ↔ ∃ p ∈ patterns, p.toList <:+: (lowercase text).toList := by
  refine exists_congr fun p => and_congr_right fun hp => ?_
  rw [lowercase, String.toList_ofList, ← map_unfinal_lowercaseAfter [],
    infix_map_unfinal_iff (patterns_no_sigma p hp)]

/-- **A command is refused if one of the patterns occurs in it**, letter case aside. -/
theorem isSome_violation?_iff (command : String) :
    (violation? command).isSome = true ↔ Denied command.toList := by
  have hfirst : (violation? command).isSome = true ↔
      ∃ p ∈ patterns, p.toList <:+: (lowercase (trim command)).toList := by
    unfold violation? patterns
    simp only [List.mem_append, or_and_right, exists_or]
    rw [← firstIn_isSome_iff, ← firstIn_isSome_iff]
    cases firstIn (lowercase (trim command)) dangerousPhrases with
    | some phrase => simp
    | none => simp
  rw [hfirst, ← denied_iff_lowercase, denied_trim_iff]

theorem violation?_eq_none_iff (command : String) :
    violation? command = none ↔ ¬ Denied command.toList := by
  rw [← isSome_violation?_iff, Option.not_isSome_iff_eq_none]

/-! ## Texts in double quotes -/

/-- A text without some character does not occur across it. -/
theorem infix_append_cons_iff {p a b : List Char} {c : Char} (hc : c ∉ p) :
    p <:+: a ++ c :: b ↔ p <:+: a ∨ p <:+: b := by
  constructor
  · intro h
    rcases List.infix_append_iff_ne_nil.mp h with ha | hb | ⟨l₁, l₂, -, hne, rfl, -, hprefix⟩
    · exact Or.inl ha
    · rcases List.infix_cons_iff.mp hb with hprefix | hb
      · rcases List.prefix_cons_iff.mp hprefix with rfl | ⟨t, rfl, -⟩
        · exact Or.inl List.nil_infix
        · exact absurd List.mem_cons_self hc
      · exact Or.inr hb
    · rcases List.prefix_cons_iff.mp hprefix with hnil | ⟨t, rfl, -⟩
      · exact absurd hnil hne
      · exact absurd (List.mem_append_right _ List.mem_cons_self) hc
  · rintro (ha | hb)
    · exact ha.trans List.infix_append_left
    · exact (hb.trans (List.infix_cons (List.infix_refl b))).trans List.infix_append_right

theorem patterns_no_special : ∀ p ∈ patterns, ∀ c ∈ p.toList, Quoted.isSpecial c = false := by
  intro p hp c hc
  exact (of_decide_eq_true (List.all_eq_true.mp (patterns_plain p hp).2.1 c hc)).2.2

theorem foldChar_special {c : Char} (h : Quoted.isSpecial c = true) : foldChar c = [c] := by
  unfold Quoted.isSpecial at h
  simp only [Bool.or_eq_true, beq_iff_eq] at h
  rcases h with ((rfl | rfl) | rfl) | rfl <;> decide

/-- A text without special characters occurs across none of them. -/
theorem infix_special_iff {p a : List Char} {c : Char} (s : List Char)
    (hp : ∀ d ∈ p, Quoted.isSpecial d = false) (hc : Quoted.isSpecial c = true) :
    p <:+: a ++ folded (c :: s) ↔ p <:+: a ∨ p <:+: folded s := by
  rw [folded_cons, foldChar_special hc]
  refine infix_append_cons_iff fun hmem => ?_
  rw [hp c hmem] at hc
  cases hc

theorem infix_special_head_iff {p : List Char} {c : Char} (s : List Char)
    (hp : ∀ d ∈ p, Quoted.isSpecial d = false) (hc : Quoted.isSpecial c = true) :
    p <:+: folded (c :: s) ↔ p <:+: folded s := by
  have h := infix_special_iff (a := []) s hp hc
  rw [List.nil_append] at h
  rw [h, List.infix_nil]
  refine or_iff_right_of_imp ?_
  rintro rfl
  exact List.nil_infix

/-- Backslashes before special characters have no say. The induction carries the part of the text
that has been read already. -/
theorem infix_escaped_iff {p : List Char} (hp : ∀ d ∈ p, Quoted.isSpecial d = false)
    (a s : List Char) :
    p <:+: a ++ folded (s.flatMap Quoted.escape) ↔ p <:+: a ++ folded s := by
  induction s generalizing a with
  | nil => rfl
  | cons c rest ih =>
      have hrest := ih []
      rw [List.nil_append, List.nil_append] at hrest
      rw [List.flatMap_cons]
      unfold Quoted.escape
      by_cases hc : Quoted.isSpecial c = true
      · rw [if_pos hc, List.cons_append, List.cons_append, List.nil_append,
          infix_special_iff _ hp (by decide), infix_special_head_iff _ hp hc,
          infix_special_iff _ hp hc]
        exact or_congr_right hrest
      · rw [if_neg hc, List.cons_append, List.nil_append, folded_cons, folded_cons,
          ← List.append_assoc, ← List.append_assoc]
        exact ih (a ++ foldChar c)

/-- **Quoting has no say**: with an operand in double quotes, a command is refused if one of its
parts is. -/
theorem denied_quote_iff (before text after : List Char) :
    Denied (before ++ Quoted.quoteChars text ++ after) ↔
      Denied before ∨ Denied text ∨ Denied after := by
  unfold Denied
  simp only [← exists_or, ← and_or_left]
  refine exists_congr fun p => and_congr_right fun hp => ?_
  have hspecial := patterns_no_special p hp
  have hquote : Quoted.isSpecial '\x22' = true := by decide
  have htail := infix_special_iff (a := folded (text.flatMap Quoted.escape)) after hspecial hquote
  rw [Quoted.quoteChars, List.append_assoc, List.cons_append, folded_append,
    infix_special_iff _ hspecial hquote, List.append_assoc, List.singleton_append,
    folded_append, htail]
  have hescaped := infix_escaped_iff hspecial [] text
  rw [List.nil_append, List.nil_append] at hescaped
  rw [hescaped]

theorem not_denied_nil : ¬ Denied [] := by
  rintro ⟨p, hp, hinfix⟩
  exact patterns_ne_nil p hp (List.infix_nil.mp hinfix)

/-- A quoted operand is refused if it is refused by itself. -/
theorem violation?_quote_iff (before text : String) :
    violation? (before ++ Quoted.quote text) = none ↔
      violation? before = none ∧ violation? text = none := by
  have hquote := denied_quote_iff before.toList text.toList []
  rw [violation?_eq_none_iff, violation?_eq_none_iff, violation?_eq_none_iff,
    String.toList_append, Quoted.quote, String.toList_ofList, ← List.append_nil (_ ++ _), hquote]
  simp [not_denied_nil]

theorem violation?_quote_append_iff (before text after : String) :
    violation? (before ++ Quoted.quote text ++ after) = none ↔
      violation? before = none ∧ violation? text = none ∧ violation? after = none := by
  have hquote := denied_quote_iff before.toList text.toList after.toList
  rw [violation?_eq_none_iff, violation?_eq_none_iff, violation?_eq_none_iff,
    violation?_eq_none_iff, String.toList_append, String.toList_append, Quoted.quote,
    String.toList_ofList, hquote]
  simp

/-! ## The name of the program -/

/-- The programs whose operands may go to the real shell as they were typed. -/
def verbatimPrograms : List String := ["cat", "ls"]

/-- No pattern goes from the end of such a name over a blank. -/
theorem patterns_across_blank : ∀ word ∈ verbatimPrograms, ∀ p ∈ patterns,
    ∀ i ∈ List.range p.toList.length, (p.toList[i]?.any isBlank) = true →
      ¬ p.toList.take i <:+ word.toList := by
  decide

theorem not_denied_of_program : ∀ word ∈ verbatimPrograms, ∀ p ∈ patterns,
    ¬ p.toList <:+: word.toList := by
  decide

theorem folded_program : ∀ word ∈ verbatimPrograms, folded word.toList = word.toList := by
  decide

/-- What is refused with the name of a program in front is refused without. -/
theorem denied_of_program {word : String} {b : Char} {rest : List Char}
    (hword : word ∈ verbatimPrograms) (hb : isBlank b = true)
    (h : Denied (word.toList ++ b :: rest)) : Denied rest := by
  obtain ⟨p, hp, hinfix⟩ := h
  refine ⟨p, hp, ?_⟩
  rw [folded_append, folded_cons, folded_program word hword, foldChar_blank hb] at hinfix
  -- The pattern occurs in the name, behind it, or across the blank between the two.
  rcases List.infix_append_iff_ne_nil.mp hinfix with hfront | hback | hacross
  · exact absurd hfront (not_denied_of_program word hword p hp)
  · rwa [infix_blanks_append_iff (patterns_ne_nil p hp) (patterns_head p hp) (by simp [hb])]
      at hback
  · obtain ⟨l₁, l₂, -, hne, hsplit, hsuffix, hprefix⟩ := hacross
    rcases List.prefix_cons_iff.mp hprefix with hnil | ⟨t, rfl, -⟩
    · exact absurd hnil hne
    · refine absurd hsuffix ?_
      have hcheck := patterns_across_blank word hword p hp l₁.length
      rw [hsplit] at hcheck
      simpa [hb] using hcheck

/-- A text that is a part of a text refused for it. -/
theorem Denied.mono {s t : List Char} (h : Denied s) (hst : s <:+: t) : Denied t := by
  obtain ⟨p, hp, hinfix⟩ := h
  exact ⟨p, hp, hinfix.trans (hst.flatMap foldChar)⟩

end PlainTerminal.Policy
