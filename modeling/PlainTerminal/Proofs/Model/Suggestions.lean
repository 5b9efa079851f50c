import PlainTerminal.Proofs.Assistant
import PlainTerminal.Proofs.Dialogue.Reliance
import PlainTerminal.Proofs.Text.Words

/-!
# What a suggestion looks like

A suggestion is cut out of its line from the outside to the inside: blanks, a number or bullet,
blanks again, and grave accents. So it never has an accent at an end, and it is never empty. But the
blanks next to the accents, on their inner side, come to light when nobody trims any more. They are
the only thing that can be wrong with a suggestion.
-/

namespace PlainTerminal

namespace Suggestions

/-- A suggestion that can be shown and typed as it is. -/
structure Clean (suggestion : String) : Prop where
  /-- There is something in it. -/
  not_blank : Text.isBlankText suggestion = false
  /-- There are no blanks around it. -/
  trimmed : Text.trim suggestion = suggestion
  /-- There are no grave accents around it. -/
  bare : suggestion.toList.head? ≠ some '\x60' ∧ suggestion.toList.getLast? ≠ some '\x60'

/-- What is left of a line when its number and the blanks are taken off. -/
def withoutAccompaniment (line : List Char) : List Char :=
  Text.stripChars Text.isBlank (withoutNumber (Text.stripChars Text.isBlank line))

/-- The line has grave accents at an end, with a blank on their inner side. -/
def HasInnerBlank (line : List Char) : Prop :=
  ∃ accents blank rest, accents ≠ [] ∧ (∀ c ∈ accents, c = '\x60') ∧ Text.isBlank blank = true ∧
    (withoutAccompaniment line = accents ++ blank :: rest ∨
      withoutAccompaniment line = rest ++ blank :: accents)

/-- The lines of a text that the suggestions are made of: the first five that leave something. -/
def usedLines (text : String) : List (List Char) :=
  ((Text.linesOf text.toList).filter (ofLine · ≠ [])).take 5

/-- One of the suggestions comes from a line with a blank inside its accents. -/
def IsPadded (text : String) : Prop := ∃ line ∈ usedLines text, HasInnerBlank line

theorem ofText_eq (text : String) :
    ofText text = (usedLines text).map fun line => String.ofList (ofLine line) := by
  rw [ofText, usedLines, List.filter_map, ← List.map_take, List.map_map]
  rfl

theorem ofLine_ne_nil {text : String} {line : List Char} (h : line ∈ usedLines text) :
    ofLine line ≠ [] := by
  have hmem := (List.mem_filter.mp (List.mem_of_mem_take h)).2
  simpa using hmem

theorem length_ofText_le (text : String) : (ofText text).length ≤ 5 := by
  rw [ofText_eq, List.length_map, usedLines]
  exact List.length_take_le ..

/-! ## Blanks inside the accents -/

/-- A blank is no accent. -/
theorem not_accent_of_isBlank {c : Char} (h : Text.isBlank c = true) : (c == '\x60') = false := by
  rw [beq_eq_false_iff_ne]
  rintro rfl
  exact absurd h (by decide)

/-- Between the accents there is a blank in front exactly if the text begins with accents and a
blank. -/
theorem head?_between_iff {s : List Char} (hs : ∀ c, s.head? = some c → Text.isBlank c = false) :
    (∃ c, (Text.stripChars (· == '\x60') s).head? = some c ∧ Text.isBlank c = true) ↔
      ∃ accents blank rest, accents ≠ [] ∧ (∀ c ∈ accents, c = '\x60') ∧
        Text.isBlank blank = true ∧ s = accents ++ blank :: rest := by
  constructor
  · rintro ⟨c, hhead, hc⟩
    obtain ⟨a, b, hsplit, ha, -⟩ := Text.stripChars_split (· == '\x60') s
    obtain ⟨rest, hkept⟩ : ∃ rest, Text.stripChars (· == '\x60') s = c :: rest :=
      List.head?_eq_some_iff.mp hhead
    rw [hkept, List.append_assoc, List.cons_append] at hsplit
    refine ⟨a, c, rest ++ b, ?_, fun d hd => eq_of_beq (ha d hd), hc, hsplit⟩
    -- Without accents the text would begin with the blank.
    rintro rfl
    rw [hs c (by rw [hsplit]; rfl)] at hc
    cases hc
  · rintro ⟨accents, blank, rest, -, haccents, hblank, rfl⟩
    refine ⟨blank, ?_, hblank⟩
    rw [Text.stripChars_append_left fun c hc => by rw [haccents c hc]; rfl]
    exact Text.head?_stripChars_cons (p := (· == '\x60')) (not_accent_of_isBlank hblank) rest

/-- A line has a blank inside its accents exactly if what comes of it begins or ends with one. -/
theorem hasInnerBlank_iff (line : List Char) : HasInnerBlank line ↔
    (∃ c, (ofLine line).head? = some c ∧ Text.isBlank c = true) ∨
      ∃ c, (ofLine line).getLast? = some c ∧ Text.isBlank c = true := by
  have hfront := head?_between_iff (s := withoutAccompaniment line)
    fun c hc => Text.head?_stripChars hc
  have hback := head?_between_iff (s := (withoutAccompaniment line).reverse) fun c hc => by
    rw [List.head?_reverse] at hc
    exact Text.getLast?_stripChars hc
  rw [Text.stripChars_reverse, List.head?_reverse] at hback
  refine Iff.trans ?_ (or_congr hfront hback).symm
  constructor
  · rintro ⟨accents, blank, rest, hne, haccents, hblank, hline | hline⟩
    · exact .inl ⟨accents, blank, rest, hne, haccents, hblank, hline⟩
    · refine .inr ⟨accents.reverse, blank, rest.reverse, by simpa using hne,
        fun c hc => haccents c (List.mem_reverse.mp hc), hblank, ?_⟩
      rw [hline, List.reverse_append, List.reverse_cons, List.append_assoc, List.singleton_append]
  · rintro (⟨accents, blank, rest, hne, haccents, hblank, hline⟩ |
      ⟨accents, blank, rest, hne, haccents, hblank, hline⟩)
    · exact ⟨accents, blank, rest, hne, haccents, hblank, .inl hline⟩
    · refine ⟨accents.reverse, blank, rest.reverse, by simpa using hne,
        fun c hc => haccents c (List.mem_reverse.mp hc), hblank, .inr ?_⟩
      rw [← List.reverse_reverse (withoutAccompaniment line), hline, List.reverse_append,
        List.reverse_cons, List.append_assoc, List.singleton_append]

/-- No accents are left at the ends. -/
theorem bare_ofLine (line : List Char) :
    (ofLine line).head? ≠ some '\x60' ∧ (ofLine line).getLast? ≠ some '\x60' := by
  constructor
  · intro hc
    have haccent : ('\x60' == '\x60') = false := Text.head?_stripChars (p := (· == '\x60')) hc
    cases haccent
  · intro hc
    have haccent : ('\x60' == '\x60') = false := Text.getLast?_stripChars (p := (· == '\x60')) hc
    cases haccent

/-- What comes of a line is clean exactly if there is no blank inside its accents. -/
theorem clean_ofLine_iff {line : List Char} (hne : ofLine line ≠ []) :
    Clean (String.ofList (ofLine line)) ↔ ¬ HasInnerBlank line := by
  have htrimmed : Text.trim (String.ofList (ofLine line)) = String.ofList (ofLine line) ↔
      ¬ HasInnerBlank line := by
    rw [Text.trim_eq_self_iff, hasInnerBlank_iff, not_or, not_exists, not_exists]
    simp only [not_and, Bool.not_eq_true]
  constructor
  · intro hclean
    exact htrimmed.mp hclean.trimmed
  · intro hnot
    refine ⟨?_, htrimmed.mpr hnot, by rw [String.toList_ofList]; exact bare_ofLine line⟩
    obtain ⟨c, rest, hline⟩ := List.exists_cons_of_ne_nil hne
    have hhead := (Text.trim_eq_self_iff.mp (htrimmed.mpr hnot)).1 c (by rw [hline]; rfl)
    rw [Text.isBlankText, String.toList_ofList, hline, List.all_cons, hhead, Bool.false_and]

theorem clean_ofText_iff (text : String) : (∀ s ∈ ofText text, Clean s) ↔ ¬ IsPadded text := by
  rw [ofText_eq, List.forall_mem_map]
  constructor
  · rintro hclean ⟨line, hline, hblank⟩
    exact (clean_ofLine_iff (ofLine_ne_nil hline)).mp (hclean line hline) hblank
  · intro hnot line hline
    exact (clean_ofLine_iff (ofLine_ne_nil hline)).mpr fun hblank => hnot ⟨line, hline, hblank⟩

instance : DecidablePred Clean := fun s =>
  decidable_of_iff (Text.isBlankText s = false ∧ Text.trim s = s ∧
      s.toList.head? ≠ some '\x60' ∧ s.toList.getLast? ≠ some '\x60')
    ⟨fun h => ⟨h.1, h.2.1, h.2.2⟩, fun h => ⟨h.not_blank, h.trimmed, h.bare⟩⟩

theorem clean_defaults : ∀ s ∈ defaults, Clean s := by decide

theorem usedLines_eq_nil_iff (text : String) :
    usedLines text = [] ↔ ∀ line ∈ Text.linesOf text.toList, ofLine line = [] := by
  rw [usedLines, List.take_eq_nil_iff, List.filter_eq_nil_iff]
  simp

end Suggestions

/-! ## What the model suggests -/

namespace Assistant

open Suggestions

/-- The model answers this text to every request. -/
def Says (text : String) : (q : Question) → q.Answer → Prop
  | .complete _, reply => (reply : Except ModelError String) = .ok text
  | _, _ => True

theorem ensuresIf_attempt_iff {α : Type} {request : CompletionRequest}
    {use : String → Except ModelError α} {text : String} {post : Except ModelError α → Prop} :
    (attempt request use).EnsuresIf (Says text) post ↔ post (use text) := by
  rw [attempt_eq, Dialogue.ensuresIf_ask]
  constructor
  · exact fun h => Dialogue.ensuresIf_done.mp (h (.ok text : Reply) rfl)
  · rintro h _ rfl
    exact Dialogue.ensuresIf_done.mpr h

/-- What the suggestions are when the model answers this text. -/
def suggestionsFor (text : String) : List String :=
  if ofText (Text.trim text) = [] then defaults else ofText (Text.trim text)

theorem ensuresIf_suggest_iff {situation text : String} {post : List String → Prop} :
    (suggest situation).EnsuresIf (Says text) post ↔ post (suggestionsFor text) := by
  unfold suggest withFallback suggestionsFor
  rw [Dialogue.ensuresIf_bind, ensuresIf_attempt_iff]
  cases hsuggestions : ofText (Text.trim text) with
  | cons suggestion rest => exact Dialogue.ensuresIf_done
  | nil =>
      -- The second answer is the same text, and of no more use.
      dsimp only
      rw [if_neg (by decide), Dialogue.ensuresIf_bind, ensuresIf_attempt_iff, hsuggestions]
      exact Dialogue.ensuresIf_done

/-- Whenever the model answers this text there are one to five suggestions, clean ones, and the
usual ones if the text holds none. -/
def SuggestsCleanly (situation text : String) : Prop :=
  (suggest situation).EnsuresIf (Says text) fun suggested =>
    (1 ≤ suggested.length ∧ suggested.length ≤ 5) ∧ (∀ s ∈ suggested, Clean s) ∧
      ((∀ line ∈ Text.linesOf (Text.trim text).toList, ofLine line = []) → suggested = defaults)

/-- **Suggestions are clean exactly if none of them is padded inside its accents.** -/
theorem suggestsCleanly_iff (situation text : String) :
    SuggestsCleanly situation text ↔ ¬ IsPadded (Text.trim text) := by
  unfold SuggestsCleanly
  rw [ensuresIf_suggest_iff, ← clean_ofText_iff, suggestionsFor]
  split
  · rename_i hnone
    rw [hnone]
    exact iff_of_true ⟨by decide, clean_defaults, fun _ => rfl⟩ nofun
  · rename_i hsome
    constructor
    · exact fun h => h.2.1
    · intro hclean
      refine ⟨⟨List.length_pos_iff.mpr hsome, length_ofText_le _⟩, hclean, fun hnone => ?_⟩
      rw [ofText_eq, (usedLines_eq_nil_iff _).mpr hnone] at hsome
      exact absurd rfl hsome

/-- A command with a blank before the closing accent is suggested with that blank. -/
theorem blank_before_accent_stays : ¬ SuggestsCleanly "" "\x60ls \x60" := by
  rw [SuggestsCleanly, ensuresIf_suggest_iff]
  rintro ⟨-, hclean, -⟩
  exact absurd hclean (by decide)

end Assistant

end PlainTerminal
