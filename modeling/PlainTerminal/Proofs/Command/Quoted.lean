import PlainTerminal.Command.Quoted

/-!
# Quoted texts are read back

Inside double quotes four characters keep a meaning, and each of them is written with a backslash in
front. So a reader of double-quoted words comes to no expansion and to no quote in a text that was
quoted, and it reads every character of the text for what is written of it: `readBody_escape` is
that step, and the induction goes along the text.
-/

namespace PlainTerminal.Quoted

theorem isSpecial_iff (c : Char) :
    isSpecial c = true ↔ c = '\x22' ∨ c = '\x5c' ∨ c = '$' ∨ c = '\x60' := by
  simp [isSpecial, or_assoc]

/-- A reader that comes to a character as it is written inside double quotes reads that character,
whatever follows. -/
theorem readBody_escape (c : Char) (rest : List Char) :
    readBody (escape c ++ rest)
      = (readBody rest).map fun (said, left) => (c :: said, left) := by
  unfold escape
  by_cases hspecial : isSpecial c = true
  · rw [if_pos hspecial]
    have hbreak : c ≠ '\n' := by
      rintro rfl
      exact absurd hspecial (by decide)
    have hescapable : isEscapable c = true := by rw [isEscapable, hspecial, Bool.true_or]
    show readBody ('\x5c' :: c :: rest) = _
    rw [readBody, if_neg hbreak]
    simp only [if_pos hescapable]
  · rw [if_neg hspecial]
    rw [isSpecial_iff, not_or, not_or] at hspecial
    obtain ⟨hquote, hbackslash, hexpansion⟩ := hspecial
    show readBody (c :: rest) = _
    rw [readBody, if_neg hexpansion]
    · exact hquote
    · exact fun _ _ hc _ => hbackslash hc

theorem readBody_escaped (text after : List Char) :
    readBody (text.flatMap escape ++ '\x22' :: after) = some (text, after) := by
  induction text with
  | nil => rfl
  | cons c text ih =>
      rw [List.flatMap_cons, List.append_assoc, readBody_escape, ih]
      rfl

/-- A quoted text is read for what it is, up to its closing quote and no further. -/
theorem readQuoted_quoteChars (text after : List Char) :
    readQuoted (quoteChars text ++ after) = some (text, after) := by
  rw [quoteChars, List.cons_append, readQuoted, List.append_assoc]
  exact readBody_escaped text after

/-- A quoted text ends with its closing quote. -/
theorem getLast?_quoteChars (text : List Char) : (quoteChars text).getLast? = some '\x22' := by
  rw [quoteChars, ← List.cons_append]
  exact List.getLast?_concat

end PlainTerminal.Quoted
