import Mathlib.Data.Bool.AllAny
import PlainTerminal.Proofs.Command.Quoted
import PlainTerminal.Shell.Reader

/-!
# How a shell reads a line of plain words

A line is written from the name of a program, from operands that are letters and hyphens or any text
in double quotes, and perhaps from a file for the output. The shell reads such a line as one simple
command with just these words, whatever stands inside the quotes.

The reader is a state machine over what has not been read yet. `Reads` says of a part of it which
text it starts from, what it comes to and what it leaves; it is put together along the code of the
reader like the code itself. What the quotes add is one statement, `reads_readDouble`: on a text
without expansions the shell agrees with `Quoted.readBody`. The fuel of the reader is counted
against the characters that are left, so every step has to leave fewer of them.
-/

namespace PlainTerminal.Shell

open Quoted (quoteChars)

/-- No alias is set, and none is being read. -/
structure Source.Plain (s : Source) : Prop where
  aliases : s.aliases = []
  opened : s.opened = []

/-- From a plain source with the given text, the reader comes to a good value and to what is left of
the text. -/
def Reads {α : Type} (r : Reader α) (text : List Char) (good : α → Prop) (left : List Char) :
    Prop :=
  ∀ s : Source, s.Plain → s.rest = text →
    ∃ value s', r.run s = .ok (value, s') ∧ good value ∧ s'.Plain ∧ s'.rest = left

namespace Reads

variable {α β : Type} {r : Reader α} {text mid left : List Char} {good : α → Prop}

theorem pure {value : α} (h : good value) : Reads (pure value) text good text :=
  fun s hs htext => ⟨value, s, rfl, h, hs, htext⟩

theorem bind {f : α → Reader β} {good' : β → Prop} (h : Reads r text good mid)
    (hf : ∀ value, good value → Reads (f value) mid good' left) :
    Reads (r >>= f) text good' left := by
  intro s hs htext
  obtain ⟨value, s', hrun, hvalue, hs', hmid⟩ := h s hs htext
  obtain ⟨result, s'', hrun', hresult⟩ := hf value hvalue s' hs' hmid
  refine ⟨result, s'', ?_, hresult⟩
  rw [StateT.run_bind, hrun]
  exact hrun'

theorem mono {good' : α → Prop} (h : Reads r text good left)
    (himp : ∀ value, good value → good' value) : Reads r text good' left := by
  intro s hs htext
  obtain ⟨value, s', hrun, hvalue, hs'⟩ := h s hs htext
  exact ⟨value, s', hrun, himp value hvalue, hs'⟩

theorem get_bind {f : Source → Reader α}
    (h : ∀ s : Source, s.Plain → s.rest = text → Reads (f s) text good left) :
    Reads (get >>= f) text good left :=
  fun s hs htext => h s hs htext s hs htext

/-- To look at what has not been read changes nothing. -/
theorem rest_bind {f : List Char → Reader α} (h : Reads (f text) text good left) :
    Reads (Reader.rest >>= f) text good left := by
  have hlooked : Reads Reader.rest text (· = text) text := get_bind fun s _ hrest => pure hrest
  refine bind hlooked ?_
  rintro _ rfl
  exact h

theorem skip_bind {k : Nat} {f : Unit → Reader α} (h : Reads (f ()) (text.drop k) good left) :
    Reads (Reader.skip k >>= f) text good left := by
  have hskipped : Reads (Reader.skip k) text (fun _ => True) (text.drop k) := by
    intro s hs htext
    refine ⟨(), _, rfl, trivial, ?_⟩
    subst htext
    dsimp only
    split
    · exact ⟨⟨hs.aliases, hs.opened⟩, rfl⟩
    · exact ⟨⟨hs.aliases, hs.opened⟩, rfl⟩
  exact bind hskipped fun _ _ => h

end Reads

namespace Reader

variable {α : Type} {left : List Char} {good : α → Prop}

/-! ## Blanks -/

/-- A text from its first character on that is no blank. -/
def unblanked (text : List Char) : List Char := text.drop (blankCount text)

theorem unblanked_space (text : List Char) : unblanked (' ' :: text) = unblanked text := rfl

theorem reads_skipBlanks_bind {text : List Char} {f : Unit → Reader α}
    (h : Reads (f ()) (unblanked text) good left) : Reads (skipBlanks >>= f) text good left := by
  unfold skipBlanks
  rw [bind_assoc]
  exact Reads.rest_bind (Reads.skip_bind h)

/-! ## Double quotes -/

/-- The pieces of a text in double quotes, of which the last characters come first. -/
def quotedPieces (reversed : List Char) : List Piece :=
  if reversed = [] then [] else [.text true reversed.reverse]

/-- Inside double quotes a text without expansions is read as it was meant. -/
theorem reads_readDouble {text said left : List Char}
    (h : Quoted.readBody text = some (said, left)) (before : List Char) {n : Nat}
    (hn : text.length < n) :
    Reads (readDouble before n) text (· = quotedPieces (said.reverse ++ before)) left := by
  induction text using Quoted.readBody.induct generalizing said left before n with
  | case1 => cases h
  | case2 rest =>
      -- the closing quote
      obtain ⟨n, rfl⟩ := Nat.exists_eq_succ_of_ne_zero (Nat.ne_zero_of_lt hn)
      rw [Quoted.readBody] at h
      cases h
      rw [readDouble]
      exact Reads.rest_bind (Reads.skip_bind (Reads.pure rfl))
  | case3 rest ih =>
      obtain ⟨n, rfl⟩ := Nat.exists_eq_succ_of_ne_zero (Nat.ne_zero_of_lt hn)
      rw [Quoted.readBody, if_pos rfl] at h
      rw [readDouble]
      refine Reads.rest_bind (Reads.skip_bind ?_)
      simp only [List.length_cons] at hn
      exact ih h before (by omega)
  | case4 c rest hbreak ih =>
      obtain ⟨n, rfl⟩ := Nat.exists_eq_succ_of_ne_zero (Nat.ne_zero_of_lt hn)
      rw [Quoted.readBody, if_neg hbreak] at h
      obtain ⟨⟨said, left⟩, hrest, heq⟩ := Option.map_eq_some_iff.mp h
      cases heq
      rw [readDouble]
      refine Reads.rest_bind (Reads.skip_bind ?_)
      simp only [List.length_cons] at hn
      -- Both know the same characters that a backslash protects.
      have hprotected : ['$', '\x60', '\x22', '\x5c'].contains c = Quoted.isEscapable c := by
        rw [Bool.eq_iff_iff, List.contains_iff_mem]
        grind [Quoted.isEscapable, Quoted.isSpecial]
      rw [if_neg hbreak, hprotected]
      by_cases hescapable : Quoted.isEscapable c = true
      · rw [if_pos hescapable, if_pos hescapable, List.reverse_cons, List.append_assoc]
        exact ih hrest (c :: before) (by omega)
      · rw [if_neg hescapable, if_neg hescapable, List.reverse_cons, List.reverse_cons,
          List.append_assoc, List.append_assoc]
        exact ih hrest (c :: '\x5c' :: before) (by omega)
  | case5 c rest hquote hbackslash hexpansion =>
      rw [Quoted.readBody, if_pos hexpansion] at h
      · cases h
      · exact hquote
      · exact hbackslash
  | case6 c rest hquote hbackslash hexpansion ih =>
      obtain ⟨n, rfl⟩ := Nat.exists_eq_succ_of_ne_zero (Nat.ne_zero_of_lt hn)
      rw [Quoted.readBody, if_neg hexpansion] at h
      · obtain ⟨⟨said, left⟩, hrest, heq⟩ := Option.map_eq_some_iff.mp h
        cases heq
        rw [readDouble]
        refine Reads.rest_bind ?_
        simp only [List.length_cons] at hn
        split
        · rename_i heq
          cases heq
        · rename_i heq
          exact (hquote (List.cons.inj heq).1).elim
        · rename_i heq
          exact absurd (Or.inl (List.cons.inj heq).1) hexpansion
        · rename_i heq
          exact absurd (Or.inr (List.cons.inj heq).1) hexpansion
        · rename_i heq
          obtain ⟨hc, hrest⟩ := List.cons.inj heq
          exact (hbackslash _ _ hc hrest).elim
        · rename_i heq
          obtain ⟨rfl, rfl⟩ := List.cons.inj heq
          rw [List.reverse_cons, List.append_assoc]
          exact Reads.skip_bind (ih hrest (c :: before) (by omega))
      · exact hquote
      · exact hbackslash

/-! ## Words -/

/-- The characters that begin something else than themselves in the middle of a word. -/
def quotingChars : List Char := ['\x22', '\x27', '$', '\x60', '\x5c']

/-- Any other character ends a word or is part of it. -/
theorem reads_readWord_cons {c : Char} {after before : List Char} {n : Nat} {good : Word → Prop}
    (hc : c ∉ quotingChars)
    (h : Reads (if endsWord c = true then pure (plain before.reverse)
      else (skip 1 >>= fun _ => readWord false (c :: before) n)) (c :: after) good left) :
    Reads (readWord false before (n + 1)) (c :: after) good left := by
  have hne : ∀ d ∈ quotingChars, c ≠ d := by
    rintro d hd rfl
    exact hc hd
  rw [readWord]
  refine Reads.rest_bind ?_
  split
  · rename_i heq
    cases heq
  · rename_i heq
    exact absurd (List.cons.inj heq).1 (hne _ (by decide))
  · rename_i heq
    exact absurd (List.cons.inj heq).1 (hne _ (by decide))
  · rename_i heq
    exact absurd (List.cons.inj heq).1 (hne _ (by decide))
  · rename_i heq
    exact absurd (List.cons.inj heq).1 (hne _ (by decide))
  · rename_i heq
    exact absurd (List.cons.inj heq).1 (hne _ (by decide))
  · rename_i heq
    exact absurd (List.cons.inj heq).1 (hne _ (by decide))
  · rename_i heq
    obtain ⟨rfl, rfl⟩ := List.cons.inj heq
    exact h

/-- The characters that end a word. -/
def wordEnders : List Char := [' ', '\t', '\n', ';', '&', '|', '<', '>', '(', ')']

theorem endsWord_iff (c : Char) : endsWord c = true ↔ c ∈ wordEnders := List.contains_iff_mem

/-- A word ends before this text. -/
def WordEnds (text : List Char) : Prop := ∀ c, text.head? = some c → endsWord c = true

theorem reads_readWord_end {after : List Char} (h : WordEnds after) (before : List Char) (n : Nat) :
    Reads (readWord false before (n + 1)) after (· = plain before.reverse) after := by
  cases after with
  | nil =>
      rw [readWord]
      exact Reads.rest_bind (Reads.pure rfl)
  | cons c after =>
      have hends := h c rfl
      refine reads_readWord_cons ?_ ?_
      · have hall : ∀ c ∈ wordEnders, c ∉ quotingChars := List.all_iff_forall_prop.mp (by decide)
        exact hall c ((endsWord_iff c).mp hends)
      · rw [if_pos hends]
        exact Reads.pure rfl

/-- Letters and hyphens mean nothing but themselves. -/
def IsBareChar (c : Char) : Prop := c.isAlpha = true ∨ c = '-'

instance (c : Char) : Decidable (IsBareChar c) := inferInstanceAs (Decidable (_ ∨ _))

theorem IsBareChar.notMem {c : Char} (h : IsBareChar c) {chars : List Char}
    (hchars : (chars.all fun d => ¬ IsBareChar d) = true) : c ∉ chars :=
  fun hc => List.all_iff_forall_prop.mp hchars c hc h

theorem IsBareChar.endsWord {c : Char} (h : IsBareChar c) : Reader.endsWord c = false := by
  rw [Bool.eq_false_iff, ne_eq, endsWord_iff]
  exact h.notMem (by decide)

/-- A text of such characters is read as a word that says just that. -/
theorem reads_readWord_bare {text after : List Char} (htext : ∀ c ∈ text, IsBareChar c)
    (h : WordEnds after) (before : List Char) {n : Nat} (hn : text.length < n) :
    Reads (readWord false before n) (text ++ after) (· = plain (before.reverse ++ text)) after := by
  induction text generalizing before n with
  | nil =>
      obtain ⟨n, rfl⟩ := Nat.exists_eq_succ_of_ne_zero (Nat.ne_zero_of_lt hn)
      rw [List.append_nil]
      exact reads_readWord_end h before n
  | cons c text ih =>
      obtain ⟨n, rfl⟩ := Nat.exists_eq_succ_of_ne_zero (Nat.ne_zero_of_lt hn)
      have hc := htext c List.mem_cons_self
      refine reads_readWord_cons (hc.notMem (by decide)) ?_
      rw [if_neg (by rw [hc.endsWord]; decide)]
      refine Reads.skip_bind ?_
      have hrest := ih (fun d hd => htext d (List.mem_cons_of_mem _ hd)) (c :: before)
        (Nat.lt_of_succ_lt_succ hn)
      rw [List.reverse_cons, List.append_assoc] at hrest
      exact hrest

/-- A text in double quotes is read as one word that says just that. -/
theorem reads_readWord_quoted {after : List Char} (h : WordEnds after) (text : List Char) {n : Nat}
    (hn : (quoteChars text ++ after).length < n) :
    Reads (readWord false [] n) (quoteChars text ++ after) (· = [.text true text]) after := by
  obtain ⟨n, rfl⟩ := Nat.exists_eq_succ_of_ne_zero (Nat.ne_zero_of_lt hn)
  have hbody := Quoted.readBody_escaped text after
  have hquoted : quoteChars text ++ after
      = '\x22' :: (text.flatMap Quoted.escape ++ '\x22' :: after) := by
    rw [quoteChars, List.cons_append, List.append_assoc]
    rfl
  rw [hquoted] at hn ⊢
  rw [List.length_cons] at hn
  rw [readWord]
  refine Reads.rest_bind (Reads.skip_bind ?_)
  refine Reads.bind (reads_readDouble hbody [] (Nat.lt_of_succ_lt_succ hn)) ?_
  rintro _ rfl
  obtain ⟨n, rfl⟩ := Nat.exists_eq_succ_of_ne_zero
    (Nat.ne_zero_of_lt (Nat.lt_of_succ_lt_succ hn))
  refine Reads.bind (reads_readWord_end h [] n) ?_
  rintro _ rfl
  refine Reads.pure ?_
  -- A text that says nothing is a word all the same.
  rw [List.append_nil]
  cases text with
  | nil => rfl
  | cons c text => simp [quotedPieces, plain, doubleQuoted]

/-! ## Written words -/

/-- A word as it is written in a line: letters and hyphens, or any text in double quotes. -/
inductive Written where
  | bare (text : List Char)
  | quoted (text : List Char)

namespace Written

/-- What is written. -/
def chars : Written → List Char
  | bare text => text
  | quoted text => quoteChars text

/-- What is meant. -/
def word : Written → Word
  | bare text => [.text false text]
  | quoted text => [.text true text]

/-- Only letters and hyphens are written without quotes. -/
def Sound : Written → Prop
  | bare text => text ≠ [] ∧ ∀ c ∈ text, IsBareChar c
  | quoted _ => True

/-- A character that a written word begins with. -/
def Begins (c : Char) : Prop := IsBareChar c ∨ c = '\x22'

instance (c : Char) : Decidable (Begins c) := inferInstanceAs (Decidable (_ ∨ _))

theorem exists_begins {w : Written} (h : w.Sound) (after : List Char) :
    ∃ c rest, w.chars ++ after = c :: rest ∧ Begins c := by
  cases w with
  | bare text =>
      obtain ⟨hne, htext⟩ := h
      obtain ⟨c, rest, rfl⟩ := List.exists_cons_of_ne_nil hne
      exact ⟨c, rest ++ after, rfl, Or.inl (htext c List.mem_cons_self)⟩
  | quoted text => exact ⟨'\x22', _, rfl, Or.inr rfl⟩

theorem Begins.ne {c d : Char} (h : Begins c) (hd : ¬ Begins d) : c ≠ d := by
  rintro rfl
  exact hd h

end Written

open Written (Begins)

/-- A word is no blank. -/
theorem unblanked_of_begins {c : Char} {rest : List Char} (h : Begins c) :
    unblanked (c :: rest) = c :: rest := by
  have hne : ∀ d, ¬ Begins d → ∀ tail, c :: rest ≠ d :: tail :=
    fun d hd tail heq => h.ne hd (List.cons.inj heq).1
  unfold unblanked
  rw [blankCount, List.drop_zero]
  · exact hne ' ' (by decide)
  · exact hne '\t' (by decide)
  · exact fun tail => hne '\x5c' (by decide) _
  · exact hne '#' (by decide)

/-- A word is no operator. -/
theorem operatorAt?_of_begins {c : Char} {rest : List Char} (h : Begins c) :
    operatorAt? (c :: rest) = none := by
  have hfirst : ∀ op ∈ operators, op.toList.head?.any (fun d => ¬ Begins d) = true := by decide
  unfold operatorAt?
  rw [List.find?_eq_none]
  intro op hop
  have hop := hfirst op hop
  cases hchars : op.toList with
  | nil =>
      rw [hchars] at hop
      cases hop
  | cons d tail =>
      rw [hchars, List.head?_cons, Option.any_some, decide_eq_true_eq] at hop
      rw [List.isPrefixOf_cons_cons, beq_false_of_ne (h.ne hop).symm, Bool.false_and]
      decide

theorem isDigit_of_begins {c : Char} (h : Begins c) : c.isDigit = false := by
  rcases h with (halpha | rfl) | rfl
  · refine Bool.eq_false_iff.mpr fun hdigit => ?_
    have hlast : c.val ≤ '9'.val := of_decide_eq_true ((Bool.and_eq_true _ _).mp hdigit).2
    have hfirst : 'A'.val ≤ c.val ∨ 'a'.val ≤ c.val := by
      rcases (Bool.or_eq_true _ _).mp halpha with hupper | hlower
      · exact Or.inl (of_decide_eq_true hupper).1
      · exact Or.inr (of_decide_eq_true ((Bool.and_eq_true _ _).mp hlower).1)
    -- the digits come before the letters
    have hnine : '9'.val.toNat < 'A'.val.toNat ∧ '9'.val.toNat < 'a'.val.toNat := by decide
    simp only [UInt32.le_iff_toNat_le] at hlast hfirst
    omega
  · decide
  · decide

/-- A word is no redirection. -/
theorem descriptorAt?_of_begins {c : Char} {rest : List Char} (h : Begins c) :
    descriptorAt? (c :: rest) = none := by
  have hdigits : ((c :: rest).take 1).takeWhile Char.isDigit = [] := by
    rw [List.take_succ_cons, List.takeWhile_cons_of_neg (by simp [isDigit_of_begins h])]
  unfold descriptorAt?
  simp only [hdigits, List.length_nil, List.drop_zero, operatorAt?_of_begins h]

theorem homeAt?_of_begins {c : Char} {rest : List Char} (h : Begins c) (ending : Option Char) :
    homeAt? ending (c :: rest) = none := by
  unfold homeAt?
  split
  · rename_i heq
    exact absurd (List.cons.inj heq).1 (h.ne (by decide))
  · rfl

/-- A word sets nothing: its name-like part is not followed by an equals sign. -/
theorem assignmentAt?_of_sound {w : Written} (h : w.Sound) {after : List Char}
    (hafter : WordEnds after) : assignmentAt? (w.chars ++ after) = none := by
  have hname : ∀ text : List Char, text[(text.takeWhile isNameChar).length]?
      = (text.dropWhile isNameChar).head? := by
    intro text
    have hsplit := List.takeWhile_append_dropWhile (p := isNameChar) (l := text)
    conv => lhs; arg 1; rw [← hsplit]
    rw [List.getElem?_append_right (Nat.le_refl _), Nat.sub_self, List.head?_eq_getElem?]
  cases w with
  | quoted text => rfl
  | bare text =>
      have hequals : ((text ++ after).dropWhile isNameChar).head? ≠ some '=' := by
        intro heq
        rw [List.dropWhile_append] at heq
        split at heq
        · -- All of the word is like a name, and what comes after it ends the name too.
          cases after with
          | nil => cases heq
          | cons d after =>
              have hends := hafter d rfl
              have hall : ∀ d ∈ wordEnders, isNameChar d = false ∧ d ≠ '=' :=
                List.all_iff_forall_prop.mp (by decide)
              have hd := hall d ((endsWord_iff d).mp hends)
              rw [List.dropWhile_cons_of_neg (by simp [hd.1])] at heq
              exact hd.2 (Option.some.inj heq)
        · -- Otherwise the name ends before a hyphen.
          rename_i hrest
          cases hdrop : text.dropWhile isNameChar with
          | nil => exact hrest (by rw [hdrop]; rfl)
          | cons d tail =>
              rw [hdrop] at heq
              obtain rfl : d = '=' := Option.some.inj heq
              have hmem : '=' ∈ text := (List.dropWhile_sublist isNameChar).subset (by simp [hdrop])
              exact absurd (h.2 '=' hmem) (by decide)
      unfold assignmentAt? Written.chars
      cases hchars : text ++ after with
      | nil => rfl
      | cons c rest =>
          dsimp only
          rw [← hchars, hname, if_neg (by simp [hequals])]

theorem reads_readWordOrHome {w : Written} (h : w.Sound) {after : List Char}
    (hafter : WordEnds after) {n : Nat} (hn : (w.chars ++ after).length + 1 < n) :
    Reads (readWordOrHome false n) (w.chars ++ after) (· = w.word) after := by
  obtain ⟨n, rfl⟩ := Nat.exists_eq_succ_of_ne_zero (Nat.ne_zero_of_lt hn)
  obtain ⟨c, rest, hchars, hc⟩ := Written.exists_begins h after
  rw [readWordOrHome]
  refine Reads.rest_bind ?_
  rw [hchars, homeAt?_of_begins hc, ← hchars]
  dsimp only
  have hlength := Nat.lt_of_succ_lt_succ hn
  cases w with
  | bare text =>
      have hshort : text.length < n := by
        rw [List.length_append] at hlength
        exact Nat.lt_of_le_of_lt (Nat.le_add_right _ _) hlength
      have hword := reads_readWord_bare h.2 hafter [] hshort
      rw [List.reverse_nil, List.nil_append, plain, if_neg h.1] at hword
      exact hword
  | quoted text => exact reads_readWord_quoted hafter text hlength

/-! ## Simple commands -/

theorem reads_skipToWord_bind {text : List Char} {n : Nat} {f : Unit → Reader α}
    (h : Reads (f ()) (unblanked text) good left) :
    Reads (skipToWord n >>= f) text good left := by
  unfold skipToWord
  rw [bind_assoc]
  refine Reads.rest_bind ?_
  rw [bind_assoc]
  refine reads_skipBlanks_bind ?_
  rw [bind_assoc]
  refine Reads.get_bind fun s hs _ => ?_
  rw [hs.opened]
  exact h

/-- The way to the next part of a command that has no assignments: no alias is in it. -/
theorem reads_toNext {text : List Char} {words : List Word} {redirected : List Redirection}
    {n : Nat} {f : Unit → Reader α} (hwords : words = [] → redirected = [])
    (htext : unblanked (unblanked text) = unblanked text)
    (h : Reads (f ()) (unblanked text) good left) :
    Reads (if words.isEmpty = true then
        if (!(([] : List (String × Word)).isEmpty && redirected.isEmpty)) = true then
          (openAliases n >>= fun _ => skipBlanks >>= f)
        else (skipBlanks >>= f)
      else (skipToWord n >>= fun _ => skipBlanks >>= f)) text good left := by
  cases words with
  | nil =>
      rw [hwords rfl]
      exact reads_skipBlanks_bind h
  | cons word words =>
      refine reads_skipToWord_bind (reads_skipBlanks_bind ?_)
      rw [htext]
      exact h

/-- A written word becomes the next word of a command. -/
theorem reads_readSimple_word {w : Written} (hw : w.Sound) {text after : List Char}
    (htext : unblanked text = w.chars ++ after) (hafter : WordEnds after) {line : Option Nat}
    {words : List Word} {n : Nat} (hn : text.length + 1 < n) {good : Command → Prop}
    (h : ∀ line, Reads (readSimple (some line) [] (w.word :: words) [] n) after good left) :
    Reads (readSimple line [] words [] (n + 1)) text good left := by
  obtain ⟨c, rest, hchars, hc⟩ := Written.exists_begins hw after
  rw [hchars] at htext
  have hstays : unblanked (unblanked text) = unblanked text := by
    rw [htext, unblanked_of_begins hc]
  have hlength : (w.chars ++ after).length + 1 < n := by
    rw [hchars, ← htext]
    refine Nat.lt_of_le_of_lt ?_ hn
    exact Nat.succ_le_succ (List.drop_sublist _ _).length_le
  rw [readSimple]
  refine reads_toNext (fun _ => rfl) hstays ?_
  rw [htext]
  refine Reads.rest_bind ?_
  dsimp only
  rw [descriptorAt?_of_begins hc, operatorAt?_of_begins hc, ← hchars,
    assignmentAt?_of_sound hw hafter, hchars]
  have hparenthesis : ¬ (c :: rest).head? = some '(' := by
    intro heq
    exact hc.ne (by decide) (Option.some.inj heq)
  rw [if_neg (by decide), if_neg hparenthesis, if_neg (by simp), ← hchars]
  refine Reads.bind (reads_readWordOrHome hw hafter hlength) ?_
  rintro _ rfl
  exact Reads.get_bind fun s _ _ => h _

/-- The redirection of the output to a file that is written as a word. -/
def toFile (w : Written) : Redirection := .mk 1 .output w.word

theorem descriptorAt?_output (rest : List Char) :
    descriptorAt? ('>' :: ' ' :: rest) = some (none, ">") := by
  have hoperator : operatorAt? ('>' :: ' ' :: rest) = some ">" := rfl
  have hdigits : (('>' :: ' ' :: rest).take 1).takeWhile Char.isDigit = [] := rfl
  have hnumber : (String.ofList []).toNat? = none := by
    simp [String.toNat?, String.Slice.toNat?, String.Slice.isNat]
  have hredirects : redirections.contains ">" = true := by decide
  unfold descriptorAt?
  simp only [hdigits, List.length_nil, List.drop_zero, hoperator, hredirects, if_true, hnumber]

theorem reads_readRedirection {w : Written} (hw : w.Sound) {after : List Char}
    (hafter : WordEnds after) {n : Nat} (hn : (w.chars ++ after).length + 1 < n) :
    Reads (readRedirection (n + 1)) ('>' :: ' ' :: (w.chars ++ after)) (· = toFile w) after := by
  obtain ⟨c, rest, hchars, hc⟩ := Written.exists_begins hw after
  have htarget : unblanked (' ' :: (w.chars ++ after)) = w.chars ++ after := by
    rw [unblanked_space, hchars, unblanked_of_begins hc]
  have hplain : descriptorAt? (w.chars ++ after) = none := by
    rw [hchars, descriptorAt?_of_begins hc]
  rw [readRedirection]
  refine Reads.rest_bind ?_
  rw [descriptorAt?_output]
  dsimp only
  rw [if_neg (by decide)]
  refine Reads.skip_bind ?_
  rw [show ('>' :: ' ' :: (w.chars ++ after)).drop ">".length = ' ' :: (w.chars ++ after) from rfl]
  refine reads_skipBlanks_bind ?_
  rw [htarget]
  refine Reads.rest_bind ?_
  rw [hplain, if_neg (by decide)]
  refine Reads.bind (reads_readWordOrHome hw hafter hn) ?_
  rintro _ rfl
  have hword : ¬ List.isEmpty w.word = true := by cases w <;> exact Bool.false_ne_true
  rw [if_neg hword]
  exact Reads.get_bind fun s _ _ => Reads.pure rfl

/-- A redirection of the output becomes part of a command that has words. -/
theorem reads_readSimple_output {w : Written} (hw : w.Sound) {after : List Char}
    (hafter : WordEnds after) {line : Option Nat} {word : Word} {words : List Word} {n : Nat}
    (hn : (w.chars ++ after).length + 2 < n) {good : Command → Prop}
    (h : ∀ line, Reads (readSimple (some line) [] (word :: words) [toFile w] n) after good left) :
    Reads (readSimple line [] (word :: words) [] (n + 1)) (' ' :: '>' :: ' ' :: (w.chars ++ after))
      good left := by
  obtain ⟨n, rfl⟩ := Nat.exists_eq_succ_of_ne_zero (Nat.ne_zero_of_lt hn)
  have htext : unblanked (' ' :: '>' :: ' ' :: (w.chars ++ after))
      = '>' :: ' ' :: (w.chars ++ after) := rfl
  rw [readSimple]
  refine reads_toNext (fun h => by cases h) rfl ?_
  rw [htext]
  refine Reads.rest_bind ?_
  dsimp only
  rw [descriptorAt?_output, if_pos (by rfl)]
  refine Reads.get_bind fun s _ _ => ?_
  refine Reads.bind (reads_readRedirection hw hafter (by omega)) ?_
  rintro _ rfl
  exact h _

/-- At the end of the script a command that has words is complete. -/
theorem reads_readSimple_end (line : Option Nat) (word : Word) (words : List Word)
    (redirected : List Redirection) (n : Nat) :
    Reads (readSimple line [] (word :: words) redirected (n + 1)) []
      (· = .simple (line.getD 1) [] (word :: words).reverse redirected.reverse) [] := by
  rw [readSimple]
  exact reads_toNext (fun h => by cases h) rfl (Reads.rest_bind (Reads.pure rfl))

/-! ## Lines -/

/-- The part of a line that follows the name of the program: its other words, and the file that the
output goes to. -/
def operandChars : List Written → Option Written → List Char
  | [], none => []
  | [], some file => ' ' :: '>' :: ' ' :: file.chars
  | w :: others, file => ' ' :: (w.chars ++ operandChars others file)

theorem wordEnds_operandChars (operands : List Written) (file : Option Written) :
    WordEnds (operandChars operands file) := by
  intro c hc
  match operands, file with
  | [], none => cases hc
  | [], some _ =>
      obtain rfl : ' ' = c := Option.some.inj hc
      decide
  | _ :: _, _ =>
      obtain rfl : ' ' = c := Option.some.inj hc
      decide

/-- A command of the given words and nothing else, whose output goes to the file if there is one. -/
def IsPlainCommand (words : List Word) (file : Option Written) (command : Command) : Prop :=
  ∃ line, command = .simple line [] words (file.toList.map toFile)

/-- The operands become words of the command, each for itself. -/
theorem reads_readSimple_operands {operands : List Written} {file : Option Written}
    (hoperands : ∀ w ∈ operands, w.Sound) (hfile : ∀ w ∈ file, w.Sound) {line : Option Nat}
    {word : Word} {words : List Word} {n : Nat} (hn : (operandChars operands file).length + 3 < n) :
    Reads (readSimple line [] (word :: words) [] n) (operandChars operands file)
      (IsPlainCommand ((word :: words).reverse ++ operands.map Written.word) file) [] := by
  obtain ⟨n, rfl⟩ := Nat.exists_eq_succ_of_ne_zero (Nat.ne_zero_of_lt hn)
  induction operands generalizing line word words n with
  | nil =>
      rw [List.map_nil, List.append_nil]
      cases file with
      | none =>
          refine (reads_readSimple_end line word words [] n).mono ?_
          rintro _ rfl
          exact ⟨_, rfl⟩
      | some w =>
          have hlength : (operandChars [] (some w)).length = (w.chars ++ []).length + 3 := by
            rw [List.append_nil]
            rfl
          have hpositive : n ≠ 0 := by omega
          obtain ⟨n, rfl⟩ := Nat.exists_eq_succ_of_ne_zero hpositive
          have hnothing : WordEnds [] := nofun
          have hout : Reads (readSimple line [] (word :: words) [] (n + 1 + 1))
              (' ' :: '>' :: ' ' :: (w.chars ++ []))
              (IsPlainCommand (word :: words).reverse (some w)) [] := by
            refine reads_readSimple_output (hfile w rfl) hnothing (by omega) fun line => ?_
            refine (reads_readSimple_end (some line) word words [toFile w] n).mono ?_
            rintro _ rfl
            exact ⟨_, rfl⟩
          rw [List.append_nil] at hout
          exact hout
  | cons w operands ih =>
      have hw := hoperands w List.mem_cons_self
      have htail := wordEnds_operandChars operands file
      have hlength : (operandChars (w :: operands) file).length
          = (w.chars ++ operandChars operands file).length + 1 := rfl
      rw [List.length_append] at hlength
      obtain ⟨c, rest, hchars, hc⟩ := Written.exists_begins hw (operandChars operands file)
      have hfirst : unblanked (operandChars (w :: operands) file)
          = w.chars ++ operandChars operands file := by
        rw [operandChars, unblanked_space, hchars, unblanked_of_begins hc]
      refine reads_readSimple_word hw hfirst htail (by omega) fun line => ?_
      have hpositive : n ≠ 0 := by omega
      obtain ⟨n, rfl⟩ := Nat.exists_eq_succ_of_ne_zero hpositive
      have hrest : Reads (readSimple (some line) [] (w.word :: word :: words) [] n.succ)
          (operandChars operands file) (IsPlainCommand
            ((w.word :: word :: words).reverse ++ operands.map Written.word) file) [] :=
        ih (fun v hv => hoperands v (List.mem_cons_of_mem _ hv)) n (by omega)
      rw [List.reverse_cons, List.append_assoc] at hrest
      exact hrest

/-- The name of a program: letters and hyphens that mean nothing to the shell. -/
structure IsProgram (program : List Char) : Prop where
  ne_nil : program ≠ []
  bare : ∀ c ∈ program, IsBareChar c
  not_reserved : String.ofList program ∉ reservedWords

theorem IsProgram.sound {program : List Char} (h : IsProgram program) :
    (Written.bare program).Sound := ⟨h.ne_nil, h.bare⟩

/-- A program with its operands, and the file that its output goes to. -/
def lineChars (program : List Char) (operands : List Written) (file : Option Written) : List Char :=
  program ++ operandChars operands file

section

variable {program : List Char} {operands : List Written} {file : Option Written}

/-- The name of a program begins a simple command, and nothing else that the shell knows. -/
structure Leads (text : List Char) : Prop where
  unblanked : unblanked text = text
  not_empty : text.isEmpty = false
  not_break : text.head? ≠ some '\n'
  not_operator : operatorAt? text = none
  not_reserved : reservedAt? text = none

theorem IsProgram.leads (h : IsProgram program) (operands : List Written) (file : Option Written) :
    Leads (lineChars program operands file) := by
  obtain ⟨c, rest, hchars, hc⟩ := Written.exists_begins h.sound (operandChars operands file)
  have hline : lineChars program operands file = c :: rest := hchars
  have hword : (lineChars program operands file).takeWhile (fun c => !endsWord c) = program := by
    have hbare : ∀ c ∈ program, (!endsWord c) = true := by
      intro c hc
      rw [(h.bare c hc).endsWord]
      rfl
    rw [lineChars, List.takeWhile_append_of_pos hbare]
    cases htail : operandChars operands file with
    | nil => rw [List.takeWhile_nil, List.append_nil]
    | cons d tail =>
        have hends := wordEnds_operandChars operands file d (by rw [htail]; rfl)
        rw [List.takeWhile_cons_of_neg (by simp [hends]), List.append_nil]
  refine ⟨?_, ?_, ?_, ?_, ?_⟩
  · rw [hline, unblanked_of_begins hc]
  · rw [hline]
    rfl
  · rw [hline]
    exact fun heq => hc.ne (by decide) (Option.some.inj heq)
  · rw [hline, operatorAt?_of_begins hc]
  · unfold reservedAt?
    rw [hword]
    exact if_neg (by simpa using h.not_reserved)

theorem reads_openAliases_bind {text : List Char} (htext : unblanked text = text) {n : Nat}
    {f : Unit → Reader α} (h : Reads (f ()) text good left) :
    Reads (openAliases n >>= f) text good left := by
  cases n with
  | zero => exact h
  | succ n =>
      rw [openAliases, bind_assoc]
      refine reads_skipBlanks_bind ?_
      rw [htext, bind_assoc]
      refine Reads.get_bind fun s hs _ => ?_
      rw [hs.aliases]
      exact h

theorem reads_readCommand (hprogram : IsProgram program) (hoperands : ∀ w ∈ operands, w.Sound)
    (hfile : ∀ w ∈ file, w.Sound) {n : Nat}
    (hn : (lineChars program operands file).length + 5 < n) :
    Reads (readCommand n) (lineChars program operands file)
      (IsPlainCommand ((Written.bare program :: operands).map Written.word) file) [] := by
  have hleads := hprogram.leads operands file
  obtain ⟨n, rfl⟩ := Nat.exists_eq_succ_of_ne_zero (Nat.ne_zero_of_lt hn)
  rw [readCommand]
  refine reads_openAliases_bind hleads.unblanked (Reads.get_bind fun s _ _ => Reads.rest_bind ?_)
  rw [hleads.not_operator, if_neg (by decide), hleads.not_reserved]
  have hpositive : n ≠ 0 := by omega
  obtain ⟨n, rfl⟩ := Nat.exists_eq_succ_of_ne_zero hpositive
  refine reads_readSimple_word hprogram.sound hleads.unblanked (wordEnds_operandChars operands file)
    (by omega) fun line => ?_
  have hlength : (lineChars program operands file).length
      = program.length + (operandChars operands file).length := List.length_append
  exact reads_readSimple_operands hoperands hfile (by omega)

theorem reads_readStages_end (n : Nat) : Reads (readStages (n + 1)) [] (· = []) [] := by
  rw [readStages]
  exact reads_skipBlanks_bind (Reads.rest_bind (Reads.pure rfl))

theorem reads_readConnected_end (first : Command) (n : Nat) :
    Reads (readConnected first (n + 1)) [] (· = first) [] := by
  rw [readConnected]
  exact reads_skipBlanks_bind (Reads.rest_bind (Reads.pure rfl))

theorem reads_readPipeline (hprogram : IsProgram program) (hoperands : ∀ w ∈ operands, w.Sound)
    (hfile : ∀ w ∈ file, w.Sound) {n : Nat}
    (hn : (lineChars program operands file).length + 6 < n) :
    Reads (readPipeline n) (lineChars program operands file)
      (IsPlainCommand ((Written.bare program :: operands).map Written.word) file) [] := by
  have hleads := hprogram.leads operands file
  obtain ⟨n, rfl⟩ := Nat.exists_eq_succ_of_ne_zero (Nat.ne_zero_of_lt hn)
  rw [readPipeline]
  refine reads_skipBlanks_bind ?_
  rw [hleads.unblanked]
  refine Reads.rest_bind ?_
  rw [hleads.not_reserved]
  have hread := reads_readCommand hprogram hoperands hfile (n := n) (by omega)
  refine Reads.bind hread fun command hcommand => ?_
  have hpositive : n ≠ 0 := by omega
  obtain ⟨n, rfl⟩ := Nat.exists_eq_succ_of_ne_zero hpositive
  refine Reads.bind (reads_readStages_end n) ?_
  rintro _ rfl
  exact Reads.pure hcommand

theorem reads_readList (hprogram : IsProgram program) (hoperands : ∀ w ∈ operands, w.Sound)
    (hfile : ∀ w ∈ file, w.Sound) {n : Nat}
    (hn : (lineChars program operands file).length + 7 < n) :
    Reads (readList true n) (lineChars program operands file)
      (IsPlainCommand ((Written.bare program :: operands).map Written.word) file) [] := by
  have hleads := hprogram.leads operands file
  have hend : isListEnd (lineChars program operands file) = false := by
    unfold isListEnd
    rw [hleads.not_operator, hleads.not_empty, hleads.not_reserved]
    rfl
  obtain ⟨n, rfl⟩ := Nat.exists_eq_succ_of_ne_zero (Nat.ne_zero_of_lt hn)
  rw [readList]
  refine reads_skipBlanks_bind ?_
  rw [hleads.unblanked]
  refine Reads.rest_bind ?_
  rw [hend, if_neg (by decide), if_neg (by simpa using hleads.not_break)]
  have hread := reads_readPipeline hprogram hoperands hfile (n := n) (by omega)
  refine Reads.bind hread fun command hcommand => ?_
  have hpositive : n ≠ 0 := by omega
  obtain ⟨n, rfl⟩ := Nat.exists_eq_succ_of_ne_zero hpositive
  refine Reads.bind (reads_readConnected_end command n) ?_
  rintro _ rfl
  exact reads_skipBlanks_bind (Reads.rest_bind (Reads.pure hcommand))

theorem reads_checkingWords {body : Reader α} {text : List Char} (h : Reads body text good left) :
    Reads (checkingWords body) text good left := by
  intro s hs htext
  obtain ⟨value, s', hrun, hvalue⟩ := h s hs htext
  refine ⟨value, s', ?_, hvalue⟩
  show (tryCatch (body.run s) _ : Except Problem (α × Source)) = _
  rw [hrun]
  rfl

theorem reads_skipAllLines_bind {text : List Char} (hblank : unblanked text = text)
    (hbreak : text.head? ≠ some '\n') {f : Unit → Reader α} (h : Reads (f ()) text good left) :
    Reads (skipAllLines >>= f) text good left := by
  unfold skipAllLines
  rw [bind_assoc]
  refine Reads.rest_bind ?_
  rw [skipLines, bind_assoc]
  refine reads_skipBlanks_bind ?_
  rw [hblank, bind_assoc]
  refine Reads.rest_bind ?_
  rw [if_neg hbreak]
  exact h

/-- **A shell reads the line as one command**, of the words that were written. -/
theorem reads_nextLine (hprogram : IsProgram program) (hoperands : ∀ w ∈ operands, w.Sound)
    (hfile : ∀ w ∈ file, w.Sound) :
    Reads nextLine (lineChars program operands file)
      (fun found => ∃ command, found = some command ∧
        IsPlainCommand ((Written.bare program :: operands).map Written.word) file command) [] := by
  have hleads := hprogram.leads operands file
  have hdepth : (lineChars program operands file).length + 7
      < depthFor (lineChars program operands file) := by
    unfold depthFor
    omega
  unfold nextLine
  refine reads_checkingWords (reads_skipAllLines_bind hleads.unblanked hleads.not_break ?_)
  refine Reads.rest_bind ?_
  rw [hleads.not_empty, if_neg (by decide)]
  refine Reads.rest_bind ?_
  refine Reads.bind (reads_readList hprogram hoperands hfile hdepth) fun command hcommand => ?_
  exact reads_skipBlanks_bind (Reads.rest_bind (Reads.pure ⟨command, rfl, hcommand⟩))

end

end Reader

/-- A shell that is given the line as its script runs one simple command and nothing else. -/
def TakenAs (line : String) (words : List Word) (redirections : List Redirection) : Prop :=
  ∃ number source, Reader.nextLine.run { rest := line.toList }
    = .ok (some (.simple number [] words redirections), source) ∧ source.rest = []

open Reader in
theorem takenAs_of_toList {line : String} {program : List Char} {operands : List Written}
    {file : Option Written} (hline : line.toList = lineChars program operands file)
    (hprogram : IsProgram program) (hoperands : ∀ w ∈ operands, w.Sound)
    (hfile : ∀ w ∈ file, w.Sound) :
    TakenAs line ((Written.bare program :: operands).map Written.word)
      (file.toList.map toFile) := by
  obtain ⟨_, source, hrun, ⟨_, rfl, number, rfl⟩, -, hleft⟩ :=
    reads_nextLine hprogram hoperands hfile { rest := line.toList } ⟨rfl, rfl⟩ hline
  exact ⟨number, source, hrun, hleft⟩

end PlainTerminal.Shell
