import PlainTerminal.Proofs.Text.Words
import PlainTerminal.Router.Redirect

/-!
# What a redirection looks like

A command that is read as a write has `echo` for its first word, and its file is one word. The text
in front of operator and file ends as early as it can: `isSome_split?_iff` says when there is a text
at all, and `split?_append` that none is found before the one from which no end reads as operator
and file.
-/

namespace PlainTerminal.Redirect

open Text

/-! ## Operator and file -/

/-- A file is read where a word stands behind blanks, and nowhere else. -/
theorem fileName?_eq_some_iff {s word : List Char} : fileName? s = some word ↔
    ∃ blanks, s = blanks ++ word ∧ (∀ c ∈ blanks, isBlank c = true) ∧ IsWord word := by
  constructor
  · intro h
    have hsplit := List.takeWhile_append_dropWhile (p := isBlank) (l := s)
    refine ⟨s.takeWhile isBlank, ?_, fun c hc => List.mem_takeWhile_imp hc, ?_⟩
    · unfold fileName? at h
      split at h
      · cases h
      · split at h
        · cases h
          exact hsplit.symm
        · cases h
    · unfold fileName? at h
      split at h
      · cases h
      · rename_i hne
        split at h
        · rename_i hall
          cases h
          exact ⟨hne, fun c hc => by simpa using List.all_eq_true.mp hall c hc⟩
        · cases h
  · rintro ⟨blanks, rfl, hblanks, hword⟩
    obtain ⟨c, rest, hcons⟩ := List.exists_cons_of_ne_nil hword.ne_nil
    have hdrop : (blanks ++ word).dropWhile isBlank = word := by
      have hc : isBlank c = false := hword.not_blank c (by simp [hcons])
      rw [List.dropWhile_append_of_pos hblanks, hcons, List.dropWhile_cons_of_neg (by simp [hc])]
    have hall : word.all (fun c => !isBlank c) = true :=
      List.all_eq_true.mpr fun c hc => by simp [hword.not_blank c hc]
    unfold fileName?
    rw [hdrop]
    split
    · exact absurd rfl hword.ne_nil
    · rw [if_pos hall]

/-- Where operator and file are read, the file is a word behind the last `>` of the operator, with
blanks at most between them, and nothing else stands in front. -/
theorem exists_split_of_target? {s path : List Char} {operator : Operator}
    (h : target? s = some (operator, path)) :
    ∃ front blanks, s = front ++ '>' :: (blanks ++ path) ∧
      (∀ c ∈ front, isBlank c = true ∨ c = '>') ∧ (∀ c ∈ blanks, isBlank c = true) ∧
      IsWord path := by
  have hsplit := List.takeWhile_append_dropWhile (p := isBlank) (l := s)
  have hfront : ∀ c ∈ s.takeWhile isBlank, isBlank c = true ∨ c = '>' :=
    fun c hc => Or.inl (List.mem_takeWhile_imp hc)
  unfold target? at h
  split at h
  · rename_i rest hoperator
    rw [hoperator] at hsplit
    -- The shorter operator reads as it would with nothing behind it.
    have hshort : (fileName? rest).map (fun word => (Operator.overwrite, word))
        = some (operator, path) → ∃ front blanks, s = front ++ '>' :: (blanks ++ path) ∧
          (∀ c ∈ front, isBlank c = true ∨ c = '>') ∧ (∀ c ∈ blanks, isBlank c = true) ∧
          IsWord path := by
      intro hmap
      obtain ⟨word, hword, heq⟩ := Option.map_eq_some_iff.mp hmap
      cases heq
      obtain ⟨blanks, rfl, hblanks, hpath⟩ := fileName?_eq_some_iff.mp hword
      exact ⟨s.takeWhile isBlank, blanks, hsplit.symm, hfront, hblanks, hpath⟩
    split at h
    · rename_i beyond
      split at h
      · rename_i hword
        cases h
        obtain ⟨blanks, rfl, hblanks, hpath⟩ := fileName?_eq_some_iff.mp hword
        refine ⟨s.takeWhile isBlank ++ ['>'], blanks, ?_, ?_, hblanks, hpath⟩
        · rw [List.append_assoc]
          exact hsplit.symm
        · intro c hc
          rcases List.mem_append.mp hc with hc | hc
          · exact hfront c hc
          · exact Or.inr (List.mem_singleton.mp hc)
      · exact hshort h
    · exact hshort h
  · cases h

/-- Behind a `>` a word is read as a file. -/
theorem isSome_target? {blanks word : List Char} (hblanks : ∀ c ∈ blanks, isBlank c = true)
    (hword : IsWord word) : (target? ('>' :: (blanks ++ word))).isSome = true := by
  have hfile : fileName? (blanks ++ word) = some word :=
    fileName?_eq_some_iff.mpr ⟨blanks, rfl, hblanks, hword⟩
  unfold target?
  rw [List.dropWhile_cons_of_neg (by decide)]
  split
  · rename_i rest hrest
    obtain rfl : blanks ++ word = rest := (List.cons.inj hrest).2
    split
    · split
      · rfl
      · rw [hfile]
        rfl
    · rw [hfile]
      rfl
  · rename_i hnot
    exact absurd rfl (hnot _)

/-- No file is read with a blank in it, and no operator with anything but blanks in front of it. -/
theorem target?_eq_none {front rest : List Char} {c b : Char} (hc : c ∈ front)
    (hkept : isBlank c = false) (hoperator : c ≠ '>') (hb : b ∈ rest) (hblank : isBlank b = true) :
    target? (front ++ rest) = none := by
  refine Option.eq_none_iff_forall_ne_some.mpr ?_
  rintro ⟨operator, path⟩ htarget
  obtain ⟨before, blanks, hsplit, hbefore, hblanks, hpath⟩ := exists_split_of_target? htarget
  have hnot : c ∉ before ++ '>' :: blanks := by
    intro hmem
    rcases List.mem_append.mp hmem with hmem | hmem
    · rcases hbefore c hmem with h | h
      · rw [hkept] at h
        cases h
      · exact hoperator h
    · rcases List.mem_cons.mp hmem with h | h
      · exact hoperator h
      · have hcblank := hblanks c h
        rw [hkept] at hcblank
        cases hcblank
  rw [← List.cons_append, ← List.append_assoc] at hsplit
  rcases List.append_eq_append_iff.mp hsplit with ⟨between, hfront, -⟩ | ⟨between, -, hpath'⟩
  · -- The file begins behind the character, so that one stands before it.
    rw [hfront] at hnot
    exact hnot (List.mem_append_left _ hc)
  · -- Otherwise the blank is in the file.
    have hbpath : b ∈ path := hpath' ▸ List.mem_append_right _ hb
    rw [hpath.not_blank b hbpath] at hblank
    cases hblank

/-! ## The text before them -/

/-- Where a text is split off, operator and file are read from what follows it. -/
theorem exists_target?_of_split? {s text path : List Char} {operator : Operator}
    (h : split? s = some (text, operator, path)) :
    ∃ rest, s = text ++ rest ∧ target? rest = some (operator, path) := by
  induction s generalizing text with
  | nil =>
      unfold split? at h
      split at h
      · rename_i htarget
        cases h
        exact ⟨[], rfl, htarget⟩
      · cases h
  | cons c s ih =>
      unfold split? at h
      split at h
      · rename_i htarget
        cases h
        exact ⟨c :: s, rfl, htarget⟩
      · dsimp only at h
        split at h
        · cases h
        · obtain ⟨⟨text', operator', path'⟩, hsplit, heq⟩ := Option.map_eq_some_iff.mp h
          cases heq
          obtain ⟨rest, rfl, htarget⟩ := ih hsplit
          exact ⟨rest, rfl, htarget⟩

/-- The shortest text is split off: one of which no end reads as operator and file, together with
what follows. -/
theorem split?_append {text rest path : List Char} {operator : Operator} (hline : '\n' ∉ text)
    (hrest : target? rest = some (operator, path))
    (hnone : ∀ back, back ≠ [] → back <:+ text → target? (back ++ rest) = none) :
    split? (text ++ rest) = some (text, operator, path) := by
  induction text with
  | nil =>
      rw [List.nil_append]
      unfold split?
      rw [hrest]
  | cons c text ih =>
      obtain ⟨hc, htext⟩ := not_or.mp (mt List.mem_cons.mpr hline)
      have hfound := ih htext fun back hne hback =>
        hnone back hne (hback.trans (List.suffix_cons c text))
      have hwhole := hnone (c :: text) (List.cons_ne_nil c text) List.suffix_rfl
      rw [List.cons_append] at hwhole ⊢
      unfold split?
      rw [hwhole]
      dsimp only
      rw [if_neg (Ne.symm hc), hfound]
      rfl

/-- On one line, a text is split off exactly if some end of the line reads as operator and file. -/
theorem isSome_split?_iff {s : List Char} (hline : '\n' ∉ s) :
    (split? s).isSome = true ↔ ∃ back, back <:+ s ∧ (target? back).isSome = true := by
  constructor
  · intro h
    obtain ⟨⟨text, operator, path⟩, hsplit⟩ := Option.isSome_iff_exists.mp h
    obtain ⟨back, hback, htarget⟩ := exists_target?_of_split? hsplit
    exact ⟨back, hback ▸ List.suffix_append text back, by rw [htarget]; rfl⟩
  · rintro ⟨back, hback, htarget⟩
    induction s with
    | nil =>
        obtain rfl := List.suffix_nil.mp hback
        cases htarget
    | cons c s ih =>
        obtain ⟨hc, hs⟩ := not_or.mp (mt List.mem_cons.mpr hline)
        unfold split?
        cases hhere : target? (c :: s) with
        | some found => rfl
        | none =>
            have hbelow : back <:+ s := by
              refine (List.suffix_cons_iff.mp hback).resolve_left ?_
              rintro rfl
              rw [hhere] at htarget
              cases htarget
            dsimp only
            rw [if_neg (Ne.symm hc), Option.isSome_map]
            exact ih hs hbelow

/-- A write is split off from what follows the first blanks behind `echo`. -/
theorem exists_split?_of_parse? {command : String} {write : Write}
    (h : parse? command = some write) : ∃ c rest, isBlank c = true ∧
      command.toList = 'e' :: 'c' :: 'h' :: 'o' :: c :: rest ∧
      split? (rest.dropWhile isBlank)
        = some (write.text.toList, write.operator, write.path.toList) := by
  unfold parse? at h
  split at h
  · rename_i c rest hcommand
    split at h
    · rename_i hblank
      obtain ⟨⟨text, operator, path⟩, hsplit, rfl⟩ := Option.map_eq_some_iff.mp h
      refine ⟨c, rest, hblank, hcommand, ?_⟩
      rw [String.toList_ofList, String.toList_ofList]
      exact hsplit
    · cases h
  · cases h

/-- The file of a write is one word. -/
theorem isWord_of_parse? {command : String} {write : Write} (h : parse? command = some write) :
    IsWord write.path.toList := by
  obtain ⟨c, rest, -, -, hsplit⟩ := exists_split?_of_parse? h
  obtain ⟨_, -, htarget⟩ := exists_target?_of_split? hsplit
  obtain ⟨_, _, -, -, -, hpath⟩ := exists_split_of_target? htarget
  exact hpath

/-- A command that is read as a write begins with `echo` and a blank. -/
theorem toList_of_parse? {command : String} {write : Write} (h : parse? command = some write) :
    ∃ c rest, isBlank c = true ∧ command.toList = 'e' :: 'c' :: 'h' :: 'o' :: c :: rest := by
  obtain ⟨c, rest, hblank, hcommand, -⟩ := exists_split?_of_parse? h
  exact ⟨c, rest, hblank, hcommand⟩

/-- The text and the file of a write are parts of the command. -/
theorem infix_of_parse? {command : String} {write : Write} (h : parse? command = some write) :
    write.text.toList <:+: command.toList ∧ write.path.toList <:+: command.toList := by
  obtain ⟨c, rest, -, hcommand, hsplit⟩ := exists_split?_of_parse? h
  obtain ⟨beyond, heq, htarget⟩ := exists_target?_of_split? hsplit
  obtain ⟨front, blanks, hbeyond, -, -, -⟩ := exists_split_of_target? htarget
  have hrest : write.text.toList ++ beyond <:+ command.toList := by
    rw [← heq, hcommand]
    exact (List.dropWhile_suffix _).trans (List.suffix_append ['e', 'c', 'h', 'o', c] rest)
  have hpath : write.path.toList <:+ beyond := by
    refine ⟨front ++ '>' :: blanks, ?_⟩
    rw [hbeyond, List.append_assoc, List.cons_append]
  have hpath' : write.path.toList <:+ write.text.toList ++ beyond :=
    hpath.trans (List.suffix_append _ beyond)
  exact ⟨(List.prefix_append _ beyond).isInfix.trans hrest.isInfix, (hpath'.trans hrest).isInfix⟩

/-- Behind `echo` and a space, text, operator and file are all that is read. -/
theorem parse?_echo {rest : List Char} (hfirst : ∀ c, rest.head? = some c → isBlank c = false) :
    parse? (String.ofList ('e' :: 'c' :: 'h' :: 'o' :: ' ' :: rest)) =
      (split? rest).map fun (text, operator, path) =>
        ⟨String.ofList text, operator, String.ofList path⟩ := by
  have hdrop : rest.dropWhile isBlank = rest := by
    cases rest with
    | nil => rfl
    | cons c rest => exact List.dropWhile_cons_of_neg (by simp [hfirst c rfl])
  unfold parse?
  rw [String.toList_ofList]
  show (if isBlank ' ' = true then (split? (rest.dropWhile isBlank)).map _ else none) = _
  rw [if_pos (by decide), hdrop]

/-! ## Quotes -/

/-- A text between double quotes. -/
def enclosed (text : String) : String := "\x22" ++ text ++ "\x22"

theorem toList_enclosed (text : String) :
    (enclosed text).toList = '\x22' :: (text.toList ++ ['\x22']) := by
  rw [enclosed, String.toList_append, String.toList_append]
  rfl

/-- A double quote is a word. -/
theorem isWord_quote : IsWord ['\x22'] := by decide

theorem trim_enclosed (text : String) : trim (enclosed text) = enclosed text := by
  have hcut : enclosed text = String.ofList ('\x22' :: text.toList ++ ['\x22']) := by
    rw [← String.ofList_toList (s := enclosed text), toList_enclosed]
    rfl
  rw [hcut]
  exact trim_cons_append_word (by decide) isWord_quote

/-- Of a text between double quotes these are taken away, and nothing else is. -/
theorem unquote_enclosed (text : String) : unquote (enclosed text) = text := by
  have hkept : stripChars isBlank (enclosed text).toList = (enclosed text).toList := by
    have htrim := congrArg String.toList (trim_enclosed text)
    rw [trim, String.toList_ofList] at htrim
    exact htrim
  have hlast : ('\x22' :: (text.toList ++ ['\x22'])).getLast? = some '\x22' := by
    rw [← List.cons_append, List.getLast?_concat]
  have hquotes : isEnclosedIn '\x22' ('\x22' :: (text.toList ++ ['\x22'])) = true := by
    simp [isEnclosedIn, hlast]
  unfold unquote
  dsimp only
  rw [hkept, toList_enclosed, hquotes, Bool.true_or, if_pos rfl, List.tail_cons,
    List.dropLast_concat, String.ofList_toList]

/-- What is left of a text without its quotes is a part of it. -/
theorem infix_unquote (text : String) : (unquote text).toList <:+: text.toList := by
  obtain ⟨a, b, hsplit, -, -⟩ := stripChars_split isBlank text.toList
  have hkept : stripChars isBlank text.toList <:+: text.toList := ⟨a, b, hsplit.symm⟩
  unfold unquote
  dsimp only
  split
  · rw [String.toList_ofList]
    exact ((List.dropLast_prefix _).isInfix.trans (List.tail_suffix _).isInfix).trans hkept
  · rw [String.toList_ofList]
    exact hkept

/-- A write is a command of the program `echo`. -/
theorem program_of_parse? {command : String} {write : Write} (h : parse? command = some write) :
    (splitAtBlank command).1 = "echo" := by
  obtain ⟨c, rest, hblank, hcommand⟩ := toList_of_parse? h
  have hecho : command = String.ofList (['e', 'c', 'h', 'o'] ++ c :: rest) := by
    rw [← String.ofList_toList (s := command), hcommand]
    rfl
  rw [hecho, splitAtBlank_append (by decide) hblank]

/-- No other program writes. -/
theorem parse?_eq_none_of_program {command program rest : String}
    (h : splitAtBlank command = (program, rest)) (hecho : program ≠ "echo") :
    parse? command = none := by
  refine Option.eq_none_iff_forall_ne_some.mpr fun write hwrite => hecho ?_
  rw [← program_of_parse? hwrite, h]

end PlainTerminal.Redirect
