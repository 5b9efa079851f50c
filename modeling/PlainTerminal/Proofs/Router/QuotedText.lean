import PlainTerminal.Proofs.Router.ReadBack

/-!
# Texts between double quotes

The reader of writes does not know quotes. It takes the first `>` from which the rest of the command
reads as operator and file, and only then are the quotes around the text taken away. Whether that is
the `>` that was meant hangs on what stands behind the closing quote.

If operator and file follow it, then each `>` of the text has the quote and a blank behind it, and a
file has no blank in it: so the write is read as it was meant, whatever the text is, and the file
shows the text. If nothing follows it, the quote may be the end of a file: so the text is printed
exactly if none of its `>` has only blanks and one word behind it.
-/

namespace PlainTerminal

open Dialogue

namespace Redirect

open Text

/-! ## A text alone -/

/-- Some `>` of the text has nothing behind it but blanks and at most one word. -/
def EndsLikeWrite (text : String) : Prop :=
  ∃ before blanks word, text.toList = before ++ '>' :: (blanks ++ word) ∧
    (∀ c ∈ blanks, isBlank c = true) ∧ ∀ c ∈ word, isBlank c = false

/-- The command that prints a text between double quotes. -/
def printing (text : String) : String := "echo " ++ enclosed text

theorem printing_eq (text : String) :
    printing text = String.ofList ('e' :: 'c' :: 'h' :: 'o' :: ' ' :: (enclosed text).toList) := by
  rw [← String.ofList_toList (s := printing text), printing, String.toList_append]
  rfl

theorem newline_notMem_enclosed {text : String} (hline : '\n' ∉ text.toList) :
    '\n' ∉ (enclosed text).toList := by
  rw [toList_enclosed]
  simpa using hline

theorem trim_printing (text : String) : trim (printing text) = printing text := by
  have hcut : 'e' :: 'c' :: 'h' :: 'o' :: ' ' :: (enclosed text).toList
      = 'e' :: ('c' :: 'h' :: 'o' :: ' ' :: '\x22' :: text.toList) ++ ['\x22'] := by
    rw [toList_enclosed]
    rfl
  rw [printing_eq, hcut]
  exact trim_cons_append_word (by decide) isWord_quote

/-- The closing quote belongs to the file, so a text that ends like a write is one. -/
theorem exists_target?_enclosed_iff (text : String) :
    (∃ back, back <:+ (enclosed text).toList ∧ (target? back).isSome = true) ↔
      EndsLikeWrite text := by
  rw [toList_enclosed]
  constructor
  · rintro ⟨back, ⟨front, hback⟩, htarget⟩
    obtain ⟨⟨operator, path⟩, htarget⟩ := Option.isSome_iff_exists.mp htarget
    obtain ⟨before, blanks, rfl, -, hblanks, hpath⟩ := exists_split_of_target? htarget
    -- The file ends with the closing quote, and the opening one stands before the operator.
    obtain ⟨word, last, rfl⟩ := (List.eq_nil_or_concat path).resolve_left hpath.ne_nil
    rw [List.concat_eq_append] at hback hpath
    have hends : (front ++ before ++ '>' :: (blanks ++ word)) ++ [last]
        = ('\x22' :: text.toList) ++ ['\x22'] := by
      rw [List.cons_append, ← hback]
      simp only [List.append_assoc, List.cons_append]
    obtain ⟨hbody, -⟩ := List.append_inj' hends rfl
    cases hfirst : front ++ before with
    | nil =>
        rw [hfirst] at hbody
        cases hbody
    | cons c before' =>
        rw [hfirst] at hbody
        refine ⟨before', blanks, word, (List.cons.inj hbody).2.symm, hblanks, ?_⟩
        intro d hd
        exact hpath.not_blank d (List.mem_append_left _ hd)
  · rintro ⟨before, blanks, word, htext, hblanks, hword⟩
    have hpath : IsWord (word ++ ['\x22']) := by
      refine ⟨by simp, ?_⟩
      intro c hc
      rcases List.mem_append.mp hc with hc | hc
      · exact hword c hc
      · obtain rfl := List.mem_singleton.mp hc
        decide
    refine ⟨'>' :: (blanks ++ (word ++ ['\x22'])), ⟨'\x22' :: before, ?_⟩,
      isSome_target? hblanks hpath⟩
    rw [htext]
    simp only [List.append_assoc, List.cons_append]

/-- On one line, the command that prints a text is read as a write exactly if the text ends like
one. -/
theorem isSome_parse?_printing_iff {text : String} (hline : '\n' ∉ text.toList) :
    (parse? (printing text)).isSome = true ↔ EndsLikeWrite text := by
  have hfirst : ∀ c, (enclosed text).toList.head? = some c → isBlank c = false := by
    rw [toList_enclosed]
    rintro c ⟨⟩
    decide
  rw [printing_eq, parse?_echo hfirst, Option.isSome_map,
    isSome_split?_iff (newline_notMem_enclosed hline), exists_target?_enclosed_iff]

/-! ## A text that is written to a file -/

/-- An operator as it is typed. -/
def Operator.symbol : Operator → List Char
  | .overwrite => ['>']
  | .append => ['>', '>']

/-- What follows the text in a write. -/
def Write.redirection (write : Write) : List Char :=
  ' ' :: (write.operator.symbol ++ ' ' :: write.path.toList)

/-- A write as it is typed, with its text between double quotes. -/
def Write.line (write : Write) : String :=
  printing write.text ++ String.ofList write.redirection

theorem target?_redirection {write : Write} (hword : IsWord write.path.toList) :
    target? write.redirection = some (write.operator, write.path.toList) := by
  have hfile : fileName? (' ' :: write.path.toList) = some write.path.toList :=
    fileName?_eq_some_iff.mpr ⟨[' '], rfl, List.forall_mem_singleton.mpr (by decide), hword⟩
  unfold Write.redirection target?
  rw [List.dropWhile_cons_of_pos (by decide)]
  cases write.operator with
  | overwrite =>
      unfold Operator.symbol
      rw [List.cons_append, List.dropWhile_cons_of_neg (by decide)]
      show (fileName? (' ' :: write.path.toList)).map _ = _
      rw [hfile]
      rfl
  | append =>
      unfold Operator.symbol
      rw [List.cons_append, List.dropWhile_cons_of_neg (by decide)]
      simp only [List.cons_append, List.nil_append, hfile]

theorem line_eq (write : Write) :
    write.line = String.ofList
      ('e' :: 'c' :: 'h' :: 'o' :: ' ' :: ((enclosed write.text).toList ++ write.redirection)) := by
  rw [Write.line, printing_eq, ← String.ofList_append]
  rfl

theorem trim_line {write : Write} (hword : IsWord write.path.toList) :
    trim write.line = write.line := by
  have hcut : 'e' :: 'c' :: 'h' :: 'o' :: ' ' :: ((enclosed write.text).toList ++ write.redirection)
      = 'e' :: ('c' :: 'h' :: 'o' :: ' ' :: (enclosed write.text).toList
        ++ ' ' :: (write.operator.symbol ++ [' '])) ++ write.path.toList := by
    unfold Write.redirection
    simp only [List.append_assoc, List.cons_append, List.nil_append]
  rw [line_eq, hcut]
  exact trim_cons_append_word (by decide) hword

/-- **A write is read as it was typed**, whatever its text: the quotes are still around that. -/
theorem parse?_line {write : Write} (hline : '\n' ∉ write.text.toList)
    (hword : IsWord write.path.toList) :
    parse? write.line = some { write with text := enclosed write.text } := by
  have hfirst : ∀ c, ((enclosed write.text).toList ++ write.redirection).head? = some c →
      isBlank c = false := by
    rw [toList_enclosed]
    rintro c ⟨⟩
    decide
  have hsplit : split? ((enclosed write.text).toList ++ write.redirection)
      = some ((enclosed write.text).toList, write.operator, write.path.toList) := by
    refine split?_append (newline_notMem_enclosed hline) (target?_redirection hword) ?_
    intro back hne hback
    -- Every end of the text has the closing quote in it, and a blank behind that.
    have hquote : '\x22' ∈ back := by
      obtain ⟨init, last, rfl⟩ := (List.eq_nil_or_concat back).resolve_left hne
      obtain ⟨front, hfront⟩ := hback
      rw [toList_enclosed, List.concat_eq_append, ← List.append_assoc, ← List.cons_append] at hfront
      obtain ⟨-, hlast⟩ := List.append_inj' hfront rfl
      rw [List.concat_eq_append, hlast]
      exact List.mem_append_right _ List.mem_cons_self
    exact target?_eq_none hquote (by decide) (by decide) List.mem_cons_self (by decide)
  rw [line_eq, parse?_echo hfirst, hsplit]
  simp only [Option.map_some, String.ofList_toList]

end Redirect

namespace Router

open Redirect

variable {s : Session} {text : String} {write : Redirect.Write}

/-! ## Printing -/

/-- In the demo, what is not read as a write is printed, and that is all. -/
theorem run_printing (hsim : s.store.isSimulated = true)
    (hparse : parse? (printing text) = none) :
    (route (printing text) none).run s = done (⟨.ok (text ++ "\n"), s.cwd, true⟩, s) := by
  have hprogram : Text.splitAtBlank (Text.trim (printing text)) = ("echo", enclosed text) :=
    Text.splitAtBlank_command (by decide) (by decide) (trim_enclosed text)
  rw [trim_printing] at hprogram
  have hvirtual : s.inVirtualTree = true := inVirtualTree_of_isSimulated hsim
  have hprinted : (dispatchProgram "echo" (enclosed text) (printing text)).run s
      = done (.ok (.ok (text ++ "\n")), s) := by
    show StateT.run (if s.inVirtualTree = true then _ else _) s = _
    rw [if_pos hvirtual]
    unfold runVirtual simulatedBuiltin?
    rw [unquote_enclosed]
    rfl
  rw [route_eq, trim_printing, dispatch_other hprogram (by decide) (by decide) (by decide) hparse,
    StateT.run_bind, hprinted]
  rfl

/-- In the demo a write prints nothing, whether it succeeds or not. -/
theorem ensuresFrom_write_silent (hsim : s.store.isSimulated = true) {command : String}
    (hparse : parse? (Text.trim command) = some write) :
    EnsuresFrom (fun _ => True) (fun r _ => r.result.stdout = "") s (route command none) := by
  by_cases hin : Challenge.contains (s.placeOf write.path) = true
  · rw [ensuresFrom_of_run (run_refused hparse hin)]
    rfl
  · rw [ensuresFrom_write hparse hsim (Bool.eq_false_iff.mpr hin)]
    refine ensures_ask.mpr ⟨trivial, fun now => ensures_done.mpr ?_⟩
    have hsilent := @Store.stdout_createFile s.store (s.placeOf write.path) (written s write) now
    generalize s.store.createFile now (s.placeOf write.path) (written s write) = created
      at hsilent ⊢
    exact hsilent

/-- In the demo, a write to a name in a directory succeeds if there is no directory of that name, and
unless an upload hides it, the file reads as it was written. -/
theorem ensuresFrom_write_success (hsim : s.store.isSimulated = true) {command : String}
    (hparse : parse? (Text.trim command) = some write)
    (hout : Challenge.contains (s.placeOf write.path) = false)
    (hroom : Path.normalize "/" (s.placeOf write.path) ≠ "/" ∧
      s.store.tree.isDirectory (Path.parent (s.placeOf write.path)) = true ∧
      s.store.tree.isDirectory (s.placeOf write.path) = false) :
    EnsuresFrom (fun _ => True) (fun r s' => r.success = true ∧
      s'.store.content? (s.placeOf write.path) = some (((Keyed.find? s.store.uploads
        (s.placeOf write.path)).map Upload.content).getD (written s write)))
      s (route command none) := by
  rw [ensuresFrom_write hparse hsim hout]
  refine ensures_ask.mpr ⟨trivial, fun now => ensures_done.mpr ?_⟩
  have hsuccess :
      (s.store.createFile now (s.placeOf write.path) (written s write)).1.success = true :=
    Store.success_createFile_iff.mpr hroom
  have hcontent := Store.content?_createFile hsuccess
  generalize s.store.createFile now (s.placeOf write.path) (written s write) = created
    at hsuccess hcontent ⊢
  exact ⟨(FileResult.success_toCommand created.1).trans hsuccess, hcontent⟩

/-- The text has been printed as a line, and the files and the directory are as they were. -/
structure Printed (text : String) (s : Session) (r : ExecutionResult) (s' : Session) : Prop where
  success : r.success = true
  stdout : r.result.stdout = text ++ "\n"
  store : s'.store = s.store
  cwd : s'.cwd = s.cwd

theorem Printed.stdout_ne_empty {s' : Session} {r : ExecutionResult} (h : Printed text s r s') :
    r.result.stdout ≠ "" := by
  intro hempty
  have hlength := congrArg String.length (h.stdout.symm.trans hempty)
  have hline : "\n".length = 1 := rfl
  rw [String.length_append, hline, String.length_empty] at hlength
  omega

theorem not_printed_of_parse? (hsim : s.store.isSimulated = true)
    (hparse : parse? (Text.trim (printing text)) = some write) :
    ¬ EnsuresFrom (fun _ => True) (Printed text s) s (route (printing text) none) := by
  intro hprinted
  obtain ⟨r, s', hr, hsilent⟩ := hprinted.exists_both (ensuresFrom_write_silent hsim hparse)
  exact hr.stdout_ne_empty hsilent

/-- **A text between double quotes is printed exactly if it does not end like a write.** -/
theorem printed_iff (s : Session) (hsim : s.store.isSimulated = true) (text : String)
    (hline : '\n' ∉ text.toList) :
    EnsuresFrom (fun _ => True) (Printed text s) s (route (printing text) none) ↔
      ¬ EndsLikeWrite text := by
  rw [← isSome_parse?_printing_iff hline]
  constructor
  · intro hprinted hsome
    obtain ⟨write, hparse⟩ := Option.isSome_iff_exists.mp hsome
    rw [← trim_printing] at hparse
    exact not_printed_of_parse? hsim hparse hprinted
  · intro hnone
    have hparse : parse? (printing text) = none := Option.not_isSome_iff_eq_none.mp hnone
    rw [ensuresFrom_of_run (run_printing hsim hparse)]
    exact ⟨rfl, rfl, rfl, rfl⟩

/-- Behind each `>` of this text there are two words at least. -/
theorem printed_iff_arrows : demo.store.isSimulated = true ∧
    '\n' ∉ "1 >0 and 2 >> 1 hold".toList ∧
    EnsuresFrom (fun _ => True) (Printed "1 >0 and 2 >> 1 hold" demo) demo
      (route "echo \x221 >0 and 2 >> 1 hold\x22" none) := by
  have hsim : demo.store.isSimulated = true := by decide +kernel
  have hline : '\n' ∉ "1 >0 and 2 >> 1 hold".toList := by decide
  refine ⟨hsim, hline, (printed_iff demo hsim "1 >0 and 2 >> 1 hold" hline).mpr ?_⟩
  rw [← isSome_parse?_printing_iff hline]
  decide +kernel

/-- A text with an arrow before its last word is not printed. What is in front of the arrow is
written to a file whose name ends with the closing quote. -/
theorem arrow_not_printed : '\n' ∉ "a > b".toList ∧ '\x22' ∉ "a > b".toList ∧
    ¬ EnsuresFrom (fun _ => True) (Printed "a > b" demo) demo
      (route "echo \x22a > b\x22" none) ∧
    demo.store.content? "/home/user/b\x22" = none ∧
    EnsuresFrom (fun _ => True)
      (fun r s' => r.success = true ∧ s'.store.content? "/home/user/b\x22" = some "\x22a\n") demo
      (route "echo \x22a > b\x22" none) := by
  have hsim : demo.store.isSimulated = true := by decide +kernel
  have hparse : parse? (Text.trim "echo \x22a > b\x22")
      = some ⟨"\x22a", .overwrite, "b\x22"⟩ := by decide +kernel
  have hplace : demo.placeOf "b\x22" = "/home/user/b\x22" := by decide +kernel
  have hout : Challenge.contains (demo.placeOf "b\x22") = false := by decide +kernel
  have hnone : demo.store.content? "/home/user/b\x22" = none := by decide +kernel
  have hwritten : written demo ⟨"\x22a", .overwrite, "b\x22"⟩ = "\x22a\n" := by decide +kernel
  have hfree : Keyed.find? demo.store.uploads (demo.placeOf "b\x22") = none := by decide +kernel
  refine ⟨by decide, by decide, not_printed_of_parse? hsim hparse, hnone, ?_⟩
  have hsuccess := ensuresFrom_write_success hsim hparse hout (by decide +kernel)
  rw [hfree, hplace, hwritten] at hsuccess
  exact hsuccess

/-! ## Writing -/

/-- With no upload in the way, the text that a quoted one makes of its file is that one, alone or
behind what the tree has there. -/
theorem written_enclosed (hfree : Keyed.find? s.store.uploads (s.placeOf write.path) = none) :
    written s { write with text := enclosed write.text } =
      kept write.operator ((s.store.tree.contentOf (s.placeOf write.path)).toOption.getD "") ++
        write.text ++ "\n" := by
  unfold written Store.content?
  rw [hfree, unquote_enclosed]

/-- In the demo a write that succeeds is what its file shows, if no upload is in the way, and every
other file has the text that it had. -/
theorem shown_of_createFile (hsim : s.store.isSimulated = true) {path content : String}
    {now : Timestamp} (hword : Text.IsWord path.toList)
    (hout : Challenge.contains (s.placeOf path) = false)
    (hfree : Keyed.find? s.store.uploads (s.placeOf path) = none) {created : FileResult × Store}
    (hcreated : s.store.createFile now (s.placeOf path) content = created)
    (hsuccess : created.1.success = true) :
    (route ("cat " ++ path) none).run { s with store := created.2 }
        = done (⟨.ok content, s.cwd, true⟩, { s with store := created.2 }) ∧
      ∀ other, Path.normalize "/" other ≠ Path.normalize "/" (s.placeOf path) →
        created.2.tree.contentOf other = s.store.tree.contentOf other := by
  rw [← hcreated] at hsuccess
  have htree := Store.tree_createFile hsuccess
  have hmode := (Store.createFile_keeps s.store now (s.placeOf path) content).1
  have hread := (Store.read_createFile_iff path hsuccess).mpr (by rw [hfree]; exact nofun)
  rw [hcreated] at htree hmode hread
  refine ⟨?_, fun other hne =>
    Tree.contentOf_createFile_of_ne htree (mt Path.normalize_eq_iff.mpr hne)⟩
  have hsim' : created.2.isSimulated = true := by
    rw [Store.isSimulated, hmode]
    exact hsim
  calc (route ("cat " ++ path) none).run { s with store := created.2 }
      = done (⟨(created.2.read path (s.placeOf path)).toCommand, s.cwd, true⟩,
          { s with store := created.2 }) :=
        run_route_cat (s := { s with store := created.2 }) hsim' hword hout
    _ = done (⟨.ok content, s.cwd, true⟩, { s with store := created.2 }) := by
        rw [hread]
        rfl

/-- **A text that was written between double quotes is what its file shows**, whatever the text and
however the file is named, as long as no upload is in the way: alone after `>`, behind what was there
after `>>`. Every other file has the text that it had. -/
theorem written_is_shown (s : Session) (hsim : s.store.isSimulated = true)
    (write : Redirect.Write) (hline : '\n' ∉ write.text.toList)
    (hword : Text.IsWord write.path.toList)
    (hfree : Keyed.find? s.store.uploads (s.placeOf write.path) = none) :
    EnsuresFrom (fun _ => True) (fun r s' => r.success = true →
      (route ("cat " ++ write.path) none).run s' = done (⟨.ok
        (kept write.operator ((s.store.tree.contentOf (s.placeOf write.path)).toOption.getD "") ++
          write.text ++ "\n"), s.cwd, true⟩, s') ∧
      ∀ other, Path.normalize "/" other ≠ Path.normalize "/" (s.placeOf write.path) →
        s'.store.tree.contentOf other = s.store.tree.contentOf other) s
      (route write.line none) := by
  have hparse : parse? (Text.trim write.line)
      = some { write with text := enclosed write.text } := by
    rw [trim_line hword]
    exact parse?_line hline hword
  by_cases hin : Challenge.contains (s.placeOf write.path) = true
  · -- A file of the challenge is not written at all.
    rw [ensuresFrom_of_run (run_refused hparse hin)]
    exact nofun
  · have hout : Challenge.contains (s.placeOf write.path) = false := Bool.eq_false_iff.mpr hin
    rw [ensuresFrom_write hparse hsim hout, written_enclosed hfree]
    refine ensures_ask.mpr ⟨trivial, fun now => ensures_done.mpr ?_⟩
    generalize hcreated : s.store.createFile now (s.placeOf write.path) _ = created
    intro hsuccess
    refine shown_of_createFile hsim hword hout hfree hcreated ?_
    rw [← FileResult.success_toCommand]
    exact hsuccess

/-- Quotes and an arrow in a text go to the end of the notes like any other text. -/
theorem written_is_shown_notes :
    EnsuresFrom (fun _ => True) (fun r s' => r.success = true ∧
      (route "cat documents/notes.md" none).run s' = done (⟨.ok
        (Seed.notes ++ "say \x22hi\x22 > all\n"), "/home/user", true⟩, s') ∧
      s'.store.tree.contentOf "/home/user/welcome.txt"
        = demo.store.tree.contentOf "/home/user/welcome.txt") demo
      (route "echo \x22say \x22hi\x22 > all\x22 >> documents/notes.md" none) := by
  have hsim : demo.store.isSimulated = true := by decide +kernel
  have hline : '\n' ∉ "say \x22hi\x22 > all".toList := by decide
  have hword : Text.IsWord "documents/notes.md".toList := by decide
  have hfree : Keyed.find? demo.store.uploads (demo.placeOf "documents/notes.md") = none := by
    decide +kernel
  have hout : Challenge.contains (demo.placeOf "documents/notes.md") = false := by decide +kernel
  have htyped : Write.line ⟨"say \x22hi\x22 > all", .append, "documents/notes.md"⟩
      = "echo \x22say \x22hi\x22 > all\x22 >> documents/notes.md" := by decide +kernel
  have hnotes : (demo.store.tree.contentOf (demo.placeOf "documents/notes.md")).toOption
      = some Seed.notes := by decide +kernel
  have hshown := written_is_shown demo hsim
    ⟨"say \x22hi\x22 > all", .append, "documents/notes.md"⟩ hline hword hfree
  rw [htyped, hnotes, String.append_assoc] at hshown
  have hparse : parse? (Text.trim "echo \x22say \x22hi\x22 > all\x22 >> documents/notes.md")
      = some ⟨"\x22say \x22hi\x22 > all\x22", .append, "documents/notes.md"⟩ := by decide +kernel
  have hsuccess := ensuresFrom_write_success hsim hparse hout (by decide +kernel)
  refine (hsuccess.and hshown).mono (fun _ hq => hq) ?_
  rintro r s' ⟨⟨hr, -⟩, hs'⟩
  obtain ⟨hcat, hother⟩ := hs' hr
  exact ⟨hr, hcat, hother "/home/user/welcome.txt" (by decide +kernel)⟩

end Router

end PlainTerminal
