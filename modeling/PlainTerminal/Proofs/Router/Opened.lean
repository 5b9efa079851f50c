import Mathlib.Data.List.DropRight
import PlainTerminal.Proofs.Resolution
import PlainTerminal.Proofs.Router.FileLines
import PlainTerminal.Proofs.Router.Operands

/-!
# The file that is checked and the file that is opened

A command on one file is looked at twice. Its operand is resolved to a place, to see whether that
lies in the challenge; then the operand itself is handed to the real shell in double quotes. There
it is a path as it stands: nothing in quotes is replaced, so a `~` is the name of a file and not the
home directory. What is opened is the operand as seen from the working directory.

The two agree on every operand that names no home directory. On the others they start from different
directories, the home directory and one with the name `~`, and go the same way from there. So they
agree exactly if the way leads up so far that nothing is left of what sets the two apart.
-/

namespace PlainTerminal

open Dialogue Session

/-! ## A path as it stands -/

namespace Path

/-- What a path says behind the name of the home directory, if it begins with that. -/
def behindHome? (path : String) : Option String :=
  if path = "~" then some ""
  else match path.toList with
    | '~' :: '/' :: rest => some (String.ofList rest)
    | _ => none

theorem behindHome?_eq_some {path rest : String} (h : behindHome? path = some rest) :
    path = "~" ∧ rest = "" ∨ path.toList = '~' :: '/' :: rest.toList := by
  unfold behindHome? at h
  split at h
  · rename_i hself
    exact Or.inl ⟨hself, (Option.some.inj h).symm⟩
  · split at h
    · rename_i hpath
      obtain rfl := Option.some.inj h
      rw [String.toList_ofList]
      exact Or.inr hpath
    · cases h

theorem not_fromHome_of_behindHome? {path : String} (h : behindHome? path = none) :
    path ≠ "~" ∧ ¬ FromHome path := by
  unfold behindHome? at h
  split at h
  · cases h
  · rename_i hself
    refine ⟨hself, ?_⟩
    rintro ⟨rest, hrest⟩
    rw [hrest] at h
    cases h

/-- The segments that a path itself adds to those it is seen from. -/
def ownSegments (path : String) : List String := ((pieces path).foldl push []).reverse

/-- Behind other segments, a path takes the last of them away that it climbs, and adds its own. -/
theorem reverse_foldl_push (path : String) (above : List String) :
    ((pieces path).foldl push above).reverse
      = above.reverse.rdrop (climb 0 (pieces path)) ++ ownSegments path := by
  have happend := foldl_push_append (pieces path) [] above
  rw [List.nil_append, List.length_nil] at happend
  rw [happend, List.reverse_append, List.reverse_drop, ownSegments, List.rdrop,
    List.length_reverse]

theorem segments_of_isAbsolute {base : String} (h : isAbsolute base = true) :
    segments "/" base = ((pieces base).foldl push []).reverse := by
  rw [segments_eq, if_pos h]

/-- A tilde is a name like any other to a path as it stands. -/
theorem foldl_push_of_behindHome? {path rest : String} (h : behindHome? path = some rest)
    (above : List String) :
    (pieces path).foldl push above = (pieces rest).foldl push ("~" :: above) := by
  have htilde : pieces "~" = ["~"] := by decide +kernel
  rcases behindHome?_eq_some h with ⟨rfl, rfl⟩ | hpath
  · have hempty : pieces "" = [""] := by decide +kernel
    rw [htilde, hempty]
    rfl
  · have hpieces : pieces path = "~" :: pieces rest := by
      rw [← String.ofList_toList (s := path), hpath, ← String.ofList_toList (s := rest),
        String.toList_ofList]
      have hcut := pieces_append ['~'] rest.toList
      rw [show String.ofList ['~'] = "~" from rfl, htilde] at hcut
      exact hcut
    rw [hpieces]
    rfl

/-- The way from the home directory and the way from a directory of the name `~` come to the same
place: nothing is left of what is different in their names. -/
def ReadAlike (cwd home path : String) : Prop :=
  ∀ rest ∈ behindHome? path,
    (segments "/" cwd ++ ["~"]).rdrop (climb 0 (pieces rest))
      = (if isAbsolute rest then [] else segments "/" home).rdrop (climb 0 (pieces rest))

instance (cwd home path : String) : Decidable (ReadAlike cwd home path) :=
  inferInstanceAs (Decidable (∀ rest ∈ behindHome? path, _))

/-- A path that names no home directory is read in one way only. -/
theorem readAlike_of_not_fromHome {path : String} (hself : path ≠ "~") (h : ¬ FromHome path)
    (cwd home : String) : ReadAlike cwd home path := by
  intro rest hrest
  rcases behindHome?_eq_some hrest with ⟨heq, -⟩ | hpath
  · exact absurd heq hself
  · exact absurd ⟨_, hpath⟩ h

end Path

namespace Store

theorem resolvePath_of_behindHome? {home path rest : String} (hhome : Path.IsCanonical home)
    (h : Path.behindHome? path = some rest) (cwd : String) :
    resolvePath path cwd home = Path.normalize home rest := by
  rcases Path.behindHome?_eq_some h with ⟨rfl, rfl⟩ | hpath
  · rw [Path.normalize, Path.segments_empty, hhome.render_segments, resolvePath,
      if_neg (by decide), if_pos rfl]
  · rw [resolvePath_of_fromHome hpath, String.ofList_toList]

theorem resolvePath_of_not_behindHome? {path : String} (h : Path.behindHome? path = none)
    (cwd home : String) : resolvePath path cwd home = Path.normalize cwd path := by
  obtain ⟨hself, hfrom⟩ := Path.not_fromHome_of_behindHome? h
  exact resolvePath_of_not_fromHome hself hfrom

/-- **A path as it stands is the place that it is resolved to** exactly if the two ways come to the
same place. -/
theorem normalize_eq_resolvePath_iff {cwd home : String} (hcwd : Path.IsCanonical cwd)
    (hhome : Path.IsCanonical home) (path : String) :
    Path.normalize cwd path = resolvePath path cwd home ↔ Path.ReadAlike cwd home path := by
  cases hbehind : Path.behindHome? path with
  | none =>
      obtain ⟨hself, hfrom⟩ := Path.not_fromHome_of_behindHome? hbehind
      exact iff_of_true (resolvePath_of_not_behindHome? hbehind cwd home).symm
        (Path.readAlike_of_not_fromHome hself hfrom cwd home)
  | some rest =>
      have hrelative : ¬ Path.isAbsolute path = true := by
        rcases Path.behindHome?_eq_some hbehind with ⟨rfl, -⟩ | hpath
        · decide
        · rw [Path.isAbsolute, hpath, List.head?_cons]
          decide
      -- The same segments are added behind the two directories, as far as these are left.
      have hstands : Path.segments cwd path = (Path.segments "/" cwd ++ ["~"]).rdrop
          (Path.climb 0 (Path.pieces rest)) ++ Path.ownSegments rest := by
        rw [Path.segments_eq, if_neg hrelative, Path.foldl_push_of_behindHome? hbehind,
          Path.reverse_foldl_push, List.reverse_cons,
          Path.segments_of_isAbsolute hcwd.isAbsolute]
      have hresolved : Path.segments home rest
          = (if Path.isAbsolute rest then [] else Path.segments "/" home).rdrop
            (Path.climb 0 (Path.pieces rest)) ++ Path.ownSegments rest := by
        rw [Path.segments_eq, Path.reverse_foldl_push]
        split
        · rfl
        · rw [Path.segments_of_isAbsolute hhome.isAbsolute]
      have hsegments : Path.normalize cwd path = Path.normalize home rest ↔
          Path.segments cwd path = Path.segments home rest := by
        refine ⟨Path.render_injective ?_ ?_, congrArg Path.render⟩
        · exact fun _ => Path.isSegment_of_mem_segments
        · exact fun _ => Path.isSegment_of_mem_segments
      rw [resolvePath_of_behindHome? hhome hbehind, hsegments, hstands, hresolved,
        List.append_cancel_right_eq, Path.ReadAlike, hbehind]
      simp only [Option.mem_def, Option.some.injEq, forall_eq']

end Store

/-! ## What a line opens -/

namespace Router

/-- The file that a line names for the shell, with its quotes undone: the operand of a `cat`, or
where the output of an `echo` goes. -/
def namedFile? (line : List Char) : Option String :=
  match line with
  | 'c' :: 'a' :: 't' :: ' ' :: operand =>
    match Quoted.readQuoted operand with
    | some (file, []) => some (String.ofList file)
    | _ => none
  | 'e' :: 'c' :: 'h' :: 'o' :: ' ' :: operand =>
    match Quoted.readQuoted operand with
    | some (_, ' ' :: '>' :: ' ' :: target) =>
      match Quoted.readQuoted target with
      | some (file, []) => some (String.ofList file)
      | _ => none
    | _ => none
  | _ => none

theorem namedFile?_read (path : String) :
    namedFile? (FileOperation.read path).line.toList = some path := by
  have hline : (FileOperation.read path).line.toList
      = 'c' :: 'a' :: 't' :: ' ' :: (Quoted.quoteChars path.toList ++ []) := by
    simp [FileOperation.line, Quoted.quote]
  rw [hline, namedFile?, Quoted.readQuoted_quoteChars]
  exact congrArg some String.ofList_toList

theorem namedFile?_write (path content : String) :
    namedFile? (FileOperation.write path content).line.toList = some path := by
  have hline : (FileOperation.write path content).line.toList
      = 'e' :: 'c' :: 'h' :: 'o' :: ' ' :: (Quoted.quoteChars content.toList
        ++ ' ' :: '>' :: ' ' :: (Quoted.quoteChars path.toList ++ [])) := by
    simp [FileOperation.line, Quoted.quote]
  rw [hline, namedFile?]
  simp only [Quoted.readQuoted_quoteChars, String.ofList_toList]

/-- A call opens the place: the file that it names, as it stands, seen from where it is made. -/
def Opens (call : ShellCall) (place : String) : Prop :=
  ∃ file, namedFile? call.command.toList = some file ∧ Path.normalize call.directory file = place

/-- The action runs something in the real shell, and whatever it runs there opens the place. -/
structure OpensOnly {α : Type} (place : String) (s : Session) (action : Action α) : Prop where
  runs : ReachesFrom (fun q => q.isRun = true) s action
  opens : EnsuresFrom (fun q => ∀ call, q = .runCommand call → Opens call place) (fun _ _ => True) s
    action

/-- The command reads one file, or it writes one over. -/
def IsOnOneFile (command path : String) : Prop :=
  (∃ rest, Text.splitAtBlank command = ("cat", rest) ∧ Text.words rest = [path]) ∨
    ∃ text, Redirect.parse? command = some ⟨text, .overwrite, path⟩

variable {s : Session}

/-- Reading the file runs nothing but a line that names it as it was typed. -/
theorem ensures_catOne_named {path : String}
    (hout : Challenge.contains (s.placeOf path) = false) :
    EnsuresFrom (fun q => ∀ call, q = .runCommand call →
      namedFile? call.command.toList = some path ∧ call.directory = s.cwd) (fun _ _ => True) s
      (catOne path) := by
  unfold catOne
  rw [ensuresFrom_bind, ensuresFrom_get, if_neg (Bool.eq_false_iff.mp hout), ensuresFrom_bind]
  have hread := (FileOperation.read path).ensures_line s
  refine EnsuresFrom.mono hread (fun q hq call hcall => ?_)
    fun _ _ _ => ensuresFrom_pure.mpr trivial
  obtain ⟨hline, hdirectory⟩ := hq call hcall
  rw [hline]
  exact ⟨namedFile?_read path, hdirectory⟩

/-- So does writing it over. -/
theorem ensures_redirect_named (hlocal : s.store.isSimulated = false) {path : String}
    (hout : Challenge.contains (s.placeOf path) = false) (command text : String) :
    EnsuresFrom (fun q => ∀ call, q = .runCommand call →
      namedFile? call.command.toList = some path ∧ call.directory = s.cwd) (fun _ _ => True) s
      (redirect command ⟨text, .overwrite, path⟩) := by
  unfold redirect
  rw [ensuresFrom_bind, ensuresFrom_get, challengeRefusal_eq_none_iff.mpr hout]
  dsimp only
  rw [if_neg (by rw [hlocal]; decide), ensuresFrom_bind]
  have hwrite := (FileOperation.write path (Redirect.unquote text)).ensures_line s
  refine EnsuresFrom.mono hwrite (fun q hq call hcall => ?_)
    fun _ _ _ => ensuresFrom_pure.mpr trivial
  obtain ⟨hline, hdirectory⟩ := hq call hcall
  rw [hline]
  exact ⟨namedFile?_write path _, hdirectory⟩

/-- What the command runs names the file as it was typed. -/
theorem ensures_dispatch_named (hlocal : s.store.isSimulated = false) {command path : String}
    (hfile : IsOnOneFile command path) (hout : Challenge.contains (s.placeOf path) = false) :
    EnsuresFrom (fun q => ∀ call, q = .runCommand call →
      namedFile? call.command.toList = some path ∧ call.directory = s.cwd) (fun _ _ => True) s
      (dispatch command) := by
  rcases hfile with ⟨rest, hsplit, hwords⟩ | ⟨text, hparse⟩
  · rw [dispatch_cat hsplit, ensuresFrom_bind]
    unfold cat
    rw [ensuresFrom_bind, ensuresFrom_get, hwords]
    exact EnsuresFrom.mono (ensures_catOne_named hout) (fun _ hq => hq)
      fun _ _ _ => ensuresFrom_pure.mpr trivial
  · rw [dispatch_redirect hparse, ensuresFrom_bind]
    exact EnsuresFrom.mono (ensures_redirect_named hlocal hout command text) (fun _ hq => hq)
      fun _ _ _ => ensuresFrom_pure.mpr trivial

/-- What is refused as the one operand of a command is refused in the command. -/
theorem denied_of_operand {command program rest path : String}
    (hsplit : Text.splitAtBlank command = (program, rest)) (hwords : Text.words rest = [path])
    (h : Policy.Denied path.toList) : Policy.Denied command.toList := by
  obtain ⟨word, hword, rfl⟩ := List.map_eq_singleton_iff.mp hwords
  obtain ⟨a, b, hrest, -, -⟩ := Text.wordsOf_eq_singleton hword
  rw [String.toList_ofList] at h
  have hdenied : Policy.Denied rest.toList := h.mono ⟨a, b, hrest.symm⟩
  obtain ⟨-, ⟨-, hnone⟩ | ⟨blank, raw, -, hcommand, htrim⟩⟩ := Text.splitAtBlank_cases command
  · rw [hsplit] at hnone
    obtain rfl : rest = "" := hnone
    exact absurd hdenied Policy.not_denied_nil
  · rw [hsplit] at hcommand htrim
    obtain rfl : rest = Text.trim (String.ofList raw) := htrim
    rw [Policy.denied_trim_iff, String.toList_ofList] at hdenied
    rw [hcommand]
    exact hdenied.mono ⟨program.toList ++ [blank], [], by simp⟩

/-- The file and the text of a command that is not refused are not refused either, so it runs
something. -/
theorem reaches_dispatch_oneFile (hlocal : s.store.isSimulated = false) {command path : String}
    (hfile : IsOnOneFile command path) (hout : Challenge.contains (s.placeOf path) = false)
    (hpasses : Policy.violation? command = none) :
    ReachesFrom (fun q => q.isRun = true) s (dispatch command) := by
  rw [Policy.violation?_eq_none_iff] at hpasses
  rcases hfile with ⟨rest, hsplit, hwords⟩ | ⟨text, hparse⟩
  · have hpath : Policy.violation? path = none := by
      rw [Policy.violation?_eq_none_iff]
      exact fun h => hpasses (denied_of_operand hsplit hwords h)
    rw [dispatch_cat hsplit]
    refine ReachesFrom.bind ?_
    unfold cat
    refine ReachesFrom.get_bind ?_
    rw [hwords]
    exact (runs_catOne hlocal path).reached ⟨hout, hpath⟩
  · obtain ⟨htext, hpath⟩ := Redirect.infix_of_parse? hparse
    have hparts : Policy.violation? (Redirect.unquote text) = none ∧
        Policy.violation? path = none := by
      rw [Policy.violation?_eq_none_iff, Policy.violation?_eq_none_iff]
      refine ⟨fun h => hpasses (h.mono ?_), fun h => hpasses (h.mono hpath)⟩
      exact (Redirect.infix_unquote text).trans htext
    rw [dispatch_redirect hparse]
    exact ((runs_redirect hlocal hparse).reached ⟨hout, hparts⟩).bind

/-- An action that runs something, and nothing that does not name the file as it was typed, opens a
place exactly if that is the file as it stands. -/
theorem opensOnly_iff_of_named {α : Type} {action : Action α} {path place directory : String}
    (hruns : ReachesFrom (fun q => q.isRun = true) s action)
    (hnamed : EnsuresFrom (fun q => ∀ call, q = .runCommand call →
      namedFile? call.command.toList = some path ∧ call.directory = directory) (fun _ _ => True) s
      action) : OpensOnly place s action ↔ Path.normalize directory path = place := by
  constructor
  · intro h
    by_contra hne
    -- Something is run, it names the file and opens the place: no question is like that.
    have hopens : ReachesFrom (fun q => q.isRun = true ∧ ∀ call, q = .runCommand call →
        Opens call place) s action := hruns.of_ensures h.opens fun q hq hrun => ⟨hrun, hq⟩
    have hnothing : ReachesFrom (fun _ => False) s action := by
      refine hopens.of_ensures hnamed ?_
      rintro q hq ⟨hrun, hopens⟩
      cases q with
      | runCommand call =>
          obtain ⟨hfile, hdirectory⟩ := hq call rfl
          obtain ⟨file, hfile', hplace⟩ := hopens call rfl
          obtain rfl : path = file := Option.some.inj (hfile.symm.trans hfile')
          rw [hdirectory] at hplace
          exact hne hplace
      | _ => cases hrun
    have hany : EnsuresFrom (fun _ => ¬ False) (fun _ _ => True) s action :=
      (ensuresFrom_true action s).mono (fun _ _ => not_false) fun _ _ h => h
    exact hnothing.not_avoids hany.avoids
  · rintro rfl
    refine ⟨hruns, hnamed.mono (fun q hq call hcall => ?_) fun _ _ h => h⟩
    obtain ⟨hfile, hdirectory⟩ := hq call hcall
    exact ⟨path, hfile, by rw [hdirectory]⟩

theorem store_entering (s : Session) (workingDirectory : Option String) :
    (entering s workingDirectory).store = s.store := by
  obtain ⟨executor, hentering⟩ := exists_entering s workingDirectory
  rw [hentering]

/-- What a command on one file opens is the file as it stands, seen from where the command is
given. -/
theorem opensOnly_route_iff {command path : String} {workingDirectory : Option String}
    (hlocal : s.store.isSimulated = false) (hfile : IsOnOneFile (Text.trim command) path)
    (hout : Challenge.contains ((entering s workingDirectory).placeOf path) = false)
    (hpasses : Policy.violation? command = none) (place : String) :
    OpensOnly place s (route command workingDirectory) ↔
      Path.normalize (entering s workingDirectory).cwd path = place := by
  have hlocal' : (entering s workingDirectory).store.isSimulated = false := by
    rw [store_entering, hlocal]
  have htrimmed : Policy.violation? (Text.trim command) = none := by
    rw [Policy.violation?_eq_none_iff] at hpasses ⊢
    rwa [Policy.denied_trim_iff]
  refine opensOnly_iff_of_named ?_ ?_
  · exact reachesFrom_route (reaches_dispatch_oneFile hlocal' hfile hout htrimmed)
  · exact ensuresFrom_route_entering.mpr (ensures_dispatch_named hlocal' hfile hout)

/-- **The file that is checked is the file that is opened** exactly if its path is read alike as it
stands and as it was resolved. -/
theorem opensOnly_placeOf_iff (s : Session) (command path : String)
    (workingDirectory : Option String) (hlocal : s.store.isSimulated = false)
    (hcwd : Path.IsCanonical (entering s workingDirectory).cwd)
    (hhome : Path.IsCanonical (entering s workingDirectory).home)
    (hfile : IsOnOneFile (Text.trim command) path)
    (hout : Challenge.contains ((entering s workingDirectory).placeOf path) = false)
    (hpasses : Policy.violation? command = none) :
    OpensOnly ((entering s workingDirectory).placeOf path) s (route command workingDirectory) ↔
      Path.ReadAlike (entering s workingDirectory).cwd (entering s workingDirectory).home path := by
  rw [opensOnly_route_iff hlocal hfile hout hpasses]
  exact Store.normalize_eq_resolvePath_iff hcwd hhome path

/-- The way out of the home directory goes up so far that a tilde makes no difference. -/
theorem opensOnly_placeOf_climbing :
    ownMachine.store.isSimulated = false ∧ Path.IsCanonical (entering ownMachine none).cwd ∧
      Path.IsCanonical (entering ownMachine none).home ∧
      IsOnOneFile (Text.trim "cat ~/../../etc/hosts") "~/../../etc/hosts" ∧
      Challenge.contains ((entering ownMachine none).placeOf "~/../../etc/hosts") = false ∧
      Policy.violation? "cat ~/../../etc/hosts" = none ∧
      OpensOnly ((entering ownMachine none).placeOf "~/../../etc/hosts") ownMachine
        (route "cat ~/../../etc/hosts" none) := by
  have hlocal : ownMachine.store.isSimulated = false := rfl
  have hcwd : Path.IsCanonical (entering ownMachine none).cwd :=
    ⟨["work"], by unfold Path.IsSegment; decide +kernel, by decide +kernel⟩
  have hhome : Path.IsCanonical (entering ownMachine none).home :=
    ⟨["home", "user"], by unfold Path.IsSegment; decide +kernel, by decide +kernel⟩
  have hfile : IsOnOneFile (Text.trim "cat ~/../../etc/hosts") "~/../../etc/hosts" :=
    Or.inl ⟨"~/../../etc/hosts", by decide +kernel, by decide +kernel⟩
  have hout : Challenge.contains ((entering ownMachine none).placeOf "~/../../etc/hosts")
      = false := by
    decide +kernel
  have hpasses : Policy.violation? "cat ~/../../etc/hosts" = none := by decide +kernel
  exact ⟨hlocal, hcwd, hhome, hfile, hout, hpasses,
    (opensOnly_placeOf_iff ownMachine _ _ none hlocal hcwd hhome hfile hout hpasses).mpr
      (by decide +kernel)⟩

/-- A file of the home directory is checked, and one of a directory with the name `~` is opened. -/
theorem not_opensOnly_placeOf_home :
    ownMachine.store.isSimulated = false ∧
      ownMachine.placeOf "~/notes.txt" = "/home/user/notes.txt" ∧
      Challenge.contains "/home/user/notes.txt" = false ∧
      ¬ OpensOnly "/home/user/notes.txt" ownMachine (route "cat ~/notes.txt" none) := by
  have hlocal : ownMachine.store.isSimulated = false := rfl
  have hplace : ownMachine.placeOf "~/notes.txt" = "/home/user/notes.txt" := by decide +kernel
  have hout : Challenge.contains "/home/user/notes.txt" = false := by decide +kernel
  have hfile : IsOnOneFile (Text.trim "cat ~/notes.txt") "~/notes.txt" :=
    Or.inl ⟨"~/notes.txt", by decide +kernel, by decide +kernel⟩
  have hpasses : Policy.violation? "cat ~/notes.txt" = none := by decide +kernel
  refine ⟨hlocal, hplace, hout, ?_⟩
  have hout' : Challenge.contains ((entering ownMachine none).placeOf "~/notes.txt") = false := by
    rw [entering_none, hplace, hout]
  rw [opensOnly_route_iff hlocal hfile hout' hpasses]
  decide +kernel

end Router

end PlainTerminal
