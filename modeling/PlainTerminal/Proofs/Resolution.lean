import PlainTerminal.Proofs.Path
import PlainTerminal.Session

/-!
# Two readings of a typed path

A typed path is read twice. The store reads it to find a place in its tree, and the places of the
challenge are recognised by that reading; the executor reads it as `cd` does in the real shell. Both
let `~` at the front stand for the home directory, and both come to the same place, but for paths
that begin with `~//`. The executor writes the home directory in place of the `~`, so the second
slash counts for nothing. The store reads what is behind `~/` from the home directory, and a path
that begins with a slash is read from the root.

So the executor comes to the store's place below some of the first segments of the home directory,
namely those that the path does not climb out of.

The prompt shows the working directory with the home directory as `~`, and the executor's reading is
the one that undoes this: what the prompt shows leads back to where one is.

Inside the challenge a table of directory changes comes before both. That is no third reading: an
entry is a name with perhaps some slashes behind it, and leads where the store reads that name.
-/

namespace PlainTerminal

/-- A path that begins with a name for the home directory. -/
def Path.FromHome (path : String) : Prop := ∃ rest, path.toList = '~' :: '/' :: rest

namespace Executor

theorem expandHome_of_fromHome {home path : String} {rest : List Char}
    (h : path.toList = '~' :: '/' :: rest) :
    expandHome home path = Path.withoutEndSlashes home ++ "/" ++ String.ofList rest := by
  unfold expandHome
  split
  · rename_i hself
    rw [hself] at h
    cases h
  · split
    · rename_i hrest
      rw [h] at hrest
      cases hrest
      rfl
    · exact absurd h (‹∀ rest, path.toList = '~' :: '/' :: rest → False› rest)

theorem expandHome_of_not_fromHome {home path : String} (hself : path ≠ "~")
    (h : ¬ Path.FromHome path) : expandHome home path = path := by
  unfold expandHome
  rw [if_neg hself]
  split
  · exact absurd ⟨_, ‹_›⟩ h
  · rfl

/-- An absolute path has no `~` at its front. -/
theorem expandHome_of_isAbsolute {home path : String} (h : Path.isAbsolute path = true) :
    expandHome home path = path := by
  rw [Path.isAbsolute, beq_iff_eq] at h
  refine expandHome_of_not_fromHome ?_ ?_
  · rintro rfl
    exact absurd h (by decide)
  · rintro ⟨rest, hrest⟩
    rw [hrest, List.head?_cons] at h
    exact absurd h (by decide)

/-- A canonical path means itself wherever it is typed. -/
theorem resolveFrom_of_isCanonical {path : String} (h : Path.IsCanonical path)
    (base home : String) : resolveFrom base home path = path := by
  rw [resolveFrom, expandHome_of_isAbsolute h.isAbsolute]
  exact h.render_segments base

end Executor

namespace Store

theorem resolvePath_of_fromHome {path cwd home : String} {rest : List Char}
    (h : path.toList = '~' :: '/' :: rest) :
    resolvePath path cwd home = Path.normalize home (String.ofList rest) := by
  have hne : ∀ text : String, text.toList.length ≤ 1 → path ≠ text := by
    rintro _ hlength rfl
    rw [h] at hlength
    simp at hlength
  unfold resolvePath
  rw [if_neg (not_or.mpr ⟨hne "" (by decide), hne "." (by decide)⟩), if_neg (hne "~" (by decide))]
  split
  · rename_i hrest
    rw [h] at hrest
    cases hrest
    rfl
  · exact absurd h (‹∀ rest, path.toList = '~' :: '/' :: rest → False› rest)

/-- A path that does not begin with a name for the home directory is read from where one stands. -/
theorem resolvePath_of_not_fromHome {path cwd home : String} (hself : path ≠ "~")
    (h : ¬ Path.FromHome path) : resolvePath path cwd home = Path.normalize cwd path := by
  unfold resolvePath
  by_cases hstay : path = "" ∨ path = "."
  · rw [if_pos hstay]
    rcases hstay with rfl | rfl
    · rw [Path.normalize, Path.normalize, Path.segments_empty]
    · rw [Path.normalize, Path.normalize, Path.segments_dot]
  · rw [if_neg hstay, if_neg hself]
    split
    · exact absurd ⟨_, ‹_›⟩ h
    · rfl

theorem resolvePath_of_head? {path : String} {c : Char} (h : path.toList.head? = some c)
    (hc : c ≠ '~') (cwd home : String) : resolvePath path cwd home = Path.normalize cwd path := by
  refine resolvePath_of_not_fromHome ?_ ?_
  · rintro rfl
    exact hc (Option.some.inj h).symm
  · rintro ⟨rest, hrest⟩
    rw [hrest] at h
    exact hc (Option.some.inj h).symm

/-- What a typed path resolves to is canonical. -/
theorem isCanonical_resolvePath {home : String} (h : Path.IsCanonical home) (path cwd : String) :
    Path.IsCanonical (resolvePath path cwd home) := by
  unfold resolvePath
  split
  · exact Path.isCanonical_normalize _ _
  · split
    · exact h
    · split
      · exact Path.isCanonical_normalize _ _
      · exact Path.isCanonical_normalize _ _

end Store

namespace Executor

/-- How many segments of the home directory the executor keeps in front of the place that a path
means to the store. -/
def keptHome (home path : String) : Nat :=
  match path.toList with
  | '~' :: '/' :: rest => Path.kept home (String.ofList rest)
  | _ => 0

theorem keptHome_of_fromHome {home path : String} {rest : List Char}
    (h : path.toList = '~' :: '/' :: rest) :
    keptHome home path = Path.kept home (String.ofList rest) := by
  rw [keptHome, h]
  rfl

theorem keptHome_of_not_fromHome {home path : String} (h : ¬ Path.FromHome path) :
    keptHome home path = 0 := by
  unfold keptHome
  split
  · exact absurd ⟨_, ‹_›⟩ h
  · rfl

/-- **The two readings of a path**: the executor comes to the store's place below the segments of
the home directory that are kept. -/
theorem segments_resolveFrom {home : String} (hhome : Path.IsCanonical home)
    (cwd path : String) :
    Path.segments "/" (resolveFrom cwd home path)
      = (Path.segments "/" home).take (keptHome home path)
        ++ Path.segments "/" (Store.resolvePath path cwd home) := by
  unfold resolveFrom
  rw [Path.segments_normalize]
  by_cases hfrom : Path.FromHome path
  · obtain ⟨rest, hrest⟩ := hfrom
    rw [expandHome_of_fromHome hrest, Store.resolvePath_of_fromHome hrest,
      keptHome_of_fromHome hrest, Path.segments_normalize]
    exact Path.segments_join hhome.isAbsolute cwd (String.ofList rest)
  · rw [keptHome_of_not_fromHome hfrom, List.take_zero, List.nil_append]
    by_cases hself : path = "~"
    · -- the home directory is canonical, so to resolve it again changes nothing
      subst hself
      have hplace : Store.resolvePath "~" cwd home = home := by
        rw [Store.resolvePath, if_neg (by decide), if_pos rfl]
      have hexpand : expandHome home "~" = home := if_pos rfl
      obtain ⟨segs, hsegs, rfl⟩ := hhome
      rw [hplace, hexpand, Path.segments_render cwd hsegs, Path.segments_render "/" hsegs]
    · rw [expandHome_of_not_fromHome hself hfrom, Store.resolvePath_of_not_fromHome hself hfrom,
        Path.segments_normalize]

theorem keptHome_le (home path : String) :
    keptHome home path ≤ (Path.segments "/" home).length := by
  unfold keptHome Path.kept
  split
  · split
    · exact Nat.sub_le _ _
    · exact Nat.zero_le _
  · exact Nat.zero_le _

/-- **Store and executor mean the same place by a path exactly if no segment of the home directory
is kept**: unless the path begins with `~//` and does not climb out of the home directory again. -/
theorem resolve_eq_resolvePath_iff (e : Executor) (hhome : Path.IsCanonical e.homeDirectory)
    (path : String) :
    e.resolve path = Store.resolvePath path e.cwd e.homeDirectory ↔
      keptHome e.homeDirectory path = 0 := by
  have hsegments := segments_resolveFrom hhome e.cwd path
  have hshell : Path.IsCanonical (e.resolve path) := Path.isCanonical_normalize _ _
  have hstore := Store.isCanonical_resolvePath hhome path e.cwd
  have hle := keptHome_le e.homeDirectory path
  constructor
  · intro heq
    rw [Executor.resolve] at heq
    rw [heq, List.self_eq_append_left, List.take_eq_nil_iff] at hsegments
    rcases hsegments with hzero | hroot
    · exact hzero
    · rw [hroot] at hle
      exact Nat.le_zero.mp hle
  · intro hzero
    rw [hzero, List.take_zero, List.nil_append] at hsegments
    rw [← hshell.render_segments "/", ← hstore.render_segments "/", Executor.resolve, hsegments]

/-- An executor away from home. -/
def atWork : Executor := .new "/work" "/home/user" ⟨30000, 1048576⟩

theorem isCanonical_home_atWork : Path.IsCanonical atWork.homeDirectory :=
  ⟨["home", "user"], by unfold Path.IsSegment; decide +kernel, by decide +kernel⟩

/-- A path that climbs out of the home directory is read alike in spite of its slashes. -/
theorem resolve_eq_resolvePath_climbing : Path.IsCanonical atWork.homeDirectory ∧
    atWork.resolve "~//../opt/../../etc"
      = Store.resolvePath "~//../opt/../../etc" "/work" "/home/user" :=
  ⟨isCanonical_home_atWork, (resolve_eq_resolvePath_iff atWork isCanonical_home_atWork _).mpr
    (by decide +kernel)⟩

/-- The second slash hides the home directory from the store. -/
theorem resolve_ne_resolvePath : Path.IsCanonical atWork.cwd ∧
    Path.IsCanonical atWork.homeDirectory ∧
    atWork.resolve "~//etc" ≠ Store.resolvePath "~//etc" atWork.cwd atWork.homeDirectory := by
  refine ⟨⟨["work"], ?_, ?_⟩, isCanonical_home_atWork, ?_⟩
  · unfold Path.IsSegment
    decide +kernel
  · decide +kernel
  · decide +kernel

/-! ## The prompt -/

/-- What a directory is shown as stands for that directory. -/
theorem expandHome_abbreviateHome {directory : String} (h : Path.isAbsolute directory = true)
    (home : String) : expandHome home (abbreviateHome home directory) = directory := by
  unfold abbreviateHome
  dsimp only
  split
  · rename_i hself
    rw [hself]
    exact if_pos rfl
  · split
    · rename_i hbelow
      -- Whole segments are replaced: the slash that ends the home directory is the one behind `~`.
      have hsplit := List.prefix_iff_eq_append.mp (List.isPrefixOf_iff_prefix.mp hbelow)
      generalize (directory.toList.drop _) = below at hsplit ⊢
      have hshown : ("~/" ++ String.ofList below).toList = '~' :: '/' :: below := by
        rw [String.toList_append, String.toList_ofList, String.toList_ofList]
        rfl
      rw [expandHome_of_fromHome hshown, ← String.ofList_toList (s := directory), ← hsplit,
        String.ofList_append, String.ofList_toList]
    · exact expandHome_of_isAbsolute h

/-- The executor goes to the directory that it shows. -/
theorem resolve_abbreviateHome {directory : String} (h : Path.IsCanonical directory)
    (e : Executor) : e.resolve (abbreviateHome e.homeDirectory directory) = directory := by
  rw [resolve, resolveFrom, expandHome_abbreviateHome h.isAbsolute]
  exact h.render_segments e.cwd

end Executor

/-- **The prompt tells where one is.** What it shows of the working directory leads there, wherever
one stands; so two working directories never have the same prompt. -/
theorem prompt_leads_back {cwd : String} (hcwd : Path.IsCanonical cwd) (home : String) :
    (∃ shown, prompt cwd home = "user@vibe:" ++ shown ++ "$ " ∧
      ∀ e : Executor, e.homeDirectory = home → e.resolve shown = cwd) ∧
    ∀ other, Path.IsCanonical other → other ≠ cwd → prompt other home ≠ prompt cwd home := by
  refine ⟨⟨Executor.abbreviateHome home cwd, rfl, ?_⟩, ?_⟩
  · rintro e rfl
    exact Executor.resolve_abbreviateHome hcwd e
  · intro other hother hne hsame
    unfold prompt at hsame
    rw [String.append_left_inj, String.append_right_inj] at hsame
    have hexpand := congrArg (Executor.expandHome home) hsame
    rw [Executor.expandHome_abbreviateHome hother.isAbsolute,
      Executor.expandHome_abbreviateHome hcwd.isAbsolute] at hexpand
    exact hne hexpand

/-- With the root for a home, a directory whose own name is `~` stands behind the `~` of the home
directory. -/
theorem prompt_leads_back_tilde : Path.IsCanonical "/~/x" ∧ Path.IsCanonical "/~" ∧ "/~" ≠ "/~/x" ∧
    (∃ shown, prompt "/~/x" "/" = "user@vibe:" ++ shown ++ "$ " ∧
      ∀ e : Executor, e.homeDirectory = "/" → e.resolve shown = "/~/x") ∧
    prompt "/~" "/" ≠ prompt "/~/x" "/" := by
  have hcwd : Path.IsCanonical "/~/x" := Path.isCanonical_iff.mpr (by decide +kernel)
  have hother : Path.IsCanonical "/~" := Path.isCanonical_iff.mpr (by decide +kernel)
  have hne : "/~" ≠ "/~/x" := by decide
  obtain ⟨hleads, hdiffer⟩ := prompt_leads_back hcwd "/"
  exact ⟨hcwd, hother, hne, hleads, hdiffer "/~" hother hne⟩

/-! ## The table of directory changes -/

namespace Challenge

variable {cwd target place : String}

/-- Slashes behind a name that was typed count for nothing. -/
theorem resolvePath_of_name {name : String} {c : Char}
    (hname : Path.withoutEndSlashes target = name) (hfirst : name.toList.head? = some c)
    (hslash : c ≠ '/') (htilde : c ≠ '~') (cwd home : String) :
    Store.resolvePath target cwd home = Path.normalize cwd name := by
  subst hname
  rw [Store.resolvePath_of_head? (Path.head?_of_withoutEndSlashes hfirst) htilde,
    Path.normalize_withoutEndSlashes hfirst hslash]

/-- Below the root of the challenge, the directories of the table are what their names say. -/
theorem normalize_chapter {name : String}
    (h : name = "intel" ∨ name = "vault" ∨ name = "level2") :
    Path.normalize root name = root ++ "/" ++ name := by
  rcases h with rfl | rfl | rfl <;> decide +kernel

/-- A directory change with a fixed meaning is one that was typed. -/
theorem ne_empty_of_transition (h : transition cwd target = some place) : target ≠ "" := by
  rintro rfl
  have hempty : Path.withoutEndSlashes "" = "" := by decide
  unfold transition at h
  rw [hempty] at h
  dsimp only at h
  rw [if_neg (by decide), if_neg fun hnamed => absurd hnamed.1 (by decide)] at h
  cases h

/-- A directory change with a fixed meaning leads where any path of that text leads. -/
theorem resolvePath_of_transition (h : transition cwd target = some place) (home : String) :
    Store.resolvePath target cwd home = place := by
  unfold transition at h
  dsimp only at h
  split at h
  · rename_i hup
    split at h
    · obtain rfl := Option.some.inj h
      exact resolvePath_of_name (c := '.') hup (by decide) (by decide) (by decide) cwd home
    · cases h
  · split at h
    · rename_i hnamed
      obtain ⟨hname, rfl⟩ := hnamed
      obtain ⟨c, hfirst, hslash, htilde⟩ : ∃ c,
          (Path.withoutEndSlashes target).toList.head? = some c ∧ c ≠ '/' ∧ c ≠ '~' := by
        rcases hname with hname | hname | hname
        · exact ⟨'i', by rw [hname]; decide, by decide, by decide⟩
        · exact ⟨'v', by rw [hname]; decide, by decide, by decide⟩
        · exact ⟨'l', by rw [hname]; decide, by decide, by decide⟩
      rw [← Option.some.inj h, ← normalize_chapter hname]
      exact resolvePath_of_name rfl hfirst hslash htilde root home
    · cases h

end Challenge

end PlainTerminal
