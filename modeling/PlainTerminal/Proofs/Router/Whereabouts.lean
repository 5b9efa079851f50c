import PlainTerminal.Proofs.Resolution
import PlainTerminal.Proofs.Router.Secrecy

/-!
# Where a player may stand

A player stands behind the lock only with all codes, as long as they go there by commands: `cd` asks
the lock for the place that it goes to, `hack` leads to the root of the challenge, and no other
command leads anywhere. Out of the challenge, on the user's own machine, the real shell is asked for
the directory. It resolves what was typed by itself, and comes to the place that the lock was asked
for, or to one outside the challenge. The one path that it resolves differently begins with `~//`;
that leads to a place below the first segment of the home directory.

A request may also name a working directory. It is entered with no look at the lock. `Trespasses`
says when that matters.
-/

namespace PlainTerminal

open Dialogue

namespace Challenge

/-- What is behind the lock is in the challenge, and so is what is beside it. -/
theorem rootSegments_prefix_dropLast {segs : List String} (h : lockedSegments <+: segs) :
    rootSegments <+: segs.dropLast := by
  obtain ⟨below, rfl⟩ := h
  have hlocked : lockedSegments = rootSegments ++ ["level2"] := by decide +kernel
  rw [hlocked, List.append_assoc, List.dropLast_append_of_ne_nil (by simp)]
  exact List.prefix_append _ _

end Challenge

namespace Router

variable {s s' : Session} {target : String}

/-! ## The directory that the real shell is asked for -/

/-- Inside the challenge the real shell is asked for a resolved path, but for blanks at its end. Of
a place outside that is no place behind the lock. -/
theorem not_isLocked_trim {place base : String} (hplace : Path.IsCanonical place)
    (hout : Challenge.contains place = false) :
    Challenge.isLocked (Path.normalize base (Text.trim place)) = false := by
  refine Bool.eq_false_iff.mpr fun hlocked => ?_
  rw [Challenge.isLocked_iff (Path.isCanonical_normalize _ _), Path.segments_normalize] at hlocked
  have hprefix := (Challenge.rootSegments_prefix_dropLast hlocked).trans
    (Path.dropLast_segments_trim hplace.isAbsolute base "/")
  rw [← Challenge.contains_iff hplace, hout] at hprefix
  cases hprefix

/-- The real shell comes to the place that a typed path means, or to that place below some of the
first segments of the home directory. -/
theorem segments_resolveFrom_cdPlace (hhome : Path.IsCanonical s.home) (target : String) :
    ∃ n, Path.segments "/"
        (Executor.resolveFrom s.cwd s.home (if target = "" then "~" else target))
      = (Path.segments "/" s.home).take n ++ Path.segments "/" (cdPlace s target) := by
  rw [cdPlace_eq_destination]
  unfold destination
  by_cases hempty : target = ""
  · rw [if_pos hempty, if_pos hempty]
    have hself : Store.resolvePath "~" s.cwd s.home = s.home := by
      rw [Store.resolvePath, if_neg (by decide), if_pos rfl]
    have hhere := Executor.segments_resolveFrom hhome s.cwd "~"
    rw [hself] at hhere
    exact ⟨_, hhere⟩
  · rw [if_neg hempty, if_neg hempty]
    exact ⟨_, Executor.segments_resolveFrom hhome s.cwd target⟩

theorem isCanonical_shellDirectory (s : Session) (target : String) :
    Path.IsCanonical (shellDirectory s target) := by
  unfold shellDirectory Executor.resolveFrom
  exact Path.isCanonical_normalize _ _

/-- **The real shell leads nobody behind the lock** out of a place that is not, as long as the home
directory begins with another segment than the challenge. -/
theorem not_isLocked_shellDirectory (hhome : Path.IsCanonical s.home)
    (hvar : (Path.segments "/" s.home).head? ≠ some "var") (htrim : Text.trim target = target)
    (hout : Challenge.contains (cdPlace s target) = false) :
    Challenge.isLocked (shellDirectory s target) = false := by
  have hplace := isCanonical_cdPlace hhome target
  unfold shellDirectory
  dsimp only
  cases hcwd : Challenge.contains s.cwd with
  | true =>
      obtain ⟨rest, -, htoList, -, -⟩ := Path.exists_trim_of_isAbsolute hplace.isAbsolute
      have habsolute : Path.isAbsolute (Text.trim (cdPlace s target)) = true := by
        rw [Path.isAbsolute, htoList]
        rfl
      have hne : Text.trim (cdPlace s target) ≠ "" := by
        intro hempty
        rw [hempty] at habsolute
        exact absurd habsolute (by decide)
      rw [if_pos rfl, if_neg hne, Executor.resolveFrom,
        Executor.expandHome_of_isAbsolute habsolute]
      exact not_isLocked_trim hplace hout
  | false =>
      rw [if_neg Bool.false_ne_true, htrim]
      obtain ⟨n, hn⟩ := segments_resolveFrom_cdPlace hhome target
      refine Bool.eq_false_iff.mpr fun hlocked => ?_
      have hcanonical : Path.IsCanonical
          (Executor.resolveFrom s.cwd s.home (if target = "" then "~" else target)) :=
        Path.isCanonical_normalize _ _
      rw [Challenge.isLocked_iff hcanonical, hn] at hlocked
      have hlead := (Challenge.rootSegments_prefix_dropLast hlocked).trans (List.dropLast_prefix _)
      -- either the home directory lends no segment, or it lends the first one
      cases hsegs : (Path.segments "/" s.home).take n with
      | nil =>
          rw [hsegs, List.nil_append, ← Challenge.contains_iff hplace, hout] at hlead
          cases hlead
      | cons first below =>
          rw [hsegs] at hlead
          obtain ⟨tail, htail⟩ := hlead
          obtain rfl : "var" = first := (List.cons.inj htail).1
          have hfirst := congrArg List.head? hsegs
          rw [List.head?_take] at hfirst
          split at hfirst
          · cases hfirst
          · exact hvar hfirst

end Router

namespace Session

variable {s s' : Session}

/-! ## Standing where one may -/

/-- Behind the lock the player stands with all codes only. -/
def Admitted (s : Session) : Prop :=
  Challenge.isLocked s.cwd = true → s.progress.hasAll = true

/-- What the language model is told while a code is missing does not depend on what is behind the
lock. -/
def Discreet (s : Session) : Prop :=
  s.progress.hasAll = false → ∀ s', s.AlikeOutside s' → ∀ router : Router,
    router.context s' = router.context s

/-- What carries the two through a run: the codes fit the objective, the player stands at a
canonical path, and the home directory is one that leads nobody astray. -/
structure Posted (s : Session) : Prop where
  coherent : s.progress.Coherent
  canonical : Path.IsCanonical s.cwd
  admitted : s.Admitted
  home : Path.IsCanonical s.home
  apart : s.store.isSimulated = false → (Path.segments "/" s.home).head? ≠ some "var"

theorem Posted.directoryNames (h : s.Posted) (hmissing : s.progress.hasAll = false)
    (halike : s.AlikeOutside s') : Router.directoryNames s' = Router.directoryNames s := by
  obtain ⟨tree, rfl, htree⟩ := halike
  have hout : Challenge.isLocked s.cwd = false := by
    refine Bool.eq_false_iff.mpr fun hlocked => ?_
    rw [h.admitted hlocked] at hmissing
    cases hmissing
  unfold Router.directoryNames
  rw [withTree_inVirtualTree, withTree_cwd, withTree_tree]
  split
  · have hentries := htree.entries h.canonical hout true
    cases hhere : s.store.tree.entries s.cwd true with
    | error e =>
        rw [hhere] at hentries
        cases hthere : tree.entries s.cwd true with
        | error e' => rfl
        | ok entries => rw [hthere] at hentries; cases hentries
    | ok entries =>
        rw [hhere] at hentries
        cases hthere : tree.entries s.cwd true with
        | error e' => rw [hthere] at hentries; cases hentries
        | ok entries' =>
            rw [hthere] at hentries
            dsimp only
            rw [map_fst_of_shape (Except.ok.inj hentries)]
  · rfl

theorem Posted.discreet (h : s.Posted) : s.Discreet := by
  intro hmissing s' halike router
  have hnames := h.directoryNames hmissing halike
  obtain ⟨tree, rfl, -⟩ := halike
  unfold Router.context
  rw [hnames]
  rfl

/-- To go to a place is to stand there. -/
theorem cwd_setCwd_of_isCanonical {place : String} (hplace : Path.IsCanonical place) :
    (s.setCwd place).cwd = place := by
  rw [cwd_setCwd, Executor.resolveFrom_of_isCanonical hplace]

/-- A change of place keeps what is known of the session, where the player may stand. -/
theorem Posted.setCwd {place : String} (h : s.Posted) (hadmitted : (s.setCwd place).Admitted) :
    (s.setCwd place).Posted := by
  refine ⟨?_, ?_, hadmitted, ?_, ?_⟩
  · rw [setCwd_progress]
    exact h.coherent
  · rw [cwd_setCwd]
    exact Path.isCanonical_normalize _ _
  · rw [setCwd_home]
    exact h.home
  · rw [setCwd_store, setCwd_home]
    exact h.apart

/-- After `cd` the player is admitted where they stand. -/
theorem Posted.arrives {target : String} (h : s.Posted) (htrim : Text.trim target = target)
    (harrives : Router.Arrives s target s') :
    Path.IsCanonical s'.cwd ∧ (Challenge.isLocked s'.cwd = true → s.progress.hasAll = true) := by
  have hplace := Router.isCanonical_cdPlace h.home target
  cases harrives with
  | nowhere => exact ⟨h.canonical, h.admitted⟩
  | virtual hlock _ =>
      rw [cwd_setCwd_of_isCanonical hplace]
      exact ⟨hplace, Challenge.lockAt_eq_none_iff.mp hlock⟩
  | real hout hlocal =>
      have hnot := Router.not_isLocked_shellDirectory h.home (h.apart hlocal) htrim hout
      have hcanonical := Router.isCanonical_shellDirectory s target
      generalize Router.shellDirectory s target = place at hnot hcanonical ⊢
      refine ⟨hcanonical, fun hlocked => ?_⟩
      rw [show Challenge.isLocked place = true from hlocked] at hnot
      cases hnot

/-! ## Turns -/

theorem isCanonical_root : Path.IsCanonical Challenge.root :=
  ⟨Challenge.rootSegments, Challenge.rootSegments_isSegment, Challenge.root_eq_render⟩

/-- Wherever a command leads, the player may stand there. -/
theorem Posted.leads {command : String} (h : s.Posted) (hleads : Router.Leads s command s') :
    s'.Posted := by
  cases hleads with
  | @read rest _ =>
      generalize Router.catOperands s rest = paths
      have hprecedes : s.progress.Precedes (s.readAll paths).progress :=
        precedes_readAll h.coherent
      have hcoherent : (s.readAll paths).progress.Coherent := coherent_readAll h.coherent
      obtain ⟨progress, hread⟩ := s.exists_readAll paths
      rw [hread] at hprecedes hcoherent ⊢
      exact ⟨hcoherent, h.canonical, fun hlocked => hprecedes.hasAll (h.admitted hlocked), h.home,
        h.apart⟩
  | @moved target _ hsplit harrives =>
      have htrim := Text.trim_splitAtBlank command
      rw [hsplit] at htrim
      obtain ⟨hcanonical, hadmitted⟩ := h.arrives htrim harrives
      obtain ⟨cwd, rfl⟩ := harrives.exists_cwd
      exact ⟨h.coherent, hcanonical, hadmitted, h.home, h.apart⟩
  | begun _ _ =>
      have hprecedes := Challenge.Progress.precedes_start s.progress
      have hstarted : Session.Posted { s with progress := s.progress.start } :=
        ⟨h.coherent.start, h.canonical, fun hlocked => hprecedes.hasAll (h.admitted hlocked),
          h.home, h.apart⟩
      refine hstarted.setCwd ?_
      have hroot : ¬ Challenge.isLocked Challenge.root = true := by decide +kernel
      unfold Admitted
      rw [cwd_setCwd_of_isCanonical isCanonical_root]
      exact fun hlocked => absurd hlocked hroot
  | steady _ hsteady =>
      obtain ⟨tree, rfl⟩ := hsteady
      exact ⟨h.coherent, h.canonical, h.admitted, h.home, h.apart⟩

/-- The directory that a request names is behind the lock, and a code is missing. -/
def Trespasses (s : Session) (workingDirectory : Option String) : Prop :=
  Challenge.isLocked (Router.entering s workingDirectory).cwd = true ∧ s.progress.hasAll = false

/-- Who stays does not trespass. -/
theorem Posted.not_trespasses_none (h : s.Posted) : ¬ s.Trespasses none := by
  rintro ⟨hlocked, hmissing⟩
  rw [Router.entering_none] at hlocked
  rw [h.admitted hlocked] at hmissing
  cases hmissing

/-- To enter a directory without trespassing is to stand there by right. -/
theorem Posted.entering (h : s.Posted) {workingDirectory : Option String}
    (hout : ¬ s.Trespasses workingDirectory) : (Router.entering s workingDirectory).Posted := by
  have hadmitted : (Router.entering s workingDirectory).Admitted := by
    intro hlocked
    rw [Turn.progress_entering]
    by_contra hmissing
    exact hout ⟨hlocked, Bool.eq_false_iff.mpr hmissing⟩
  cases workingDirectory with
  | none => exact h
  | some directory =>
      unfold Router.entering at hadmitted ⊢
      dsimp only at hadmitted ⊢
      split
      · exact h
      · rename_i hne
        rw [if_neg hne] at hadmitted
        exact h.setCwd hadmitted

theorem Posted.record (h : s.Posted) (input : String) : (s.record input).Posted := by
  obtain ⟨history, hrecord⟩ := s.exists_record input
  rw [hrecord]
  exact ⟨h.coherent, h.canonical, h.admitted, h.home, h.apart⟩

theorem Posted.upload (h : s.Posted) (u : Upload) : (s.upload u).2.Posted := by
  have hmode := Store.mode_upload s.store u
  refine ⟨h.coherent, h.canonical, h.admitted, h.home, fun hlocal => h.apart ?_⟩
  unfold Store.isSimulated at hlocal ⊢
  rw [← hmode]
  exact hlocal

theorem Posted.clearUploads (h : s.Posted) : s.clearUploads.Posted :=
  ⟨h.coherent, h.canonical, h.admitted, h.home, h.apart⟩

/-- The directory that is named with an event, if one is. -/
def Event.workingDirectory : Event → Option String
  | .route _ workingDirectory => workingDirectory
  | _ => none

/-- **Nobody gets behind the lock on foot**: a turn that does not trespass leaves the player where
they may stand. -/
theorem Posted.turn {t : Turn} (h : t.before.Posted) (ht : t.Happens)
    (hout : ¬ t.before.Trespasses t.event.workingDirectory) : t.after.Posted := by
  cases ht with
  | @route s s' command workingDirectory _ hreturn =>
      have hleads := (Router.leads_route command workingDirectory).of_mayReturn hreturn
      have hentered : (Router.entering s workingDirectory).Posted := Posted.entering h hout
      show s'.Posted
      exact hentered.leads hleads
  | note s input =>
      show (s.record input).Posted
      exact Posted.record h input
  | upload s u =>
      show (s.upload u).2.Posted
      exact Posted.upload h u
  | clearUploads s =>
      show s.clearUploads.Posted
      exact Posted.clearUploads h

theorem Posted.run {turns : List Turn} (h : s.Posted) (hrun : Run s turns)
    (hstay : ∀ t ∈ turns, t.event.workingDirectory = none) : (endOf s turns).Posted := by
  induction hrun with
  | nil => exact h
  | cons ht _ ih =>
      rw [endOf_cons]
      obtain ⟨hfirst, hrest⟩ := List.forall_mem_cons.mp hstay
      refine ih (h.turn ht ?_) hrest
      rw [hfirst]
      exact h.not_trespasses_none

end Session

end PlainTerminal
