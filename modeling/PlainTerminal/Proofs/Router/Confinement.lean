import Mathlib.Logic.Relation
import PlainTerminal.Proofs.Dialogue
import PlainTerminal.Proofs.Router.Listing
import PlainTerminal.Proofs.Tree

/-!
# What a command may do to a session

Whatever the command, whatever the outside answers, a routed command leaves the mode, the variables
and the uploads of its session as they are, and changes the tree only by writes to places outside
the challenge. `Session.Evolves` is that relation. In the demo, moreover, nothing is asked of the
real machine and every outcome is marked as simulated.

`Confined` says all of this of one action, and is kept by putting actions together. The only thing
that can go wrong inside the terminal is that the challenge is not there; since no directory ever
vanishes, it does not happen in a session that started with one.
-/

namespace PlainTerminal

open Dialogue

/-- The question is about the real machine: its shell or its files. -/
def Question.isReal : Question → Bool
  | .runCommand _ => true
  | .isDirectory _ => true
  | .listDirectory _ => true
  | _ => false

/-- What may be asked in a mode: in the demo, nothing about the real machine. -/
def Mode.Allows : Mode → Question → Prop
  | .localMachine, _ => True
  | .remoteDemo, q => q.isReal = false

theorem Mode.allows_of_not_isReal {m : Mode} {q : Question} (h : q.isReal = false) :
    m.Allows q := by
  cases m with
  | localMachine => trivial
  | remoteDemo => exact h

/-- In the demo the mark is set. -/
def Mode.Marks (m : Mode) (mark : Bool) : Prop := m = .remoteDemo → mark = true

/-- The mode is for good. -/
theorem Store.mode_upload (store : Store) (u : Upload) :
    (store.upload u).2.mode = store.mode := by
  unfold Store.upload
  split
  · rfl
  · rfl

theorem Store.mode_createFile (store : Store) (now : Timestamp) (full content : String) :
    (store.createFile now full content).2.mode = store.mode := by
  unfold Store.createFile
  split
  · rfl
  · rfl

theorem Store.mode_createDirectory (store : Store) (now : Timestamp) (path full : String) :
    (store.createDirectory now path full).2.mode = store.mode := by
  unfold Store.createDirectory
  split
  · rfl
  · rfl

/-- A write to a place outside the challenge, for a user with the given home directory. -/
inductive Tree.OutsideWrite (home : String) (tree tree' : Tree) : Prop where
  | file (now : Timestamp) (path cwd content : String) :
      Challenge.contains (Store.resolvePath path cwd home) = false →
      tree.createFile now (Store.resolvePath path cwd home) content = .ok tree' →
      OutsideWrite home tree tree'
  | directory (now : Timestamp) (path cwd : String) :
      Challenge.contains (Store.resolvePath path cwd home) = false →
      tree.createDirectory now (Store.resolvePath path cwd home) = .ok tree' →
      OutsideWrite home tree tree'

/-- Directories stay directories. -/
theorem Tree.OutsideWrite.isDirectory {home : String} {tree tree' : Tree}
    (h : Tree.OutsideWrite home tree tree') {place : String}
    (hdir : tree.isDirectory place = true) : tree'.isDirectory place = true := by
  cases h with
  | file now path cwd content _ hw => exact Tree.isDirectory_of_createFile hw hdir
  | directory now path cwd _ hw => exact Tree.isDirectory_of_createDirectory hw hdir

theorem Tree.isDirectory_of_outsideWrites {home : String} {tree tree' : Tree}
    (h : Relation.ReflTransGen (Tree.OutsideWrite home) tree tree') {place : String}
    (hdir : tree.isDirectory place = true) : tree'.isDirectory place = true := by
  induction h with
  | refl => exact hdir
  | tail _ hw ih => exact hw.isDirectory ih

namespace Session

/-- What the commands of a user leave of a session: all but the working directory, the progress, the
history, and the tree outside the challenge. -/
structure Evolves (s s' : Session) : Prop where
  /-- The executor stands elsewhere at most. -/
  executor : ∃ cwd, s'.executor = { s.executor with cwd }
  mode : s'.store.mode = s.store.mode
  uploads : s'.store.uploads = s.store.uploads
  tree : Relation.ReflTransGen (Tree.OutsideWrite s.home) s.store.tree s'.store.tree

theorem Evolves.refl (s : Session) : s.Evolves s :=
  ⟨⟨s.executor.cwd, rfl⟩, rfl, rfl, Relation.ReflTransGen.refl⟩

theorem Evolves.home {s s' : Session} (h : s.Evolves s') : s'.home = s.home := by
  obtain ⟨cwd, hexec⟩ := h.executor
  unfold Session.home Executor.homeDirectory
  rw [hexec]

theorem Evolves.trans {s s' s'' : Session} (h : s.Evolves s') (h' : s'.Evolves s'') :
    s.Evolves s'' := by
  obtain ⟨cwd, hexec⟩ := h.executor
  obtain ⟨cwd', hexec'⟩ := h'.executor
  refine ⟨⟨cwd', by rw [hexec', hexec]⟩, h'.mode.trans h.mode, h'.uploads.trans h.uploads, ?_⟩
  -- Both runs of writes are seen from the same home directory.
  have htree := h'.tree
  rw [h.home] at htree
  exact h.tree.trans htree

theorem Evolves.isDirectory {s s' : Session} (h : s.Evolves s') {place : String}
    (hdir : s.store.tree.isDirectory place = true) : s'.store.tree.isDirectory place = true :=
  Tree.isDirectory_of_outsideWrites h.tree hdir

/-- Another progress, another history or another working directory is no change to the store. -/
theorem Evolves.of_store {s s' : Session} (hexec : ∃ cwd, s'.executor = { s.executor with cwd })
    (hstore : s'.store = s.store) : s.Evolves s' :=
  ⟨hexec, by rw [hstore], by rw [hstore], by rw [hstore]⟩

theorem Evolves.of_progress (s : Session) (progress : Challenge.Progress) :
    s.Evolves { s with progress } :=
  Evolves.of_store ⟨s.executor.cwd, rfl⟩ rfl

theorem Evolves.of_setCwd (s : Session) (path : String) : s.Evolves (s.setCwd path) := by
  cases s
  exact Evolves.of_store ⟨_, rfl⟩ rfl

/-- One write outside the challenge. -/
theorem Evolves.of_write {s : Session} {tree : Tree}
    (h : Tree.OutsideWrite s.home s.store.tree tree) :
    s.Evolves { s with store := { s.store with tree } } :=
  ⟨⟨s.executor.cwd, rfl⟩, rfl, rfl, Relation.ReflTransGen.single h⟩

/-- The terminal stands where it stood, with the same files. -/
structure Still (s s' : Session) : Prop where
  executor : s'.executor = s.executor
  store : s'.store = s.store

theorem Still.refl (s : Session) : s.Still s := ⟨rfl, rfl⟩

theorem Still.trans {s s' s'' : Session} (h : s.Still s') (h' : s'.Still s'') : s.Still s'' :=
  ⟨h'.executor.trans h.executor, h'.store.trans h.store⟩

theorem Still.placeOf {s s' : Session} (h : s.Still s') (path : String) :
    s'.placeOf path = s.placeOf path := by
  unfold Session.placeOf Session.cwd Session.home
  rw [h.executor]

/-- A session of the given mode in which the challenge is there. -/
structure Ready (m : Mode) (s : Session) : Prop where
  mode : s.store.mode = m
  challenge : s.store.tree.isDirectory Challenge.root = true

theorem Ready.evolves {m : Mode} {s s' : Session} (h : Ready m s) (he : s.Evolves s') :
    Ready m s' :=
  ⟨he.mode.trans h.mode, he.isDirectory h.challenge⟩

theorem Ready.isSimulated {s : Session} (h : Ready .remoteDemo s) : s.store.isSimulated = true := by
  unfold Store.isSimulated
  rw [h.mode]
  rfl

theorem Ready.not_isSimulated {s : Session} (h : Ready .localMachine s) :
    s.store.isSimulated = false := by
  unfold Store.isSimulated
  rw [h.mode]
  rfl

end Session

open Session

/-! ## Confined actions -/

variable {α β : Type} {m : Mode} {s : Session} {good : α → Prop}

/-- From the session `s` the action asks what the mode allows, lets the session evolve, and ends in
a good value. -/
def ConfinedAt (m : Mode) (s : Session) (action : Action α) (good : α → Prop) : Prop :=
  EnsuresFrom m.Allows (fun value s' => s.Evolves s' ∧ good value) s action

/-- The same from every session that is ready. -/
def Confined (m : Mode) (action : Action α) (good : α → Prop) : Prop :=
  ∀ s : Session, Ready m s → ConfinedAt m s action good

namespace ConfinedAt

theorem pure {value : α} (h : good value) : ConfinedAt m s (pure value) good :=
  ensuresFrom_pure.mpr ⟨Evolves.refl s, h⟩

theorem bind {good' : β → Prop} {action : Action α} {f : α → Action β} (hs : Ready m s)
    (h : ConfinedAt m s action good) (hf : ∀ value, good value → Confined m (f value) good') :
    ConfinedAt m s (action >>= f) good' := by
  unfold ConfinedAt
  rw [ensuresFrom_bind]
  refine h.mono (fun _ hq => hq) ?_
  rintro value s' ⟨he, hv⟩
  exact (hf value hv s' (hs.evolves he)).mono (fun _ hq => hq)
    fun w s'' hw => ⟨he.trans hw.1, hw.2⟩

/-- Looking at the session is harmless. -/
theorem get_bind {f : Session → Action α} (h : ConfinedAt m s (f s) good) :
    ConfinedAt m s (get >>= f) good := by
  unfold ConfinedAt
  rw [ensuresFrom_bind, ensuresFrom_get]
  exact h

theorem set {s' : Session} (he : s.Evolves s') : ConfinedAt m s (set s') fun _ => True :=
  ensuresFrom_set.mpr ⟨he, trivial⟩

theorem modify {f : Session → Session} (he : s.Evolves (f s)) :
    ConfinedAt m s (modify f) fun _ => True :=
  ensuresFrom_modify.mpr ⟨he, trivial⟩

/-- Asking is harmless, if the mode allows the questions. -/
theorem lift {d : Dialogue α} (h : d.Ensures m.Allows good) :
    ConfinedAt m s (liftM d) good := by
  unfold ConfinedAt
  rw [ensuresFrom_lift]
  exact h.mono (fun _ hq => hq) fun value hv => ⟨Evolves.refl s, hv⟩

end ConfinedAt

/-- The action looks at the virtual tree at most: whoever answers, the terminal stands where it
stood, and the outcome is marked as simulated. -/
def Quiet (s : Session) (action : Action Outcome) : Prop :=
  EnsuresFrom Mode.remoteDemo.Allows (fun o s' => s.Still s' ∧ o.isSimulated = true) s action

theorem Quiet.pure {o : Outcome} (h : o.isSimulated = true) : Quiet s (pure o) :=
  ensuresFrom_pure.mpr ⟨Still.refl s, h⟩

theorem Quiet.confinedAt {action : Action Outcome} (h : Quiet s action) :
    ConfinedAt m s action fun o => m.Marks o.isSimulated :=
  EnsuresFrom.mono h (fun _ hq => Mode.allows_of_not_isReal hq) fun _ _ ho =>
    ⟨Evolves.of_store ⟨s.executor.cwd, ho.1.executor⟩ ho.1.store, fun _ => ho.2⟩

theorem Confined.bind {good' : β → Prop} {action : Action α} {f : α → Action β}
    (h : Confined m action good) (hf : ∀ value, good value → Confined m (f value) good') :
    Confined m (action >>= f) good' :=
  fun s hs => (h s hs).bind hs hf

theorem Confined.mapM {f : β → Action α} (h : ∀ x, Confined m (f x) good) (xs : List β) :
    Confined m (xs.mapM f) fun _ => True := by
  induction xs with
  | nil => exact fun s _ => ConfinedAt.pure trivial
  | cons x xs ih =>
      rw [List.mapM_cons]
      exact (h x).bind fun y _ => ih.bind fun ys _ s _ => ConfinedAt.pure trivial

end PlainTerminal
