import PlainTerminal.Proofs.Challenge.Writes
import PlainTerminal.Proofs.Service.Requests

/-!
# Who can change the challenge

Commands and lines of input never change the challenge, in either mode. Uploads can: they are
written into the tree with no look at where they go. So the challenge is read-only for as long as
nobody uploads into it, and the statement at the end says exactly which uploads those are.
-/

namespace PlainTerminal

open Dialogue Session

/-! ## Sessions whose challenge is intact -/

/-- A session of the given mode and home directory whose challenge is intact. -/
structure Session.Guarded (m : Mode) (home : String) (s : Session) : Prop where
  mode : s.store.mode = m
  home_eq : s.home = home
  intact : Challenge.Intact s.store.tree

namespace Service

variable {m : Mode} {home : String} {sessions : Sessions} {s : Session}

theorem guarded_invariant (m : Mode) (hhome : Path.IsCanonical home) :
    Invariant m (Guarded m home) where
  ready h := ⟨h.mode, h.intact.isDirectory⟩
  evolves h he := by
    refine ⟨he.mode.trans h.mode, he.home.trans h.home_eq, ?_⟩
    have htree := he.tree
    rw [h.home_eq] at htree
    exact h.intact.outsideWrites hhome htree
  clearUploads h := ⟨h.mode, h.home_eq, h.intact⟩

/-- The home directory of the sessions of a service. -/
def homeOf (sessions : Sessions) : String := sessions.newExecutor.homeDirectory

theorem guarded_of_fresh (h : sessions.table = []) :
    sessions.All (Guarded sessions.environment.mode (homeOf sessions)) :=
  ⟨fun now => ⟨rfl, rfl, Challenge.intact_seed now⟩, by simp [h]⟩

/-! ## Uploads -/

/-- The texts that an upload stores, with their full paths: those of the files up to the first one
that cannot be read, but for empty ones and those whose name is no file name. -/
def storedTexts (directory : String) : List UploadPart → List (String × String)
  | [] => []
  | part :: rest =>
    match part.decode with
    | .error _ => []
    | .ok content =>
      let u : Upload := ⟨part.name, content, directory, part.kind, ⟨0⟩⟩
      if content ≠ "" ∧ u.hasFileName = true then
        (u.fullPath, content) :: storedTexts directory rest
      else storedTexts directory rest

theorem storedTexts_cons {directory content : String} {part : UploadPart} {rest : List UploadPart}
    (h : part.decode = .ok content) :
    storedTexts directory (part :: rest) =
      if content ≠ "" ∧ (fileOf part content directory ⟨0⟩).hasFileName = true then
        ((fileOf part content directory ⟨0⟩).fullPath, content) :: storedTexts directory rest
      else storedTexts directory rest := by
  rw [storedTexts, h]
  rfl

/-- What one file of an upload does to the tree. -/
theorem tree_upload (store : Store) (u : Upload) :
    (store.upload u).2.tree = if u.hasFileName then
      Challenge.attempt store.tree u.uploaded u.fullPath u.content else store.tree := by
  unfold Store.upload Challenge.attempt
  cases store.tree.createFile u.uploaded u.fullPath u.content with
  | ok tree => cases u.hasFileName <;> rfl
  | error e => cases u.hasFileName <;> rfl

theorem store_upload (s : Session) (u : Upload) : (s.upload u).2.store = (s.store.upload u).2 := by
  unfold Session.upload
  cases s.store.upload u
  rfl

theorem home_upload (s : Session) (u : Upload) : (s.upload u).2.home = s.home := by
  unfold Session.upload
  cases s.store.upload u
  rfl

/-- The tree after an upload is the tree with the stored texts in it. -/
theorem ensuresFrom_storeParts (directory : String) (parts : List UploadPart) (s : Session) :
    EnsuresFrom m.Allows (fun _ s' => s'.store.mode = s.store.mode ∧ s'.home = s.home ∧
        ∃ writes, writes.map Prod.snd = storedTexts directory parts ∧
          s'.store.tree = Challenge.storeAll s.store.tree writes) s
      (storeParts directory parts) := by
  induction parts generalizing s with
  | nil => exact ensuresFrom_pure.mpr ⟨rfl, rfl, [], rfl, rfl⟩
  | cons part rest ih =>
      cases hdecode : part.decode with
      | error e =>
          rw [storeParts_error hdecode, storedTexts, hdecode]
          exact ensuresFrom_pure.mpr ⟨rfl, rfl, [], rfl, rfl⟩
      | ok content =>
          by_cases hempty : content = ""
          · have hnot : ¬ (content ≠ "" ∧
                (fileOf part content directory ⟨0⟩).hasFileName = true) := fun h => h.1 hempty
            rw [storeParts_empty (hempty ▸ hdecode), storedTexts_cons hdecode, if_neg hnot]
            exact ih s
          · refine ensuresFrom_storeParts_file ensures_now hdecode hempty fun now => ?_
            -- The rest is stored in the tree that this file leaves.
            refine (ih _).mono (fun _ hq => hq) fun _ s' hs' _ => ?_
            obtain ⟨hmode, hhome, writes, hwrites, htree⟩ := hs'
            rw [store_upload] at hmode htree
            refine ⟨hmode.trans (s.store.mode_upload _), hhome.trans (home_upload s _), ?_⟩
            rw [htree, tree_upload, storedTexts_cons hdecode]
            by_cases hname : (fileOf part content directory now).hasFileName = true
            · have hstored : content ≠ "" ∧
                  (fileOf part content directory ⟨0⟩).hasFileName = true := ⟨hempty, hname⟩
              rw [if_pos hname, if_pos hstored]
              refine ⟨(now, (fileOf part content directory now).fullPath, content) :: writes,
                ?_, ?_⟩
              · rw [List.map_cons, hwrites]
                rfl
              · rw [Challenge.storeAll_cons]
                rfl
            · have hstored : ¬ (content ≠ "" ∧
                  (fileOf part content directory ⟨0⟩).hasFileName = true) := fun h => hname h.2
              rw [if_neg hname, if_neg hstored]
              exact ⟨writes, hwrites, rfl⟩

/-- The upload stores a text in the challenge that does not belong where it is stored. -/
def Tampers (home : String) (body : Json) : Prop :=
  ∃ request, decodeBody UploadRequest.shape {} body = .ok request ∧
    Challenge.Spoils (storedTexts
      ((request.path.filter fun p => !Text.isBlankText p).getD home) request.files)

theorem guarded_storeParts_iff {directory : String} {parts : List UploadPart} {s' : Session}
    (h : Guarded m home s) (hmode : s'.store.mode = s.store.mode) (hhome : s'.home = s.home)
    (hwrites : ∃ writes, writes.map Prod.snd = storedTexts directory parts ∧
      s'.store.tree = Challenge.storeAll s.store.tree writes) :
    (Guarded m home s' ↔ Challenge.Intact s'.store.tree) ∧
      (Challenge.Intact s'.store.tree ↔ ¬ Challenge.Spoils (storedTexts directory parts)) := by
  obtain ⟨writes, htexts, htree⟩ := hwrites
  refine ⟨⟨Guarded.intact, fun hi => ⟨hmode.trans h.mode, hhome.trans h.home_eq, hi⟩⟩, ?_⟩
  rw [htree, h.intact.storeAll_iff writes, htexts]

/-- An upload that does not tamper keeps all sessions guarded. -/
theorem upload_guarded (h : sessions.All (Guarded m home)) {body : Json}
    (hbody : ¬ Tampers home body) :
    EnsuresFrom m.Allows (fun _ sessions' => sessions'.All (Guarded m home)) sessions
      (upload body) := by
  unfold upload
  split
  · exact ensuresFrom_pure.mpr h
  · rename_i request hrequest
    split
    · exact ensuresFrom_pure.mpr h
    · refine h.within_bind (Mode.allows_of_not_isReal rfl) (fun s hs => ?_) fun r _ h' => ?_
      · rw [ensuresFrom_bind, ensuresFrom_get]
        refine (ensuresFrom_storeParts _ _ s).mono (fun _ hq => hq) fun _ s' hs' => ?_
        obtain ⟨hmode, hhome, hwrites⟩ := hs'
        obtain ⟨hguarded, hintact⟩ := guarded_storeParts_iff hs hmode hhome hwrites
        refine hguarded.mpr (hintact.mpr fun hspoils => hbody ⟨request, hrequest, ?_⟩)
        rw [uploadPath, hs.home_eq] at hspoils
        exact hspoils
      · split
        · exact ensuresFrom_pure.mpr h'
        · exact ensuresFrom_pure.mpr h'

/-- The challenge is intact in every session. -/
def Undamaged (sessions : Sessions) : Prop :=
  ∀ e ∈ sessions.table, Challenge.Intact e.2.store.tree

/-- An upload that tampers leaves damage behind. -/
theorem upload_damages (h : sessions.All (Guarded m home)) {body : Json}
    (hbody : Tampers home body) :
    EnsuresFrom m.Allows (fun _ sessions' => ¬ Undamaged sessions') sessions (upload body) := by
  obtain ⟨request, hrequest, hspoils⟩ := hbody
  have hfiles : ¬ request.files.isEmpty = true := by
    intro hempty
    rw [List.isEmpty_iff.mp hempty] at hspoils
    obtain ⟨below, text, -, hlast, -⟩ := hspoils
    cases hlast
  unfold upload
  rw [hrequest]
  dsimp only
  rw [if_neg hfiles, ensuresFrom_bind, Sessions.ensuresFrom_within]
  refine (h.getOrCreate _ (Mode.allows_of_not_isReal rfl)).mono (fun _ hq => hq) fun s hs => ?_
  rw [ensuresFrom_bind, ensuresFrom_get]
  refine (ensuresFrom_storeParts _ _ s).mono (fun _ hq => hq) fun r s' hs' => ?_
  obtain ⟨hmode, hhome, hwrites⟩ := hs'
  have hintact := (guarded_storeParts_iff hs hmode hhome hwrites).2
  rw [uploadPath, hs.home_eq] at hintact
  -- The session is stored again, so its damage is among the sessions.
  have hdamage : ¬ Undamaged (sessions.insert (Sessions.nameOf request.sessionId) s') := by
    intro hundamaged
    refine hintact.mp (hundamaged (Sessions.nameOf request.sessionId, s') ?_) hspoils
    refine Keyed.mem_of_find? ?_
    rw [Sessions.insert, Keyed.find?_insert, if_pos rfl]
  split
  · exact ensuresFrom_pure.mpr hdamage
  · exact ensuresFrom_pure.mpr hdamage

/-- Whoever answers, the challenge is intact in every session before the first request and after
each one. -/
def Undisturbed (service : Service) : List Request → Sessions → Prop
  | [], sessions => Undamaged sessions
  | request :: rest, sessions => Undamaged sessions ∧
      EnsuresFrom (fun _ => True) (fun _ sessions' => service.Undisturbed rest sessions') sessions
        (service.serve request)

theorem undamaged_of_undisturbed {service : Service} {requests : List Request}
    (h : service.Undisturbed requests sessions) : Undamaged sessions := by
  cases requests with
  | nil => exact h
  | cons request rest => exact h.1

theorem undisturbed_iff_of_guarded (hhome : Path.IsCanonical home)
    (h : sessions.All (Guarded m home)) (service : Service) (requests : List Request) :
    service.Undisturbed requests sessions ↔
      ∀ body, Request.upload body ∈ requests → ¬ Tampers home body := by
  have inv := guarded_invariant m hhome
  induction requests generalizing sessions with
  | nil => exact iff_of_true (fun e he => (h.there e he).intact) nofun
  | cons request rest ih =>
      constructor
      · rintro ⟨-, hserve⟩
        -- A request that tampers would leave damage behind; none does, so all stay guarded.
        have hfirst : ∀ body, request = .upload body → ¬ Tampers home body := by
          rintro body rfl htampers
          obtain ⟨_, sessions', hdamage, hrest⟩ :=
            EnsuresFrom.exists_both (upload_damages h htampers) hserve
          exact hdamage (undamaged_of_undisturbed hrest)
        have hkeeps := serve_keeps inv h service request fun body hbody =>
          upload_guarded h (hfirst body hbody)
        obtain ⟨_, sessions', h', hrest⟩ := EnsuresFrom.exists_both hkeeps hserve
        intro body hbody
        rcases List.mem_cons.mp hbody with heq | hbody
        · exact hfirst body heq.symm
        · exact (ih h'.1).mp hrest body hbody
      · intro hall
        refine ⟨fun e he => (h.there e he).intact, ?_⟩
        refine EnsuresFrom.mono (serve_keeps inv h service request ?_) (fun _ _ => trivial) ?_
        · rintro body rfl
          exact upload_guarded h (hall body List.mem_cons_self)
        · exact fun _ sessions' h' =>
            (ih h'.1).mpr fun body hbody => hall body (List.mem_cons_of_mem _ hbody)

/-- **The challenge is read-only exactly as long as no upload tampers with it**: from a start
without sessions, with a canonical home directory, in either mode. -/
theorem undisturbed_iff (service : Service) (requests : List Request)
    (hfresh : sessions.table = []) (hhome : Path.IsCanonical (homeOf sessions)) :
    service.Undisturbed requests sessions ↔
      ∀ body, Request.upload body ∈ requests → ¬ Tampers (homeOf sessions) body :=
  undisturbed_iff_of_guarded hhome (guarded_of_fresh hfresh) service requests

/-- A service in the demo before its first request. -/
def freshDemo : Sessions := { environment := .ofRemote, config := {}, start := ⟨"/", none⟩ }

/-- A service without a key for the model. -/
def plain : Service := ⟨{ environment := .ofRemote }, false⟩

theorem isCanonical_homeOf_freshDemo : Path.IsCanonical (homeOf freshDemo) :=
  Path.isCanonical_iff.mpr (by decide +kernel)

/-- Two attempts to write to the challenge that do not look like it come to nothing. -/
theorem undisturbed_iff_detour :
    let requests : List Request := [
      .execute (.ofMembers [("command", .string "echo x > ~/../../var//games/./README_HACK")]),
      .submit (.ofMembers [("input", .string "cd /opt/../var && touch games/x")])]
    freshDemo.table = [] ∧ Path.IsCanonical (homeOf freshDemo) ∧
      plain.Undisturbed requests freshDemo :=
  ⟨rfl, isCanonical_homeOf_freshDemo,
    (undisturbed_iff plain _ rfl isCanonical_homeOf_freshDemo).mpr (by simp)⟩

/-- An upload of one file to the directory of the challenge. -/
def uploadToChallenge (name content : String) : Json :=
  .ofMembers [("path", .string Challenge.root), ("files", .array [
    .ofMembers [("name", .string name), ("content", .string content)]])]

/-- An upload to the directory of the challenge adds a file to it. -/
theorem not_undisturbed_evil :
    ¬ plain.Undisturbed [.upload (uploadToChallenge "evil.txt" "gone")] freshDemo := by
  rintro ⟨-, hserve⟩
  have htampers : Tampers (homeOf freshDemo) (uploadToChallenge "evil.txt" "gone") := by
    refine ⟨{ files := [{ name := "evil.txt", content := "gone" }], path := some Challenge.root },
      rfl, ["evil.txt"], "gone", ?_, ?_, ?_⟩
    · decide +kernel
    · decide +kernel
    · decide +kernel
  obtain ⟨_, sessions', hdamage, hrest⟩ :=
    EnsuresFrom.exists_both (upload_damages (guarded_of_fresh rfl) htampers) hserve
  exact hdamage (undamaged_of_undisturbed hrest)

end Service

end PlainTerminal
