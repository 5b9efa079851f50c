import Mathlib.Data.Finset.Basic
import Mathlib.Data.Fintype.EquivFin
import PlainTerminal.Proofs.Service.ReadOnly
import PlainTerminal.Proofs.Store.Overlap

/-!
# What a rejected request leaves behind

A command, a line of input and a question to the assistant are looked at as a whole before anything
is done, so a request that is rejected there changes nothing. An upload is not: its files are stored
one after the other, and the first one whose content cannot be read ends it. If a file before that
one was stored, the request is rejected and yet has changed the session. The statement at the end
says that this is the only way.
-/

namespace PlainTerminal

open Dialogue Session UploadPart

/-! ## Parts of an upload -/

namespace UploadPart

/-- The content of the part cannot be read. -/
def IsUnreadable (part : UploadPart) : Prop := ∃ e, part.decode = .error e

/-- The part becomes a file: its content can be read and is not empty, and its name is that of a
file. -/
def IsStored (part : UploadPart) : Prop :=
  ∃ content, part.decode = .ok content ∧ content ≠ "" ∧
    (⟨part.name, content, "", part.kind, ⟨0⟩⟩ : Upload).hasFileName = true

theorem not_isUnreadable {part : UploadPart} {content : String} (h : part.decode = .ok content) :
    ¬ part.IsUnreadable := by
  rintro ⟨e, he⟩
  rw [h] at he
  cases he

/-- Of the parts, one becomes a file before the first one that cannot be read. -/
def BreaksOff : List UploadPart → Prop
  | [] => False
  | part :: rest =>
    ¬ part.IsUnreadable ∧
      ((part.IsStored ∧ ∃ later ∈ rest, later.IsUnreadable) ∨ BreaksOff rest)

end UploadPart

namespace Session

variable {s : Session}

/-- The session has an upload of the given time. -/
def Holds (s : Session) (time : Timestamp) : Prop :=
  ∃ path u, Keyed.find? s.store.uploads path = some u ∧ u.uploaded = time

/-- At some time nothing was uploaded. -/
theorem exists_not_holds (s : Session) : ∃ time, ¬ s.Holds time := by
  obtain ⟨seconds, hfresh⟩ := Infinite.exists_notMem_finset
    (s.store.uploads.map fun e => e.2.uploaded.seconds).toFinset
  refine ⟨⟨seconds⟩, ?_⟩
  rintro ⟨path, u, hfind, htime⟩
  refine hfresh (List.mem_toFinset.mpr (List.mem_map.mpr ⟨(path, u), Keyed.mem_of_find? hfind, ?_⟩))
  dsimp only
  rw [htime]

/-- What has no file name is not taken in. -/
theorem upload_of_not_hasFileName {u : Upload} (h : ¬ u.hasFileName = true) :
    (s.upload u).2 = s := by
  unfold Session.upload
  rw [s.store.upload_of_not_hasFileName h]

theorem holds_upload {u : Upload} (h : u.hasFileName = true) : (s.upload u).2.Holds u.uploaded := by
  refine ⟨u.fullPath, u, ?_, rfl⟩
  rw [Service.store_upload, s.store.uploads_upload h, Keyed.find?_insert, if_pos rfl]

/-- A later upload takes the place of an earlier one with the same path. -/
theorem Holds.upload {u : Upload} (h : s.Holds u.uploaded) : (s.upload u).2.Holds u.uploaded := by
  by_cases hname : u.hasFileName = true
  · exact holds_upload hname
  · rw [upload_of_not_hasFileName hname]
    exact h

end Session

namespace Service

variable {s : Session} {sessions : Sessions}

theorem not_exists_error {ε α : Type} (value : α) :
    ¬ ∃ e, (Except.ok value : Except ε α) = .error e := by
  rintro ⟨e, he⟩
  cases he

theorem exists_map_eq_error_iff {ε α β : Type} {f : α → β} {r : Except ε α} :
    (∃ e, r.map f = .error e) ↔ ∃ e, r = .error e := by
  cases r with
  | ok value => exact iff_of_false (not_exists_error _) (not_exists_error _)
  | error e => exact iff_of_true ⟨e, rfl⟩ ⟨e, rfl⟩

/-- Files are refused exactly if one of them cannot be read, and if they did not break off before,
none of them was stored. -/
theorem ensuresFrom_storeParts_error (path : String) (parts : List UploadPart) :
    EnsuresFrom (fun _ => True)
      (fun r s' => ((∃ e, r = .error e) ↔ ∃ part ∈ parts, part.IsUnreadable) ∧
        ((∃ e, r = .error e) → ¬ BreaksOff parts → s' = s)) s (storeParts path parts) := by
  induction parts generalizing s with
  | nil =>
      refine ensuresFrom_pure.mpr ⟨iff_of_false (not_exists_error _) ?_, fun herror => ?_⟩
      · rintro ⟨part, hpart, -⟩
        cases hpart
      · exact absurd herror (not_exists_error _)
  | cons part rest ih =>
      cases hdecode : part.decode with
      | error e =>
          have hpart : part.IsUnreadable := ⟨e, hdecode⟩
          rw [storeParts_error hdecode]
          exact ensuresFrom_pure.mpr
            ⟨iff_of_true ⟨e, rfl⟩ ⟨part, List.mem_cons_self, hpart⟩, fun _ _ => rfl⟩
      | ok content =>
          have hpart := not_isUnreadable hdecode
          have hsome : (∃ p ∈ part :: rest, p.IsUnreadable) ↔ ∃ p ∈ rest, p.IsUnreadable := by
            rw [List.exists_mem_cons_iff, or_iff_right hpart]
          rw [hsome]
          by_cases hempty : content = ""
          · rw [storeParts_empty (hempty ▸ hdecode)]
            refine ih.mono (fun _ hq => hq) fun r s' h => ⟨h.1, fun herror hbreaks => ?_⟩
            exact h.2 herror fun hrest => hbreaks ⟨hpart, Or.inr hrest⟩
          · refine ensuresFrom_storeParts_file (ensures_true _) hdecode hempty fun now => ?_
            refine ih.mono (fun _ hq => hq) fun r s' h stored => ?_
            rw [exists_map_eq_error_iff]
            refine ⟨h.1, fun hr hbreaks => ?_⟩
            rw [h.2 hr fun hrest => hbreaks ⟨hpart, Or.inr hrest⟩]
            -- A later part cannot be read, so this one was no file.
            exact upload_of_not_hasFileName fun hname =>
              hbreaks ⟨hpart, Or.inl ⟨⟨content, hdecode, hempty, hname⟩, h.1.mp hr⟩⟩

/-- Files that break off are refused, and may leave an upload of any given time behind. -/
theorem exists_mayReturn_storeParts (path : String) (time : Timestamp) (parts : List UploadPart)
    (h : BreaksOff parts ∨ (s.Holds time ∧ ∃ part ∈ parts, part.IsUnreadable)) :
    ∃ e s', ((storeParts path parts).run s).MayReturn (.error e, s') ∧ s'.Holds time := by
  induction parts generalizing s with
  | nil =>
      rcases h with hbreaks | ⟨-, part, hpart, -⟩
      · exact hbreaks.elim
      · cases hpart
  | cons part rest ih =>
      cases hdecode : part.decode with
      | error e =>
          rw [storeParts_error hdecode]
          rcases h with ⟨hpart, -⟩ | ⟨hholds, -⟩
          · exact absurd ⟨e, hdecode⟩ hpart
          · exact ⟨e, s, MayReturn.done, hholds⟩
      | ok content =>
          have hpart := not_isUnreadable hdecode
          rw [List.exists_mem_cons_iff, or_iff_right hpart] at h
          by_cases hempty : content = ""
          · rw [storeParts_empty (hempty ▸ hdecode)]
            refine ih (h.imp_left fun hbreaks => hbreaks.2.resolve_left ?_)
            rintro ⟨⟨_, hcontent, hne, -⟩, -⟩
            rw [hdecode] at hcontent
            cases hcontent
            exact hne hempty
          · rw [storeParts_file hdecode hempty]
            let u := fileOf part content path time
            -- The file is stored at the given time.
            have hrest : BreaksOff rest ∨
                ((s.upload u).2.Holds time ∧ ∃ part ∈ rest, part.IsUnreadable) := by
              rcases h with ⟨-, ⟨⟨_, hcontent, -, hname⟩, hlater⟩ | hbreaks⟩ | ⟨hholds, hlater⟩
              · rw [hdecode] at hcontent
                cases hcontent
                exact Or.inr ⟨holds_upload (u := u) hname, hlater⟩
              · exact Or.inl hbreaks
              · exact Or.inr ⟨hholds.upload (u := u), hlater⟩
            obtain ⟨e, s', hreturn, hholds⟩ := ih hrest
            refine ⟨e, s', ?_, hholds⟩
            have hnow : (liftM Dialogue.now : Action Timestamp).run s |>.MayReturn (time, s) :=
              mayReturn_lift.mpr ⟨MayReturn.ask time MayReturn.done, rfl⟩
            refine mayReturn_action_bind.mpr ⟨time, s, hnow, ?_⟩
            refine mayReturn_action_bind.mpr ⟨s, s, MayReturn.done, ?_⟩
            refine mayReturn_action_bind.mpr ⟨⟨⟩, (s.upload u).2, MayReturn.done, ?_⟩
            exact mayReturn_action_bind.mpr ⟨.error e, s', hreturn, MayReturn.done⟩

/-! ## Rejected requests -/

/-- The response rejects the request: it is a bad request, or one to an assistant without a key. -/
def Request.Rejected : Request → Response → Prop
  | .interpret _, r => r.status = 400 ∨ r.status = 500
  | _, r => r.status = 400

/-- Some file of the upload cannot be read. -/
def Request.IsUnreadable : Request → Prop
  | .upload body => ∃ request, decodeBody UploadRequest.shape {} body = .ok request ∧
      ∃ part ∈ request.files, part.IsUnreadable
  | _ => False

/-- The upload stores a file before the first one that cannot be read. -/
def Request.BreaksOff : Request → Prop
  | .upload body => ∃ request, decodeBody UploadRequest.shape {} body = .ok request ∧
      UploadPart.BreaksOff request.files
  | _ => False

end Service

namespace Sessions

/-- Every session is as it was, or it was not there and is new. -/
def Untouched (before after : Sessions) : Prop :=
  ∀ name, Keyed.find? after.table name = Keyed.find? before.table name ∨
    (Keyed.find? before.table name = none ∧
      ∃ now, Keyed.find? after.table name = some (before.newSession now))

variable {sessions : Sessions}

theorem Untouched.refl (sessions : Sessions) : sessions.Untouched sessions := fun _ => Or.inl rfl

/-- A new session has no uploads. -/
theorem not_holds_newSession {now time : Timestamp} :
    ¬ (sessions.newSession now).Holds time := by
  rintro ⟨path, u, hfind, -⟩
  cases hfind

/-- To put a session back as it was, or a new one, touches nothing. -/
theorem Finds.untouched_insert {id : Option String} {s : Session} (h : sessions.Finds id s) :
    sessions.Untouched (sessions.insert (nameOf id) s) := by
  intro other
  rw [insert, Keyed.find?_insert]
  split
  · rename_i hname
    subst hname
    rcases h with hfind | ⟨hnone, now, rfl⟩
    · exact Or.inl hfind.symm
    · exact Or.inr ⟨hnone, now, rfl⟩
  · exact Or.inl rfl

end Sessions

namespace Service

variable {s : Session} {sessions : Sessions}

/-- What may be left behind: of a request that is rejected, and of an upload that cannot be read
through, nothing. -/
def Clean (request : Request) (sessions : Sessions) (r : Response) (sessions' : Sessions) : Prop :=
  request.Rejected r ∨ request.IsUnreadable → sessions.Untouched sessions'

theorem clean_refl (request : Request) (sessions : Sessions) (r : Response) :
    Clean request sessions r sessions := fun _ => Sessions.Untouched.refl sessions

/-- What is carried out is not rejected. -/
theorem clean_ok {request : Request} {sessions' : Sessions} (h : ¬ request.IsUnreadable)
    (body : Json) : Clean request sessions (.ok body) sessions' := by
  have hrejected : ¬ request.Rejected (.ok body) := by
    cases request with
    | interpret _ =>
        show ¬ ((200 : Nat) = 400 ∨ (200 : Nat) = 500)
        decide
    | _ =>
        show ¬ (200 : Nat) = 400
        decide
  exact fun hor => (hor.elim hrejected h).elim

theorem clean_execute (body : Json) :
    EnsuresFrom (fun _ => True) (Clean (.execute body) sessions) sessions (execute body) := by
  unfold execute
  split
  · exact ensuresFrom_pure.mpr (clean_refl _ _ _)
  · rw [ensuresFrom_bind]
    refine (ensuresFrom_true _ _).mono (fun _ hq => hq) fun r sessions' _ => ?_
    cases r with
    | ok result => exact ensuresFrom_pure.mpr (clean_ok id _)
    | error result =>
        -- What goes wrong inside is no fault of the request.
        have hrejected : ¬ (Request.execute body).Rejected (.internal result) := by
          show ¬ (500 : Nat) = 400
          decide
        exact ensuresFrom_pure.mpr fun hor => (hor.elim hrejected id).elim

theorem clean_submit (service : Service) (body : Json) :
    EnsuresFrom (fun _ => True) (Clean (.submit body) sessions) sessions (service.submit body) := by
  unfold submit
  split
  · exact ensuresFrom_pure.mpr (clean_refl _ _ _)
  · rw [ensuresFrom_bind]
    exact (ensuresFrom_true _ _).mono (fun _ hq => hq) fun _ _ _ =>
      ensuresFrom_pure.mpr (clean_ok id _)

theorem ensuresFrom_answered {α : Type} (action : Serving α) (f : α → Json) :
    EnsuresFrom (fun _ => True)
      (fun (r : Except RequestError Json) sessions' => (∃ e, r = .error e) → sessions' = sessions)
      sessions (do return .ok (f (← action))) := by
  rw [ensuresFrom_bind]
  exact (ensuresFrom_true _ _).mono (fun _ hq => hq) fun _ _ _ =>
    ensuresFrom_pure.mpr fun herror => absurd herror (not_exists_error _)

/-- The assistant refuses a request before it looks at any session. -/
theorem ensuresFrom_answer_error (request : InterpretRequest) :
    EnsuresFrom (fun _ => True)
      (fun r sessions' => (∃ e, r = .error e) → sessions' = sessions) sessions
      (answer request) := by
  unfold answer
  split
  · split
    · exact ensuresFrom_pure.mpr fun _ => rfl
    · exact ensuresFrom_answered _ _
  · exact ensuresFrom_answered _ _
  · exact ensuresFrom_answered _ _
  · exact ensuresFrom_answered _ _
  · exact ensuresFrom_answered _ _
  · exact ensuresFrom_answered _ _
  · exact ensuresFrom_answered _ _
  · exact ensuresFrom_pure.mpr fun _ => rfl

theorem clean_interpret (service : Service) (body : Json) :
    EnsuresFrom (fun _ => True) (Clean (.interpret body) sessions) sessions
      (service.interpret body) := by
  unfold interpret
  split
  · exact ensuresFrom_pure.mpr (clean_refl _ _ _)
  · split
    · rw [ensuresFrom_bind]
      refine (ensuresFrom_answer_error _).mono (fun _ hq => hq) fun r sessions' h => ?_
      cases r with
      | ok body => exact ensuresFrom_pure.mpr (clean_ok id _)
      | error e =>
          rw [h ⟨e, rfl⟩]
          exact ensuresFrom_pure.mpr (clean_refl _ _ _)
    · exact ensuresFrom_pure.mpr (clean_refl _ _ _)

theorem clean_upload {body : Json} (h : ¬ (Request.upload body).BreaksOff) :
    EnsuresFrom (fun _ => True) (Clean (.upload body) sessions) sessions (upload body) := by
  unfold upload
  cases hdecode : decodeBody UploadRequest.shape {} body with
  | error e => exact ensuresFrom_pure.mpr (clean_refl _ _ _)
  | ok request =>
      have hfiles : ¬ UploadPart.BreaksOff request.files := fun hbreaks =>
        h ⟨request, hdecode, hbreaks⟩
      dsimp only
      split
      · exact ensuresFrom_pure.mpr (clean_refl _ _ _)
      · rw [ensuresFrom_bind, Sessions.ensuresFrom_within]
        refine (Sessions.finds_getOrCreate _ _).mono (fun _ hq => hq) fun s hs => ?_
        rw [ensuresFrom_bind, ensuresFrom_get]
        refine (ensuresFrom_storeParts_error _ _).mono (fun _ hq => hq) fun r s' hr => ?_
        cases r with
        | error e =>
            rw [hr.2 ⟨e, rfl⟩ hfiles]
            exact ensuresFrom_pure.mpr fun _ => hs.untouched_insert
        | ok stored =>
            refine ensuresFrom_pure.mpr (clean_ok ?_ _)
            rintro ⟨request', hdecode', hunreadable⟩
            rw [hdecode] at hdecode'
            cases hdecode'
            exact not_exists_error _ (hr.1.mpr hunreadable)

/-- An upload that breaks off may leave a file behind that was not there. -/
theorem not_clean_upload {body : Json} (h : (Request.upload body).BreaksOff) :
    ¬ EnsuresFrom (fun _ => True) (Clean (.upload body) sessions) sessions (upload body) := by
  obtain ⟨request, hdecode, hbreaks⟩ := h
  have hfiles : ¬ request.files.isEmpty = true := by
    intro hempty
    rw [List.isEmpty_iff.mp hempty] at hbreaks
    exact hbreaks
  intro hclean
  unfold upload at hclean
  rw [hdecode] at hclean
  dsimp only at hclean
  rw [if_neg hfiles, ensuresFrom_bind, Sessions.ensuresFrom_within] at hclean
  -- Somebody names the session; its uploads are asked for a time that they do not know.
  obtain ⟨s, hs, hstore⟩ := ((sessions.finds_getOrCreate request.sessionId).and hclean).exists
  rw [ensuresFrom_bind, ensuresFrom_get] at hstore
  obtain ⟨time, hfresh⟩ := s.exists_not_holds
  obtain ⟨e, s', hreturn, hholds⟩ :=
    exists_mayReturn_storeParts (s := s) (uploadPath request s) time request.files (Or.inl hbreaks)
  have hunreadable := ((ensuresFrom_storeParts_error _ _).of_mayReturn hreturn).1.mp ⟨e, rfl⟩
  have huntouched := ensuresFrom_pure.mp (hstore.of_mayReturn hreturn)
    (Or.inr ⟨request, hdecode, hunreadable⟩) (Sessions.nameOf request.sessionId)
  rw [Sessions.insert, Keyed.find?_insert, if_pos rfl] at huntouched
  rcases huntouched with hfind | ⟨-, now, hnew⟩
  · rcases hs with hthere | ⟨hnone, -⟩
    · rw [hthere] at hfind
      cases hfind
      exact hfresh hholds
    · rw [hnone] at hfind
      cases hfind
  · cases hnew
    exact Sessions.not_holds_newSession hholds

/-- **A rejected request changes nothing, unless it is an upload that breaks off**: whoever answers,
each session that was there is as it was, and one that is there now is new. -/
theorem clean_serve_iff (service : Service) (sessions : Sessions) (request : Request) :
    EnsuresFrom (fun _ => True) (Clean request sessions) sessions (service.serve request) ↔
      ¬ request.BreaksOff := by
  cases request with
  | execute body => exact iff_of_true (clean_execute body) id
  | submit body => exact iff_of_true (clean_submit service body) id
  | interpret body => exact iff_of_true (clean_interpret service body) id
  | upload body => exact ⟨fun hclean hbreaks => not_clean_upload hbreaks hclean, clean_upload⟩
  | listUploads name =>
      refine iff_of_true ?_ id
      unfold serve listUploads
      rw [ensuresFrom_bind]
      exact (ensuresFrom_true _ _).mono (fun _ hq => hq) fun _ _ _ =>
        ensuresFrom_pure.mpr (clean_ok id _)
  | clearUploads name =>
      refine iff_of_true ?_ id
      unfold serve clearUploads
      rw [ensuresFrom_bind]
      exact (ensuresFrom_true _ _).mono (fun _ hq => hq) fun _ _ _ =>
        ensuresFrom_pure.mpr (clean_ok id _)

/-- An upload of a file and of another one that is no base64. -/
def halfReadable : Json :=
  .ofMembers [("files", .array [
    .ofMembers [("name", .string "a.txt"), ("content", .string "hello")],
    .ofMembers [
      ("name", .string "b"), ("content", .string "%%%"), ("encoding", .string "base64")]])]

/-- The demo after its first request. -/
def visitedDemo : Sessions :=
  freshDemo.insert Sessions.defaultName (freshDemo.newSession ⟨0⟩)

/-- The upload is rejected, and its first file is there. -/
theorem rejected_upload_stores :
    EnsuresFrom (fun _ => True)
      (fun r sessions' => r.status = 400 ∧
        Keyed.find? sessions'.table Sessions.defaultName
          ≠ Keyed.find? visitedDemo.table Sessions.defaultName)
      visitedDemo (plain.serve (.upload halfReadable)) := by
  have hfirst : UploadPart.decode { name := "a.txt", content := "hello" } = .ok "hello" := rfl
  have hbase64 : Base64.decode (Text.trim "%%%").toUTF8.toList = .error (.invalidSymbol 37 0) := by
    decide +kernel
  have hsecond : UploadPart.decode { name := "b", content := "%%%", encoding := some "base64" }
      = .error (.invalidContent "b" (.invalidSymbol 37 0)) := by
    unfold UploadPart.decode
    rw [if_pos rfl, hbase64]
  have hdecode : decodeBody UploadRequest.shape {} halfReadable = .ok
      { files := [{ name := "a.txt", content := "hello" },
          { name := "b", content := "%%%", encoding := some "base64" }] } := rfl
  have hthere : visitedDemo.getOrCreate none = done (freshDemo.newSession ⟨0⟩) := rfl
  unfold serve
  dsimp only
  unfold upload
  rw [hdecode]
  dsimp only
  rw [if_neg (by decide), ensuresFrom_bind, Sessions.ensuresFrom_within, hthere, ensures_done,
    ensuresFrom_bind, ensuresFrom_get, storeParts, hfirst]
  dsimp only
  rw [if_neg (by decide), ensuresFrom_bind, ensuresFrom_lift]
  refine (ensures_true _).mono (fun _ hq => hq) fun now _ => ?_
  rw [ensuresFrom_bind, ensuresFrom_get, ensuresFrom_bind, ensuresFrom_set, ensuresFrom_bind,
    storeParts, hsecond]
  refine ensuresFrom_pure.mpr (ensuresFrom_pure.mpr (ensuresFrom_pure.mpr ⟨rfl, fun hsame => ?_⟩))
  have hname : Sessions.nameOf none = Sessions.defaultName := rfl
  rw [Sessions.insert, Keyed.find?_insert, if_pos hname, visitedDemo, Sessions.insert,
    Keyed.find?_insert, if_pos rfl] at hsame
  have hnew : ¬ (freshDemo.newSession ⟨0⟩).Holds now := Sessions.not_holds_newSession
  refine hnew ?_
  rw [← Option.some.inj hsame]
  have hfile : ("a.txt" != "" && !"a.txt".toList.contains '/') = true := by decide
  exact holds_upload hfile

end Service

end PlainTerminal
