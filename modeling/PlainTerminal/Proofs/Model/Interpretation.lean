import PlainTerminal.Model.Interpretation
import PlainTerminal.Proofs.Json.Reading
import PlainTerminal.Proofs.Text.Words

/-!
# What is made of an answer in plain words

An answer is read from its first opening brace to its last closing one, whatever stands around. What
the object in it carries is said about the JSON that was read, not about the record it is decoded
into: which member stands under a name. The commands are cleaned of blanks before they are counted,
so a plan of several blank steps is no plan at all.
-/

namespace PlainTerminal

open Json (Document Decoder)

namespace Interpretation

/-! ## The object in a text -/

section Object

variable {text object s : List Char} {c : Char}

theorem fromFirst_eq_iff {opened : List Char} (hne : opened ≠ []) :
    fromFirst c s = opened ↔ ∃ front, s = front ++ opened ∧ c ∉ front ∧ opened.head? = some c := by
  constructor
  · rintro rfl
    refine ⟨s.takeWhile (· ≠ c), (List.takeWhile_append_dropWhile).symm, ?_, ?_⟩
    · intro hc
      have := List.mem_takeWhile_imp hc
      simp at this
    · obtain ⟨d, rest, hopened⟩ := List.exists_cons_of_ne_nil hne
      have hstop := List.head?_dropWhile_not (fun x => decide (x ≠ c)) s
      unfold fromFirst at hopened ⊢
      rw [hopened] at hstop ⊢
      simpa using hstop
  · rintro ⟨front, rfl, hfront, hhead⟩
    obtain ⟨rest, rfl⟩ := List.head?_eq_some_iff.mp hhead
    unfold fromFirst
    rw [List.dropWhile_append_of_pos, List.dropWhile_cons_of_neg (by simp)]
    intro d hd
    exact decide_eq_true fun heq => hfront (heq ▸ hd)

theorem toLast_eq_iff (hne : object ≠ []) :
    toLast c s = object ↔ ∃ back, s = object ++ back ∧ c ∉ back ∧ object.getLast? = some c := by
  unfold toLast
  rw [List.reverse_eq_iff, fromFirst_eq_iff (by simpa using hne)]
  constructor
  · rintro ⟨back, hs, hback, hlast⟩
    refine ⟨back.reverse, ?_, by simpa using hback, by simpa using hlast⟩
    rw [← List.reverse_reverse s, hs, List.reverse_append, List.reverse_reverse]
  · rintro ⟨back, rfl, hback, hlast⟩
    exact ⟨back.reverse, List.reverse_append, by simpa using hback, by simpa using hlast⟩

/-- From an opening brace to a closing one. -/
structure Braced (object : List Char) : Prop where
  opened : object.head? = some '\x7b'
  closed : object.getLast? = some '\x7d'

theorem Braced.ne_nil (h : Braced object) : object ≠ [] := by
  rintro rfl
  cases h.opened

/-- The widest part of a text from an opening brace to a closing one. -/
def Widest (text object : List Char) : Prop :=
  ∃ front back, text = front ++ object ++ back ∧ '\x7b' ∉ front ∧ Braced object ∧ '\x7d' ∉ back

theorem widest_self (h : Braced object) : Widest object object :=
  ⟨[], [], (List.append_nil object).symm, List.not_mem_nil, h, List.not_mem_nil⟩

theorem objectIn?_eq_some : objectIn? text = some object ↔
    object ≠ [] ∧ toLast '\x7d' (fromFirst '\x7b' text) = object := by
  unfold objectIn?
  split
  · rename_i hnone
    rw [hnone]
    exact ⟨nofun, fun ⟨hne, heq⟩ => absurd heq.symm hne⟩
  · split
    · rename_i hnone
      rw [hnone]
      exact ⟨nofun, fun ⟨hne, heq⟩ => absurd heq.symm hne⟩
    · rename_i hne
      exact ⟨fun h => Option.some.inj h ▸ ⟨hne, rfl⟩, fun h => congrArg some h.2⟩

/-- The object is found exactly where it is. -/
theorem objectIn?_eq_some_iff : objectIn? text = some object ↔ Widest text object := by
  rw [objectIn?_eq_some]
  constructor
  · rintro ⟨hne, hobject⟩
    obtain ⟨back, hopened, hback, hlast⟩ := (toLast_eq_iff hne).mp hobject
    have hopened_ne : fromFirst '\x7b' text ≠ [] := by
      rw [hopened]
      exact List.append_ne_nil_of_left_ne_nil hne back
    obtain ⟨front, htext, hfront, hhead⟩ := (fromFirst_eq_iff hopened_ne).mp rfl
    rw [hopened] at htext hhead
    rw [List.head?_append_of_ne_nil object hne] at hhead
    exact ⟨front, back, by rw [htext, List.append_assoc], hfront, ⟨hhead, hlast⟩, hback⟩
  · rintro ⟨front, back, rfl, hfront, hbraced, hback⟩
    have hne := hbraced.ne_nil
    have hopened : fromFirst '\x7b' (front ++ object ++ back) = object ++ back := by
      refine (fromFirst_eq_iff (List.append_ne_nil_of_left_ne_nil hne back)).mpr
        ⟨front, List.append_assoc .., hfront, ?_⟩
      rw [List.head?_append_of_ne_nil object hne]
      exact hbraced.opened
    rw [hopened]
    exact ⟨hne, (toLast_eq_iff hne).mpr ⟨back, rfl, hback, hbraced.closed⟩⟩

theorem Widest.unique {text object object' : String}
    (h : Widest text.toList object.toList) (h' : Widest text.toList object'.toList) :
    object = object' := by
  have heq := (objectIn?_eq_some_iff.mpr h).symm.trans (objectIn?_eq_some_iff.mpr h')
  exact String.toList_inj.mp (Option.some.inj heq)

end Object

/-! ## What the object carries -/

/-- The member of a name in an object. -/
def member? (name : String) : Document → Option Document
  | .object members _ => members.lookup (some name)
  | _ => none

/-- Texts under a name, or none when nothing stands there. -/
def AreTexts (member : Option Document) (texts : List String) : Prop :=
  match member with
  | none => texts = []
  | some d => d = .ofValue (.ofTexts texts)

/-- A flag under a name, not set when nothing stands there. -/
def IsFlag (member : Option Document) (flag : Bool) : Prop :=
  match member with
  | none => flag = false
  | some d => d = .bool flag

/-- A number under a name, or `null`, or nothing. -/
def IsConfidence (member : Option Document) (confidence : Option Float) : Prop :=
  match member with
  | none => confidence = none
  | some d => (d = .null ∧ confidence = none) ∨
      ∃ n, d = .number (some n) ∧ confidence = some n.toFloat

/-- The object carries these commands, this flag and this confidence. -/
structure Carries (object : Document) (commands : List String) (flag : Bool)
    (confidence : Option Float) : Prop where
  commands : AreTexts (member? "commands" object) commands
  flag : IsFlag (member? "isComplex" object) flag
  confidence : IsConfidence (member? "confidence" object) confidence

theorem stores_commands : Reply.shape.Stores "commands" (.list .string) Reply.commands := by
  refine .of_optional (a := []) rfl (fun _ _ => rfl) ?_
  simp only [List.nil_append, List.forall_mem_cons]
  exact ⟨⟨by decide, .of_optional fun _ _ => rfl⟩, ⟨by decide, .of_optional fun _ _ => rfl⟩,
    ⟨by decide, .of_optional fun _ _ => rfl⟩, nofun⟩

theorem stores_confidence :
    Reply.shape.Stores "confidence" (.optional .float) Reply.confidence := by
  refine .of_optional (a := [_, _]) rfl (fun _ _ => rfl) ?_
  simp only [List.cons_append, List.nil_append, List.forall_mem_cons]
  exact ⟨⟨by decide, .of_optional fun _ _ => rfl⟩, ⟨by decide, .of_optional fun _ _ => rfl⟩,
    ⟨by decide, .of_optional fun _ _ => rfl⟩, nofun⟩

theorem stores_isComplex : Reply.shape.Stores "isComplex" .bool Reply.isComplex := by
  refine .of_optional (a := [_, _, _]) rfl (fun _ _ => rfl) ?_
  simp only [List.cons_append, List.nil_append, List.forall_mem_cons]
  exact ⟨⟨by decide, .of_optional fun _ _ => rfl⟩, ⟨by decide, .of_optional fun _ _ => rfl⟩,
    ⟨by decide, .of_optional fun _ _ => rfl⟩, nofun⟩

section Reading

variable {member : Option Document} {members : List (Option String × Document)} {complete : Bool}
  {reply : Reply} {seen : List String} {commands : List String} {flag : Bool}
  {confidence : Option Float}

theorem areTexts_iff : AreTexts member commands ↔
    match member with
    | none => commands = []
    | some d => Decoder.list .string d = .ok commands := by
  cases member with
  | none => exact Iff.rfl
  | some d => exact Decoder.list_string_eq_ok.symm

theorem isFlag_iff : IsFlag member flag ↔
    match member with
    | none => flag = false
    | some d => Decoder.bool d = .ok flag := by
  cases member with
  | none => exact Iff.rfl
  | some d => exact Decoder.bool_eq_ok.symm

theorem isConfidence_iff : IsConfidence member confidence ↔
    match member with
    | none => confidence = none
    | some d => Decoder.optional .float d = .ok confidence := by
  cases member with
  | none => exact Iff.rfl
  | some d =>
      dsimp only [IsConfidence]
      rw [Decoder.optional_eq_ok]
      refine or_congr_right ?_
      constructor
      · rintro ⟨n, rfl, hn⟩
        exact ⟨nofun, n.toFloat, Decoder.float_eq_ok.mpr ⟨n, rfl, rfl⟩, hn⟩
      · rintro ⟨-, x, hx, hconfidence⟩
        obtain ⟨n, rfl, rfl⟩ := Decoder.float_eq_ok.mp hx
        exact ⟨n, rfl, hconfidence⟩

/-- An object carries just what it is decoded into. -/
theorem carries_iff (hok : Reply.shape.ofMembers {} [] members = .ok (reply, seen)) :
    Carries (.object members complete) commands flag confidence ↔
      commands = reply.commands ∧ flag = reply.isComplex ∧ confidence = reply.confidence := by
  have hcommands : AreTexts (member? "commands" (.object members complete)) commands ↔
      commands = reply.commands := areTexts_iff.trans (stores_commands.eq_iff hok)
  have hflag : IsFlag (member? "isComplex" (.object members complete)) flag ↔
      flag = reply.isComplex := isFlag_iff.trans (stores_isComplex.eq_iff hok)
  have hconfidence : IsConfidence (member? "confidence" (.object members complete)) confidence ↔
      confidence = reply.confidence := isConfidence_iff.trans (stores_confidence.eq_iff hok)
  rw [← hcommands, ← hflag, ← hconfidence]
  exact ⟨fun h => ⟨h.commands, h.flag, h.confidence⟩, fun h => ⟨h.1, h.2.1, h.2.2⟩⟩

end Reading

/-! ## What is made of it -/

/-- A number moved into the range from zero to one. -/
inductive Clamped (x : Float) : Float → Prop where
  | low : x < 0 → Clamped x 0
  | high : 1 < x → Clamped x 1
  | inside : 0 ≤ x → x ≤ 1 → Clamped x x

theorem clamped_clampConfidence {x : Float} (hx : x.isFinite = true) :
    Clamped x (clampConfidence x) := by
  unfold clampConfidence
  rw [hx]
  split
  · rename_i hnot
    cases hnot
  · split
    · rename_i hlow
      exact .low hlow
    · rename_i hlow
      split
      · rename_i hhigh
        exact .high hhigh
      · rename_i hhigh
        exact .inside (Json.le_of_not_lt hx (by decide) hlow)
          (Json.le_of_not_lt (by decide) hx hhigh)

/-- The interpretation is made of these commands, this flag and this confidence. -/
structure MadeOf (i : Interpretation) (commands : List String) (flag : Bool)
    (confidence : Option Float) : Prop where
  commands : i.commands = (commands.filter fun c => !Text.isBlankText c).map Text.trim
  isComplex : i.isComplex = true ↔
    1 < i.commands.length ∨ (flag = true ∧ 1 ≤ i.commands.length)
  confidence : match confidence with
    | none => i.confidence = 0.5
    | some x => Clamped x i.confidence

theorem commands_ofReply (reply : Reply) : (ofReply reply).commands =
    (reply.commands.filter fun c => !Text.isBlankText c).map Text.trim := by
  unfold ofReply
  dsimp only
  rw [List.filter_map]
  congr 1
  refine List.filter_congr fun c _ => ?_
  rw [Function.comp_apply, Bool.eq_iff_iff, decide_eq_true_iff, Bool.not_eq_true',
    ← Bool.not_eq_true, not_iff_not]
  exact Text.trim_eq_empty_iff

theorem madeOf_ofReply {reply : Reply}
    (hfinite : ∀ x, reply.confidence = some x → x.isFinite = true) :
    (ofReply reply).MadeOf reply.commands reply.isComplex reply.confidence where
  commands := commands_ofReply reply
  isComplex := by
    show (decide (1 < (ofReply reply).commands.length) ||
      (reply.isComplex && !(ofReply reply).commands.isEmpty)) = true ↔ _
    rw [Bool.or_eq_true, Bool.and_eq_true, decide_eq_true_iff, Bool.not_eq_true',
      ← Bool.not_eq_true, List.isEmpty_iff, ← ne_eq, ← List.length_pos_iff]
    exact Iff.rfl
  confidence := by
    show match reply.confidence with
      | none => (reply.confidence.map clampConfidence).getD 0.5 = 0.5
      | some x => Clamped x ((reply.confidence.map clampConfidence).getD 0.5)
    cases hx : reply.confidence with
    | none => rfl
    | some x => exact clamped_clampConfidence (hfinite x hx)

theorem isFinite_of_isConfidence {members : List (Option String × Document)} {x : Float}
    (hnumbers : Document.FiniteNumbers members)
    (h : IsConfidence (members.lookup (some "confidence")) (some x)) : x.isFinite = true := by
  cases hmember : members.lookup (some "confidence") with
  | none =>
      rw [hmember] at h
      cases h
  | some d =>
      rw [hmember] at h
      obtain ⟨-, ⟨⟩⟩ | ⟨n, rfl, hx⟩ := h
      obtain ⟨before, after, rfl, -⟩ := List.lookup_eq_some_iff.mp hmember
      rw [Option.some.inj hx]
      exact hnumbers (some "confidence") n List.mem_append_cons_self

/-- An answer that is accepted has an object in it that can be decoded. -/
theorem parse_cases {text : String} {i : Interpretation} (h : parse text = .ok i) :
    ∃ object members complete reply seen, Widest text.toList object.toList ∧
      (Document.ofText object).document = .object members complete ∧
      Reply.shape.ofMembers {} [] members = .ok (reply, seen) ∧
      (∀ x, reply.confidence = some x → x.isFinite = true) ∧ i = ofReply reply := by
  unfold parse at h
  split at h
  · cases h
  · rename_i object hobject
    split at h
    · cases h
    · rename_i reply hdecoded
      cases h
      have hwidest := objectIn?_eq_some_iff.mp hobject
      have hbraced : Braced object := by
        obtain ⟨-, -, -, -, hbraced, -⟩ := hwidest
        exact hbraced
      obtain ⟨rest, hrest⟩ := List.head?_eq_some_iff.mp hbraced.opened
      have hdocument := (Json.decodeText_eq_ok.mp hdecoded).1
      -- What is decoded begins with a brace, so it is an object with names or nothing at all.
      obtain ⟨members, complete, hmembers, hnumbers⟩ | ⟨name, hmisnamed⟩ :=
        @Document.ofText_brace (String.ofList object) rest (by rw [String.toList_ofList, hrest])
      · rw [hmembers] at hdocument
        obtain ⟨seen, hok⟩ := Json.RecordShape.ofMembers_of_decoder hdocument
        refine ⟨String.ofList object, members, complete, reply, seen,
          by rwa [String.toList_ofList], hmembers, hok, fun x hx => ?_, rfl⟩
        have hcarries := (@carries_iff members complete reply seen _ _ _ hok).mpr ⟨rfl, rfl, rfl⟩
        exact isFinite_of_isConfidence hnumbers (hx ▸ hcarries.confidence)
      · rw [hmisnamed] at hdocument
        cases hdocument

/-- **The object alone decides what an answer means, and what it carries is cleaned up.** What
stands around the object is of no matter; an answer that is accepted has an object in it; and what
is made of the answer is made of what that object carries. -/
theorem parse_object :
    (∀ front object back : String, '\x7b' ∉ front.toList → Braced object.toList →
      '\x7d' ∉ back.toList → parse (front ++ object ++ back) = parse object) ∧
    (∀ (text : String) (i : Interpretation), parse text = .ok i →
      ∃ object : String, Widest text.toList object.toList ∧ ∃ commands flag confidence,
        Carries (Document.ofText object).document commands flag confidence) ∧
    ∀ (text object : String) (i : Interpretation) (commands : List String) (flag : Bool)
      (confidence : Option Float), parse text = .ok i → Widest text.toList object.toList →
        Carries (Document.ofText object).document commands flag confidence →
          i.MadeOf commands flag confidence := by
  refine ⟨?_, ?_, ?_⟩
  · intro front object back hfront hbraced hback
    have hwide : objectIn? (front ++ object ++ back).toList = some object.toList :=
      objectIn?_eq_some_iff.mpr ⟨front.toList, back.toList, by
        rw [String.toList_append, String.toList_append], hfront, hbraced, hback⟩
    have hself : objectIn? object.toList = some object.toList :=
      objectIn?_eq_some_iff.mpr (widest_self hbraced)
    rw [parse, parse, hwide, hself]
  · intro text i h
    obtain ⟨object, members, complete, reply, seen, hwidest, hdocument, hok, -, -⟩ := parse_cases h
    refine ⟨object, hwidest, reply.commands, reply.isComplex, reply.confidence, ?_⟩
    rw [hdocument]
    exact (carries_iff hok).mpr ⟨rfl, rfl, rfl⟩
  · intro text object i commands flag confidence h hwidest hcarries
    obtain ⟨object', members, complete, reply, seen, hwidest', hdocument, hok, hfinite, rfl⟩ :=
      parse_cases h
    obtain rfl := hwidest.unique hwidest'
    rw [hdocument] at hcarries
    obtain ⟨rfl, rfl, rfl⟩ := (carries_iff hok).mp hcarries
    exact madeOf_ofReply hfinite

/-- A plan of one step, with a blank one behind it and a confidence that is too large. -/
def overconfident : String :=
  "\x7b\"commands\":[\" ls \",\" \"],\"isComplex\":true,\"confidence\":2\x7d"

/-- It is accepted, with words around it or without. -/
theorem parse_object_between_words :
    parse ("Sure: " ++ overconfident ++ " Done.") = parse overconfident ∧
      parse overconfident = .ok ⟨["ls"], "", 1, true⟩ ∧
      Carries (Document.ofText overconfident).document [" ls ", " "] true
        (some (Float.ofInt 2)) ∧
      (⟨["ls"], "", 1, true⟩ : Interpretation).MadeOf [" ls ", " "] true
        (some (Float.ofInt 2)) := by
  have hbraced : Braced overconfident.toList := ⟨rfl, rfl⟩
  have haccepted : parse overconfident = .ok ⟨["ls"], "", 1, true⟩ := rfl
  have hcarries : Carries (Document.ofText overconfident).document [" ls ", " "] true
      (some (Float.ofInt 2)) := ⟨rfl, rfl, .inr ⟨.int 2, rfl, rfl⟩⟩
  exact ⟨parse_object.1 "Sure: " overconfident " Done." (by decide) hbraced (by decide),
    haccepted, hcarries,
    parse_object.2.2 overconfident overconfident _ _ _ _ haccepted (widest_self hbraced) hcarries⟩

end Interpretation

end PlainTerminal
