import PlainTerminal.Json.Decode
import PlainTerminal.Proofs.Json.Doubles

/-!
# What is read and what is decoded

Three things that hold of every text in JSON, whatever record it is read for. Each number that is
read is finite, since one that is too large has no value. What begins with a brace is read as an
object or not at all. And an object that is decoded into a record carries each part of the record
under one name, once: `Stores` says that a field of the shape is such a part.
-/

namespace PlainTerminal.Json

/-! ## Numbers -/

/-- A number as a double. -/
def Number.toFloat : Number → Float
  | .int n => Float.ofInt n
  | .float x => x

namespace Numeral

theorem isPower_scale {exponent : Int} (h : exponent.natAbs ≤ maxPower.natAbs) :
    IsPower (Float.ofScientific 1 false exponent.natAbs) :=
  isPower_powers (Nat.lt_succ_iff.mpr h)

theorem small_scale {bound : Nat} {x y : Float} {exponent : Int} {steps : Nat} (hx : Small bound x)
    (hbound : bound + 53 * (steps + 1) ≤ 971) (h : scale x exponent steps = some y) :
    Small 971 y := by
  -- Each step may make the number larger by 53 places, and there is room for all of them.
  induction steps generalizing x bound exponent with
  | zero =>
      cases h
      exact hx.mono (by omega)
  | succ steps ih =>
      unfold scale at h
      split at h
      · rename_i hpower
        dsimp only at h
        split at h
        · split at h
          · cases h
          · rename_i hfinite
            cases h
            exact hx.mul_of_not_isInf (isPower_scale hpower).small
              (Bool.eq_false_iff.mpr hfinite)
        · cases h
          exact (hx.div (isPower_scale hpower) (by omega)).mono (by omega)
      · split at h
        · cases h
          exact hx.mono (by omega)
        · split at h
          · cases h
          · exact ih (hx.div (isPower_scale (Nat.le_refl _)) (by omega)) (by omega) h

theorem readWhole_le (digits : List Char) {significand dropped : Nat}
    (h : significand ≤ maxSignificand) :
    (readWhole significand dropped digits).1 ≤ maxSignificand := by
  induction digits generalizing significand dropped with
  | nil => exact h
  | cons c rest ih =>
      unfold readWhole
      split
      · rename_i hfits
        exact ih hfits.2
      · exact h

theorem readFraction_le (digits : List Char) {significand taken : Nat}
    (h : significand ≤ maxSignificand) :
    (readFraction significand taken digits).1 ≤ maxSignificand := by
  induction digits generalizing significand taken with
  | nil => exact h
  | cons c rest ih =>
      unfold readFraction
      split
      · rename_i hfits
        exact ih hfits
      · exact h

theorem small_floatValue {n : Numeral} {x : Float} (h : n.floatValue = some x) : Small 971 x := by
  obtain ⟨y, hscale, rfl⟩ := Option.map_eq_some_iff.mp h
  have hwhole : (readWhole 0 0 n.whole).1 ≤ maxSignificand := readWhole_le n.whole (Nat.zero_le _)
  have hsignificand : (readFraction (readWhole 0 0 n.whole).1 0 (n.fraction.getD [])).1 ≤
      maxSignificand := readFraction_le _ hwhole
  have hy : Small 971 y :=
    small_scale (small_ofNat (Nat.lt_succ_iff.mpr hsignificand)) (by decide) hscale
  split
  · exact hy.neg (Nat.le_refl _)
  · exact hy

/-- A number too large for a double has no value, so every value is finite. -/
theorem isFinite_value {n : Numeral} {v : Number} (h : n.value = some v) :
    v.toFloat.isFinite = true := by
  have hfloat (hv : n.floatValue.map .float = some v) : v.toFloat.isFinite = true := by
    obtain ⟨x, hx, rfl⟩ := Option.map_eq_some_iff.mp hv
    exact (small_floatValue hx).isFinite
  unfold value at h
  dsimp only at h
  split at h
  · split at h
    · split at h
      · exact hfloat h
      · rename_i hmagnitude
        have hsize : digitsValue n.whole < 2 ^ 64 := by
          have : UInt64.size = 2 ^ 64 := rfl
          omega
        cases h
        exact (small_ofInt_neg hsize).isFinite
    · split at h
      · rename_i hmagnitude
        cases h
        exact (small_ofNat (Nat.lt_succ_iff.mpr hmagnitude)).isFinite
      · exact hfloat h
  · exact hfloat h

end Numeral

/-! ## Documents -/

namespace Document

variable {fuel : Nat} {s : List Char}

theorem isFinite_read {n : Number} (h : (read fuel s).1 = .number (some n)) :
    n.toFloat.isFinite = true := by
  cases fuel with
  | zero => cases h
  | succ fuel =>
      unfold read at h
      split at h
      · cases h
      · split at h
        · cases h
        · cases h
      · split at h
        · cases h
        · cases h
      · split at h
        · cases h
        · cases h
        · cases h
      · split at h
        · injection h with hvalue
          exact Numeral.isFinite_value hvalue
        · cases h
      · split at h
        · cases h
        · cases h
        · cases h
        · split at h
          · injection h with hvalue
            exact Numeral.isFinite_value hvalue
          · cases h

/-- Every number that stands under a name is finite. -/
def FiniteNumbers (members : List (Option String × Document)) : Prop :=
  ∀ name n, (name, .number (some n)) ∈ members → n.toFloat.isFinite = true

theorem isFinite_readMembers {name : Option String} {n : Number}
    (h : (name, .number (some n)) ∈ (readMembers fuel s).1) : n.toFloat.isFinite = true := by
  induction fuel generalizing s with
  | zero => cases h
  | succ fuel ih =>
      have hread {member : Option String} {value : Document} {s : List Char}
          {rest : Option (List Char)} (hr : read fuel s = (value, rest))
          (heq : (name, .number (some n)) = (member, value)) : n.toFloat.isFinite = true := by
        obtain ⟨-, rfl⟩ := Prod.mk.inj heq
        exact isFinite_read (congrArg Prod.fst hr)
      -- However the reading of the members ends, the first one is what was read here, and the
      -- others are those of the rest.
      unfold readMembers at h
      split at h
      · split at h
        · split at h
          · split at h
            · rename_i hr
              exact hread hr (List.mem_singleton.mp h)
            · rename_i hr
              split at h
              · rcases List.mem_cons.mp h with hfirst | hrest
                · exact hread hr hfirst
                · exact ih hrest
              · exact hread hr (List.mem_singleton.mp h)
              · exact hread hr (List.mem_singleton.mp h)
          · cases (Prod.mk.inj (List.mem_singleton.mp h)).2
        · cases h
      · cases h

/-- What begins with a brace is an object, or breaks off where a name should stand. -/
theorem read_brace (fuel : Nat) (s : List Char) :
    (∃ members complete, (read (fuel + 1) ('\x7b' :: s)).1 = .object members complete ∧
      FiniteNumbers members) ∨
    ∃ name, (read (fuel + 1) ('\x7b' :: s)).1 = .misnamed name := by
  have hskip : skipBlanks ('\x7b' :: s) = '\x7b' :: s := rfl
  simp only [read, hskip]
  split
  · exact .inl ⟨[], true, rfl, nofun⟩
  · exact .inl ⟨_, _, rfl, fun _ _ h => isFinite_readMembers h⟩
  · exact .inr ⟨_, rfl⟩

theorem ofText_brace {text : String} {s : List Char} (h : text.toList = '\x7b' :: s) :
    (∃ members complete, (ofText text).document = .object members complete ∧
      FiniteNumbers members) ∨
    ∃ name, (ofText text).document = .misnamed name := by
  have hdocument : (ofText text).document =
      (read (2 * text.toList.length + 1 + 1) ('\x7b' :: s)).1 := by
    rw [← h]
    unfold ofText
    dsimp only
    split
    · rename_i hread
      rw [hread]
    · rename_i hread
      rw [hread]
  rw [hdocument]
  exact read_brace _ s

end Document

/-! ## Records -/

theorem map_eq_ok {α β : Type} {decoded : Except DecodeError α} {f : α → β} {value : β} :
    decoded.map f = .ok value ↔ ∃ v, decoded = .ok v ∧ f v = value := by
  cases decoded with
  | error e => exact ⟨nofun, nofun⟩
  | ok v =>
      refine ⟨fun h => ⟨v, rfl, Except.ok.inj h⟩, ?_⟩
      rintro ⟨_, ⟨⟩, rfl⟩
      rfl

/-- Storing a member in this field leaves a part of the record as it is. -/
def Field.Keeps {ρ α : Type} (field : Field ρ) (get : ρ → α) : Prop :=
  ∀ r d r', field.store r d = .ok r' → get r' = get r

theorem Field.Keeps.of_optional {ρ α β : Type} {name : String} {decode : Decoder α}
    {set : ρ → α → ρ} {get : ρ → β} (h : ∀ r v, get (set r v) = get r) :
    (Field.optional name decode set).Keeps get := by
  intro r d r' hok
  obtain ⟨v, -, rfl⟩ := map_eq_ok.mp hok
  exact h r v

namespace RecordShape

variable {ρ α : Type} {shape : RecordShape ρ} {name : String} {decode : Decoder α} {get : ρ → α}
  {record : ρ} {seen : List String} {members : List (Option String × Document)}
  {result : ρ × List String}

/-- A part of a record that one field stores, and that no other field touches. -/
structure Stores (shape : RecordShape ρ) (name : String) (decode : Decoder α) (get : ρ → α) :
    Prop where
  known : ∃ field ∈ shape.fields, field.name = name
  own : ∀ field ∈ shape.fields, field.name = name → ∀ r d r', field.store r d = .ok r' →
    decode d = .ok (get r')
  other : ∀ field ∈ shape.fields, field.name ≠ name → field.Keeps get

theorem Stores.of_optional {set : ρ → α → ρ} {a b : List (Field ρ)}
    (hfields : shape.fields = a ++ .optional name decode set :: b)
    (hset : ∀ r v, get (set r v) = v)
    (hothers : ∀ field ∈ a ++ b, field.name ≠ name ∧ field.Keeps get) :
    shape.Stores name decode get where
  known := ⟨_, hfields ▸ List.mem_append_cons_self, rfl⟩
  own := by
    intro field hfield hname r d r' hok
    rw [hfields, List.mem_append, List.mem_cons, or_left_comm, ← List.mem_append] at hfield
    obtain rfl | hother := hfield
    · obtain ⟨v, hv, rfl⟩ := map_eq_ok.mp hok
      rw [hset]
      exact hv
    · exact absurd hname (hothers field hother).1
  other := by
    intro field hfield hname
    rw [hfields, List.mem_append, List.mem_cons, or_left_comm, ← List.mem_append] at hfield
    obtain rfl | hother := hfield
    · exact absurd rfl hname
    · exact (hothers field hother).2

/-- A member that nobody asked for is passed over; every other one is stored, if it is the first
of its name. -/
theorem ofMembers_cons {key : String} {value : Document}
    (hok : shape.ofMembers record seen ((some key, value) :: members) = .ok result) :
    ((∀ field ∈ shape.fields, field.name ≠ key) ∧
        shape.ofMembers record seen members = .ok result) ∨
      ∃ field ∈ shape.fields, field.name = key ∧ key ∉ seen ∧
        ∃ stored, field.store record value = .ok stored ∧
          shape.ofMembers stored (key :: seen) members = .ok result := by
  unfold RecordShape.ofMembers at hok
  split at hok
  · rename_i hunknown
    split at hok
    · refine .inl ⟨fun field hfield hname => ?_, hok⟩
      exact List.find?_eq_none.mp hunknown field hfield (beq_iff_eq.mpr hname)
    · cases hok
  · rename_i field hfound
    split at hok
    · cases hok
    · rename_i hnew
      have hname := List.find?_some hfound
      refine .inr ⟨field, List.mem_of_find?_eq_some hfound, beq_iff_eq.mp hname,
        fun hseen => hnew (List.contains_iff_mem.mpr hseen), ?_⟩
      cases hstored : field.store record value with
      | error e =>
          rw [hstored] at hok
          cases hok
      | ok stored =>
          rw [hstored] at hok
          exact ⟨stored, rfl, hok⟩

/-- No field is given a second time. -/
theorem lookup_eq_none_of_mem_seen (hknown : ∃ field ∈ shape.fields, field.name = name)
    (hseen : name ∈ seen) (hok : shape.ofMembers record seen members = .ok result) :
    members.lookup (some name) = none := by
  induction members generalizing record seen with
  | nil => rfl
  | cons member members ih =>
      obtain ⟨key, value⟩ := member
      cases key with
      | none => cases hok
      | some key =>
          have hrest : some name ≠ some key → members.lookup (some name) = none →
              ((some key, value) :: members).lookup (some name) = none := by
            intro hne hnone
            rw [List.lookup_cons, beq_false_of_ne hne]
            exact hnone
          obtain ⟨hunknown, hok⟩ | ⟨field, hfield, hkey, hnew, stored, -, hok⟩ :=
            ofMembers_cons hok
          · obtain ⟨field, hfield, hname⟩ := hknown
            refine hrest ?_ (ih hseen hok)
            rintro ⟨⟩
            exact hunknown field hfield hname
          · refine hrest ?_ (ih (List.mem_cons_of_mem key hseen) hok)
            rintro ⟨⟩
            exact hnew hseen

/-- A part is what the member of its name says, and without one it stays as it was. -/
theorem Stores.ofMembers (h : shape.Stores name decode get)
    (hok : shape.ofMembers record seen members = .ok result) :
    match members.lookup (some name) with
    | none => get result.1 = get record
    | some d => decode d = .ok (get result.1) := by
  induction members generalizing record seen with
  | nil =>
      cases hok
      rfl
  | cons member members ih =>
      obtain ⟨key, value⟩ := member
      cases key with
      | none => cases hok
      | some key =>
          rw [List.lookup_cons]
          obtain ⟨hunknown, hok⟩ | ⟨field, hfield, rfl, -, stored, hstored, hok⟩ :=
            ofMembers_cons hok
          · obtain ⟨field, hfield, hname⟩ := h.known
            have hne : name ≠ key := fun hkey => hunknown field hfield (hname.trans hkey)
            rw [beq_false_of_ne (mt Option.some.inj hne)]
            exact ih hok
          · by_cases hname : field.name = name
            · -- This is the member; a second one of its name would have been an error.
              subst hname
              rw [beq_self_eq_true]
              have hkept := ih hok
              rw [lookup_eq_none_of_mem_seen h.known List.mem_cons_self hok] at hkept
              show decode value = .ok (get result.1)
              rw [hkept]
              exact h.own field hfield rfl _ _ _ hstored
            · rw [beq_false_of_ne (mt Option.some.inj (Ne.symm hname)),
                ← h.other field hfield hname _ _ _ hstored]
              exact ih hok

/-- Only one value of a part is carried by an object that is decoded. -/
theorem Stores.eq_iff (h : shape.Stores name decode get)
    (hok : shape.ofMembers record seen members = .ok result) {value : α} :
    (match members.lookup (some name) with
      | none => value = get record
      | some d => decode d = .ok value) ↔ value = get result.1 := by
  have hpart := h.ofMembers hok
  generalize members.lookup (some name) = member at hpart ⊢
  cases member with
  | none =>
      dsimp only at hpart ⊢
      rw [hpart]
  | some d =>
      dsimp only at hpart ⊢
      rw [hpart]
      exact ⟨fun heq => (Except.ok.inj heq).symm, fun heq => congrArg Except.ok heq.symm⟩

/-- What an object is decoded into comes of its members alone. -/
theorem ofMembers_of_decoder {origin : Origin} {complete : Bool} {start decoded : ρ}
    (hok : shape.decoder origin start (.object members complete) = .ok decoded) :
    ∃ seen, shape.ofMembers start [] members = .ok (decoded, seen) := by
  unfold RecordShape.decoder at hok
  dsimp only at hok
  cases hmembers : shape.ofMembers start [] members with
  | error e =>
      rw [hmembers] at hok
      cases hok
  | ok result =>
      obtain ⟨stored, seen⟩ := result
      rw [hmembers] at hok
      refine ⟨seen, ?_⟩
      change (if !complete then _ else _) = _ at hok
      split at hok
      · cases hok
      · split at hok
        · cases hok
        · cases hok
          rfl

end RecordShape

/-! ## Decoders -/

namespace Decoder

variable {α : Type} {d : Document}

theorem mismatch_ne_ok {expected : String} {value : α} : mismatch expected d ≠ .ok value := by
  unfold mismatch
  split <;> nofun

theorem string_eq_ok {s : String} : string d = .ok s ↔ d = .string (some s) := by
  unfold string
  split
  · simp
  · rename_i hother
    exact ⟨fun h => absurd h mismatch_ne_ok, fun h => absurd h (hother s)⟩

theorem bool_eq_ok {b : Bool} : bool d = .ok b ↔ d = .bool b := by
  unfold bool
  split
  · simp
  · rename_i hother
    exact ⟨fun h => absurd h mismatch_ne_ok, fun h => absurd h (hother b)⟩

theorem float_eq_ok {x : Float} :
    float d = .ok x ↔ ∃ n, d = .number (some n) ∧ x = n.toFloat := by
  unfold float
  split
  · rename_i n
    refine ⟨fun h => ⟨.int n, rfl, (Except.ok.inj h).symm⟩, ?_⟩
    rintro ⟨_, ⟨⟩, rfl⟩
    rfl
  · rename_i y
    refine ⟨fun h => ⟨.float y, rfl, (Except.ok.inj h).symm⟩, ?_⟩
    rintro ⟨_, ⟨⟩, rfl⟩
    rfl
  · rename_i hint hfloat
    refine ⟨fun h => absurd h mismatch_ne_ok, ?_⟩
    rintro ⟨n, rfl, -⟩
    cases n with
    | int n => exact absurd rfl (hint n)
    | float y => exact absurd rfl (hfloat y)

/-- A list is a whole array. -/
theorem list_eq_ok {decode : Decoder α} {values : List α} :
    list decode d = .ok values ↔
      ∃ items, d = .array items true ∧ items.mapM decode = .ok values := by
  unfold list
  split
  · rename_i items complete
    cases hitems : items.mapM decode with
    | error e =>
        refine ⟨nofun, ?_⟩
        rintro ⟨_, ⟨⟩, hok⟩
        rw [hitems] at hok
        cases hok
    | ok found =>
        cases complete with
        | false => exact ⟨nofun, nofun⟩
        | true =>
            refine ⟨fun h => ⟨items, rfl, hitems.trans h⟩, ?_⟩
            rintro ⟨_, ⟨⟩, hok⟩
            exact hitems.symm.trans hok
  · rename_i hother
    refine ⟨fun h => absurd h mismatch_ne_ok, ?_⟩
    rintro ⟨items, rfl, -⟩
    exact absurd rfl (hother items true)

theorem mapM_cons_eq_ok {decode : Decoder α} {item : Document} {items : List Document}
    {values : List α} : (item :: items).mapM decode = .ok values ↔
      ∃ value rest, values = value :: rest ∧ decode item = .ok value ∧
        items.mapM decode = .ok rest := by
  rw [List.mapM_cons]
  cases hitem : decode item with
  | error e => exact ⟨nofun, nofun⟩
  | ok value =>
      cases hitems : items.mapM decode with
      | error e => exact ⟨nofun, nofun⟩
      | ok rest =>
          refine ⟨fun h => ⟨value, rest, (Except.ok.inj h).symm, rfl, rfl⟩, ?_⟩
          rintro ⟨_, _, rfl, ⟨⟩, ⟨⟩⟩
          rfl

theorem mapM_string_eq_ok {items : List Document} {texts : List String} :
    items.mapM string = .ok texts ↔ items = Document.ofValues (texts.map .string) := by
  induction items generalizing texts with
  | nil =>
      cases texts with
      | nil => exact ⟨fun _ => rfl, fun _ => rfl⟩
      | cons text texts => exact ⟨nofun, nofun⟩
  | cons item items ih =>
      rw [mapM_cons_eq_ok]
      constructor
      · rintro ⟨text, rest, rfl, hitem, hitems⟩
        rw [string_eq_ok.mp hitem, ih.mp hitems]
        rfl
      · intro h
        cases texts with
        | nil => cases h
        | cons text rest =>
            obtain ⟨hitem, hitems⟩ := List.cons.inj h
            exact ⟨text, rest, rfl, string_eq_ok.mpr hitem, ih.mpr hitems⟩

theorem list_string_eq_ok {texts : List String} :
    list string d = .ok texts ↔ d = .ofValue (.ofTexts texts) := by
  rw [list_eq_ok]
  constructor
  · rintro ⟨items, rfl, hitems⟩
    rw [mapM_string_eq_ok.mp hitems]
    rfl
  · rintro rfl
    exact ⟨_, rfl, mapM_string_eq_ok.mpr rfl⟩

theorem optional_eq_ok {decode : Decoder α} {value : Option α} :
    optional decode d = .ok value ↔
      (d = .null ∧ value = none) ∨ (d ≠ .null ∧ ∃ x, decode d = .ok x ∧ value = some x) := by
  unfold optional
  split
  · refine ⟨fun h => .inl ⟨rfl, (Except.ok.inj h).symm⟩, ?_⟩
    rintro (⟨-, rfl⟩ | ⟨hne, -⟩)
    · rfl
    · exact absurd rfl hne
  · rename_i hne
    cases hd : decode d with
    | error e =>
        refine ⟨nofun, ?_⟩
        rintro (⟨hnull, -⟩ | ⟨-, x, ⟨⟩, -⟩)
        exact absurd hnull hne
    | ok x =>
        refine ⟨fun h => .inr ⟨hne, x, rfl, (Except.ok.inj h).symm⟩, ?_⟩
        rintro (⟨hnull, -⟩ | ⟨-, x, ⟨⟩, rfl⟩)
        · exact absurd hnull hne
        · rfl

end Decoder

/-- A text is decoded if its content is and nothing follows it. -/
theorem decodeText_eq_ok {α : Type} {decode : Decoder α} {text : String} {value : α} :
    decodeText decode text = .ok value ↔
      decode (Document.ofText text).document = .ok value ∧
        (Document.ofText text).ended = true := by
  unfold decodeText
  dsimp only
  cases hdecoded : decode (Document.ofText text).document with
  | error e => exact ⟨nofun, nofun⟩
  | ok found =>
      cases hended : (Document.ofText text).ended with
      | false => exact ⟨nofun, nofun⟩
      | true => exact ⟨fun h => ⟨h, rfl⟩, fun h => h.1⟩

end PlainTerminal.Json
