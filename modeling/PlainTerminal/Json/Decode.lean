import PlainTerminal.Json.Document
import PlainTerminal.Text.Shown

/-!
# Decoding

A decoder makes a typed value of a document, or says what is wrong with it. It walks through the
document from front to back, so of several faults the first one is reported. A record may be given
as an object, in any order and with members that nobody asked for, or as an array of its fields in
the order of their declaration.
-/

namespace PlainTerminal.Json

/-- What a decoder found in place of what it needs. -/
inductive Found where
  | null
  | bool (b : Bool)
  | number (n : Number)
  | string (s : String)
  | sequence
  | map

/-- Why a document cannot be decoded. -/
inductive DecodeError where
  | invalidType (found : Found) (expected : String)
  | invalidValue (found : Found) (expected : String)
  | invalidLength (length : Nat) (expected : String)
  | missingField (name : String)
  | duplicateField (name : String)
  | unknownVariant (name : String) (expected : List String)
  /-- The text is not JSON, or goes on where it has to end. -/
  | notJson

/-- How a thing that was found is called. -/
def Found.text : Found → String
  | null => "null"
  | bool b => "boolean \x60" ++ (if b then "true" else "false") ++ "\x60"
  | number (.int n) => "integer \x60" ++ toString n ++ "\x60"
  | number (.float x) =>
    "floating point \x60" ++ Decimal.floatText Decimal.jsonLayout x ++ "\x60"
  | string s => "string " ++ Text.shown s
  | sequence => "sequence"
  | map => "map"

/-- The wording of a decoding error. -/
def DecodeError.message : DecodeError → String
  | invalidType found expected => "invalid type: " ++ found.text ++ ", expected " ++ expected
  | invalidValue found expected => "invalid value: " ++ found.text ++ ", expected " ++ expected
  | invalidLength length expected =>
    "invalid length " ++ toString length ++ ", expected " ++ expected
  | missingField name => "missing field \x60" ++ name ++ "\x60"
  | duplicateField name => "duplicate field \x60" ++ name ++ "\x60"
  | unknownVariant name expected =>
    "unknown variant \x60" ++ name ++ "\x60, expected " ++
      " or ".intercalate (expected.map fun e => "\x60" ++ e ++ "\x60")
  | notJson => "invalid JSON"

/-- Where a document comes from: a text that is being read, or a value that has been read. -/
inductive Origin where
  | text
  | value
deriving DecidableEq, Repr

/-- A decoder of one type. -/
abbrev Decoder (α : Type) := Document → Except DecodeError α

namespace Decoder

/-- Refuses a document for its type. -/
def mismatch {α : Type} (expected : String) : Decoder α
  | .null => .error (.invalidType .null expected)
  | .bool b => .error (.invalidType (.bool b) expected)
  | .number (some n) => .error (.invalidType (.number n) expected)
  | .string (some s) => .error (.invalidType (.string s) expected)
  | .array _ _ => .error (.invalidType .sequence expected)
  | .object _ _ | .misnamed _ => .error (.invalidType .map expected)
  | .number none | .string none | .broken => .error .notJson

/-- A text. -/
def string : Decoder String
  | .string (some s) => .ok s
  | d => mismatch "a string" d

/-- A truth value. -/
def bool : Decoder Bool
  | .bool b => .ok b
  | d => mismatch "a boolean" d

/-- A whole number that is not negative, under the name of its type. -/
def natural (typeName : String) : Decoder Nat
  | .number (some (.int n)) =>
    if 0 ≤ n then .ok n.toNat else .error (.invalidValue (.number (.int n)) typeName)
  | d => mismatch typeName d

/-- A double; whole numbers are taken too. -/
def float : Decoder Float
  | .number (some (.int n)) => .ok (Float.ofInt n)
  | .number (some (.float x)) => .ok x
  | d => mismatch "f64" d

/-- Nothing at all. -/
def unit : Decoder Unit
  | .null => .ok ()
  | d => mismatch "unit" d

/-- A value that may be missing. -/
def optional {α : Type} (decode : Decoder α) : Decoder (Option α)
  | .null => .ok none
  | d => (decode d).map some

/-- A list of values. -/
def list {α : Type} (decode : Decoder α) : Decoder (List α)
  | .array items complete => do
    let values ← items.mapM decode
    if complete then .ok values else .error .notJson
  | d => mismatch "a sequence" d

/-- Any value. -/
def any : Decoder Json := fun d =>
  match d.value? with
  | some value => .ok value
  | none => .error .notJson

/-- One of a few names, given as a string or as the only member of an object with no value. -/
def oneOf {α : Type} (variants : List (String × α)) : Decoder α
  | .string (some s) => pick s
  | .object [(some name, value)] complete => do
    let chosen ← pick name
    unit value
    if complete then .ok chosen else .error .notJson
  | .object ((some name, value) :: _ :: _) _ => do
    let _ ← pick name
    unit value
    .error .notJson
  | .misnamed name => mismatch "variant identifier" name
  | _ => .error .notJson
where
  /-- The variant of a name. -/
  pick (name : String) : Except DecodeError α :=
    match variants.lookup name with
    | some value => .ok value
    | none => .error (.unknownVariant name (variants.map Prod.fst))

end Decoder

/-- A field of a record: its name, whether an object and whether an array has to have it, and how
its value is stored in the record. -/
structure Field (ρ : Type) where
  name : String
  inObject : Bool
  inArray : Bool
  store : ρ → Decoder ρ

namespace Field

/-- A field that has to be there. -/
def mandatory {ρ α : Type} (name : String) (decode : Decoder α) (set : ρ → α → ρ) : Field ρ :=
  ⟨name, true, true, fun r d => (decode d).map (set r)⟩

/-- A field that may be left out. -/
def optional {ρ α : Type} (name : String) (decode : Decoder α) (set : ρ → α → ρ) : Field ρ :=
  ⟨name, false, false, fun r d => (decode d).map (set r)⟩

/-- A field that an object may leave out, but that has its place in an array. -/
def placed {ρ α : Type} (name : String) (decode : Decoder α) (set : ρ → α → ρ) : Field ρ :=
  ⟨name, false, true, fun r d => (decode d).map (set r)⟩

end Field

/-- A kind of record: its name and its fields in the order of their declaration. -/
structure RecordShape (ρ : Type) where
  name : String
  fields : List (Field ρ)

namespace RecordShape

variable {ρ : Type}

/-- Decodes the members of an object into a record, each field once. -/
def ofMembers (shape : RecordShape ρ) (record : ρ) (seen : List String) :
    List (Option String × Document) → Except DecodeError (ρ × List String)
  | [] => .ok (record, seen)
  | (none, _) :: _ => .error .notJson
  | (some name, value) :: rest =>
    match shape.fields.find? fun f => f.name == name with
    | none => if value.isIntact then ofMembers shape record seen rest else .error .notJson
    | some field =>
      if seen.contains name then .error (.duplicateField name)
      else do
        let record ← field.store record value
        ofMembers shape record (name :: seen) rest

/-- The error for an array that ends before a field. -/
def tooShort (shape : RecordShape ρ) (index : Nat) : DecodeError :=
  .invalidLength index ("struct " ++ shape.name ++ " with " ++ toString shape.fields.length ++
    if shape.fields.length = 1 then " element" else " elements")

/-- Decodes items into the fields of a record, in order, and returns the items that are left. -/
def ofItems (shape : RecordShape ρ) (record : ρ) (index : Nat) (complete : Bool) :
    List (Field ρ) → List Document → Except DecodeError (ρ × List Document)
  | [], items => .ok (record, items)
  | field :: fields, item :: items => do
    let record ← field.store record item
    ofItems shape record (index + 1) complete fields items
  | field :: fields, [] =>
    if !complete then .error .notJson
    else if field.inArray then .error (shape.tooShort index)
    else ofItems shape record (index + 1) complete fields []

/-- Decodes a record, starting from the one that holds the values of the fields left out. -/
def decoder (shape : RecordShape ρ) (origin : Origin) (start : ρ) : Decoder ρ
  | .object members complete => do
    let (record, seen) ← shape.ofMembers start [] members
    if !complete then .error .notJson
    else match shape.fields.find? fun f => f.inObject && !seen.contains f.name with
      | some field => .error (.missingField field.name)
      | none => .ok record
  | .array items complete => do
    let (record, left) ← shape.ofItems start 0 complete shape.fields items
    match left, complete, origin with
    | [], true, _ => .ok record
    | _, _, .text => .error .notJson
    | _, _, .value => .error (.invalidLength items.length "fewer elements in array")
  | .misnamed _ => .error .notJson
  | d => Decoder.mismatch ("struct " ++ shape.name) d

end RecordShape

/-- Decodes a whole text. -/
def decodeText {α : Type} (decode : Decoder α) (text : String) : Except DecodeError α := do
  let source := Document.ofText text
  let value ← decode source.document
  if source.ended then .ok value else .error .notJson

/-- Decodes a value. -/
def decodeValue {α : Type} (decode : Decoder α) (value : Json) : Except DecodeError α :=
  decode (Document.ofValue value)

end PlainTerminal.Json
