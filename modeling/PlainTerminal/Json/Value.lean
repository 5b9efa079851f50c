import PlainTerminal.Decimal.Layout
import PlainTerminal.Keyed

/-!
# JSON values and their compact text

A value as it is exchanged with the outside. The members of an object are in the order of their
names. The compact text has no blanks, and in strings only what has to be escaped is.
-/

namespace PlainTerminal

/-- A number: a whole one that fits 64 bits, or a double. -/
inductive Json.Number where
  | int (n : Int)
  | float (x : Float)

/-- A JSON value. -/
inductive Json where
  | null
  | bool (b : Bool)
  | number (n : Json.Number)
  | string (s : String)
  | array (items : List Json)
  | object (members : List (String × Json))

instance : Inhabited Json := ⟨.null⟩

namespace Json

/-- An object with the given members. -/
def ofMembers (members : List (String × Json)) : Json := object (Keyed.ofList members)

/-- A whole number. -/
def int (n : Int) : Json := number (.int n)

/-- A whole number that is not negative. -/
def nat (n : Nat) : Json := number (.int n)

/-- A double. -/
def float (x : Float) : Json := number (.float x)

/-- A text that may be missing. -/
def ofText? (text : Option String) : Json := text.elim null string

/-- A list of texts. -/
def ofTexts (texts : List String) : Json := array (texts.map string)

/-- A member of an object. -/
def member? (json : Json) (name : String) : Option Json :=
  match json with
  | object members => Keyed.find? members name
  | _ => none

/-- The text of a string. -/
def text? : Json → Option String
  | string s => some s
  | _ => none

/-- A hexadecimal digit. -/
def hexDigit (n : Nat) : Char := if n < 10 then Char.ofNat (48 + n) else Char.ofNat (87 + n)

/-- A character as it is written in a string. -/
def escapeChar (c : Char) : List Char :=
  if c = '\x22' then ['\x5c', '\x22']
  else if c = '\x5c' then ['\x5c', '\x5c']
  else if c = '\x08' then ['\x5c', 'b']
  else if c = '\x0c' then ['\x5c', 'f']
  else if c = '\n' then ['\x5c', 'n']
  else if c = '\x0d' then ['\x5c', 'r']
  else if c = '\t' then ['\x5c', 't']
  else if c.toNat < 32 then
    ['\x5c', 'u', '0', '0', hexDigit (c.toNat / 16), hexDigit (c.toNat % 16)]
  else [c]

/-- A string as it is written. -/
def quoted (text : String) : String :=
  String.ofList ('\x22' :: (text.toList.flatMap escapeChar ++ ['\x22']))

/-- A number as it is written. -/
def Number.text : Number → String
  | .int n => toString n
  | .float x => Decimal.floatText Decimal.jsonLayout x

mutual

/-- The compact text of a value. -/
def text : Json → String
  | null => "null"
  | bool b => if b then "true" else "false"
  | number n => n.text
  | string s => quoted s
  | array items => "[" ++ itemsText items ++ "]"
  | object members => "\x7b" ++ membersText members ++ "\x7d"

/-- The compact text of the items of an array. -/
def itemsText : List Json → String
  | [] => ""
  | [item] => item.text
  | item :: rest => item.text ++ "," ++ itemsText rest

/-- The compact text of the members of an object. -/
def membersText : List (String × Json) → String
  | [] => ""
  | [(name, value)] => quoted name ++ ":" ++ value.text
  | (name, value) :: rest => quoted name ++ ":" ++ value.text ++ "," ++ membersText rest

end

end Json

end PlainTerminal
