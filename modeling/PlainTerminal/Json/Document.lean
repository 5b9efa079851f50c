import PlainTerminal.Json.Numeral

/-!
# Texts in JSON, read as far as they go

A `Document` is what a text holds in the order in which it is written, up to the first place where
it is not JSON any more. Nothing is lost by reading on past a value of the wrong type, and nothing
is made of what follows a fault: a decoder that walks through a document from front to back meets
whatever comes first, a value it cannot use or the place where the text breaks off.
-/

namespace PlainTerminal.Json

/-- The content of a text. A string whose escapes name no characters, also as the name of a member,
and a number that is too large are content without a value. -/
inductive Document where
  | null
  | bool (b : Bool)
  | number (n : Option Number)
  | string (s : Option String)
  | array (items : List Document) (complete : Bool)
  | object (members : List (Option String × Document)) (complete : Bool)
  /-- An object whose first member has something else than a string for a name; the text is not JSON
  from there on. -/
  | misnamed (name : Document)
  /-- Here the text is not JSON any more. -/
  | broken

/-- A text: its content, and whether nothing but blanks follows it. -/
structure Source where
  document : Document
  ended : Bool

namespace Document

/-- The blanks of the format. -/
def isBlank (c : Char) : Bool := c == ' ' || c == '\n' || c == '\t' || c == '\x0d'

/-- Drops the blanks in front. -/
def skipBlanks (s : List Char) : List Char := s.dropWhile isBlank

/-- The value of a hexadecimal digit. -/
def hexValue? (c : Char) : Option Nat :=
  if '0' ≤ c ∧ c ≤ '9' then some (c.toNat - 48)
  else if 'a' ≤ c ∧ c ≤ 'f' then some (c.toNat - 87)
  else if 'A' ≤ c ∧ c ≤ 'F' then some (c.toNat - 55)
  else none

/-- The value of four hexadecimal digits. -/
def hexValue4? (a b c d : Char) : Option Nat := do
  return (← hexValue? a) * 4096 + (← hexValue? b) * 256 + (← hexValue? c) * 16 + (← hexValue? d)

/-- The character that a letter after a backslash stands for. -/
def escaped? (c : Char) : Option Char :=
  if c = '\x22' ∨ c = '\x5c' ∨ c = '/' then some c
  else if c = 'b' then some '\x08'
  else if c = 'f' then some '\x0c'
  else if c = 'n' then some '\n'
  else if c = 'r' then some '\x0d'
  else if c = 't' then some '\t'
  else none

/-- Reads a string after its opening quote: its text, if its escapes have one, and what follows it.
`said` holds the characters read so far, last one first; `lead` is the first half of a pair of
escapes that name one character together. -/
def readString (said : List Char) (sound : Bool) (lead : Option Nat) :
    List Char → Option (Option String × List Char)
  | [] => none
  | '\x22' :: rest =>
    some (if sound && lead.isNone then some (String.ofList said.reverse) else none, rest)
  | '\x5c' :: 'u' :: a :: b :: c :: d :: rest =>
    match hexValue4? a b c d with
    | none => none
    | some n =>
      match lead with
      | some high =>
        if 0xdc00 ≤ n ∧ n ≤ 0xdfff then
          let code := 0x10000 + (high - 0xd800) * 0x400 + (n - 0xdc00)
          readString (Char.ofNat code :: said) sound none rest
        else readString said false none rest
      | none =>
        if 0xd800 ≤ n ∧ n ≤ 0xdbff then readString said sound (some n) rest
        else if 0xdc00 ≤ n ∧ n ≤ 0xdfff then readString said false none rest
        else readString (Char.ofNat n :: said) sound none rest
  | '\x5c' :: c :: rest =>
    match escaped? c with
    | none => none
    | some e => readString (e :: said) (sound && lead.isNone) none rest
  | c :: rest =>
    if c.toNat < 32 ∨ c = '\x5c' then none
    else readString (c :: said) (sound && lead.isNone) none rest

/-- Digits in front, and what follows them. -/
def takeDigits (s : List Char) : List Char × List Char := s.span Char.isDigit

/-- Reads the fraction of a number, if it has one. -/
def readFraction : List Char → Option (Option (List Char) × List Char)
  | '.' :: rest =>
    match takeDigits rest with
    | ([], _) => none
    | (digits, rest) => some (some digits, rest)
  | s => some (none, s)

/-- Reads the digits of an exponent. -/
def readExponentDigits (negative : Bool) (s : List Char) :
    Option (Option (Bool × List Char) × List Char) :=
  match takeDigits s with
  | ([], _) => none
  | (digits, rest) => some (some (negative, digits), rest)

/-- Reads the exponent of a number, if it has one. -/
def readExponent : List Char → Option (Option (Bool × List Char) × List Char)
  | c :: s =>
    if c = 'e' ∨ c = 'E' then
      match s with
      | '+' :: rest => readExponentDigits false rest
      | '-' :: rest => readExponentDigits true rest
      | rest => readExponentDigits false rest
    else some (none, c :: s)
  | [] => some (none, [])

/-- Reads a number without its sign. A zero in front stands alone. -/
def readNumber (negative : Bool) (s : List Char) : Option (Numeral × List Char) := do
  let (whole, rest) := takeDigits s
  if whole = [] ∨ (whole.length > 1 ∧ whole.head? = some '0') then none
  else
    let (fraction, rest) ← readFraction rest
    let (exponent, rest) ← readExponent rest
    return (⟨negative, whole, fraction, exponent⟩, rest)

/-- What follows a word that a text begins with. -/
def dropWord? (word : String) (s : List Char) : Option (List Char) :=
  if word.toList.isPrefixOf s then some (s.drop word.toList.length) else none

mutual

/-- Reads a value: its content, and what follows it unless the text breaks off. -/
def read (fuel : Nat) (s : List Char) : Document × Option (List Char) :=
  match fuel with
  | 0 => (broken, none)
  | fuel + 1 =>
    match skipBlanks s with
    | [] => (broken, none)
    | '\x22' :: rest =>
      match readString [] true none rest with
      | some (text, rest) => (string text, some rest)
      | none => (broken, none)
    | '[' :: rest =>
      match skipBlanks rest with
      | ']' :: rest => (array [] true, some rest)
      | rest =>
        let (items, rest) := readItems fuel rest
        (array items rest.isSome, rest)
    | '\x7b' :: rest =>
      match skipBlanks rest with
      | '\x7d' :: rest => (object [] true, some rest)
      | '\x22' :: rest =>
        let (members, rest) := readMembers fuel ('\x22' :: rest)
        (object members rest.isSome, rest)
      | rest => (misnamed (read fuel rest).1, none)
    | '-' :: rest =>
      match readNumber true rest with
      | some (n, rest) => (number n.value, some rest)
      | none => (broken, none)
    | s =>
      match dropWord? "null" s, dropWord? "true" s, dropWord? "false" s with
      | some rest, _, _ => (null, some rest)
      | _, some rest, _ => (bool true, some rest)
      | _, _, some rest => (bool false, some rest)
      | none, none, none =>
        match readNumber false s with
        | some (n, rest) => (number n.value, some rest)
        | none => (broken, none)

/-- Reads the items of an array up to its end. -/
def readItems (fuel : Nat) (s : List Char) : List Document × Option (List Char) :=
  match fuel with
  | 0 => ([], none)
  | fuel + 1 =>
    match read fuel s with
    | (item, none) => ([item], none)
    | (item, some rest) =>
      match skipBlanks rest with
      | ',' :: rest =>
        let (items, rest) := readItems fuel rest
        (item :: items, rest)
      | ']' :: rest => ([item], some rest)
      | _ => ([item], none)

/-- Reads the members of an object up to its end. -/
def readMembers (fuel : Nat) (s : List Char) :
    List (Option String × Document) × Option (List Char) :=
  match fuel with
  | 0 => ([], none)
  | fuel + 1 =>
    match skipBlanks s with
    | '\x22' :: rest =>
      match readString [] true none rest with
      | some (name, rest) =>
        match skipBlanks rest with
        | ':' :: rest =>
          match read fuel rest with
          | (value, none) => ([(name, value)], none)
          | (value, some rest) =>
            match skipBlanks rest with
            | ',' :: rest =>
              let (members, rest) := readMembers fuel rest
              ((name, value) :: members, rest)
            | '\x7d' :: rest => ([(name, value)], some rest)
            | _ => ([(name, value)], none)
        | _ => ([(name, broken)], none)
      | none => ([], none)
    | _ => ([], none)

end

/-- Reads a text. -/
def ofText (text : String) : Source :=
  let s := text.toList
  match read (2 * s.length + 2) s with
  | (document, none) => ⟨document, false⟩
  | (document, some rest) => ⟨document, (skipBlanks rest).isEmpty⟩

mutual

/-- Nothing in the content is broken off. -/
def isIntact : Document → Bool
  | array items complete => complete && allIntact items
  | object members complete => complete && membersIntact members
  | misnamed _ | broken => false
  | _ => true

/-- Nothing in any of the items is broken off. -/
def allIntact : List Document → Bool
  | [] => true
  | item :: rest => item.isIntact && allIntact rest

/-- Nothing in any of the members is broken off. -/
def membersIntact : List (Option String × Document) → Bool
  | [] => true
  | (_, value) :: rest => value.isIntact && membersIntact rest

end

mutual

/-- A value as a document: an object shows its members in the order of their names. -/
def ofValue : Json → Document
  | .null => null
  | .bool b => bool b
  | .number n => number (some n)
  | .string s => string (some s)
  | .array items => array (ofValues items) true
  | .object members => object (ofMembers members) true

/-- Values as documents. -/
def ofValues : List Json → List Document
  | [] => []
  | v :: rest => ofValue v :: ofValues rest

/-- Members as documents. -/
def ofMembers : List (String × Json) → List (Option String × Document)
  | [] => []
  | (name, v) :: rest => (some name, ofValue v) :: ofMembers rest

end

mutual

/-- The value that a document holds, if it is intact and every part of it has a value. Of two
members with one name the later one counts. -/
def value? : Document → Option Json
  | null => some .null
  | bool b => some (.bool b)
  | number n => n.map .number
  | string s => s.map .string
  | array items complete => if complete then (values? items).map .array else none
  | object members complete =>
    if complete then (memberValues? members).map Json.ofMembers else none
  | misnamed _ | broken => none

/-- The values of items. -/
def values? : List Document → Option (List Json)
  | [] => some []
  | d :: rest => do return (← d.value?) :: (← values? rest)

/-- The values of members. -/
def memberValues? : List (Option String × Document) → Option (List (String × Json))
  | [] => some []
  | (name, d) :: rest => do return (← name, ← d.value?) :: (← memberValues? rest)

end

end Document

/-- The value that a text holds, if it is JSON from end to end. -/
def ofText (text : String) : Option Json :=
  let source := Document.ofText text
  if source.ended then source.document.value? else none

end PlainTerminal.Json
