import PlainTerminal.Shell.Pattern

/-!
# Regular expressions

Regular expressions as `grep` and `sed` take them. In the basic form the signs for groups,
alternatives and numbers of repetitions have a backslash in front; in the extended form they have
none. Matching tries more repetitions before less and the left alternative before the right one, and
remembers what the groups matched.
-/

namespace PlainTerminal.Tools

open PlainTerminal.Shell (PatternPart Pattern.setRanges Pattern.accepts Letter)

/-- A regular expression. -/
inductive Regex where
  | empty
  | one (part : PatternPart)
  | lineStart
  | lineEnd
  | seq (a b : Regex)
  | alt (a b : Regex)
  | many (least : Nat) (most : Option Nat) (r : Regex)
  | group (number : Nat) (r : Regex)
deriving Inhabited

namespace Regex

/-! ## Reading -/

/-- A token of a regular expression. -/
inductive Token where
  | part (p : PatternPart)
  | lineStart
  | lineEnd
  | openGroup
  | closeGroup
  | bar
  | times (least : Nat) (most : Option Nat)
deriving DecidableEq, Repr

/-- The numbers of repetitions between braces. -/
def bounds (chars : List Char) : Option Token :=
  match chars.splitOn ',' with
  | [n] => (String.ofList n).toNat?.map fun n => .times n (some n)
  | [lo, []] => (String.ofList lo).toNat?.map fun lo => .times lo none
  | [lo, hi] => do return .times (((String.ofList lo).toNat?).getD 0) (some (← (String.ofList hi).toNat?))
  | _ => none

/-- The token that a sign stands for, when it is one. -/
def sign? (c : Char) : Option Token :=
  match c with
  | '(' => some .openGroup
  | ')' => some .closeGroup
  | '|' => some .bar
  | '+' => some (.times 1 none)
  | '?' => some (.times 0 (some 1))
  | _ => none

/-- The tokens of a text. -/
def tokens (extended : Bool) : Nat → Bool → List Char → List Token
  | 0, _, _ => []
  | _, _, [] => []
  | n + 1, atStart, c :: rest =>
    let go (t : Token) (rest : List Char) : List Token := t :: tokens extended n (t = .openGroup) rest
    let braces (rest : List Char) : List Token :=
      let inner := rest.takeWhile fun c => c.isDigit || c == ','
      let after := rest.drop (inner.length + if extended then 1 else 2)
      match bounds inner with
      | some t => go t after
      | none => go (.part (.exactly '\x7b')) rest
    match c, rest with
    | '\x5c', d :: rest =>
      if extended then go (.part (.exactly d)) rest
      else if d = '\x7b' then braces rest
      else match sign? d with
        | some t => go t rest
        | none => go (.part (.exactly d)) rest
    | '.', _ => go (.part .anyChar) rest
    | '*', _ => if atStart then go (.part (.exactly '*')) rest else go (.times 0 none) rest
    | '^', _ => if atStart || extended then go .lineStart rest else go (.part (.exactly '^')) rest
    | '$', _ =>
      if rest = [] || extended || "\\)".toList.isPrefixOf rest then go .lineEnd rest
      else go (.part (.exactly '$')) rest
    | '[', _ =>
      let negated := rest.head? == some '^'
      let letters : List Letter := (if negated then rest.tail else rest).map fun c => ⟨c, false⟩
      match Pattern.setRanges (rest.length + 1) true letters with
      | some (ranges, left) => go (.part (.oneOf negated ranges)) (left.map (·.char))
      | none => go (.part (.exactly '[')) rest
    | '\x7b', _ => if extended then braces rest else go (.part (.exactly c)) rest
    | _, _ =>
      match sign? c with
      | some t => if extended then go t rest else go (.part (.exactly c)) rest
      | none => go (.part (.exactly c)) rest

/-- What is read of some tokens: the expression, the number of the next group, the tokens left. -/
abbrev Reading := Regex × Nat × List Token

mutual

/-- Reads alternatives. -/
def readAlternatives : Nat → Nat → List Token → Reading
  | 0, number, ts => (.empty, number, ts)
  | n + 1, number, ts =>
    let (a, number, rest) := readSequence n number ts
    match rest with
    | .bar :: rest =>
      let (b, number, rest) := readAlternatives n number rest
      (.alt a b, number, rest)
    | _ => (a, number, rest)

/-- Reads what stands one after the other. -/
def readSequence : Nat → Nat → List Token → Reading
  | 0, number, ts => (.empty, number, ts)
  | n + 1, number, ts =>
    let continued (a : Regex) (number : Nat) (rest : List Token) : Reading :=
      let (a, rest) := repeated n a rest
      let (b, number, rest) := readSequence n number rest
      (.seq a b, number, rest)
    match ts with
    | [] | .bar :: _ | .closeGroup :: _ => (.empty, number, ts)
    | .part p :: rest => continued (.one p) number rest
    | .lineStart :: rest => continued .lineStart number rest
    | .lineEnd :: rest => continued .lineEnd number rest
    | .times _ _ :: rest => continued .empty number rest
    | .openGroup :: rest =>
      let (a, next, rest) := readAlternatives n (number + 1) rest
      let rest := match rest with
        | .closeGroup :: rest => rest
        | rest => rest
      continued (.group number a) next rest

/-- Reads how often an expression may stand. -/
def repeated : Nat → Regex → List Token → Regex × List Token
  | 0, a, ts => (a, ts)
  | n + 1, a, ts =>
    match ts with
    | .times least most :: rest => repeated n (.many least most a) rest
    | _ => (a, ts)

end

/-- Reads a regular expression. -/
def ofText (extended : Bool) (text : String) : Regex :=
  let ts := tokens extended (text.length + 1) true text.toList
  (readAlternatives (4 * (ts.length + 2)) 1 ts).1

/-- The regular expression that a text itself is. -/
def exactly (text : String) : Regex :=
  text.toList.foldr (fun c r => .seq (.one (.exactly c)) r) .empty

/-- An expression that has to match a whole line. -/
def wholeLine (r : Regex) : Regex := .seq .lineStart (.seq r .lineEnd)

/-! ## Matching -/

/-- What groups matched, the last ones first. -/
abbrev Groups := List (Nat × List Char)

/-- Matches the front of a text, before which `consumed` characters have been passed, and goes on
with what is left. The number bounds the steps. -/
def matchWith {α : Type} : Nat → Regex → Nat → List Char → Groups →
    (Nat → List Char → Groups → Option α) → Option α
  | 0, _, _, _, _, _ => none
  | n + 1, r, consumed, text, groups, next =>
    match r with
    | .empty => next consumed text groups
    | .one p =>
      match text with
      | c :: rest => if Pattern.accepts [p] [c] then next (consumed + 1) rest groups else none
      | [] => none
    | .lineStart => if consumed = 0 then next consumed text groups else none
    | .lineEnd => if text.isEmpty then next consumed text groups else none
    | .seq a b =>
      matchWith n a consumed text groups fun consumed text groups =>
        matchWith n b consumed text groups next
    | .alt a b =>
      (matchWith n a consumed text groups next).orElse fun _ =>
        matchWith n b consumed text groups next
    | .group number a =>
      matchWith n a consumed text groups fun after rest groups =>
        next after rest ((number, text.take (after - consumed)) :: groups)
    | .many least most a =>
      let stop : Option α := if least = 0 then next consumed text groups else none
      if most = some 0 then stop
      else
        let more := matchWith n a consumed text groups fun after rest groups =>
          if after = consumed ∧ least = 0 then none
          else matchWith n (.many (least - 1) (most.map (· - 1)) a) after rest groups next
        more.orElse fun _ => stop

/-- A match: where it begins, how long it is, and what its groups matched. -/
structure Match where
  start : Nat
  size : Nat
  groups : Groups

/-- The first match in a text of which some characters have been passed. -/
def find? (r : Regex) (passed : Nat) (text : List Char) : Option Match :=
  (List.range (text.length + 1)).findSome? fun start =>
    matchWith (1000 + 1000 * text.length) r (passed + start) (text.drop start) []
      fun after _ groups => some ⟨start, after - (passed + start), groups⟩

/-- There is a match in a text. -/
def isIn (r : Regex) (text : List Char) : Bool := (r.find? 0 text).isSome

end Regex

end PlainTerminal.Tools
