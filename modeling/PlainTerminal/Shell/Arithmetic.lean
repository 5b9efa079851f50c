/-!
# Arithmetic of the shell

Whole numbers of 64 bits with the usual operators, and variables that may be set on the way. An
expression is read into a tree first, by climbing the levels of precedence, so that only the side
that counts of `&&`, `||` and `?:` has an effect. Where an expression cannot be read any further its
tree ends in a fault, which counts only once what stands before it has a value.
-/

namespace PlainTerminal.Shell

/-- Operators with two operands. -/
inductive BinaryOperator where
  | mul | div | mod | add | sub | shiftLeft | shiftRight
  | less | lessOrEqual | greater | greaterOrEqual | equal | notEqual
  | bitAnd | bitXor | bitOr
deriving DecidableEq, Repr

/-- Operators with one operand. -/
inductive UnaryOperator where
  | plus | minus | not | complement
deriving DecidableEq, Repr

/-- Why an expression has no value. -/
inductive ArithmeticFault where
  | missing (what : String)
  | trailing
  | division
  | notANumber (text : String)
deriving DecidableEq, Repr

/-- An arithmetic expression. -/
inductive Expression where
  | number (n : Int)
  | variable (name : String)
  | unary (op : UnaryOperator) (e : Expression)
  | binary (op : BinaryOperator) (a b : Expression)
  | both (a b : Expression)
  | either (a b : Expression)
  | choice (test yes no : Expression)
  /-- Sets a variable, to the result of an operator on its value if there is one. -/
  | assign (name : String) (op : Option BinaryOperator) (e : Expression)
  /-- Here reading came to an end. -/
  | broken (fault : ArithmeticFault)
deriving Inhabited

/-- The message for a fault in an expression. -/
def ArithmeticFault.message (fault : ArithmeticFault) (expression : String) : String :=
  let about (what : String) : String :=
    "arithmetic expression: " ++ what ++ ": \"" ++ expression ++ "\""
  match fault with
  | missing what => about ("expecting " ++ what)
  | trailing => about "expecting EOF"
  | division => about "division by zero"
  | notANumber text => "Illegal number: " ++ text

namespace Expression

/-- An integer as it fits 64 bits. -/
def wrap (n : Int) : Int := Int.bmod n UInt64.size

/-- The largest integer that fits 64 bits. A number that is written larger stands for it. -/
def largest : Nat := UInt64.size / 2 - 1

/-! ## Reading -/

/-- A token of an expression. -/
inductive Token where
  | number (n : Int)
  | name (s : String)
  | operator (s : String)
  /-- No token; nothing after it is looked at. -/
  | unknown
deriving DecidableEq, Repr

/-- The operators, the longer ones before those they begin with. -/
def operatorTexts : List String :=
  ["<<=", ">>=", "<<", ">>", "<=", ">=", "==", "!=", "&&", "||", "+=", "-=", "*=", "/=", "%=", "&=",
    "^=", "|=", "<", ">", "=", "!", "~", "+", "-", "*", "/", "%", "&", "^", "|", "?", ":", "(", ")"]

/-- The value of a digit. -/
def digitValue (c : Char) : Option Nat :=
  if c.isDigit then some (c.toNat - 48)
  else if 'a' ≤ c ∧ c ≤ 'f' then some (c.toNat - 87)
  else if 'A' ≤ c ∧ c ≤ 'F' then some (c.toNat - 55)
  else none

/-- A number in some base. -/
def inBase (base : Nat) (digits : List Char) : Option Nat :=
  digits.foldlM (fun n c =>
    match digitValue c with
    | some d => if d < base then some (n * base + d) else none
    | none => none) 0

/-- The digits of a base at the front of a text. -/
def digitsIn (base : Nat) (chars : List Char) : List Char :=
  chars.takeWhile fun c => (digitValue c).any (· < base)

/-- The number at the front of a text, and how many characters spell it. The signs for a base only
count if a digit of that base follows. -/
def numberAt (chars : List Char) : Nat × Nat :=
  let read (base : Nat) (skipped : Nat) : Nat × Nat :=
    let digits := digitsIn base (chars.drop skipped)
    ((inBase base digits).getD 0, skipped + digits.length)
  match chars with
  | '0' :: x :: rest =>
    if (x = 'x' ∨ x = 'X') ∧ digitsIn 16 rest ≠ [] then read 16 2
    else if (x = 'b' ∨ x = 'B') ∧ digitsIn 2 rest ≠ [] then read 2 2
    else read 8 0
  | _ => read 10 0

/-- The number that a text spells. -/
def literal? (chars : List Char) : Option Nat :=
  let (n, size) := numberAt chars
  if size = chars.length ∧ size ≠ 0 then some n else none

/-- The tokens of a text. -/
def tokens : Nat → List Char → List Token
  | 0, _ => []
  | _, [] => []
  | n + 1, c :: rest =>
    if c.isWhitespace then tokens n rest
    else if c.isDigit then
      let (value, size) := numberAt (c :: rest)
      .number (min value largest) :: tokens n ((c :: rest).drop size)
    else if c.isAlpha || c == '_' then
      let name := (c :: rest).takeWhile fun c => c.isAlphanum || c == '_'
      .name (String.ofList name) :: tokens n ((c :: rest).drop name.length)
    else
      match operatorTexts.find? fun op => op.toList.isPrefixOf (c :: rest) with
      | some op => .operator op :: tokens n ((c :: rest).drop op.length)
      | none => [.unknown]

/-- The binary operators by level; the first level binds least. -/
def levels : List (List (String × BinaryOperator)) :=
  [[("|", .bitOr)], [("^", .bitXor)], [("&", .bitAnd)],
    [("==", .equal), ("!=", .notEqual)],
    [("<", .less), ("<=", .lessOrEqual), (">", .greater), (">=", .greaterOrEqual)],
    [("<<", .shiftLeft), (">>", .shiftRight)],
    [("+", .add), ("-", .sub)],
    [("*", .mul), ("/", .div), ("%", .mod)]]

/-- The operators that set a variable. -/
def assignments : List (String × Option BinaryOperator) :=
  [("=", none), ("+=", some .add), ("-=", some .sub), ("*=", some .mul), ("/=", some .div),
    ("%=", some .mod), ("<<=", some .shiftLeft), (">>=", some .shiftRight), ("&=", some .bitAnd),
    ("^=", some .bitXor), ("|=", some .bitOr)]

/-- What is read of some tokens, and the tokens left; none are left after a fault. -/
abbrev Reading := Expression × List Token

/-- Something is missing, so that reading comes to an end. -/
def missing (what : String) : Reading := (.broken (.missing what), [])

mutual

/-- Reads an expression. -/
def readAssignment : Nat → List Token → Reading
  | 0, _ => missing "primary"
  | n + 1, ts =>
    match ts with
    | .name name :: .operator op :: rest =>
      match assignments.lookup op with
      | some how =>
        let (e, rest) := readAssignment n rest
        (.assign name how e, rest)
      | none => readChoice n ts
    | _ => readChoice n ts

/-- Reads a choice between two expressions, or what binds more than one. -/
def readChoice : Nat → List Token → Reading
  | 0, _ => missing "primary"
  | n + 1, ts =>
    let (test, rest) := readEither n ts
    match rest with
    | .operator "?" :: rest =>
      let (yes, rest) := readAssignment n rest
      let (no, rest) := match rest with
        | .operator ":" :: rest => readChoice n rest
        | _ => missing "':'"
      (.choice test yes no, rest)
    | _ => (test, rest)

/-- Reads operands of `||`. -/
def readEither : Nat → List Token → Reading
  | 0, _ => missing "primary"
  | n + 1, ts =>
    let (a, rest) := readBoth n ts
    match rest with
    | .operator "||" :: rest =>
      let (b, rest) := readEither n rest
      (.either a b, rest)
    | _ => (a, rest)

/-- Reads operands of `&&`. -/
def readBoth : Nat → List Token → Reading
  | 0, _ => missing "primary"
  | n + 1, ts =>
    let (a, rest) := readLevel levels n ts
    match rest with
    | .operator "&&" :: rest =>
      let (b, rest) := readBoth n rest
      (.both a b, rest)
    | _ => (a, rest)

/-- Reads operands of the operators of a level. -/
def readLevel (ls : List (List (String × BinaryOperator))) : Nat → List Token → Reading
  | 0, _ => missing "primary"
  | n + 1, ts =>
    match ls with
    | [] => readUnary n ts
    | level :: above =>
      let (a, rest) := readLevel above n ts
      readMore level above a n rest

/-- Reads more operands of the operators of a level. -/
def readMore (level : List (String × BinaryOperator))
    (above : List (List (String × BinaryOperator))) (a : Expression) : Nat → List Token → Reading
  | 0, _ => missing "primary"
  | n + 1, ts =>
    match ts with
    | .operator op :: rest =>
      match level.lookup op with
      | some op =>
        let (b, rest) := readLevel above n rest
        readMore level above (.binary op a b) n rest
      | none => (a, ts)
    | _ => (a, ts)

/-- Reads an operand. -/
def readUnary : Nat → List Token → Reading
  | 0, _ => missing "primary"
  | n + 1, ts =>
    let under (op : UnaryOperator) (rest : List Token) : Reading :=
      let (e, rest) := readUnary n rest
      (.unary op e, rest)
    match ts with
    | .number value :: rest => (.number value, rest)
    | .name name :: rest => (.variable name, rest)
    | .operator "+" :: rest => under .plus rest
    | .operator "-" :: rest => under .minus rest
    | .operator "!" :: rest => under .not rest
    | .operator "~" :: rest => under .complement rest
    | .operator "(" :: rest =>
      let (e, rest) := readAssignment n rest
      match rest with
      | .operator ")" :: rest => (e, rest)
      | _ => (.both e (missing "')'").1, [])
    | _ => missing "primary"

end

/-- The first place where reading came to an end. -/
def fault? : Expression → Option ArithmeticFault
  | .number _ | .variable _ => none
  | .unary _ e | .assign _ _ e => e.fault?
  | .binary _ a b | .both a b | .either a b => a.fault?.or b.fault?
  | .choice a b c => (a.fault?.or b.fault?).or c.fault?
  | .broken fault => some fault

/-! ## Values -/

/-- One or zero. -/
def truth (b : Bool) : Int := if b then 1 else 0

/-- The bits of an integer as a number without sign. -/
def bits (n : Int) : Nat := (n % (UInt64.size : Nat)).toNat

/-- The value of a binary operator. -/
def applyBinary (op : BinaryOperator) (a b : Int) : Except ArithmeticFault Int :=
  match op with
  | .mul => .ok (wrap (a * b))
  | .div => if b = 0 then .error .division else .ok (wrap (a.tdiv b))
  | .mod => if b = 0 then .error .division else .ok (wrap (a.tmod b))
  | .add => .ok (wrap (a + b))
  | .sub => .ok (wrap (a - b))
  | .shiftLeft => .ok (wrap (a * (Nat.pow 2 (bits b % 64) : Nat)))
  | .shiftRight => .ok (wrap (a / (Nat.pow 2 (bits b % 64) : Nat)))
  | .less => .ok (truth (a < b))
  | .lessOrEqual => .ok (truth (a ≤ b))
  | .greater => .ok (truth (b < a))
  | .greaterOrEqual => .ok (truth (b ≤ a))
  | .equal => .ok (truth (a = b))
  | .notEqual => .ok (truth (a ≠ b))
  | .bitAnd => .ok (wrap (bits a &&& bits b : Nat))
  | .bitXor => .ok (wrap (bits a ^^^ bits b : Nat))
  | .bitOr => .ok (wrap (bits a ||| bits b : Nat))

/-- The value of a unary operator. -/
def applyUnary (op : UnaryOperator) (a : Int) : Int :=
  match op with
  | .plus => a
  | .minus => wrap (-a)
  | .not => truth (a = 0)
  | .complement => wrap (-a - 1)

/-- The whole number that a text spells, with blanks and a sign before it. It has to fit 64 bits. -/
def integer? (text : String) : Option Int :=
  let chars := text.toList.dropWhile Char.isWhitespace
  let (negative, digits) := match chars with
    | '-' :: rest => (true, rest)
    | '+' :: rest => (false, rest)
    | _ => (false, chars)
  let digits := (digits.reverse.dropWhile Char.isWhitespace).reverse
  match literal? digits with
  | some n =>
    if negative then (if n ≤ largest + 1 then some (-n) else none)
    else if n ≤ largest then some n else none
  | none => none

/-- The value that a variable has for arithmetic. -/
def valueOf (lookup : String → Option String) (set : List (String × Int)) (name : String) :
    Except ArithmeticFault Int :=
  match set.lookup name with
  | some n => .ok n
  | none =>
    match lookup name with
    | none | some "" => .ok 0
    | some text =>
      match integer? text with
      | some n => .ok n
      | none => .error (.notANumber text)

/-- Leaves out an expression that does not count, unless reading came to an end in it. -/
def skipped (e : Expression) : Except ArithmeticFault Unit :=
  match e.fault? with
  | some fault => .error fault
  | none => .ok ()

/-- The value of an expression, and the variables that it sets, the last one first. The values of
other variables are looked up. -/
def eval (lookup : String → Option String) :
    Expression → List (String × Int) → Except ArithmeticFault (Int × List (String × Int))
  | .number n, set => .ok (n, set)
  | .variable name, set => do return (← valueOf lookup set name, set)
  | .broken fault, _ => .error fault
  | .unary op e, set => do
    let (a, set) ← eval lookup e set
    return (applyUnary op a, set)
  | .binary op a b, set => do
    let (a, set) ← eval lookup a set
    let (b, set) ← eval lookup b set
    return (← applyBinary op a b, set)
  | .both a b, set => do
    let (x, set) ← eval lookup a set
    if x = 0 then
      skipped b
      return (0, set)
    let (y, set) ← eval lookup b set
    return (truth (y ≠ 0), set)
  | .either a b, set => do
    let (x, set) ← eval lookup a set
    if x ≠ 0 then
      skipped b
      return (1, set)
    let (y, set) ← eval lookup b set
    return (truth (y ≠ 0), set)
  | .choice test yes no, set => do
    let (x, set) ← eval lookup test set
    if x ≠ 0 then
      let result ← eval lookup yes set
      skipped no
      return result
    else
      skipped yes
      eval lookup no set
  | .assign name none e, set => do
    let (a, set) ← eval lookup e set
    return (a, (name, a) :: set)
  | .assign name (some op) e, set => do
    let (a, set) ← eval lookup e set
    let old ← valueOf lookup set name
    let a ← applyBinary op old a
    return (a, (name, a) :: set)
termination_by e => sizeOf e

/-- The value of a text as an expression, and the variables that it sets. -/
def evalText (lookup : String → Option String) (chars : List Char) :
    Except ArithmeticFault (Int × List (String × Int)) := do
  let ts := tokens (chars.length + 1) chars
  let (e, rest) := readAssignment (16 * (ts.length + 2)) ts
  let result ← e.eval lookup []
  if rest.isEmpty then return result else throw .trailing

end Expression

end PlainTerminal.Shell
