import PipelineShell.Script.Command

/-!
# Arithmetic in scripts

Expressions over integers of 64 bits, with variables, comparisons and
assignments.  An expression is read and evaluated at once, and of two ways that
it can take only one has effects.
-/

namespace PipelineShell.Script.Arithmetic

/-- An integer of 64 bits. -/
def wrap (n : Int) : Int := n.bmod (Nat.pow 2 64)

def largest : Int := Nat.pow 2 63 - 1

def smallest : Int := -(Nat.pow 2 63)

/-! ### Numbers -/

def digitValue (c : Char) : Nat :=
  if c.isDigit then c.toNat - 48 else c.toLower.toNat - 87

/-- A number without a sign, in the base that its first characters tell, and
what follows it. -/
def readNatural (cs : List Char) : Nat × List Char :=
  let inBase (base : Nat) (cs : List Char) : Nat × List Char :=
    let digits := cs.takeWhile fun c => (c.isDigit || c.isAlpha) && digitValue c < base
    (digits.foldl (fun n c => n * base + digitValue c) 0, cs.drop digits.length)
  let startsIn (base : Nat) (cs : List Char) : Bool :=
    cs.head?.any fun c => (c.isDigit || c.isAlpha) && digitValue c < base
  match cs with
  | '0' :: x :: rest =>
    if (x = 'x' ∨ x = 'X') ∧ startsIn 16 rest then inBase 16 rest else inBase 8 cs
  | _ => inBase 10 cs

def isBlank (c : Char) : Bool := c == ' ' || ('\t' ≤ c && c ≤ '\r')

/-- A text that is a number, with blanks around it; blanks alone are zero. -/
def valueOf? (text : List Char) : Option Int :=
  let body := text.dropWhile isBlank
  let (negative, digits) := match body with
    | '-' :: rest => (true, rest)
    | '+' :: rest => (false, rest)
    | _ => (false, body)
  if digits.head?.any Char.isDigit then
    let (n, rest) := readNatural digits
    let n : Int := if negative then -n else n
    if rest.all isBlank ∧ smallest ≤ n ∧ n ≤ largest then some n else none
  else if text.all isBlank then some 0
  else none

/-- A text that is a decimal number, with blanks around it. -/
def decimal? (text : List Char) : Option Int :=
  let body := text.dropWhile isBlank
  let (negative, digits) := match body with
    | '-' :: rest => (true, rest)
    | '+' :: rest => (false, rest)
    | _ => (false, body)
  let number := digits.takeWhile Char.isDigit
  let n : Int := number.foldl (fun n c => n * 10 + digitValue c) 0
  let n := if negative then -n else n
  if !number.isEmpty ∧ (digits.drop number.length).all isBlank ∧ smallest ≤ n ∧ n ≤ largest then
    some n
  else none

/-- A text that counts something. -/
def count? (text : List Char) : Option Nat :=
  match decimal? text with
  | some n => if 0 ≤ n ∧ n < Nat.pow 2 31 then some n.toNat else none
  | none => none

/-! ### Signs -/

inductive Sign where
  | ending
  | number (n : Int)
  | name (cs : Name)
  | operator (text : String)
  /-- a character that means nothing -/
  | wrong
  deriving DecidableEq, Repr

/-- Operators, the longer ones first. -/
def operators : List String :=
  ["<<=", ">>=", "&&", "||", "==", "!=", "<=", ">=", "<<", ">>", "+=", "-=", "*=", "/=", "%=",
    "&=", "|=", "^=", "+", "-", "*", "/", "%", "<", ">", "=", "!", "~", "&", "|", "^", "(", ")",
    "?", ":"]

/-- The first sign of a text, and what follows it. -/
def nextSign (cs : List Char) : Sign × List Char :=
  match cs.dropWhile (fun c => c == ' ' || c == '\t' || c == '\n') with
  | [] => (.ending, [])
  | c :: rest =>
    let cs := c :: rest
    if c.isDigit then
      let (n, rest) := readNatural cs
      (.number (min n largest), rest)
    else if isNameStart c then
      let name := cs.takeWhile isNameChar
      (.name name, cs.drop name.length)
    else match operators.find? (fun op => op.toList.isPrefixOf cs) with
      | some op => (.operator op, cs.drop op.length)
      | none => (.wrong, cs)

/-! ### Failures -/

inductive Failure where
  | expected (what : String)
  | divisionByZero
  /-- a quotient that is no integer of 64 bits -/
  | overflow
  | noNumber (text : List Char)
  /-- an assignment to a variable that cannot change -/
  | fixed (name : Name)
  deriving DecidableEq, Repr

/-- What is known of the variables: their values from outside, those that cannot
change, and those that have been assigned. -/
structure Variables where
  outside : Name → List Char
  isFixed : Name → Bool
  assigned : List (Name × Int) := []

structure Progress where
  rest : List Char
  /-- the sign that ended the last operand -/
  last : Sign := .ending
  bindings : Variables

abbrev Calculation := StateT Progress (Except Failure)

def next : Calculation Sign := do
  let p ← get
  let (sign, rest) := nextSign p.rest
  set { p with rest }
  return sign

def last : Calculation Sign := do return (← get).last

def setLast (sign : Sign) : Calculation Unit := modify fun p => { p with last := sign }

def valueOf (name : Name) : Calculation Int := do
  let v := (← get).bindings
  match v.assigned.lookup name with
  | some n => return n
  | none =>
    match valueOf? (v.outside name) with
    | some n => return n
    | none => throw (.noNumber (v.outside name))

def assign (name : Name) (n : Int) : Calculation Int := do
  let v := (← get).bindings
  if v.isFixed name then throw (.fixed name)
  let others := v.assigned.filter fun entry => entry.1 != name
  modify fun p => { p with bindings := { v with assigned := (name, n) :: others } }
  return n

/-! ### Operators -/

def ofBool (b : Bool) : Int := if b then 1 else 0

/-- Bitwise operations on the 64 bits of two integers. -/
def bitwise (op : Nat → Nat → Nat) (a b : Int) : Int :=
  wrap (op (a.emod (Nat.pow 2 64)).toNat (b.emod (Nat.pow 2 64)).toNat)

def binary (op : String) (a b : Int) : Calculation Int :=
  match op with
  | "+" => return wrap (a + b)
  | "-" => return wrap (a - b)
  | "*" => return wrap (a * b)
  | "/" | "%" =>
    if b = 0 then throw .divisionByZero
    else if a = smallest ∧ b = -1 then throw .overflow
    else return if op = "/" then a.tdiv b else a.tmod b
  | "<<" => return wrap (a * Nat.pow 2 (b.emod 64).toNat)
  | ">>" => return a.fdiv (Nat.pow 2 (b.emod 64).toNat)
  | "<" => return ofBool (a < b)
  | ">" => return ofBool (b < a)
  | "<=" => return ofBool (a ≤ b)
  | ">=" => return ofBool (b ≤ a)
  | "==" => return ofBool (a = b)
  | "!=" => return ofBool (a ≠ b)
  | "&" => return bitwise (· &&& ·) a b
  | "^" => return bitwise (· ^^^ ·) a b
  | _ => return bitwise (· ||| ·) a b

/-- How loosely an operator between two operands binds. -/
def looseness? : Sign → Option (String × Nat)
  | .operator op =>
    (match op with
      | "*" | "/" | "%" => some 0
      | "+" | "-" => some 1
      | "<<" | ">>" => some 2
      | "<" | ">" | "<=" | ">=" => some 3
      | "==" | "!=" => some 4
      | "&" => some 5
      | "^" => some 6
      | "|" => some 7
      | _ => none).map fun n => (op, n)
  | _ => none

/-- An operator that assigns, as the operator on the old value. -/
def assigning? : Sign → Option String
  | .operator op =>
    if ["=", "+=", "-=", "*=", "/=", "%=", "<<=", ">>=", "&=", "|=", "^="].contains op then
      some (String.ofList op.toList.dropLast)
    else none
  | _ => none

/-! ### Expressions

Every function gets the sign that it begins with and, where it is known, the one
after that.  Nothing is assigned or looked up where `skipped` is set. -/

mutual

/-- An operand with the signs before it. -/
def operand : (fuel : Nat) → (skipped : Bool) → (sign following : Sign) → Calculation Int
  | 0, _, _, _ => throw (.expected "primary")
  | fuel + 1, skipped, sign, following => do
    match sign with
    | .number n =>
      setLast following
      return n
    | .name name =>
      setLast following
      if skipped then return 0 else valueOf name
    | .operator "(" =>
      let n ← expression fuel skipped following
      if (← last) != .operator ")" then throw (.expected "')'")
      setLast (← next)
      return n
    | .operator "+" => operand fuel skipped following (← next)
    | .operator "-" => return wrap (-(← operand fuel skipped following (← next)))
    | .operator "!" => return ofBool ((← operand fuel skipped following (← next)) = 0)
    | .operator "~" => return wrap (-(← operand fuel skipped following (← next)) - 1)
    | _ => throw (.expected "primary")

/-- What follows a first operand and an operator, as far as it binds more tightly
than a limit. -/
def operation : (fuel : Nat) → (skipped : Bool) → (a : Int) → (op : String) →
    (own limit : Nat) → Calculation Int
  | 0, _, _, _, _, _ => throw (.expected "primary")
  | fuel + 1, skipped, a, op, own, limit => do
    let sign ← next
    let b ← operand fuel skipped sign (← next)
    let b ← match looseness? (← last) with
      | some (tighter, n) =>
        if n < own then operation fuel skipped b tighter n own else pure b
      | none => pure b
    let a ← if skipped then pure b else binary op a b
    match looseness? (← last) with
    | some (op, n) => if n < limit then operation fuel skipped a op n limit else return a
    | none => return a

def operations : (fuel : Nat) → (skipped : Bool) → (sign following : Sign) → Calculation Int
  | 0, _, _, _ => throw (.expected "primary")
  | fuel + 1, skipped, sign, following => do
    let a ← operand fuel skipped sign following
    match looseness? (← last) with
    | some (op, n) => operation fuel skipped a op n 8
    | none => return a

def conjunction : (fuel : Nat) → (skipped : Bool) → (sign following : Sign) → Calculation Int
  | 0, _, _, _ => throw (.expected "primary")
  | fuel + 1, skipped, sign, following => do
    let a ← operations fuel skipped sign following
    if (← last) = .operator "&&" then
      let sign ← next
      let b ← conjunction fuel (skipped || a = 0) sign (← next)
      return ofBool (a ≠ 0 ∧ b ≠ 0)
    else return a

def disjunction : (fuel : Nat) → (skipped : Bool) → (sign following : Sign) → Calculation Int
  | 0, _, _, _ => throw (.expected "primary")
  | fuel + 1, skipped, sign, following => do
    let a ← conjunction fuel skipped sign following
    if (← last) = .operator "||" then
      let sign ← next
      let b ← disjunction fuel (skipped || a ≠ 0) sign (← next)
      return ofBool (a ≠ 0 ∨ b ≠ 0)
    else return a

def choice : (fuel : Nat) → (skipped : Bool) → (sign following : Sign) → Calculation Int
  | 0, _, _, _ => throw (.expected "primary")
  | fuel + 1, skipped, sign, following => do
    let a ← disjunction fuel skipped sign following
    if (← last) = .operator "?" then
      let b ← expression fuel (skipped || a = 0) (← next)
      if (← last) != .operator ":" then throw (.expected "':'")
      let sign ← next
      let c ← choice fuel (skipped || a ≠ 0) sign (← next)
      return if a ≠ 0 then b else c
    else return a

/-- A whole expression. -/
def expression : (fuel : Nat) → (skipped : Bool) → (sign : Sign) → Calculation Int
  | 0, _, _ => throw (.expected "primary")
  | fuel + 1, skipped, sign => do
    let following ← next
    match sign, assigning? following with
    | .name name, some op =>
      let n ← expression fuel skipped (← next)
      if skipped then return n
      else if op = "" then assign name n
      else assign name (← binary op (← valueOf name) n)
    | _, _ => choice fuel skipped sign following

end

/-- The value of an expression and the assignments in it. -/
def run (bindings : Variables) (text : List Char) :
    Except Failure (Int × List (Name × Int)) := do
  let whole : Calculation Int := do
    let n ← expression (8 * text.length + 16) false (← next)
    if (← last) != .ending then throw (.expected "EOF")
    return n
  let (n, p) ← whole.run { rest := text, bindings }
  return (n, p.bindings.assigned)

end PipelineShell.Script.Arithmetic
