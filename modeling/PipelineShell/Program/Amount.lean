import PipelineShell.Program.Naming

/-!
# Amounts on a command line

An amount is a decimal number with an optional unit.  A unit of one letter is a
power of 1024; with a `B` after it, it is a power of 1000.
-/

namespace PipelineShell.Program

inductive AmountError where
  | malformed
  | tooLarge
  deriving DecidableEq, Repr

/-- Units, with the power that they stand for. -/
def unitPowers : List (Char × Nat) :=
  [('k', 1), ('K', 1), ('m', 2), ('M', 2), ('G', 3), ('T', 4), ('P', 5), ('E', 6), ('Z', 7),
    ('Y', 8)]

/-- The factor that a unit stands for. -/
def unitFactor? (cs : List Char) : Option Nat :=
  match cs with
  | [] => some 1
  | ['b'] => some 512
  | c :: rest =>
    match unitPowers.lookup c, rest with
    | some power, [] | some power, ['i', 'B'] => some (Nat.pow 1024 power)
    | some power, ['B'] | some power, ['D'] => some (Nat.pow 1000 power)
    | _, _ => none

def isSpaceLike (c : Char) : Bool := c == ' ' || ('\t' ≤ c && c ≤ '\r')

/-- The amount that a text writes.  A unit alone stands for one of it. -/
def amount? (text : Bytes) : Except AmountError Nat :=
  let cs := (Octets.ofBytes text).dropWhile isSpaceLike
  let body := if cs.head? == some '+' then cs.drop 1 else cs
  let digits := body.takeWhile Char.isDigit
  let (number, unit) :=
    if digits.isEmpty then (1, Octets.ofBytes text)
    else (Octets.decimal digits, body.drop digits.length)
  if digits.isEmpty && unit.isEmpty then .error .malformed
  else match unitFactor? unit with
    | none => .error .malformed
    | some factor =>
      if Nat.pow 2 64 ≤ number * factor then .error .tooLarge else .ok (number * factor)

/-- What is wrong with a text that should be an amount. -/
def AmountError.text (text : Bytes) : AmountError → Bytes
  | malformed => quotedWord text
  | tooLarge => quotedWord text ++ utf8 ": Value too large for defined data type"

end PipelineShell.Program
