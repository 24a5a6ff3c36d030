import PipelineShell.Text.OctetClass

/-!
# Numbers with a fraction

A text is read as the nearest number of 53 bits, and such a number is written
with a set count of digits.  A tie goes to the even neighbour in both.
-/

namespace PipelineShell.Script

/-- A number of 53 bits, apart from its sign: a mantissa times a power of two. -/
inductive Fraction where
  | finite (mantissa : Nat) (power : Int)
  | infinite
  | noNumber
  deriving DecidableEq, Repr

namespace Fraction

/-- The quotient of two numbers, rounded to the nearest. -/
def roundedQuotient (a b : Nat) : Nat :=
  let q := a / b
  match compare (2 * (a % b)) b with
  | .lt => q
  | .gt => q + 1
  | .eq => if q % 2 = 0 then q else q + 1

/-- A quotient times a power of a base, as a quotient. -/
def scaled (base : Nat) (power : Int) (a b : Nat) : Nat × Nat :=
  (a * base.pow power.toNat, b * base.pow (-power).toNat)

/-- The number nearest to a quotient; the flag tells whether it is out of range. -/
def nearest (a b : Nat) : Fraction × Bool :=
  if a = 0 then (finite 0 0, false)
  else
    let guess : Int := (a.log2 : Int) - b.log2 - 52
    let tooSmall (power : Int) : Bool :=
      let (n, d) := scaled 2 (-power) a b
      n / d < Nat.pow 2 52
    let power := max (-1074) (if tooSmall guess then guess - 1 else guess)
    let (n, d) := scaled 2 (-power) a b
    let mantissa := roundedQuotient n d
    let (mantissa, power) :=
      if mantissa = Nat.pow 2 53 then (Nat.pow 2 52, power + 1) else (mantissa, power)
    if 971 < power then (infinite, true)
    else (finite mantissa power, power = -1074 && mantissa < Nat.pow 2 52 && n % d ≠ 0)

/-! ### Reading -/

/-- A number that was read: its sign, what it is, what follows it, and whether it
was out of range. -/
structure Reading where
  negative : Bool := false
  value : Fraction := finite 0 0
  rest : List Char
  outOfRange : Bool := false

def lowered (cs : List Char) : List Char := cs.map Char.toLower

/-- The exponent after a letter, if there is one. -/
def exponent (letter : Char) (cs : List Char) : Int × List Char :=
  match cs with
  | c :: rest =>
    if c.toLower = letter then
      let (negative, digits) := match rest with
        | '-' :: rest => (true, rest)
        | '+' :: rest => (false, rest)
        | _ => (false, rest)
      let shown := digits.takeWhile Char.isDigit
      if shown.isEmpty then (0, cs)
      else
        let n : Int := Octets.decimal shown
        (if negative then -n else n, digits.drop shown.length)
    else (0, cs)
  | [] => (0, [])

/-- So far a number may be from one. -/
def farthest : Int := 5000

/-- Read digits with a point in a base. -/
def readDigits? (base : Nat) (isDigit : Char → Bool) (letter : Char) (step : Nat)
    (cs : List Char) : Option Reading :=
  let whole := cs.takeWhile isDigit
  let after := cs.drop whole.length
  let parts := match after with
    | '.' :: rest => rest.takeWhile isDigit
    | _ => []
  let hasPoint := after.head? = some '.' && !(whole.isEmpty && parts.isEmpty)
  let rest := if hasPoint then after.drop (parts.length + 1) else after
  let digits := whole ++ parts
  if digits.isEmpty then none
  else
    let (shift, rest) := exponent letter rest
    let n := digits.foldl (fun n c => n * base + Octets.digitValue c) 0
    let power := shift - (parts.length * step : Nat)
    let size : Int := power + (digits.length * step : Nat)
    if n = 0 then some { value := finite 0 0, rest }
    else if farthest < size then some { value := infinite, rest, outOfRange := true }
    else if size < -farthest then some { value := finite 0 0, rest, outOfRange := true }
    else
      let (a, b) := scaled (if step = 1 then base else 2) power n 1
      let (value, outOfRange) := nearest a b
      some { value, rest, outOfRange }

/-- Read a number at the start of a text. -/
def read (text : List Char) : Reading :=
  let body := text.dropWhile Octets.isSpace
  let (negative, cs) := match body with
    | '-' :: rest => (true, rest)
    | '+' :: rest => (false, rest)
    | _ => (false, body)
  let low := lowered cs
  let startsWith (word : String) : Bool := word.toList.isPrefixOf low
  let found : Option Reading :=
    if startsWith "infinity" then some { value := infinite, rest := cs.drop 8 }
    else if startsWith "inf" then some { value := infinite, rest := cs.drop 3 }
    else if startsWith "nan" then some { value := noNumber, rest := cs.drop 3 }
    else
      let hex := if startsWith "0x" then readDigits? 16 Octets.isHexDigit 'p' 4 (cs.drop 2) else none
      hex.or (readDigits? 10 Char.isDigit 'e' 1 cs)
  match found with
  | some r => { r with negative }
  | none => { rest := text }

/-! ### Writing -/

def digitsOf (n : Nat) : List Char := Nat.toDigits 10 n

/-- The digits of a number with so many places after the point. -/
def fixedDigits (mantissa : Nat) (power : Int) (places : Nat) (keepPoint : Bool) : List Char :=
  let (a, b) := scaled 2 power (mantissa * Nat.pow 10 places) 1
  let digits := digitsOf (roundedQuotient a b)
  let digits := List.replicate (places + 1 - digits.length) '0' ++ digits
  let whole := digits.take (digits.length - places)
  whole ++ (if places = 0 && !keepPoint then [] else '.' :: digits.drop whole.length)

/-- The digits of a number rounded to so many and the power of ten of the first one. -/
def leadingDigits (mantissa : Nat) (power : Int) (count : Nat) : List Char × Int :=
  if mantissa = 0 then (List.replicate count '0', 0)
  else
    let (a, b) := scaled 2 power mantissa 1
    let guess : Int := (digitsOf a).length - (digitsOf b).length
    let isBelow : Bool :=
      let (n, d) := scaled 10 (-guess) a b
      n < d
    let first := if isBelow then guess - 1 else guess
    let (n, d) := scaled 10 (count - 1 - first) a b
    let digits := digitsOf (roundedQuotient n d)
    if digits.length > count then (digits.take count, first + 1) else (digits, first)

def exponentText (n : Int) : List Char :=
  let digits := digitsOf n.natAbs
  (if n < 0 then '-' else '+') :: List.replicate (2 - digits.length) '0' ++ digits

def withPoint (digits : List Char) (keepPoint : Bool) : List Char :=
  digits.take 1 ++ (if digits.length ≤ 1 && !keepPoint then [] else '.' :: digits.drop 1)

def withoutTrailingZeros (digits : List Char) : List Char :=
  (digits.reverse.dropWhile (· == '0')).reverse

/-- With an exponent. -/
def exponentDigits (mantissa : Nat) (power : Int) (places : Nat) (keepPoint : Bool) : List Char :=
  let (digits, first) := leadingDigits mantissa power (places + 1)
  withPoint digits keepPoint ++ 'e' :: exponentText first

/-- With as many digits as asked, in the shorter of the two forms. -/
def generalDigits (mantissa : Nat) (power : Int) (count : Nat) (keepPoint : Bool) : List Char :=
  let count := max count 1
  let (digits, first) := leadingDigits mantissa power count
  if first < -4 || (count : Int) ≤ first then
    let digits := if keepPoint then digits
      else digits.take 1 ++ withoutTrailingZeros (digits.drop 1)
    withPoint digits keepPoint ++ 'e' :: exponentText first
  else
    let text := fixedDigits mantissa power (count - 1 - first).toNat keepPoint
    if keepPoint || !text.contains '.' then text
    else
      let text := withoutTrailingZeros text
      if text.getLast? = some '.' then text.dropLast else text

/-- In base sixteen, with all places or with so many. -/
def hexDigits (mantissa : Nat) (power : Int) (places : Option Nat) (keepPoint : Bool) : List Char :=
  let (mantissa, power) : Nat × Int :=
    if mantissa = 0 then (0, 0)
    else if mantissa < Nat.pow 2 52 then (mantissa, -1022)
    else (mantissa, power + 52)
  let whole (n size : Nat) : List Char :=
    let digits := Nat.toDigits 16 n
    List.replicate (size - digits.length) '0' ++ digits
  let digits := match places with
    | none =>
      let digits := whole mantissa 14
      digits.take 1 ++ withoutTrailingZeros (digits.drop 1)
    | some places =>
      if places < 13 then whole (roundedQuotient mantissa (Nat.pow 16 (13 - places))) (places + 1)
      else whole mantissa 14 ++ List.replicate (places - 13) '0'
  let sign := if power < 0 then '-' else '+'
  "0x".toList ++ withPoint digits keepPoint ++ 'p' :: sign :: digitsOf power.natAbs

/-- Write a number as a letter tells, without its sign. -/
def write (letter : Char) (precision : Option Nat) (keepPoint : Bool) : Fraction → List Char
  | infinite => "inf".toList
  | noNumber => "nan".toList
  | finite mantissa power =>
    let places := precision.getD 6
    match letter with
    | 'f' => fixedDigits mantissa power places keepPoint
    | 'e' => exponentDigits mantissa power places keepPoint
    | 'g' => generalDigits mantissa power places keepPoint
    | _ => hexDigits mantissa power precision keepPoint

end Fraction

end PipelineShell.Script
