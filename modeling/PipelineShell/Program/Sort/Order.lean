import PipelineShell.Text.Octets

/-!
# Orders of texts

Texts are compared by their bytes, as decimal numbers of any length, as amounts
with a unit, as numbers of limited precision, as names of months, or as
versions.  In each order a text counts as far as it can be read; what cannot be
read at all counts as the least.
-/

namespace PipelineShell.Program.Sort

/-- The order of bytes, in which a beginning comes before what it begins. -/
def compareBytes : Bytes → Bytes → Ordering
  | [], [] => .eq
  | [], _ => .lt
  | _, [] => .gt
  | a :: as, b :: bs => if a < b then .lt else if b < a then .gt else compareBytes as bs

/-- Bytes that separate fields, and that are skipped before a number. -/
def isBlankByte (b : UInt8) : Bool := b == 32 || b == 9 || b == 10

/-- What is read of a text in the orders that look into it. -/
def content (text : Bytes) : List Char :=
  Octets.ofBytes ((text.takeWhile (· != 0)).dropWhile isBlankByte)

/-! ### Decimal numbers -/

/-- A decimal number: its digits before the point without leading zeros, and
those after it without trailing zeros. -/
structure Decimal where
  negative : Bool
  whole : List Char
  fraction : List Char
  deriving DecidableEq, Repr

namespace Decimal

/-- The number with which a text begins. -/
def read (cs : List Char) : Decimal :=
  let negative := cs.head? == some '-'
  let cs := if negative then cs.drop 1 else cs
  let whole := cs.takeWhile Char.isDigit
  let fraction := match cs.drop whole.length with
    | '.' :: rest => rest.takeWhile Char.isDigit
    | _ => []
  let whole := whole.dropWhile (· == '0')
  let fraction := (fraction.reverse.dropWhile (· == '0')).reverse
  ⟨negative && !(whole.isEmpty && fraction.isEmpty), whole, fraction⟩

def compareDigits : List Char → List Char → Ordering
  | [], [] => .eq
  | [], _ => .lt
  | _, [] => .gt
  | a :: as, b :: bs => (compare a b).then (compareDigits as bs)

def compareSize (a b : Decimal) : Ordering :=
  ((compare a.whole.length b.whole.length).then (compareDigits a.whole b.whole)).then
    (compareDigits a.fraction b.fraction)

def order (a b : Decimal) : Ordering :=
  match a.negative, b.negative with
  | false, false => compareSize a b
  | true, true => compareSize b a
  | true, false => .lt
  | false, true => .gt

end Decimal

def compareNumbers (a b : Bytes) : Ordering :=
  (Decimal.read (content a)).order (Decimal.read (content b))

/-! ### Amounts with a unit -/

/-- Units in ascending order. -/
def units : List (List Char) :=
  [['k', 'K'], ['M'], ['G'], ['T'], ['P'], ['E'], ['Z'], ['Y']]

/-- The place of a unit, from one on. -/
def unitRank (c : Char) : Nat :=
  match units.findIdx? (·.contains c) with
  | some n => n + 1
  | none => 0

/-- The rank of the unit of an amount; zero has none. -/
def amountRank (cs : List Char) : Int :=
  let negative := cs.head? == some '-'
  let cs := if negative then cs.drop 1 else cs
  let whole := cs.takeWhile Char.isDigit
  let after := cs.drop whole.length
  let (fraction, after) := match after with
    | '.' :: rest =>
      let fraction := rest.takeWhile Char.isDigit
      (fraction, rest.drop fraction.length)
    | _ => ([], after)
  let rank : Int := match after with
    | c :: _ => if (whole ++ fraction).any (· != '0') then unitRank c else 0
    | [] => 0
  if negative then -rank else rank

def compareAmounts (a b : Bytes) : Ordering :=
  (compare (amountRank (content a)) (amountRank (content b))).then (compareNumbers a b)

/-! ### Numbers of limited precision -/

/-- A number as `mantissa * 2 ^ exponent`, with so many bits as are kept. -/
structure Rounded where
  negative : Bool
  mantissa : Nat
  exponent : Int
  deriving DecidableEq, Repr

/-- What the beginning of a text means. -/
inductive Measure where
  | unreadable
  | undefined (negative : Bool)
  | infinite (negative : Bool)
  | finite (value : Rounded)
  deriving DecidableEq, Repr

namespace Measure

/-- The bits of a mantissa that are kept. -/
def precision : Nat := 64

/-- The exponent of the least number above zero. -/
def leastExponent : Int := -16445

/-- Numbers of this exponent or more are infinite. -/
def infiniteExponent : Int := 16321

/-- A quotient rounded to the nearest whole number, a half to the even one. -/
def roundQuotient (num den : Nat) : Nat :=
  let q := num / den
  let twice := 2 * (num % den)
  if twice < den ∨ (twice = den ∧ q % 2 = 0) then q else q + 1

/-- A quotient rounded to the precision that is kept. -/
def ofQuotient (negative : Bool) (num den : Nat) : Measure :=
  if num = 0 then .finite ⟨negative, 0, leastExponent⟩
  else
    let rough : Int := (num.log2 : Int) - (den.log2 : Int) - (precision - 1 : Nat)
    let scaled (e : Int) : Nat :=
      if 0 ≤ e then roundQuotient num (den * Nat.pow 2 e.toNat)
      else roundQuotient (num * Nat.pow 2 (-e).toNat) den
    -- the quotient of the leading bits may be one bit short
    let tight (e : Int) : Bool :=
      if 0 ≤ e then den * Nat.pow 2 (e.toNat + (precision - 1)) ≤ num
      else den * Nat.pow 2 (precision - 1) ≤ num * Nat.pow 2 (-e).toNat
    let e := max leastExponent (if tight rough then rough else rough - 1)
    let m := scaled e
    let (m, e) := if m = Nat.pow 2 precision then (m / 2, e + 1) else (m, e)
    if infiniteExponent ≤ e then .infinite negative else .finite ⟨negative, m, e⟩

/-- Exponents beyond this bound change nothing. -/
def exponentBound : Nat := 20000

/-- A mantissa and the powers of ten and two that stand beside it. -/
def ofParts (negative : Bool) (mantissa : Nat) (digits : Nat) (base : Nat) (exponent : Int) :
    Measure :=
  if mantissa = 0 then ofQuotient negative 0 1
  else if (exponentBound : Int) < exponent then .infinite negative
  else if exponent + digits < -(exponentBound : Int) then ofQuotient negative 0 1
  else if 0 ≤ exponent then ofQuotient negative (mantissa * base.pow exponent.toNat) 1
  else ofQuotient negative mantissa (base.pow (-exponent).toNat)

def digitValue (c : Char) : Nat :=
  if c.isDigit then c.toNat - 48 else c.toLower.toNat - 87

def isHexDigit (c : Char) : Bool := c.isDigit || ('a' ≤ c.toLower && c.toLower ≤ 'f')

/-- The digits around a point. -/
def readDigits (ok : Char → Bool) (cs : List Char) : List Char × List Char × List Char :=
  let whole := cs.takeWhile ok
  match cs.drop whole.length with
  | '.' :: rest =>
    let fraction := rest.takeWhile ok
    (whole, fraction, rest.drop fraction.length)
  | rest => (whole, [], rest)

/-- An exponent after its letter. -/
def readExponent (letter : Char) (cs : List Char) : Int :=
  match cs with
  | c :: rest =>
    if c.toLower != letter then 0
    else
      let negative := rest.head? == some '-'
      let rest := if negative || rest.head? == some '+' then rest.drop 1 else rest
      let n : Int := Octets.decimal (rest.takeWhile Char.isDigit)
      if negative then -n else n
  | [] => 0

/-- A number without its sign, with digits of a base; each digit after the point
counts for so many powers. -/
def readUnsigned (negative : Bool) (ok : Char → Bool) (base : Nat) (letter : Char)
    (powerBase perDigit : Nat) (cs : List Char) : Measure :=
  let (whole, fraction, rest) := readDigits ok cs
  if whole.isEmpty && fraction.isEmpty then .unreadable
  else
    let digits := whole ++ fraction
    let mantissa := digits.foldl (fun n c => n * base + digitValue c) 0
    ofParts negative mantissa (digits.length * perDigit) powerBase
      (readExponent letter rest - (fraction.length * perDigit : Nat))

def startsWith (text : String) (cs : List Char) : Bool :=
  text.toList.isPrefixOf (cs.map Char.toLower)

/-- The number with which a text begins. -/
def read (text : Bytes) : Measure :=
  let cs := (Octets.ofBytes (text.takeWhile (· != 0))).dropWhile fun c =>
    c == ' ' || ('\t' ≤ c && c ≤ '\r')
  let negative := cs.head? == some '-'
  let cs := if negative || cs.head? == some '+' then cs.drop 1 else cs
  if startsWith "inf" cs then .infinite negative
  else if startsWith "nan" cs then .undefined negative
  else
    let (whole, fraction, _) := readDigits isHexDigit (cs.drop 2)
    if startsWith "0x" cs && !(whole.isEmpty && fraction.isEmpty) then
      readUnsigned negative isHexDigit 16 'p' 2 4 (cs.drop 2)
    else readUnsigned negative Char.isDigit 10 'e' 10 1 cs

/-- The rank of what is no number, below all numbers. -/
def rank : Measure → Nat
  | unreadable => 0
  | undefined true => 1
  | undefined false => 2
  | _ => 3

/-- The size of a number as a pair that is compared from the left. -/
def size : Measure → Nat × Int × Nat
  | infinite _ => (1, 0, 0)
  | finite v => (0, if v.mantissa = 0 then leastExponent - 1 else v.exponent, v.mantissa)
  | _ => (0, leastExponent - 1, 0)

def isNegative : Measure → Bool
  | infinite negative => negative
  | finite v => v.negative && v.mantissa != 0
  | _ => false

def compareSize (a b : Measure) : Ordering :=
  let (i, e, m) := a.size
  let (j, f, n) := b.size
  ((compare i j).then (compare e f)).then (compare m n)

def order (a b : Measure) : Ordering :=
  (compare a.rank b.rank).then
    (match a.isNegative, b.isNegative with
      | false, false => compareSize a b
      | true, true => compareSize b a
      | true, false => .lt
      | false, true => .gt)

end Measure

def compareMeasures (a b : Bytes) : Ordering := (Measure.read a).order (Measure.read b)

/-! ### Months -/

def months : List String :=
  ["JAN", "FEB", "MAR", "APR", "MAY", "JUN", "JUL", "AUG", "SEP", "OCT", "NOV", "DEC"]

/-- The number of the month with whose name a text begins. -/
def monthNumber (text : Bytes) : Nat :=
  let cs := ((content text).take 3).map Char.toUpper
  match months.findIdx? (·.toList == cs) with
  | some n => n + 1
  | none => 0

def compareMonths (a b : Bytes) : Ordering := compare (monthNumber a) (monthNumber b)

/-! ### Versions -/

namespace Version

/-- The rank of the first character that is no digit. -/
def rank : List Char → Int
  | [] => -1
  | c :: _ =>
    if c.isDigit then 0
    else if c.isAlpha then c.toNat
    else if c = '~' then -2
    else c.toNat + 256

def startsWithDigit (cs : List Char) : Bool := cs.head?.any Char.isDigit

/-- Runs of digits are compared as numbers, and what is between them by ranks. -/
def compareRuns : (fuel : Nat) → List Char → List Char → Ordering
  | 0, _, _ => .eq
  | fuel + 1, a, b =>
    if a.isEmpty && b.isEmpty then .eq
    else if (!a.isEmpty && !startsWithDigit a) || (!b.isEmpty && !startsWithDigit b) then
      (compare (rank a) (rank b)).then (compareRuns fuel (a.drop 1) (b.drop 1))
    else
      let a := a.dropWhile (· == '0')
      let b := b.dropWhile (· == '0')
      let m := a.takeWhile Char.isDigit
      let n := b.takeWhile Char.isDigit
      ((compare m.length n.length).then (Decimal.compareDigits m n)).then
        (compareRuns fuel (a.drop m.length) (b.drop n.length))

/-- Whether a text is a row of endings: a point, a letter or a tilde, and then
letters, digits and tildes. -/
def isEndings : List Char → Bool
  | [] => true
  | '.' :: c :: rest => (c.isAlpha || c = '~') && go rest
  | _ => false
where
  go : List Char → Bool
    | [] => true
    | '.' :: c :: rest => (c.isAlpha || c = '~') && go rest
    | c :: rest => (c.isAlphanum || c = '~') && go rest

/-- The text without its longest row of endings; its first character stays. -/
def withoutEndings (cs : List Char) : List Char :=
  match cs with
  | [] => []
  | c :: rest => c :: go rest
where
  go : List Char → List Char
    | [] => []
    | c :: rest => if isEndings (c :: rest) then [] else c :: go rest

def compareTexts (a b : List Char) : Ordering :=
  let fuel := a.length + b.length + 1
  (compareRuns fuel (withoutEndings a) (withoutEndings b)).then (compareRuns fuel a b)

/-- Names that begin with a point come first, and of these a point alone and two
points alone. -/
def nameRank : List Char → Nat
  | [] => 0
  | ['.'] => 1
  | ['.', '.'] => 2
  | '.' :: _ => 3
  | _ => 4

end Version

def compareVersions (a b : Bytes) : Ordering :=
  let a := Octets.ofBytes a
  let b := Octets.ofBytes b
  let byRank := compare (Version.nameRank a) (Version.nameRank b)
  if Version.nameRank a < 3 then byRank else byRank.then (Version.compareTexts a b)

end PipelineShell.Program.Sort
