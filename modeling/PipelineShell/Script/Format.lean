import PipelineShell.Script.Fraction

/-!
# Formatted output

Escapes in texts, and formats whose signs are replaced by arguments.  A format
is used again as long as there are arguments left.
-/

namespace PipelineShell.Script.Format

/-! ### Escapes -/

def isOctal (c : Char) : Bool := '0' ≤ c && c ≤ '7'

def octal (cs : List Char) : Char :=
  Char.ofNat (cs.foldl (fun n c => n * 8 + (c.toNat - 48)) 0 % 256)

def letters : List (Char × Char) :=
  [('a', '\x07'), ('b', '\x08'), ('e', '\x1b'), ('f', '\x0c'), ('n', '\n'), ('r', '\r'),
    ('t', '\t'), ('v', '\x0b'), ('\\', '\\')]

/-- Read an escape of a format after its backslash. -/
def escape (cs : List Char) : Char × List Char :=
  match cs with
  | [] => ('\\', [])
  | c :: rest =>
    if isOctal c then
      let digits := c :: (rest.take 2).takeWhile isOctal
      (octal digits, cs.drop digits.length)
    else match letters.lookup c with
      | some letter => (letter, rest)
      | none => ('\\', cs)

/-- Read the escapes of a text, in which octal digits follow a zero; tells whether
it asks to end all output. -/
def unescape : (fuel : Nat) → List Char → List Char × Bool
  | 0, _ => ([], false)
  | _, [] => ([], false)
  | fuel + 1, '\\' :: rest =>
    match rest with
    | 'c' :: _ => ([], true)
    | '0' :: rest =>
      let digits := (rest.take 3).takeWhile isOctal
      let (more, ends) := unescape fuel (rest.drop digits.length)
      (octal digits :: more, ends)
    | _ =>
      let (c, rest) := escape rest
      let (more, ends) := unescape fuel rest
      (c :: more, ends)
  | fuel + 1, c :: rest =>
    let (more, ends) := unescape fuel rest
    (c :: more, ends)

def unescaped (cs : List Char) : List Char × Bool := unescape (cs.length + 1) cs

/-! ### Setting values -/

/-- How a value is set. -/
structure Setting where
  left : Bool := false
  zeros : Bool := false
  plus : Bool := false
  space : Bool := false
  marked : Bool := false
  width : Nat := 0
  precision : Option Nat := none

def pad (s : Setting) (sign digits : List Char) : List Char :=
  let missing := s.width - (sign.length + digits.length)
  if s.left then sign ++ digits ++ List.replicate missing ' '
  else if s.zeros then sign ++ List.replicate missing '0' ++ digits
  else List.replicate missing ' ' ++ sign ++ digits

def setText (s : Setting) (cs : List Char) : List Char :=
  let cs := match s.precision with
    | some n => cs.take n
    | none => cs
  pad { s with zeros := false } [] cs

def signOf (s : Setting) (negative : Bool) : List Char :=
  if negative then ['-'] else if s.plus then ['+'] else if s.space then [' '] else []

/-- Digits with as many zeros before them as the precision asks. -/
def withPrecision (s : Setting) (digits : List Char) : List Char :=
  if s.precision = some 0 ∧ digits = ['0'] then []
  else List.replicate (s.precision.getD 0 - digits.length) '0' ++ digits

def setInteger (s : Setting) (n : Int) : List Char :=
  pad { s with zeros := s.zeros && s.precision.isNone } (signOf s (n < 0))
    (withPrecision s (Nat.toDigits 10 n.natAbs))

/-- Set a number without a sign in a base. -/
def setNatural (s : Setting) (letter : Char) (n : Nat) : List Char :=
  let base := if letter = 'o' then 8 else if letter = 'u' then 10 else 16
  let digits := withPrecision s (Nat.toDigits base n)
  let digits := if letter = 'o' && s.marked && digits.head? != some '0' then '0' :: digits
    else digits
  let mark := if base = 16 && s.marked && n != 0 then ['0', 'x'] else []
  let text := pad { s with zeros := s.zeros && s.precision.isNone } mark digits
  if letter = 'X' then text.map Char.toUpper else text

/-- Set a number with a fraction. -/
def setFraction (s : Setting) (letter : Char) (negative : Bool) (f : Fraction) : List Char :=
  let isFinite := match f with
    | .finite _ _ => true
    | _ => false
  let digits := Fraction.write letter.toLower s.precision s.marked f
  let (mark, digits) := if letter.toLower = 'a' && isFinite then (digits.take 2, digits.drop 2)
    else ([], digits)
  let text := pad { s with zeros := s.zeros && isFinite } (signOf s negative ++ mark) digits
  if letter.isUpper then text.map Char.toUpper else text

/-! ### Numbers -/

/-- What is wrong with an argument that is to be a number. -/
inductive NumberFault where
  | noNumber | incomplete | outOfRange
  deriving DecidableEq, Repr

def NumberFault.message : NumberFault → String
  | noNumber => "expected numeric value"
  | incomplete => "not completely converted"
  | outOfRange => "Numerical result out of range"

/-- The digits of a number in the base that its first characters tell, and what
follows them. -/
def readDigits (cs : List Char) : Option (Nat × List Char) :=
  let inBase (base : Nat) (cs : List Char) : Option (Nat × List Char) :=
    let digits := cs.takeWhile fun c => c.isAlphanum && Octets.digitValue c < base
    if digits.isEmpty then none
    else some (digits.foldl (fun n c => n * base + Octets.digitValue c) 0, cs.drop digits.length)
  match cs with
  | '0' :: c :: rest =>
    (if c = 'x' ∨ c = 'X' then inBase 16 rest else none).or (inBase 8 cs)
  | _ => inBase 10 cs

def faultOf (complete : Bool) (outOfRange : Bool) : Option NumberFault :=
  if !complete then some .incomplete else if outOfRange then some .outOfRange else none

/-- The integer that a text writes, and what is wrong with it.  A quote before a
character means its code. -/
def integerOf (signed : Bool) (cs : List Char) : Int × Option NumberFault :=
  match cs with
  | '\'' :: rest | '"' :: rest => (((rest.head?.map Char.toNat).getD 0 : Nat), none)
  | _ =>
    let body := cs.dropWhile Octets.isSpace
    let (negative, digits) := match body with
      | '-' :: rest => (true, rest)
      | '+' :: rest => (false, rest)
      | _ => (false, body)
    match readDigits digits with
    | none => (0, if cs.isEmpty then none else some .noNumber)
    | some (n, rest) =>
      let n : Int := if negative then -n else n
      if signed then
        let clipped := max (-(Nat.pow 2 63 : Int)) (min n (Nat.pow 2 63 - 1))
        (clipped, faultOf rest.isEmpty (clipped != n))
      else if Nat.pow 2 64 ≤ n.natAbs then (Nat.pow 2 64 - 1, faultOf rest.isEmpty true)
      else (n.emod (Nat.pow 2 64), faultOf rest.isEmpty false)

def fractionOf (cs : List Char) : Bool × Fraction × Option NumberFault :=
  match cs with
  | '\'' :: rest | '"' :: rest =>
    (false, (Fraction.nearest ((rest.head?.map Char.toNat).getD 0) 1).1, none)
  | _ =>
    let r := Fraction.read cs
    let fault := if r.rest.isEmpty then (if r.outOfRange then some NumberFault.outOfRange else none)
      else if r.rest.length = cs.length then some .noNumber
      else some .incomplete
    (r.negative, r.value, fault)

/-! ### Formats -/

/-- What the uses of a format have done so far; lists have the latest first. -/
structure Progress where
  output : List (List Char) := []
  args : List (List Char)
  faults : List (List Char × NumberFault) := []
  /-- what is wrong with the format -/
  wrong : Option (List Char) := none
  ends : Bool := false

namespace Progress

def put (text : List Char) (p : Progress) : Progress := { p with output := text :: p.output }

def next (p : Progress) : Option (List Char) × Progress :=
  match p.args with
  | [] => (none, p)
  | a :: args => (some a, { p with args })

def note (a : List Char) (fault : Option NumberFault) (p : Progress) : Progress :=
  match fault with
  | some fault => { p with faults := (a, fault) :: p.faults }
  | none => p

def nextInteger (signed : Bool) (p : Progress) : Int × Progress :=
  match p.next with
  | (none, p) => (0, p)
  | (some a, p) =>
    let (n, fault) := integerOf signed a
    (n, p.note a fault)

end Progress

def readFlags : Setting → List Char → Setting × List Char
  | s, c :: rest =>
    match c with
    | '-' => readFlags { s with left := true } rest
    | '0' => readFlags { s with zeros := true } rest
    | '+' => readFlags { s with plus := true } rest
    | ' ' => readFlags { s with space := true } rest
    | '#' => readFlags { s with marked := true } rest
    | _ => (s, c :: rest)
  | s, [] => (s, [])

/-- A number or a star in a format, with what may stand after it. -/
def readSize (p : Progress) (cs : List Char) : Option Int × Progress × List Char :=
  let rest := cs.dropWhile fun c => c.isDigit || c == '*'
  match cs with
  | '*' :: _ =>
    let (n, p) := p.nextInteger true
    (some n, p, rest)
  | _ =>
    let digits := cs.takeWhile Char.isDigit
    (if digits.isEmpty then none else some (Octets.decimal digits), p, rest)

def readSetting (p : Progress) (cs : List Char) : Setting × Progress × List Char :=
  let (s, cs) := readFlags {} cs
  let (width, p, cs) := readSize p cs
  let w := width.getD 0
  let s := { s with width := w.natAbs, left := s.left || w < 0 }
  match cs with
  | '.' :: rest =>
    let (precision, p, cs) := readSize p rest
    let n := precision.getD 0
    ({ s with precision := if n < 0 then none else some n.toNat }, p, cs)
  | _ => (s, p, cs)

/-- Set the next argument as a letter tells; `none` if the letter has no meaning. -/
def setArgument (s : Setting) (letter : Char) (p : Progress) : Option Progress :=
  if letter = 'd' ∨ letter = 'i' then
    let (n, p) := p.nextInteger true
    some (p.put (setInteger s n))
  else if "ouxX".toList.contains letter then
    let (n, p) := p.nextInteger false
    some (p.put (setNatural s letter n.toNat))
  else if "aAeEfFgG".toList.contains letter then
    let (a, p) := p.next
    let (negative, f, fault) := fractionOf (a.getD [])
    let p := p.note (a.getD []) (if a.isSome then fault else none)
    some (p.put (setFraction s letter negative f))
  else match letter with
    | 'c' =>
      let (a, p) := p.next
      some (p.put (pad { s with zeros := false } [] [(a.bind List.head?).getD '\x00']))
    | 's' =>
      let (a, p) := p.next
      some (p.put (setText s (a.getD [])))
    | 'b' =>
      let (a, p) := p.next
      let (cs, ends) := unescaped (a.getD [])
      some { p.put (setText s cs) with ends }
    | _ => none

/-- Use a format once. -/
def useOnce : (fuel : Nat) → Progress → List Char → Progress
  | 0, p, _ => p
  | fuel + 1, p, cs =>
    if p.ends || p.wrong.isSome then p
    else match cs with
      | [] => p
      | '%' :: '%' :: rest => useOnce fuel (p.put ['%']) rest
      | '%' :: rest =>
        match readSetting p rest with
        | (_, p, []) => { p with wrong := some "missing format character".toList }
        | (s, p, letter :: after) =>
          match setArgument s letter p with
          | some p => useOnce fuel p after
          | none =>
            let sign := cs.take (cs.length - after.length)
            { p with wrong := some (sign ++ ": invalid directive".toList) }
      | '\\' :: rest =>
        let (c, rest) := escape rest
        useOnce fuel (p.put [c]) rest
      | c :: rest => useOnce fuel (p.put [c]) rest

/-- Use a format until no arguments are left. -/
def useAgain (format : List Char) : (fuel : Nat) → Progress → Progress
  | 0, p => p
  | fuel + 1, p =>
    let after := useOnce (format.length + 1) p format
    if after.ends || after.wrong.isSome || after.args.isEmpty ||
        after.args.length = p.args.length then after
    else useAgain format fuel after

/-- What a format makes of arguments. -/
def run (format : List Char) (args : List (List Char)) : Progress :=
  useAgain format (args.length + 1) { args }

/-- The text of the words that are shown as they are. -/
def echo (args : List (List Char)) : List Char :=
  let (args, ending) := match args with
    | ['-', 'n'] :: rest => (rest, [])
    | _ => (args, ['\n'])
  go ending args
where
  go (ending : List Char) : List (List Char) → List Char
    | [] => ending
    | a :: rest =>
      match unescaped a with
      | (cs, true) => cs
      | (cs, false) => cs ++ (if rest.isEmpty then [] else [' ']) ++ go ending rest

end PipelineShell.Script.Format
