import PipelineShell.Program.Naming
import PipelineShell.Program.Sort.Order

/-!
# Keys of lines

A key is a part of a line, given by fields and characters, and a way to compare
it.  Lines are compared key by key.
-/

namespace PipelineShell.Program.Sort

/-- Characters of a key that do not count. -/
inductive Ignored where
  | nothing
  | unseen
  | signs
  deriving DecidableEq, Repr

/-- How a key is compared. -/
structure Rule where
  /-- blanks before the beginning and before the end of a key do not count -/
  skipsAtStart : Bool := false
  skipsAtEnd : Bool := false
  ignored : Ignored := .nothing
  folded : Bool := false
  measured : Bool := false
  amounts : Bool := false
  months : Bool := false
  numbers : Bool := false
  shuffled : Bool := false
  versions : Bool := false
  reversed : Bool := false
  deriving DecidableEq, Repr

/-- The ends of a key at which the letter for blanks counts. -/
inductive BlankEnd where
  | start
  | finish
  | both
  deriving DecidableEq, Repr

namespace Rule

def addLetter? (r : Rule) (blankEnd : BlankEnd) : Char → Option Rule
  | 'b' => some { r with
      skipsAtStart := r.skipsAtStart || blankEnd != .finish
      skipsAtEnd := r.skipsAtEnd || blankEnd != .start }
  | 'd' => some { r with ignored := .signs }
  | 'f' => some { r with folded := true }
  | 'g' => some { r with measured := true }
  | 'h' => some { r with amounts := true }
  | 'i' => some { r with ignored := if r.ignored = .nothing then .unseen else r.ignored }
  | 'M' => some { r with months := true }
  | 'n' => some { r with numbers := true }
  | 'R' => some { r with shuffled := true }
  | 'r' => some { r with reversed := true }
  | 'V' => some { r with versions := true }
  | _ => none

/-- Add letters up to the first that is none, with what is left. -/
def addLetters (r : Rule) (blankEnd : BlankEnd) : List Char → Rule × List Char
  | [] => (r, [])
  | c :: rest =>
    match r.addLetter? blankEnd c with
    | some r => addLetters r blankEnd rest
    | none => (r, c :: rest)

/-- Nothing but the direction is set. -/
def isDefault (r : Rule) : Bool := { r with reversed := false } = ({} : Rule)

/-- The ways to compare that exclude each other. -/
def isContradictory (r : Rule) : Bool :=
  1 < [r.numbers, r.measured, r.amounts, r.months,
    r.versions || r.shuffled || r.ignored != .nothing].countP id

/-- The letters of a rule that concern its way to compare. -/
def letters (r : Rule) : String :=
  String.ofList (([(r.ignored == .signs, 'd'), (r.folded, 'f'), (r.measured, 'g'), (r.amounts, 'h'),
    (r.ignored == .unseen, 'i'), (r.months, 'M'), (r.numbers, 'n'), (r.shuffled, 'R'),
    (r.versions, 'V')].filter Prod.fst).map Prod.snd)

/-- The characters that count, as they are compared. -/
def counted (r : Rule) (text : Bytes) : Bytes :=
  let kept : Char → Bool := match r.ignored with
    | .nothing => fun _ => true
    | .unseen => fun c => ' ' ≤ c && c ≤ '~'
    | .signs => fun c => c.isAlphanum || c = ' ' || c = '\t' || c = '\n'
  if r.ignored = .nothing && !r.folded then text
  else Octets.toBytes (((Octets.ofBytes text).filter kept).map fun c =>
    if r.folded then c.toUpper else c)

/-- Compare two keys, without regard to the direction. -/
def order (r : Rule) (a b : Bytes) : Ordering :=
  let a := r.counted a
  let b := r.counted b
  if r.numbers then compareNumbers a b
  else if r.measured then compareMeasures a b
  else if r.amounts then compareAmounts a b
  else if r.months then compareMonths a b
  else if r.versions then compareVersions a b
  else compareBytes a b

end Rule

/-- A part of a line.  It begins after so many fields and characters, and ends
after so many fields and characters of the next one; a missing number of fields
means the beginning or the end of the line. -/
structure Key where
  startField : Option Nat := none
  startChar : Nat := 0
  endField : Option Nat := none
  endChar : Nat := 0
  rule : Rule := {}
  deriving DecidableEq, Repr

namespace Key

/-- The line after so many fields that are begun by blanks. -/
def dropBlankFields : Nat → Bytes → Bytes
  | 0, line => line
  | _, [] => []
  | n + 1, line =>
    dropBlankFields n ((line.dropWhile isBlankByte).dropWhile fun b => !isBlankByte b)

/-- The line after so many fields that a separator ends. -/
def dropFields (separator : UInt8) : Nat → Bytes → Bytes
  | 0, line => line
  | _, [] => []
  | n + 1, line => dropFields separator n ((line.dropWhile (· != separator)).drop 1)

/-- The line from the end of so many fields, the last of which keeps its
separator. -/
def dropToEnd (separator : UInt8) : Nat → Bytes → Bytes
  | 0, line => line
  | n + 1, line => (dropFields separator n line).dropWhile (· != separator)

/-- Where a key begins in a line. -/
def start (k : Key) (separator : Option UInt8) (line : Bytes) : Nat :=
  match k.startField with
  | none => (if k.rule.skipsAtStart then line.takeWhile isBlankByte else []).length
  | some fields =>
    let rest := match separator with
      | some b => dropFields b fields line
      | none => dropBlankFields fields line
    let rest := if k.rule.skipsAtStart then rest.dropWhile isBlankByte else rest
    line.length - (rest.drop k.startChar).length

/-- Where a key ends in a line. -/
def finish (k : Key) (separator : Option UInt8) (line : Bytes) : Nat :=
  match k.endField with
  | none => line.length
  | some fields =>
    if k.endChar = 0 then
      let rest := match separator with
        | some b => dropToEnd b (fields + 1) line
        | none => dropBlankFields (fields + 1) line
      line.length - rest.length
    else
      let rest := match separator with
        | some b => dropFields b fields line
        | none => dropBlankFields fields line
      let rest := if k.rule.skipsAtEnd then rest.dropWhile isBlankByte else rest
      line.length - (rest.drop k.endChar).length

/-- The part of a line that a key means. -/
def part (k : Key) (separator : Option UInt8) (line : Bytes) : Bytes :=
  (line.take (k.finish separator line)).drop (k.start separator line)

def order (k : Key) (separator : Option UInt8) (a b : Bytes) : Ordering :=
  let order := k.rule.order (k.part separator a) (k.part separator b)
  if k.rule.reversed then order.swap else order

/-! ### Reading a key -/

/-- The number of fields and characters beyond which no line goes. -/
def maxCount : Nat := Nat.pow 2 64 - 1

/-- A number and what follows it. -/
def readCount? (cs : List Char) : Option (Nat × List Char) :=
  let body := cs.dropWhile fun c => c == ' ' || ('\t' ≤ c && c ≤ '\r')
  let body := if body.head? == some '+' then body.drop 1 else body
  let digits := body.takeWhile Char.isDigit
  if digits.isEmpty then none
  else some (min (Octets.decimal digits) maxCount, body.drop digits.length)

def readCount (cs : List Char) (what : String) : Except Bytes (Nat × List Char) :=
  match readCount? cs with
  | some found => .ok found
  | none => .error (utf8 (what ++ ": invalid count at start of ") ++
      quotedWord (Octets.toBytes cs))

/-- A number of characters after a point, if there is one. -/
def readChars (cs : List Char) : Except Bytes (Option Nat × List Char) :=
  match cs with
  | '.' :: rest => do
    let (n, rest) ← readCount rest "invalid number after '.'"
    return (some n, rest)
  | _ => .ok (none, cs)

/-- The key that a word defines: a beginning, and after a comma an end. -/
def read (word : Bytes) : Except Bytes Key := do
  let wrong {α : Type} (what : String) : Except Bytes α :=
    .error (utf8 (what ++ ": invalid field specification ") ++ quotedWord word)
  let (field, cs) ← readCount (Octets.ofBytes word) "invalid number at field start"
  if field = 0 then wrong "field number is zero"
  let (char, cs) ← readChars cs
  if char = some 0 then wrong "character offset is zero"
  let startChar := char.getD 1 - 1
  let startField := if field = 1 && startChar = 0 then none else some (field - 1)
  let (rule, cs) := Rule.addLetters {} .start cs
  let key : Key := { startField, startChar, rule }
  match cs with
  | [] => return key
  | ',' :: cs =>
    let (field, cs) ← readCount cs "invalid number after ','"
    if field = 0 then wrong "field number is zero"
    let (char, cs) ← readChars cs
    match Rule.addLetters key.rule .finish cs with
    | (rule, []) =>
      return { key with endField := some (field - 1), endChar := char.getD 0, rule }
    | _ => wrong "stray character in field spec"
  | _ => wrong "stray character in field spec"

/-- The old way to write the beginning of a key. -/
def readOldStart? (word : Bytes) : Option Key := do
  let (field, cs) ← readCount? (Octets.ofBytes word)
  let (char, cs) ← match cs with
    | '.' :: rest => readCount? rest
    | _ => some (0, cs)
  match Rule.addLetters {} .start cs with
  | (rule, []) =>
    return {
      startField := if field = 0 && char = 0 then none else some field
      startChar := char
      rule }
  | _ => none

/-- The old way to write the end of a key. -/
def readOldEnd (key : Key) (word : Bytes) : Except Bytes Key := do
  let (field, cs) ← readCount (Octets.ofBytes (word.drop 1)) "invalid number after '-'"
  let (char, cs) ← readChars cs
  let endChar := char.getD 0
  match Rule.addLetters key.rule .finish cs with
  | (rule, []) =>
    return { key with
      endField := some (if endChar = 0 then field - 1 else field), endChar, rule }
  | _ => .error (utf8 "stray character in field spec: invalid field specification " ++
      quotedWord word)

end Key

end PipelineShell.Program.Sort
