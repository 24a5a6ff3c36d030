import PipelineShell.Text.Bytes
import PipelineShell.Text.Unprintable
import PipelineShell.Text.GraphemeExtend

/-!
# Quoted texts in log records

Log records show texts between double quotes, with escapes for what would not
be seen: controls, marks that would join the quote, and unprintable characters.
Paths show bytes that are not UTF-8 in hexadecimal.
-/

namespace PipelineShell.Text

def hexDigit (upper : Bool) (n : Nat) : Char :=
  if n < 10 then Char.ofNat (48 + n) else Char.ofNat ((if upper then 55 else 87) + n)

/-- The hexadecimal digits of a number, without leading zeros. -/
def hexDigits (n : Nat) : List Char :=
  Nat.toDigits 16 n

def isAscii (c : Char) : Bool := c.toNat < 0x80

/-- Letters that extend the character before them and still have a width of
their own: the halfwidth sound marks. -/
def extendingLetters : Ranges := [(0xFF9E, 0xFF9F)]

/-- A character that would not be seen by itself. -/
def joinsQuote (c : Char) : Bool :=
  graphemeExtendTable.has c.toNat && !extendingLetters.has c.toNat

/-- A character that is shown as itself. -/
def isPrintable (c : Char) : Bool :=
  if isAscii c then 0x20 ≤ c.toNat && c.toNat != 0x7F
  else !joinsQuote c && !unprintableTable.has c.toNat

/-- A character between double quotes. -/
def escape (c : Char) : List Char :=
  if c = '\x00' then ['\\', '0']
  else if c = '\t' then ['\\', 't']
  else if c = '\r' then ['\\', 'r']
  else if c = '\n' then ['\\', 'n']
  else if c = '"' ∨ c = '\\' then ['\\', c]
  else if isPrintable c then [c]
  else ['\\', 'u', '\x7b'] ++ hexDigits c.toNat ++ ['\x7d']

def enclose (cs : List Char) : String := String.ofList ('"' :: (cs ++ ['"']))

/-- A text between double quotes. -/
def quoted (s : String) : String := enclose (s.toList.flatMap escape)

/-- A path between double quotes. -/
def quotedPath (p : Bytes) : String :=
  enclose ((Bytes.pieces p).flatMap fun
    | (.char c, _) => escape c
    | (.damaged, bytes) => bytes.flatMap fun b =>
      ['\\', 'x', hexDigit true (b.toNat / 16), hexDigit true (b.toNat % 16)])

/-- Texts between brackets. -/
def quotedList (texts : List String) : String :=
  "[" ++ ", ".intercalate (texts.map quoted) ++ "]"

def quotedOption : Option String → String
  | none => "None"
  | some s => "Some(" ++ quoted s ++ ")"

end PipelineShell.Text
