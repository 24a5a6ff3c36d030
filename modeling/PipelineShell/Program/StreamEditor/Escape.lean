import PipelineShell.Text.OctetClass

/-!
# Escapes in editing scripts

A backslash and a letter can stand for a character that is hard to write.  What
becomes of the other backslashes depends on where the text stands.
-/

namespace PipelineShell.Program.StreamEditor

/-- A character of a text with escapes. -/
inductive Written where
  | plain (c : Char)
  /-- made by an escape -/
  | made (c : Char)
  /-- behind a backslash that is no escape -/
  | kept (c : Char)
  deriving DecidableEq, Repr

def letterEscapes : List (Char × Char) :=
  [('a', '\x07'), ('f', '\x0c'), ('n', '\n'), ('r', '\r'), ('t', '\t'), ('v', '\x0b')]

/-- The base and the most digits of escapes by number. -/
def numberEscapes : List (Char × Nat × Nat) := [('d', 10, 3), ('o', 8, 3), ('x', 16, 2)]

/-- The digits at the start of a text, at most so many. -/
def leadingDigits (base most : Nat) (cs : List Char) : List Char :=
  (cs.take most).takeWhile fun c => Octets.isHexDigit c && Octets.digitValue c < base

/-- The control character of a character. -/
def control (c : Char) : Char := Char.ofNat (c.toUpper.toNat ^^^ 0x40)

def recursiveEscape : String := "recursive escaping after \\c not allowed"

/-- Tell escapes from other characters; `fuel` is more than the length. -/
def unescapeFrom : (fuel : Nat) → List Char → Except String (List Written)
  | 0, _ => .ok []
  | _, [] => .ok []
  | fuel + 1, '\\' :: c :: rest =>
    match letterEscapes.lookup c, numberEscapes.lookup c with
    | some d, _ => (unescapeFrom fuel rest).map (.made d :: ·)
    | none, some (base, most) =>
      let digits := leadingDigits base most rest
      let value := digits.foldl (fun n d => n * base + Octets.digitValue d) 0
      let made := if digits.isEmpty then c else Char.ofNat (value % 256)
      (unescapeFrom fuel (rest.drop digits.length)).map (.made made :: ·)
    | none, none =>
      if c != 'c' then (unescapeFrom fuel rest).map (.kept c :: ·)
      else match rest with
        | [] => .ok [.plain '\\']
        | '\\' :: '\\' :: rest => (unescapeFrom fuel rest).map (.made (control '\\') :: ·)
        | '\\' :: _ => .error recursiveEscape
        | d :: rest => (unescapeFrom fuel rest).map (.made (control d) :: ·)
  | fuel + 1, c :: rest => (unescapeFrom fuel rest).map (.plain c :: ·)

def unescape (cs : List Char) : Except String (List Written) := unescapeFrom (cs.length + 1) cs

/-- A text in which a backslash only shields the next character. -/
def literalText (text : List Written) : List Char :=
  text.map fun
    | .plain c | .made c | .kept c => c

/-- A text that is read as an expression.  Only a backslash that is made stands
for itself. -/
def patternText (text : List Written) : List Char :=
  text.flatMap fun
    | .plain c => [c]
    | .made c => if c = '\\' then ['\\', '\\'] else [c]
    | .kept c => ['\\', c]

end PipelineShell.Program.StreamEditor
