import PipelineShell.Text.Octets

/-!
# Named classes of octets

The classes that a set of characters can name.  Only ASCII characters are in
any of them.
-/

namespace PipelineShell.Octets

def isBlank (c : Char) : Bool := c == ' ' || c == '\t'

def isSpace (c : Char) : Bool := c == ' ' || ('\t' ≤ c && c ≤ '\r')

def isGraph (c : Char) : Bool := '!' ≤ c && c ≤ '~'

def isControl (c : Char) : Bool := c < ' ' || c == '\x7f'

def isHexDigit (c : Char) : Bool := c.isDigit || ('a' ≤ c && c ≤ 'f') || ('A' ≤ c && c ≤ 'F')

/-- A letter, a digit or an underscore. -/
def isWord (c : Char) : Bool := c.isAlphanum || c == '_'

def classes : List (String × (Char → Bool)) :=
  [("lower", Char.isLower), ("upper", Char.isUpper), ("digit", Char.isDigit),
    ("alpha", Char.isAlpha), ("alnum", Char.isAlphanum), ("blank", isBlank), ("space", isSpace),
    ("cntrl", isControl), ("xdigit", isHexDigit), ("graph", isGraph),
    ("punct", fun c => isGraph c && !c.isAlphanum), ("print", fun c => c == ' ' || isGraph c)]

/-- The value of a hexadecimal digit. -/
def digitValue (c : Char) : Nat :=
  if c.isDigit then c.toNat - 48 else c.toLower.toNat - 87

end PipelineShell.Octets
