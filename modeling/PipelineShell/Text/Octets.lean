import PipelineShell.Text.Bytes

/-!
# Bytes as characters

Programs that work on bytes are written on characters below 256, one for each
byte.
-/

namespace PipelineShell.Octets

/-- The character that stands for a byte. -/
def ofByte (b : UInt8) : Char := Char.ofNat b.toNat

/-- The byte for which a character stands. -/
def toByte (c : Char) : UInt8 := UInt8.ofNat c.toNat

def ofBytes (b : Bytes) : List Char := b.map ofByte

def toBytes (cs : List Char) : Bytes := cs.map toByte

/-- The value of decimal digits. -/
def decimal (cs : List Char) : Nat :=
  cs.foldl (fun n c => n * 10 + (c.toNat - 48)) 0

end PipelineShell.Octets
