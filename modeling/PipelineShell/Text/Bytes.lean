/-!
# Bytes and text

Files, paths and environment values are byte strings; words and entries are
text.  Text is encoded as UTF-8.  To show bytes that are not UTF-8, each
longest run of bytes that could begin a character but does not become one is
shown as one replacement character.
-/

namespace PipelineShell

abbrev Bytes := List UInt8

/-- A text in UTF-8. -/
def utf8 (s : String) : Bytes :=
  s.toByteArray.data.toList

namespace Bytes

/-- The text that the bytes encode, if they are UTF-8. -/
def text? (b : Bytes) : Option String :=
  String.fromUTF8? ⟨b.toArray⟩

theorem text?_utf8 (s : String) : text? (utf8 s) = some s := by
  have hround : (⟨(utf8 s).toArray⟩ : ByteArray) = s.toByteArray := by
    simp [utf8]
  simp [text?, hround, String.fromUTF8?, s.isValidUTF8, String.fromUTF8]

theorem eq_utf8_of_text? {b : Bytes} {s : String} (h : text? b = some s) : b = utf8 s := by
  unfold text? String.fromUTF8? at h
  split at h
  · simp only [Option.some.injEq] at h
    subst h
    simp [utf8, String.fromUTF8]
  · simp at h

/-- Characters of a text, with the position of damage kept. -/
inductive Piece where
  | char (c : Char)
  | damaged
  deriving DecidableEq, Repr

/-- A byte `10xxxxxx` between two bounds. -/
def isTail (lo hi b : UInt8) : Bool := lo ≤ b && b ≤ hi

/-- The bounds of the second byte and the number of bytes of a character that
begins with a byte; `none` for a byte that begins none. -/
def leader (b : UInt8) : Option (UInt8 × UInt8 × Nat) :=
  if b < 0x80 then some (0, 0, 1)
  else if b < 0xC2 then none
  else if b < 0xE0 then some (0x80, 0xBF, 2)
  else if b = 0xE0 then some (0xA0, 0xBF, 3)
  else if b = 0xED then some (0x80, 0x9F, 3)
  else if b < 0xF0 then some (0x80, 0xBF, 3)
  else if b = 0xF0 then some (0x90, 0xBF, 4)
  else if b < 0xF4 then some (0x80, 0xBF, 4)
  else if b = 0xF4 then some (0x80, 0x8F, 4)
  else none

def low6 (b : UInt8) : Nat := b.toNat % 64

/-- The first piece of a non-empty byte string and the number of bytes after
its first one. -/
def firstPiece (b : UInt8) (rest : Bytes) : Piece × Nat :=
  match leader b with
  | none => (.damaged, 0)
  | some (lo, hi, size) =>
    if size = 1 then (.char (Char.ofNat b.toNat), 0)
    else match rest with
      | [] => (.damaged, 0)
      | b1 :: rest1 =>
        if !isTail lo hi b1 then (.damaged, 0)
        else if size = 2 then (.char (Char.ofNat (b.toNat % 32 * 64 + low6 b1)), 1)
        else match rest1 with
          | [] => (.damaged, 1)
          | b2 :: rest2 =>
            if !isTail 0x80 0xBF b2 then (.damaged, 1)
            else if size = 3 then
              (.char (Char.ofNat (b.toNat % 16 * 4096 + low6 b1 * 64 + low6 b2)), 2)
            else match rest2 with
              | [] => (.damaged, 2)
              | b3 :: _ =>
                if !isTail 0x80 0xBF b3 then (.damaged, 2)
                else
                  (.char (Char.ofNat
                    (b.toNat % 8 * 262144 + low6 b1 * 4096 + low6 b2 * 64 + low6 b3)), 3)

/-- The characters and the damaged runs of a byte string, each with its bytes. -/
def pieces (b : Bytes) : List (Piece × Bytes) :=
  go b []
where
  go (b : Bytes) (done : List (Piece × Bytes)) : List (Piece × Bytes) :=
    match b with
    | [] => done.reverse
    | first :: rest =>
      let (piece, extra) := firstPiece first rest
      go (rest.drop extra) ((piece, first :: rest.take extra) :: done)
  termination_by b.length
  decreasing_by simp only [List.length_drop, List.length_cons]; omega

/-- The bytes as a text, with U+FFFD for each damaged run. -/
def display (b : Bytes) : String :=
  match text? b with
  | some s => s
  | none => String.ofList ((pieces b).map fun
      | (.char c, _) => c
      | (.damaged, _) => '\ufffd')

end Bytes

end PipelineShell
