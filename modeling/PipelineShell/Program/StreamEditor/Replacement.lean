import PipelineShell.Program.Regex.Machine
import PipelineShell.Program.StreamEditor.Escape

/-!
# Substitutions

A replacement is a list of segments, each a text and perhaps what a group has
matched.  Segments can ask for another case, for all their letters or for the
first one only.
-/

namespace PipelineShell.Program.StreamEditor

inductive LetterCase where
  | upper
  | lower
  deriving DecidableEq, Repr

/-- A part of a replacement. -/
structure Segment where
  text : List Char := []
  group : Option Nat := none
  letters : Option LetterCase := none
  /-- the case of the first letter -/
  first : Option LetterCase := none
  deriving Repr

/-! ### Reading -/

/-- The segments so far, latest first, and how the next one begins. -/
structure SegmentReading where
  done : List Segment := []
  text : List Char := []
  letters : Option LetterCase := none
  first : Option LetterCase := none

namespace SegmentReading

/-- End a segment, with a group if it has one. -/
def finish (r : SegmentReading) (group : Option Nat) : SegmentReading :=
  { done := ⟨r.text.reverse, group, r.letters, r.first⟩ :: r.done, letters := r.letters }

def put (r : SegmentReading) (c : Char) : SegmentReading := { r with text := c :: r.text }

def add (r : SegmentReading) : Written → SegmentReading
  | .made c => r.put c
  | .plain c => if c = '&' then r.finish (some 0) else r.put c
  | .kept c =>
    if c.isDigit then r.finish (some (c.toNat - 48))
    else match c with
      | 'L' => { r.finish none with letters := some .lower }
      | 'U' => { r.finish none with letters := some .upper }
      | 'E' => { r.finish none with letters := none }
      | 'l' => { r.finish none with first := some .lower }
      | 'u' => { r.finish none with first := some .upper }
      | _ => r.put c

end SegmentReading

/-- The segments of a replacement. -/
def readSegments (text : List Written) : List Segment :=
  ((text.foldl SegmentReading.add {}).finish none).done.reverse

/-- The highest group to which a replacement refers. -/
def highestGroup (segments : List Segment) : Nat :=
  segments.foldl (fun most s => max most (s.group.getD 0)) 0

/-! ### Replacing -/

def LetterCase.apply (c : Char) : Option LetterCase → Char
  | some .upper => c.toUpper
  | some .lower => c.toLower
  | none => c

/-- A text in a case, with its first letter in a case of its own. -/
def inCase (letters first : Option LetterCase) : List Char → List Char
  | [] => []
  | c :: rest =>
    LetterCase.apply c (first.orElse fun _ => letters) ::
      (if letters.isNone then rest else rest.map fun d => LetterCase.apply d letters)

/-- What stands between two places of a text. -/
def between (text : ByteArray) (start finish : Nat) : ByteArray := text.extract start finish

def octets (text : ByteArray) : List Char := Octets.ofBytes text.data.toList

/-- Add a replacement to a text.  The case asked for the first letter of a group
that has matched nothing goes over to the next segment. -/
def expand (text : ByteArray) (found : Regex.Machine.Match) :
    List Segment → (carried : Option LetterCase) → ByteArray → ByteArray
  | [], _, done => done
  | s :: rest, carried, done =>
    let first := s.first.orElse fun _ => carried
    let done := if s.text.isEmpty then done
      else done ++ ⟨(Octets.toBytes (inCase s.letters first s.text)).toArray⟩
    let first := if s.text.isEmpty then first else none
    match s.group with
    | none => expand text found rest none done
    | some index =>
      let (start, finish) := found.group index
      if start = finish then
        expand text found rest (if s.first.isSome then first else none) done
      else
        let matched := between text start finish
        let done := if s.letters.isNone && first.isNone then done ++ matched
          else done ++ ⟨(Octets.toBytes (inCase s.letters first (octets matched))).toArray⟩
        expand text found rest none done

/-- A substitution: which matches are replaced, and by what. -/
structure Substitution where
  replacement : List Segment
  /-- the first match that is replaced -/
  nth : Nat := 1
  everyMatch : Bool := false
  print : Bool := false
  /-- the file that gets the line -/
  outlet : Option Nat := none

/-- The state of a substitution in a line: the next place to look at, how many
matches there have been, and the new line. -/
structure Substituting where
  place : Nat := 0
  count : Nat := 0
  lastEnd : Option Nat := none
  changed : Bool := false
  done : ByteArray := .empty

/-- Replace matches from a place on.  An empty match right after a match is
none; `fuel` is more than the length of the text. -/
def Substitution.from (s : Substitution) (m : Regex.Machine) (text : ByteArray) :
    (fuel : Nat) → Substituting → Substituting
  | 0, w => w
  | fuel + 1, w =>
    if text.size < w.place then w
    else match m.find? text w.place with
      | none => w
      | some found =>
        let done := w.done ++ between text w.place found.start
        let isEmpty := found.start = found.finish
        if isEmpty && w.lastEnd == some found.start then
          s.from m text fuel
            { w with
              place := found.start + 1
              done := done ++ between text found.start (found.start + 1) }
        else
          let count := w.count + 1
          let replaces := s.nth ≤ count
          let done := if replaces then expand text found s.replacement none done
            else done ++ between text found.start found.finish
          let next := if isEmpty then found.finish + 1 else found.finish
          let done := if isEmpty then done ++ between text found.finish next else done
          let w := { w with
            place := next, count, lastEnd := some found.finish
            changed := w.changed || replaces, done }
          if replaces && !s.everyMatch then w else s.from m text fuel w

/-- The line after a substitution, if something has been replaced. -/
def Substitution.apply (s : Substitution) (m : Regex.Machine) (text : ByteArray) :
    Option ByteArray :=
  let w := s.from m text (text.size + 2) {}
  if w.changed then some (w.done ++ between text w.place text.size) else none

end PipelineShell.Program.StreamEditor
