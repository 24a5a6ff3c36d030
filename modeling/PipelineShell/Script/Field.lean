import PipelineShell.Script.Pattern

/-!
# Cutting expanded words into fields

An expanded word is a row of glyphs: characters, some of which stand only for
themselves, and marks where quotes begin or end.  It consists of regions.  A
region is kept whole, or cut at separators, or cut only between arguments.
-/

namespace PipelineShell.Script

inductive Glyph where
  | char (c : Char) (escaped : Bool)
  | mark
  deriving DecidableEq, Repr

/-- How a region is cut. -/
inductive Cutting where
  | never
  | atSeparators
  /-- at the zeros that stand between arguments -/
  | atZeros
  deriving DecidableEq, Repr

structure Region where
  glyphs : List Glyph
  cutting : Cutting := .never
  deriving Repr

namespace Glyph

/-- The text of glyphs. -/
def text (gs : List Glyph) : List Char :=
  gs.filterMap fun
    | char c _ => some c
    | mark => none

/-- The text of glyphs as a pattern: a character that stands only for itself
gets a backslash, unless a plain backslash already stands before it. -/
def patternText (gs : List Glyph) : List Char :=
  go gs true
where
  go : List Glyph → (protect : Bool) → List Char
    | [], _ => []
    | mark :: rest, _ => go rest true
    | char c escaped :: rest, protect =>
      if escaped then (if protect then ['\\', c] else [c]) ++ go rest true
      else c :: go rest (c != '\\')

def pattern (gs : List Glyph) : Pattern := Pattern.ofText (patternText gs)

end Glyph

namespace Region

def glyphsOf (rs : List Region) : List Glyph := rs.flatMap (·.glyphs)

def textOf (rs : List Region) : List Char := Glyph.text (glyphsOf rs)

end Region

/-- Fields under way; all lists have the latest first. -/
structure Fields where
  done : List (List Glyph) := []
  current : List Glyph := []
  /-- the separators of this region, apart from the zero -/
  separators : List Char := []
  zerosOnly : Bool := false
  afterZeros : Bool := false
  /-- blanks have ended a field -/
  inBlanks : Bool := false
  /-- how many fields may still be begun; the last one takes all that is left -/
  left : Option Nat := none
  /-- the last field without the blanks at its end -/
  trimmed : Option (List Glyph) := none

namespace Fields

def defaultSeparators : List Char := [' ', '\t', '\n', '\x00']

def keep (g : Glyph) (f : Fields) : Fields := { f with current := g :: f.current }

/-- A glyph of the last field. -/
def keepLast (g : Glyph) (isSeparator isDefault : Bool) (f : Fields) : Fields :=
  if isDefault then { f.keep g with trimmed := some (f.trimmed.getD f.current) }
  else
    { f.keep g with
      trimmed := if isSeparator && f.inBlanks then f.trimmed else none, inBlanks := false }

/-- A separator. -/
def cut (g : Glyph) (isDefault : Bool) (f : Fields) : Fields :=
  let f := if f.afterZeros || f.zerosOnly then f else { f with inBlanks := isDefault }
  if f.current.isEmpty && f.inBlanks then { f with inBlanks := false }
  else
    let left := f.left.map (· - 1)
    if left = some 0 then { f.keep g with left, trimmed := some f.current }
    else { f with left, done := f.current :: f.done, current := [] }

/-- A glyph of a region that is cut. -/
def addCut (f : Fields) (g : Glyph) : Fields :=
  match g with
  | .mark => f.keep g
  | .char c _ =>
    let isSeparator := c == '\x00' || f.separators.contains c
    let isDefault := isSeparator && defaultSeparators.contains c
    if f.left = some 0 then f.keepLast g isSeparator isDefault
    else if f.inBlanks then
      if isDefault then { f with current := [] }
      else if isSeparator then { f with current := [], inBlanks := false }
      else { f with current := [g], inBlanks := false }
    else if isSeparator then f.cut g isDefault
    else f.keep g

def addRegion (separators : List Char) (f : Fields) (r : Region) : Fields :=
  let enter (separators : List Char) (zerosOnly : Bool) : Fields :=
    { f with separators, zerosOnly, afterZeros := f.zerosOnly, inBlanks := false }
  match r.cutting with
  | .never => r.glyphs.foldl (fun f g => f.keep g) f
  | .atSeparators => r.glyphs.foldl addCut (enter separators false)
  | .atZeros => r.glyphs.foldl addCut (enter [] true)

def finish (f : Fields) : List (List Glyph) :=
  let last := if f.zerosOnly then f.current else f.trimmed.getD f.current
  let done := if last.isEmpty && !f.zerosOnly then f.done else last :: f.done
  (done.map List.reverse).reverse

/-- The fields of an expanded word. -/
def ofRegions (separators : List Char) (limit : Option Nat) (rs : List Region) :
    List (List Glyph) :=
  (rs.foldl (addRegion separators) { left := limit }).finish

end Fields

end PipelineShell.Script
