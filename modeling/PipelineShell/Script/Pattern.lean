import PipelineShell.Text.OctetClass

/-!
# Patterns of names

A star stands for any text, a question mark for one character, and a bracket
for one of its members.  A backslash lets the next character stand for itself.
Which parts of a text have an end that fits a pattern is found for all ends at
once.
-/

namespace PipelineShell.Script

/-- The members of a bracket. -/
inductive Members where
  | range (first last : Char)
  | named (contains : Char → Bool)

inductive PatternItem where
  | any
  | star
  | one (c : Char)
  | members (negated : Bool) (members : List Members)

abbrev Pattern := List PatternItem

namespace Pattern

/-- Characters above the lower half of the bytes come first in ranges. -/
def rank (c : Char) : Int := if c.toNat < 128 then c.toNat else c.toNat - 256

def Members.accepts (c : Char) : Members → Bool
  | .range first last => rank first ≤ rank c && rank c ≤ rank last
  | .named contains => contains c

/-- The class that is named at the start of a text, between colons and before a
closing bracket; and what follows. -/
def className? (cs : List Char) : Option ((Char → Bool) × List Char) :=
  Octets.classes.findSome? fun (name, contains) =>
    let written := (":" ++ name ++ ":]").toList
    if written.isPrefixOf cs then some (contains, cs.drop written.length) else none

/-- The members of a bracket up to its end. -/
def readMembers : (fuel : Nat) → List Char → Option (List Members × List Char)
  | 0, _ => none
  | fuel + 1, cs => do
    let (member, cs) ← first? cs
    match cs with
    | [] => none
    | ']' :: rest => some ([member], rest)
    | _ =>
      let (others, rest) ← readMembers fuel cs
      return (member :: others, rest)
where
  first? : List Char → Option (Members × List Char)
    | '[' :: rest =>
      match className? rest with
      | some (contains, rest) => some (.named contains, rest)
      | none => rangeFrom '[' rest
    | '\\' :: c :: rest => rangeFrom c rest
    | c :: rest => rangeFrom c rest
    | [] => none
  rangeFrom (c : Char) : List Char → Option (Members × List Char)
    | '-' :: rest =>
      match rest with
      | ']' :: _ => some (.range c c, '-' :: rest)
      | '\\' :: d :: rest => some (.range c d, rest)
      | d :: rest => some (.range c d, rest)
      | [] => none
    | rest => some (.range c c, rest)

/-- A bracket after its opening. -/
def readBracket (cs : List Char) : Option (PatternItem × List Char) :=
  let (negated, members) := match cs with
    | '!' :: rest => (true, rest)
    | _ => (false, cs)
  (readMembers (members.length + 1) members).map fun (members, rest) =>
    (.members negated members, rest)

/-- The pattern that a text writes; `fuel` is at least its length. -/
def read : (fuel : Nat) → List Char → Pattern
  | 0, _ => []
  | _, [] => []
  | fuel + 1, c :: rest =>
    match c, rest with
    | '*', _ => .star :: read fuel rest
    | '?', _ => .any :: read fuel rest
    | '[', _ =>
      match readBracket rest with
      | some (item, rest) => item :: read fuel rest
      | none => .one '[' :: read fuel rest
    | '\\', d :: rest => .one d :: read fuel rest
    | _, _ => .one c :: read fuel rest

def ofText (cs : List Char) : Pattern := read cs.length cs

def accepts (c : Char) : PatternItem → Bool
  | .any | .star => true
  | .one d => c == d
  | .members negated members => members.any (Members.accepts c) != negated

/-- For each end of a text, the longest first, whether it fits the pattern. -/
def fittingEnds : Pattern → List Char → List Bool
  | [], cs => cs.map (fun _ => false) ++ [true]
  | .star :: p, cs => (fittingEnds p cs).foldr (fun b ends => (b || ends.headD false) :: ends) []
  | item :: p, cs =>
    (cs.zip (fittingEnds p cs).tail).foldr (fun (c, b) ends => (accepts c item && b) :: ends) [false]

def fits (p : Pattern) (cs : List Char) : Bool := (fittingEnds p cs).headD false

/-- How much of the back of a text fits a pattern. -/
def back? (p : Pattern) (longest : Bool) (cs : List Char) : Option Nat :=
  let ends := (fittingEnds p cs).zipIdx.filterMap fun (b, i) => if b then some i else none
  (if longest then ends.head? else ends.getLast?).map fun i => cs.length - i

/-- How much of the front of a text fits a pattern. -/
def front? (p : Pattern) (longest : Bool) (cs : List Char) : Option Nat :=
  back? p.reverse longest cs.reverse

end Pattern

end PipelineShell.Script
