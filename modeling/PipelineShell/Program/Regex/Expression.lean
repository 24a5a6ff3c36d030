import PipelineShell.Text.OctetClass

/-!
# Regular expressions

Expressions over characters of one byte, and their two written forms.  In the
basic form groups, bounds and bars are written with a backslash; in the extended
form without one.  Reading an expression fails with one of a fixed set of errors.
-/

namespace PipelineShell.Program

/-- What can be asked of a place between two characters. -/
inductive Condition where
  | lineStart
  | lineEnd
  | textStart
  | textEnd
  | wordStart
  | wordEnd
  | insideWord
  | outsideWord
  deriving DecidableEq, Repr

inductive Regex where
  /-- matches the empty text -/
  | empty
  | one (accepts : Char → Bool)
  | check (condition : Condition)
  | seq (first second : Regex)
  | either (first second : Regex)
  /-- any number of times; a group that is repeated by itself is optional -/
  | star (body : Regex)
  | group (index : Nat) (optional : Bool) (body : Regex)
  /-- what a group has matched, once more -/
  | again (index : Nat)

namespace Regex

/-- What is wrong with a written expression. -/
inductive SyntaxError where
  | badPattern
  | badCollation
  | badClass
  | trailingBackslash
  | badReference
  | openBracket
  | openGroup
  | closeGroup
  | openBounds
  | badBounds
  | badRange
  | tooBig
  | badRepetition
  deriving DecidableEq, Repr

def SyntaxError.message : SyntaxError → String
  | badPattern => "Invalid regular expression"
  | badCollation => "Invalid collation character"
  | badClass => "Invalid character class name"
  | trailingBackslash => "Trailing backslash"
  | badReference => "Invalid back reference"
  | openBracket => "Unmatched [, [^, [:, [., or [="
  | openGroup => "Unmatched ( or \\("
  | closeGroup => "Unmatched ) or \\)"
  | openBounds => "Unmatched \\\x7b"
  | badBounds => "Invalid content of \\\x7b\\\x7d"
  | badRange => "Invalid range end"
  | tooBig => "Regular expression too big"
  | badRepetition => "Invalid preceding regular expression"

/-- How an expression is written and meant. -/
structure Style where
  extended : Bool := false
  /-- letters match in both cases -/
  anyCase : Bool := false
  /-- lines of a text are told apart -/
  byLine : Bool := false
  deriving DecidableEq, Repr

/-- A character as it is compared. -/
def Style.fold (s : Style) (c : Char) : Char := if s.anyCase then c.toUpper else c

/-! ### Sets of characters between brackets -/

/-- A member of a set between brackets. -/
inductive Member where
  | char (c : Char)
  /-- a character named by a symbol of several characters -/
  | symbol (name : List Char)
  | likes (name : List Char)
  | class (name : List Char)

/-- The longest name in a bracket. -/
def maxNameLength : Nat := 31

/-- A name up to the mark that ends it, and what follows. -/
def readName (mark : Char) (cs : List Char) : Except SyntaxError (List Char × List Char) :=
  go maxNameLength cs []
where
  go : Nat → List Char → List Char → Except SyntaxError (List Char × List Char)
    | _, [], _ => .error .openBracket
    | _, [_], _ => .error .openBracket
    | room, c :: d :: rest, name =>
      if c = mark ∧ d = ']' then .ok (name.reverse, rest)
      else match room with
        | 0 => .error .openBracket
        | room + 1 => go room (d :: rest) (c :: name)

/-- A member and what follows it.  A dash is no member unless it is allowed or
comes last. -/
def readMember (s : Style) (dashAllowed : Bool) (cs : List Char) :
    Except SyntaxError (Member × List Char) :=
  match cs with
  | [] => .error .openBracket
  | '[' :: '.' :: rest =>
    (readName '.' rest).map fun (name, rest) => (.symbol (name.map s.fold), rest)
  | '[' :: '=' :: rest =>
    (readName '=' rest).map fun (name, rest) => (.likes (name.map s.fold), rest)
  | '[' :: ':' :: rest => (readName ':' rest).map fun (name, rest) => (.class name, rest)
  | '-' :: rest =>
    if dashAllowed ∨ rest.head? = some ']' then .ok (.char '-', rest) else .error .badRange
  | c :: rest => .ok (.char (s.fold c), rest)

/-- The character that bounds a range. -/
def Member.bound : Member → Except SyntaxError Char
  | char c => .ok c
  | symbol [c] => .ok c
  | symbol _ => .error .badCollation
  | likes _ | .class _ => .error .badRange

/-- What a member by itself accepts. -/
def Member.accepts (s : Style) : Member → Except SyntaxError (Char → Bool)
  | char c => .ok (· == c)
  | symbol [c] | likes [c] => .ok (· == c)
  | symbol _ | likes _ => .error .badCollation
  | .class name =>
    let name := String.ofList name
    let name := if s.anyCase && (name == "upper" || name == "lower") then "alpha" else name
    match Octets.classes.lookup name with
    | some isMember => .ok isMember
    | none => .error .badClass

/-- What has been read of a set: the characters that it accepts, and whether all
members have been single characters. -/
structure MemberSet where
  accepts : Char → Bool := fun _ => false
  isPlain : Bool := true

/-- The members from one on, up to the end of the bracket. -/
def readMembers (s : Style) : (fuel : Nat) → (first : Bool) → MemberSet → List Char →
    Except SyntaxError (MemberSet × List Char)
  | 0, _, _, _ => .error .openBracket
  | fuel + 1, first, before, cs => do
    let (member, rest) ← readMember s first cs
    let isRange := match member, rest with
      | .class _, _ | .likes _, _ => false
      | _, '-' :: next :: _ => next != ']'
      | _, _ => false
    let unended := match member, rest with
      | .class _, _ | .likes _, _ => false
      | _, [] | _, ['-'] => true
      | _, _ => false
    if unended then throw .openBracket
    let (accepts, rest) ←
      if isRange then do
        let (last, rest) ← readMember s true (rest.drop 1)
        let lo ← member.bound
        let hi ← last.bound
        if hi < lo then throw .badRange
        pure ((fun c => decide (lo ≤ c) && decide (c ≤ hi)), rest)
      else do
        let accepts ← member.accepts s
        pure (accepts, rest)
    let isChar := match member with
      | .char _ => true
      | _ => false
    let set : MemberSet :=
      ⟨fun c => before.accepts c || accepts c, before.isPlain && !isRange && isChar⟩
    match rest with
    | [] => throw .openBracket
    | ']' :: rest => return (set, rest)
    | _ => readMembers s fuel false set rest

/-- A set that looks like the name of a class without the brackets around it. -/
def isMistakenClass (set : MemberSet) (members : List Char) : Bool :=
  set.isPlain && members.head? == some ':' && members.getLast? == some ':' &&
    members.any (· != ':')

/-- A set between brackets, as it has been read. -/
structure Bracket where
  accepts : Char → Bool
  mistaken : Bool
  rest : List Char

/-- A set of characters after its opening bracket.  A closing bracket that
comes first is a member. -/
def readBracket (s : Style) (cs : List Char) : Except SyntaxError Bracket := do
  let (negated, cs) := match cs with
    | '^' :: rest => (true, rest)
    | _ => (false, cs)
  if cs.isEmpty then throw .badPattern
  let (set, rest) ← readMembers s (cs.length + 1) true {} cs
  let mistaken := isMistakenClass set (cs.take (cs.length - rest.length - 1))
  let accepts := if negated then
      fun c => !(set.accepts c || (s.byLine && c == '\n'))
    else set.accepts
  return { accepts, mistaken, rest }

/-! ### Tokens -/

inductive Token where
  | finish
  | char (c : Char)
  | any
  | bracket
  | openGroup
  | closeGroup (c : Char)
  | bar
  /-- at least so many times, and perhaps at most once -/
  | repeated (c : Char) (least : Nat) (atMostOnce : Bool)
  | openBounds (c : Char)
  | closeBounds (c : Char)
  | condition (condition : Condition)
  /-- at the edge of a word -/
  | wordEdge
  | noWordEdge
  | set (accepts : Char → Bool)
  | again (index : Nat)
  | lonelyBackslash

/-- The token that a backslash makes of a character. -/
def escapedToken (extended : Bool) (c : Char) : Token :=
  match c with
  | '<' => .condition .wordStart
  | '>' => .condition .wordEnd
  | 'b' => .wordEdge
  | 'B' => .noWordEdge
  | 'w' => .set Octets.isWord
  | 'W' => .set fun c => !Octets.isWord c
  | 's' => .set Octets.isSpace
  | 'S' => .set fun c => !Octets.isSpace c
  | '\x60' => .condition .textStart
  | '\'' => .condition .textEnd
  | _ =>
    if '1' ≤ c ∧ c ≤ '9' then .again (c.toNat - 48)
    else if extended then .char c
    else match c with
      | '|' => .bar
      | '(' => .openGroup
      | ')' => .closeGroup c
      | '+' => .repeated c 1 false
      | '?' => .repeated c 0 true
      | '\x7b' => .openBounds c
      | '\x7d' => .closeBounds c
      | _ => .char c

/-- In the basic form a dollar sign ends a line only before the end of the
expression, a group or an alternative. -/
def endsLine (extended : Bool) : List Char → Bool
  | [] => true
  | '\\' :: c :: _ => extended || c == ')' || c == '|'
  | _ => extended

/-- The next token; `caret` tells that a caret here stands for the start of a
line. -/
def nextToken (s : Style) (caret : Bool) : List Char → Token × List Char
  | [] => (.finish, [])
  | ['\\'] => (.lonelyBackslash, [])
  | '\\' :: c :: rest => (escapedToken s.extended c, rest)
  | c :: rest =>
    let token := match c with
      | '*' => .repeated c 0 false
      | '[' => .bracket
      | '.' => .any
      | '^' => if s.extended || caret then .condition .lineStart else .char c
      | '$' => if endsLine s.extended rest then .condition .lineEnd else .char c
      | _ =>
        if !s.extended then .char (s.fold c)
        else match c with
          | '|' => .bar
          | '(' => .openGroup
          | ')' => .closeGroup c
          | '+' => .repeated c 1 false
          | '?' => .repeated c 0 true
          | '\x7b' => .openBounds c
          | '\x7d' => .closeBounds c
          | _ => .char (s.fold c)
    (token, rest)

/-! ### Reading -/

/-- A place in a written expression: the token there, what follows it, how many
groups have begun, and which of them may be referred to. -/
structure Reading where
  token : Token
  rest : List Char
  groups : Nat := 0
  ended : List Nat := []
  /-- a set looks like the name of a class -/
  mistaken : Bool := false

def Reading.next (s : Style) (caret : Bool) (r : Reading) : Reading :=
  let (token, rest) := nextToken s caret r.rest
  { r with token, rest }

/-- A repetition count can be this large. -/
def maxRepetition : Nat := 32767

/-- A number between braces, as far as there is one. -/
inductive Bound where
  | absent
  | number (n : Nat)
  | wrong

def Bound.addDigit (b : Bound) (c : Char) : Bound :=
  if !c.isDigit then .wrong
  else match b with
    | .wrong => .wrong
    | .absent => .number (c.toNat - 48)
    | .number n => .number (min (maxRepetition + 1) (n * 10 + (c.toNat - 48)))

/-- Read a number up to a comma or the closing brace, which is left as the token. -/
def readBound (s : Style) : (fuel : Nat) → Bound → Reading → Bound × Reading
  | 0, b, r => (b, r)
  | fuel + 1, b, r =>
    let r := r.next s false
    match r.token with
    | .finish => (.wrong, r)
    | .closeBounds _ | .char ',' => (b, r)
    | .char c => readBound s fuel (b.addDigit c) r
    | _ => readBound s fuel .wrong r

/-- The bounds of a repetition, after the opening brace; `none` for the second
bound means any number. -/
def readBounds (s : Style) (r : Reading) : Except SyntaxError (Nat × Option Nat × Reading) := do
  let fuel := r.rest.length + 1
  let wrong (r : Reading) : SyntaxError := match r.token with
    | .finish => .openBounds
    | _ => .badBounds
  let isComma (r : Reading) : Bool := match r.token with
    | .char ',' => true
    | _ => false
  let isClosed (r : Reading) : Bool := match r.token with
    | .closeBounds _ => true
    | _ => false
  let (low, r) := readBound s fuel .absent r
  let low ← match low with
    | .number n => pure n
    | .absent => if isComma r then pure 0 else throw .badBounds
    | .wrong => throw (wrong r)
  if isClosed r then
    if maxRepetition < low then throw .tooBig
    return (low, some low, r)
  else
    let (high, r) := readBound s fuel .absent r
    match high with
    | .wrong => throw (wrong r)
    | .absent =>
      if !isClosed r then throw .badBounds
      if maxRepetition < low then throw .tooBig
      return (low, none, r)
    | .number n =>
      if n < low || !isClosed r then throw .badBounds
      if maxRepetition < n then throw .tooBig
      return (low, some n, r)

/-- One after the other; what matches only the empty text is left out. -/
def followedBy : Regex → Regex → Regex
  | empty, r => r
  | r, empty => r
  | r, q => seq r q

/-- An expression that is repeated by itself. -/
def asOptional : Regex → Regex
  | group index _ body => group index true body
  | r => r

/-- A copy of an expression.  Its groups are not optional. -/
def copy : Regex → Regex
  | seq first second => seq first.copy second.copy
  | either first second => either first.copy second.copy
  | star body => star body.copy
  | group index _ body => group index false body.copy
  | r => r

/-- An expression and so many copies of it less one. -/
def copies (r : Regex) : Nat → Regex
  | 0 => empty
  | 1 => r
  | n + 1 => followedBy (copies r n) r.copy

/-- An expression at most once, before further copies at most so often that there
are so many in all. -/
def upTo (r : Regex) : Nat → Regex
  | 0 => empty
  | 1 => either r empty
  | n + 1 => either (followedBy (upTo r n) r.copy) empty

/-- A repetition. -/
def repeated (least : Nat) (most : Option Nat) (r : Regex) : Regex :=
  match r with
  | empty => empty
  | _ =>
    let further := asOptional (if least = 0 then r else r.copy)
    followedBy (copies r least) <|
      match most with
      | none => star further
      | some most => upTo further (most - least)

/-- An expression with what is repeated after it. -/
def readRepetitions (s : Style) : (fuel : Nat) → Regex → Reading →
    Except SyntaxError (Regex × Reading)
  | 0, r, place => .ok (r, place)
  | fuel + 1, r, place => do
    let again (least : Nat) (most : Option Nat) (place : Reading) :
        Except SyntaxError (Regex × Reading) := do
      let place := place.next s false
      if !s.extended then
        match place.token with
        | .repeated '*' _ _ | .openBounds _ => throw .badRepetition
        | _ => pure ()
      readRepetitions s fuel (repeated least most r) place
    match place.token with
    | .repeated _ least once => again least (if once then some 1 else none) place
    | .openBounds _ =>
      let (least, most, place) ← readBounds s place
      again least most place
    | _ => return (r, place)

/-- Only nine groups can be referred to. -/
def maxReference : Nat := 9

mutual

/-- Alternatives between bars; `depth` groups are open. -/
def readAlternatives (s : Style) (depth : Nat) : (fuel : Nat) → Reading →
    Except SyntaxError (Regex × Reading)
  | 0, _ => .error .tooBig
  | fuel + 1, place => do
    let before := place.ended
    let (first, place) ← readSequence s depth fuel place
    readMore s depth before fuel first place
termination_by structural fuel => fuel

/-- The alternatives after some.  Groups of one cannot be referred to in another. -/
def readMore (s : Style) (depth : Nat) (before : List Nat) : (fuel : Nat) → Regex → Reading →
    Except SyntaxError (Regex × Reading)
  | 0, _, _ => .error .tooBig
  | fuel + 1, first, place =>
    match place.token with
    | .bar => do
      let place := place.next s true
      let absent := match place.token with
        | .bar | .finish => true
        | .closeGroup _ => depth != 0
        | _ => false
      if absent then readMore s depth before fuel (either first empty) place
      else
        let ended := place.ended
        let (second, place) ← readSequence s depth fuel { place with ended := before }
        readMore s depth before fuel (either first second)
          { place with ended := ended ++ place.ended }
    | _ => .ok (first, place)
termination_by structural fuel => fuel

/-- Parts one after the other. -/
def readSequence (s : Style) (depth : Nat) : (fuel : Nat) → Reading →
    Except SyntaxError (Regex × Reading)
  | 0, _ => .error .tooBig
  | fuel + 1, place => do
    let (first, place) ← readPart s depth fuel place
    let ends := match place.token with
      | .bar | .finish => true
      | .closeGroup _ => depth != 0
      | _ => false
    if ends then return (first, place)
    else
      let (others, place) ← readSequence s depth fuel place
      return (followedBy first others, place)
termination_by structural fuel => fuel

/-- One part with its repetitions.  Conditions cannot be repeated. -/
def readPart (s : Style) (depth : Nat) : (fuel : Nat) → Reading →
    Except SyntaxError (Regex × Reading)
  | 0, _ => .error .tooBig
  | fuel + 1, place =>
    let repeating (r : Regex) (place : Reading) : Except SyntaxError (Regex × Reading) :=
      readRepetitions s (place.rest.length + 2) r place
    let literal (c : Char) : Except SyntaxError (Regex × Reading) :=
      repeating (one (· == c)) (place.next s false)
    match place.token with
    | .finish | .bar => .ok (empty, place)
    | .char c => literal c
    | .any =>
      repeating (one fun c => !(s.byLine && c == '\n')) (place.next s false)
    | .set accepts => repeating (one accepts) (place.next s false)
    | .bracket => do
      let set ← readBracket s place.rest
      let place := { place with rest := set.rest, mistaken := place.mistaken || set.mistaken }
      repeating (one set.accepts) (place.next s false)
    | .again index =>
      if place.ended.contains index then repeating (again index) (place.next s false)
      else .error .badReference
    | .openBounds _ => .error .badRepetition
    | .repeated c _ _ => if s.extended then .error .badRepetition else literal c
    | .closeBounds c => literal c
    | .closeGroup _ => .error .closeGroup
    | .condition condition => .ok (check condition, place.next s true)
    | .wordEdge => .ok (either (check .wordStart) (check .wordEnd), place.next s true)
    | .noWordEdge => .ok (either (check .insideWord) (check .outsideWord), place.next s true)
    | .lonelyBackslash => .error .trailingBackslash
    | .openGroup => do
      let index := place.groups + 1
      let inner := { place with groups := index }.next s true
      let close (body : Regex) (place : Reading) : Except SyntaxError (Regex × Reading) :=
        let ended := if index ≤ maxReference then index :: place.ended else place.ended
        repeating (group index false body) ({ place with ended }.next s false)
      match inner.token with
      | .closeGroup _ => close empty inner
      | _ =>
        let (body, place) ← readAlternatives s (depth + 1) fuel inner
        match place.token with
        | .closeGroup _ => close body place
        | _ => throw .openGroup
termination_by structural fuel => fuel

end

/-- An expression as it has been read. -/
structure Written where
  expression : Regex
  groups : Nat
  mistaken : Bool

/-- Read a whole expression. -/
def read (s : Style) (cs : List Char) : Except SyntaxError Written := do
  let (token, rest) := nextToken s true cs
  let (expression, place) ← readAlternatives s 0 (4 * cs.length + 8) { token, rest }
  return { expression, groups := place.groups, mistaken := place.mistaken }

/-- The expression refers to what one of its groups has matched. -/
def refersBack : Regex → Bool
  | again _ => true
  | seq first second | either first second => first.refersBack || second.refersBack
  | star body | group _ _ body => body.refersBack
  | _ => false

end Regex

end PipelineShell.Program
