import PipelineShell.Program.Regex.Expression

/-!
# Machines for regular expressions

An expression becomes a list of small steps.  A match begins as early as
possible and is then as long as possible.  It is found in one pass over the text
in which all ways through the steps advance together.  What the groups have
matched is found afterwards, by following the preferred way among those that
lead to the end of the match.
-/

namespace PipelineShell.Program.Regex

/-- A step, with the steps that come next. -/
inductive Step where
  /-- take a character of a set -/
  | one (table : Array Bool) (next : Nat)
  /-- the first way is preferred -/
  | fork (first second : Nat)
  | check (condition : Condition) (next : Nat)
  | opening (group next : Nat)
  | closing (group : Nat) (optional : Bool) (next : Nat)
  /-- take what a group has matched -/
  | again (group next : Nat)
  | accept

structure Machine where
  steps : Array Step
  start : Nat
  /-- the number of groups -/
  groups : Nat
  refersBack : Bool
  style : Style
  /-- what separates lines -/
  lineEnd : UInt8 := 10

/-! ### Building a machine -/

/-- For each byte whether it is in a set. -/
def table (s : Style) (accepts : Char → Bool) : Array Bool :=
  ((List.range 256).map fun n => accepts (s.fold (Char.ofNat n))).toArray

/-- Add the steps of an expression before those that come next; the first of
them is handed back. -/
def emit (s : Style) : Regex → (next : Nat) → Array Step → Nat × Array Step
  | empty, next, steps => (next, steps)
  | one accepts, next, steps => (steps.size, steps.push (.one (table s accepts) next))
  | check condition, next, steps => (steps.size, steps.push (.check condition next))
  | seq first second, next, steps =>
    let (middle, steps) := emit s second next steps
    emit s first middle steps
  | either first second, next, steps =>
    let (left, steps) := emit s first next steps
    let (right, steps) := emit s second next steps
    -- What takes something is preferred to what takes nothing.
    let fork := match first with
      | empty => Step.fork right left
      | _ => Step.fork left right
    (steps.size, steps.push fork)
  | star body, next, steps =>
    let here := steps.size
    let (inside, steps) := emit s body here (steps.push .accept)
    (here, steps.setIfInBounds here (.fork inside next))
  | group index optional body, next, steps =>
    let (inside, steps) := emit s body steps.size (steps.push (.closing index optional next))
    (steps.size, steps.push (.opening index inside))
  | again index, next, steps => (steps.size, steps.push (.again index next))

def Written.machine (s : Style) (w : Written) : Machine :=
  let (start, steps) := emit s w.expression 0 #[.accept]
  { steps, start, groups := w.groups, refersBack := w.expression.refersBack, style := s }

namespace Machine

/-! ### Places in a text -/

def isWordAt (text : ByteArray) (place : Nat) : Bool :=
  if h : place < text.size then Octets.isWord (Octets.ofByte text[place]) else false

/-- The character before a place is one of a word. -/
def isWordBefore (text : ByteArray) (place : Nat) : Bool :=
  place != 0 && isWordAt text (place - 1)

def holds (m : Machine) (text : ByteArray) (place : Nat) : Condition → Bool
  | .lineStart =>
    place == 0 || (m.style.byLine && text.data[place - 1]? == some m.lineEnd)
  | .lineEnd =>
    text.size ≤ place || (m.style.byLine && text.data[place]? == some m.lineEnd)
  | .textStart => place == 0
  | .textEnd => text.size ≤ place
  | .wordStart => !isWordBefore text place && isWordAt text place
  | .wordEnd => isWordBefore text place && !isWordAt text place
  | .insideWord => isWordBefore text place && isWordAt text place
  | .outsideWord => !isWordBefore text place && !isWordAt text place

/-! ### Finding where a match begins and ends -/

/-- All ways that are being followed at a place: the steps that wait for a
character, each with the place where its match has begun, latest first; when
each step has last been reached; and the best match so far. -/
structure Front where
  waiting : List (Nat × Nat) := []
  reached : Array Nat
  best : Option (Nat × Nat) := none

/-- A match that begins at a place would be better than the best one. -/
def Front.mayBegin (f : Front) (begun : Nat) : Bool :=
  match f.best with
  | none => true
  | some (first, _) => begun ≤ first

/-- Follow steps up to those that wait for a character. -/
def spread (m : Machine) (text : ByteArray) (place begun : Nat) :
    (fuel : Nat) → (todo : List Nat) → Front → Front
  | 0, _, f => f
  | _, [], f => f
  | fuel + 1, step :: todo, f =>
    if f.reached.getD step 0 == place + 1 then spread m text place begun fuel todo f
    else
      let f := { f with reached := f.reached.setIfInBounds step (place + 1) }
      match m.steps[step]? with
      | none => spread m text place begun fuel todo f
      | some (.one _ _) | some (.again _ _) =>
        spread m text place begun fuel todo { f with waiting := (step, begun) :: f.waiting }
      | some .accept => spread m text place begun fuel todo { f with best := some (begun, place) }
      | some (.fork first second) =>
        spread m text place begun fuel (first :: second :: todo) f
      | some (.check condition next) =>
        spread m text place begun fuel (if m.holds text place condition then next :: todo else todo)
          f
      | some (.opening _ next) | some (.closing _ _ next) =>
        spread m text place begun fuel (next :: todo) f

/-- Enough fuel to follow all steps once. -/
def spreadFuel (m : Machine) : Nat := 3 * m.steps.size + 3

/-- Take a character on the ways that wait for one. -/
def advance (m : Machine) (text : ByteArray) (place : Nat) (c : UInt8) :
    List (Nat × Nat) → Front → Front
  | [], f => f
  | (step, begun) :: others, f =>
    let f :=
      if !f.mayBegin begun then f
      else match m.steps[step]? with
        | some (.one table next) =>
          if table.getD c.toNat false then m.spread text place begun m.spreadFuel [next] f else f
        | _ => f
    advance m text place c others f

/-- Go on from a place to the end of the text; `fuel` is the length of what
follows. -/
def scan (m : Machine) (text : ByteArray) : (fuel place : Nat) → Front → Front
  | 0, _, f => f
  | fuel + 1, place, f =>
    if h : place < text.size then
      if f.waiting.isEmpty && f.best.isSome then f
      else
        let waiting := f.waiting.reverse
        let f := m.advance text (place + 1) text[place] waiting { f with waiting := [] }
        let f := if f.best.isNone then
            m.spread text (place + 1) (place + 1) m.spreadFuel [m.start] f
          else f
        scan m text fuel (place + 1) f
    else f

/-- Where the first match from a place on begins and ends. -/
def span? (m : Machine) (text : ByteArray) (origin : Nat) : Option (Nat × Nat) :=
  let f : Front := { reached := Array.replicate m.steps.size 0 }
  let f := m.spread text origin origin m.spreadFuel [m.start] f
  (m.scan text (text.size - origin) origin f).best

/-! ### What the groups have matched -/

/-- What a group has matched: from where, and up to where if it has been closed. -/
structure Span where
  start : Option Nat := none
  finish : Option Nat := none
  deriving DecidableEq, Repr

/-- The groups, and how they were when one last took something. -/
structure Captures where
  groups : Array Span
  before : Array Span
  deriving DecidableEq

def Captures.new (count : Nat) : Captures :=
  ⟨Array.replicate count {}, Array.replicate count {}⟩

def Captures.openGroup (c : Captures) (group place : Nat) : Captures :=
  { c with groups := c.groups.setIfInBounds (group - 1) ⟨some place, none⟩ }

/-- Close a group.  A repeated group that has taken nothing the last time keeps
what it took before. -/
def Captures.closeGroup (c : Captures) (group : Nat) (optional : Bool) (place : Nat) : Captures :=
  let span := c.groups.getD (group - 1) {}
  let closed := c.groups.setIfInBounds (group - 1) { span with finish := some place }
  if (span.start.getD place) < place then ⟨closed, closed⟩
  else if optional && (c.before.getD (group - 1) {}).start.isSome then ⟨c.before, c.before⟩
  else { c with groups := closed }

/-- Add the steps that lead to the end of the match: one pass in the order of the
steps.  An open end may be asked for conditions. -/
def spreadBack (m : Machine) (text : ByteArray) (openEnd : Bool) (finish place after alive : Nat) :
    Nat :=
  (List.range m.steps.size).foldl (fun alive step =>
    let leads := match m.steps.getD step .accept with
      | .accept => place == finish
      | .one table next =>
        after.testBit next &&
          (if h : place < text.size then table.getD text[place].toNat false else false)
      | .fork first second => alive.testBit first || alive.testBit second
      | .check condition next =>
        alive.testBit next && (openEnd || place != finish) && m.holds text place condition
      | .opening _ next | .closing _ _ next => alive.testBit next
      | .again _ _ => false
    if leads then alive ||| (1 <<< step) else alive) alive

/-- The steps from which the end of the match can be reached, as bits. -/
def aliveAt (m : Machine) (text : ByteArray) (openEnd : Bool) (finish place after : Nat) : Nat :=
  go m.steps.size 0
where
  go : Nat → Nat → Nat
    | 0, alive => alive
    | fuel + 1, alive =>
      let more := m.spreadBack text openEnd finish place after alive
      if more == alive then alive else go fuel more

/-- The steps from which the end can be reached, for each place of the match. -/
def alive (m : Machine) (text : ByteArray) (openEnd : Bool) (begun finish : Nat) : Array Nat :=
  let masks := (List.range (finish - begun + 1)).foldl (fun (masks : List Nat) back =>
    m.aliveAt text openEnd finish (finish - back) (masks.headD 0) :: masks) []
  masks.toArray

/-- A way through the steps: where it is, and what it has passed since it last
took a character. -/
structure Way where
  step : Nat
  place : Nat
  passed : List Nat := []
  captures : Captures

/-- Follow the preferred way to the end of a match.  It does not go a second time
around a loop in which nothing is taken. -/
def follow (m : Machine) (alive : Array Nat) (begun finish : Nat) :
    (fuel : Nat) → Way → Captures
  | 0, w => w.captures
  | fuel + 1, w =>
    let go (step : Nat) (captures : Captures) : Captures :=
      follow m alive begun finish fuel
        { w with step, captures, passed := w.step :: w.passed }
    match m.steps[w.step]? with
    | none | some .accept | some (.again _ _) => w.captures
    | some (.one _ next) =>
      if finish ≤ w.place then w.captures
      else follow m alive begun finish fuel ⟨next, w.place + 1, [], w.captures⟩
    | some (.fork first second) =>
      let here := alive.getD (w.place - begun) 0
      if !here.testBit first then go second w.captures
      else if here.testBit second && (w.step :: w.passed).contains first then
        go second w.captures
      else go first w.captures
    | some (.check _ next) => go next w.captures
    | some (.opening index next) => go next (w.captures.openGroup index w.place)
    | some (.closing index optional next) =>
      go next (w.captures.closeGroup index optional w.place)

/-- What the groups have matched in a match.  A way on which no condition is asked
after the last character is preferred. -/
def captures (m : Machine) (text : ByteArray) (begun finish : Nat) : Captures :=
  let fuel := (finish - begun + 1) * (2 * m.steps.size + 2)
  let closed := m.alive text false begun finish
  let alive := if (closed.getD 0 0).testBit m.start then closed else m.alive text true begun finish
  m.follow alive begun finish fuel { step := m.start, place := begun, captures := .new m.groups }

/-! ### Expressions that refer back -/

/-- A way that waits for a character, perhaps within what a group has matched. -/
structure Waiting where
  step : Nat
  /-- so much has been taken of what the group has matched -/
  taken : Nat := 0
  captures : Captures
  deriving DecidableEq

/-- The ways at a place, latest first, all steps that have been reached there,
and the first way to the end. -/
structure Crowd where
  waiting : List Waiting := []
  reached : List Waiting := []
  ended : Option Captures := none

/-- Follow steps up to those that wait for a character. -/
def spreadAll (m : Machine) (text : ByteArray) (place : Nat) :
    (fuel : Nat) → (todo : List Waiting) → Crowd → Crowd
  | 0, _, crowd => crowd
  | _, [], crowd => crowd
  | fuel + 1, w :: todo, crowd =>
    if crowd.reached.contains w then spreadAll m text place fuel todo crowd
    else
      let crowd := { crowd with reached := w :: crowd.reached }
      let go (todo : List Waiting) : Crowd := spreadAll m text place fuel todo crowd
      match m.steps[w.step]? with
      | none => go todo
      | some (.one _ _) =>
        spreadAll m text place fuel todo { crowd with waiting := w :: crowd.waiting }
      | some .accept =>
        spreadAll m text place fuel todo
          { crowd with ended := crowd.ended.orElse fun _ => some w.captures }
      | some (.fork first second) =>
        go ({ w with step := first } :: { w with step := second } :: todo)
      | some (.check condition next) =>
        go (if m.holds text place condition then { w with step := next } :: todo else todo)
      | some (.opening index next) =>
        go ({ w with step := next, captures := w.captures.openGroup index place } :: todo)
      | some (.closing index optional next) =>
        go ({ w with
          step := next, captures := w.captures.closeGroup index optional place } :: todo)
      | some (.again index next) =>
        match w.captures.groups.getD (index - 1) {} with
        | ⟨some start, some finish⟩ =>
          if finish ≤ start then go ({ w with step := next } :: todo)
          else spreadAll m text place fuel todo { crowd with waiting := w :: crowd.waiting }
        | _ => go todo

def spreadAllFuel (m : Machine) : Nat := 64 * (m.steps.size + 1)

/-- The character at a place, as it is compared. -/
def foldedAt (m : Machine) (text : ByteArray) (place : Nat) : Option Char :=
  text.data[place]?.map fun b => m.style.fold (Octets.ofByte b)

/-- Take the character before a place on all ways. -/
def advanceAll (m : Machine) (text : ByteArray) (place : Nat) : List Waiting → Crowd → Crowd
  | [], crowd => crowd
  | w :: others, crowd =>
    let crowd := match m.steps[w.step]? with
      | some (.one table next) =>
        match text.data[place - 1]? with
        | some c =>
          if table.getD c.toNat false then
            m.spreadAll text place m.spreadAllFuel [{ w with step := next }] crowd
          else crowd
        | none => crowd
      | some (.again index next) =>
        match w.captures.groups.getD (index - 1) {} with
        | ⟨some start, some finish⟩ =>
          if m.foldedAt text (start + w.taken) != m.foldedAt text (place - 1) then crowd
          else if start + w.taken + 1 = finish then
            m.spreadAll text place m.spreadAllFuel [{ w with step := next, taken := 0 }] crowd
          else
            let w := { w with taken := w.taken + 1 }
            if crowd.reached.contains w then crowd
            else { crowd with waiting := w :: crowd.waiting, reached := w :: crowd.reached }
        | _ => crowd
      | _ => crowd
    advanceAll m text place others crowd

/-- Go on to the end of the text, keeping the longest match. -/
def scanAll (m : Machine) (text : ByteArray) :
    (fuel place : Nat) → Crowd → Option (Nat × Captures) → Option (Nat × Captures)
  | 0, _, _, best => best
  | fuel + 1, place, crowd, best =>
    let best := match crowd.ended with
      | some captures => some (place, captures)
      | none => best
    if crowd.waiting.isEmpty then best
    else scanAll m text fuel (place + 1) (m.advanceAll text (place + 1) crowd.waiting.reverse {})
      best

/-! ### Matches -/

structure Match where
  start : Nat
  finish : Nat
  groups : Array Span := #[]

/-- The first match of an expression that refers back. -/
def findReferring (m : Machine) (text : ByteArray) : (fuel origin : Nat) → Option Match
  | 0, _ => none
  | fuel + 1, origin =>
    let crowd := m.spreadAll text origin m.spreadAllFuel
      [{ step := m.start, captures := .new m.groups }] {}
    match m.scanAll text (text.size - origin + 1) origin crowd none with
    | some (finish, captures) => some ⟨origin, finish, captures.groups⟩
    | none => findReferring m text fuel (origin + 1)

/-- The first match from a place on. -/
def find? (m : Machine) (text : ByteArray) (origin : Nat) : Option Match :=
  if m.refersBack then m.findReferring text (text.size - origin + 1) origin
  else
    (m.span? text origin).map fun (start, finish) =>
      let groups := if m.groups = 0 then #[] else (m.captures text start finish).groups
      { start, finish, groups }

/-- There is a match somewhere. -/
def matches? (m : Machine) (text : ByteArray) : Bool :=
  if m.refersBack then (m.find? text 0).isSome else (m.span? text 0).isSome

/-- Where a group has matched, if it has. -/
def Match.group (found : Match) (index : Nat) : Nat × Nat :=
  if index = 0 then (found.start, found.finish)
  else match found.groups.getD (index - 1) {} with
    | ⟨some start, some finish⟩ => (start, finish)
    | _ => (0, 0)

end Machine

end PipelineShell.Program.Regex
