import PipelineShell.Script.Arithmetic
import PipelineShell.Script.Field
import PipelineShell.Script.State

/-!
# Expanding words of scripts

The parts of a word become regions of glyphs.  What comes from an expansion that
is not quoted is cut into fields, and a field with signs of a pattern becomes
the names that fit it.
-/

namespace PipelineShell.Script

/-- How a word is expanded. -/
structure Expanding where
  /-- into fields -/
  toFields : Bool := false
  quoted : Bool := false
  /-- as the word of a parameter, which is cut where it is not quoted -/
  inWord : Bool := false
  /-- a tilde at the start means a home -/
  startTilde : Bool := false
  /-- a tilde after a sign of an assignment means a home -/
  signTilde : Bool := false
  /-- the first equals sign has been passed -/
  afterEquals : Bool := false

namespace Run

/-! ### Regions -/

/-- Regions under way, latest first. -/
abbrev Regions := List Region

/-- Characters that a quoted value keeps from meaning something. -/
def keptApart (quoted : Bool) (c : Char) : Bool :=
  ('\x81' ≤ c && c ≤ '\x88') || (quoted && (c == '\\' || "!*?[]=~:/-^".toList.contains c))

/-- The glyphs of a value. -/
def valueGlyphs (quoted : Bool) (text : List Char) : List Glyph :=
  text.map fun c => .char c (keptApart quoted c)

/-- The region of a value. -/
def valueRegion (quoted : Bool) (text : List Char) : Region :=
  ⟨valueGlyphs quoted text, if quoted then .never else .atSeparators⟩

def single (g : Glyph) : Region := { glyphs := [g] }

/-! ### Values of parameters -/

/-- The letters of options, in the order in which they are shown. -/
def optionLetters : List (Char × String) :=
  [('p', "privileged"), ('u', "nounset"), ('b', "notify"), ('a', "allexport"), ('C', "noclobber"),
    ('E', "emacs"), ('V', "vi"), ('v', "verbose"), ('x', "xtrace"), ('s', "stdin"),
    ('n', "noexec"), ('m', "monitor"), ('i', "interactive"), ('I', "ignoreeof"),
    ('f', "noglob"), ('e', "errexit")]

/-- What stands between arguments that are joined. -/
def joint (s : State) (e : Expanding) (each : Bool) : List Char :=
  if each then ['\x00']
  else match s.get? (named "IFS") with
    | none => [' ']
    | some separators => if e.toFields && !e.quoted then ['\x00'] else separators.take 1

/-- The value of a parameter. -/
def valueOf? (s : State) (e : Expanding) (name : Name) : Option (List Char) :=
  let number (n : Nat) : Option (List Char) := some (named (toString n))
  match name with
  | ['$'] => number s.root
  | ['?'] => number s.status
  | ['#'] => number s.params.length
  | ['!'] => s.lastBackground.bind number
  | ['-'] =>
    some (optionLetters.filterMap fun (letter, option) =>
      if s.has option then some letter else none)
  | ['@'] => some ((joint s e (e.quoted && e.toFields)).intercalate s.params)
  | ['*'] => some ((joint s e false).intercalate s.params)
  | c :: _ =>
    if c.isDigit then
      let n := Octets.decimal name
      if n = 0 then some s.name else s.params[n - 1]?
    else s.get? name
  | [] => none

/-- The homes of the users that every system has. -/
def homes : List (String × String) :=
  [("root", "/root"), ("daemon", "/usr/sbin"), ("bin", "/bin"), ("sys", "/dev"),
    ("nobody", "/nonexistent")]

/-- The name after a tilde, the home that it means, and the rest of the word. -/
def home? (s : State) (e : Expanding) (rest : Word) : Option (List Char × Word) := do
  let ends (c : Char) : Bool := c == '/' || (c == ':' && e.signTilde)
  let name := rest.takeWhile fun
    | .plain c => !ends c
    | _ => false
  let after := rest.drop name.length
  match after with
  | .escaped _ :: _ | .mark :: _ => none
  | [] | .plain _ :: _ => pure ()
  | _ => none
  let text ← Word.literal? name
  let home ← if text.isEmpty then s.get? (named "HOME")
    else (homes.lookup (String.ofList text)).map String.toList
  return (home, after)

/-! ### Removing the ends of values -/

/-- How much of a value is left by a pattern for its front, or its back. -/
structure Cut where
  dropped : Nat
  kept : Nat

/-- The end of a value with the arguments in it kept apart: a look at a part of it
ends with the argument. -/
def cutArguments (p : Pattern) (front longest : Bool) (value : List Char) : Cut :=
  let size := value.length
  let seen (i : Nat) : List Char :=
    (if front then value.take i else value.drop i).takeWhile (· != '\x00')
  let places := List.range (size + 1)
  let places := if front = longest then places.reverse
    else (places.takeWhile fun i => !(value.take i).contains '\x00')
  match places.find? fun i => p.fits (seen i) with
  | none => ⟨0, size⟩
  | some i => if front then ⟨i, size - i⟩ else ⟨0, i⟩

def cutValue (p : Pattern) (front longest : Bool) (value : List Char) : Cut :=
  if value.contains '\x00' then cutArguments p front longest value
  else if front then
    let n := (p.front? longest value).getD 0
    ⟨n, value.length - n⟩
  else ⟨0, value.length - (p.back? longest value).getD 0⟩

/-! ### Parts -/

def badArithmetic (text : List Char) (why : String) : Run Int :=
  fail (named "arithmetic expression: " ++ why.toList ++ named ": \"" ++ text ++ ['"'])

/-- The signal of an impossible operation. -/
def arithmeticSignal : Nat := 8

/-- The value of an arithmetic expression. -/
def calculate (text : List Char) : Run Int := do
  let s ← get
  let bindings : Arithmetic.Variables :=
    { outside := fun name => (s.get? name).getD [], isFixed := s.isFixed }
  match Arithmetic.run bindings text with
  | .ok (n, assigned) =>
    for (name, n) in assigned.reverse do assign name (named (toString n))
    return n
  | .error (.expected what) => badArithmetic text ("expecting " ++ what)
  | .error .divisionByZero => badArithmetic text "division by zero"
  | .error .overflow => throw (.killed arithmeticSignal)
  | .error (.noNumber value) => fail (named "Illegal number: " ++ value)
  | .error (.fixed name) => fail (name ++ named ": is read only")

/-- The end of a command with a parameter that has no value. -/
def unsetParameter {α : Type} (name : Name) (message : List Char) (orEmpty : Bool) : Run α :=
  if message.isEmpty then
    fail (name ++ named (": parameter not set" ++ if orEmpty then " or null" else ""))
  else fail (name ++ named ": " ++ message)

/-- A name that an assignment in a word can have. -/
def assignParameter (name : Name) (value : List Char) : Run Unit := do
  if !isName name then fail (name ++ named ": bad variable name")
  assign name value

/-- A run of plain characters that mean nothing for a tilde. -/
def plainRun (e : Expanding) (w : Word) : List Char :=
  (w.takeWhile fun
    | .plain c => !(e.signTilde && (c == ':' || (c == '=' && !e.afterEquals)))
    | _ => false).filterMap fun
      | .plain c => some c
      | _ => none

section

-- `capture` hands back what a command writes.
variable (capture : Command → Run (List Char))

/-- One pass over the parts of a word.  `self` expands the words inside of it.
A parameter whose inquiry has no sign but a colon ends the word after its own. -/
def parts (self : Expanding → Word → Run (List Region)) :
    (fuel : Nat) → Expanding → (inQuotes : Bool) → Word → Regions → Run Regions
  | 0, _, _, _, done => return done
  | fuel + 1, e, inQuotes, w, done => do
    let here := { e with quoted := e.quoted || inQuotes }
    match w with
    | [] => return done
    | .mark :: rest =>
      match inQuotes, rest with
      | false, .parameter ['@'] .value false _ :: .mark :: rest =>
        let regions ← self { e with quoted := true } [.parameter ['@'] .value false []]
        parts self fuel e inQuotes rest (regions.reverse ++ done)
      | _, _ => parts self fuel e (!inQuotes) rest (single .mark :: done)
    | .escaped c :: rest => parts self fuel e inQuotes rest (single (.char c true) :: done)
    | .output body :: rest =>
      let text ← capture body
      parts self fuel e inQuotes rest (valueRegion here.quoted text :: done)
    | .arithmetic expression :: rest =>
      let text := Region.textOf (← self {} expression)
      let n ← calculate text
      parts self fuel e inQuotes rest (valueRegion here.quoted (named (toString n)) :: done)
    | .plain c :: rest =>
      let tilde := match rest with
        | .plain '~' :: _ => true
        | _ => false
      let run := plainRun e w
      if run.isEmpty then
        let e := if c = '=' then { e with afterEquals := true } else e
        let done := single (.char c false) :: done
        if tilde then
          match home? (← get) e (rest.drop 1) with
          | some (home, rest) =>
            let region : Region := { glyphs := valueGlyphs true home }
            parts self fuel e inQuotes rest (region :: done)
          | none => parts self fuel e inQuotes (rest.drop 1) (single (.char '~' false) :: done)
        else parts self fuel e inQuotes rest done
      else
        let cutting := if e.inWord && !e.quoted && !inQuotes then Cutting.atSeparators else .never
        parts self fuel e inQuotes (w.drop run.length)
          (⟨run.map fun c => .char c false, cutting⟩ :: done)
    | .parameter name inquiry orEmpty word :: rest =>
      let s ← get
      let counted := match inquiry with
        | .length | .alternative => { here with toFields := false }
        | _ => here
      let value := valueOf? s counted name
      let missing := value.isNone || (orEmpty && value == some [])
      let goOn (regions : List Region) : Run Regions :=
        parts self fuel e inQuotes rest (regions.reverse ++ done)
      let isEach := here.quoted && here.toFields && name = ['@']
      let region (text : List Char) : Region :=
        if isEach then ⟨valueGlyphs true text, if s.params.isEmpty then .never else .atZeros⟩
        else valueRegion here.quoted text
      let inner := { here with startTilde := true, inWord := true }
      match inquiry with
      | .unknown => failWith "Bad substitution"
      | .default => if missing then goOn (← self inner word) else goOn [region (value.getD [])]
      | .alternative => if missing then goOn [] else goOn (← self inner word)
      | .assignment =>
        if missing then
          assignParameter name (Region.textOf (← self { startTilde := true } word))
          goOn [region ((valueOf? (← get) here name).getD [])]
        else goOn [region (value.getD [])]
      | .demand =>
        if missing then
          unsetParameter name (Region.textOf (← self { startTilde := true } word)) orEmpty
        else goOn [region (value.getD [])]
      | .value | .length | .withoutFront _ | .withoutBack _ =>
        if missing && s.has "nounset" then unsetParameter name [] false
        match inquiry with
        | .length =>
          goOn [valueRegion here.quoted (named (toString (value.getD []).length))]
        | .withoutFront longest | .withoutBack longest =>
          if missing then goOn []
          else
            let pattern := Glyph.pattern (Region.glyphsOf (← self { startTilde := true } word))
            let text := value.getD []
            let front := match inquiry with
              | .withoutFront _ => true
              | _ => false
            let cut := cutValue pattern front longest text
            goOn [region ((text.drop cut.dropped).take cut.kept)]
        | _ =>
          let value := [region (value.getD [])]
          if orEmpty then return (← self here word).reverse ++ value ++ done
          else goOn value

/-- Expand a word into regions; words are nested at most so deep. -/
def regions : (depth : Nat) → Expanding → Word → Run (List Region)
  | 0, _, _ => exhausted
  | depth + 1, e, w => do
    let self := regions depth
    let (start, rest) ← match w with
      | .plain '~' :: rest =>
        if e.startTilde then
          match home? (← get) e rest with
          | some (home, rest) => pure ([{ glyphs := valueGlyphs true home }], rest)
          | none => pure ([single (.char '~' false)], rest)
        else pure ([], w)
      | _ => pure ([], w)
    return (← parts capture self (rest.length + 1) { e with startTilde := false } false rest
      start).reverse

/-- How deep words can be nested. -/
def wordDepth : Nat := 200

/-! ### Names that fit a pattern -/

/-- A part of a path pattern has a sign that means several names. -/
def hasSign : (fuel : Nat) → List Char → Bool
  | 0, _ => false
  | _, [] => false
  | fuel + 1, c :: rest =>
    match c with
    | '*' | '?' => true
    | '[' => bracketCloses rest || hasSign fuel rest
    | '\\' => hasSign fuel (rest.drop 1)
    | _ => hasSign fuel rest
where
  bracketCloses (rest : List Char) : Bool :=
    closes rest.length (match rest with
      | '!' :: rest => rest
      | rest => rest)
  closes : Nat → List Char → Bool
    | 0, _ => false
    | fuel + 1, cs =>
      let cs := match cs with
        | '\\' :: rest => rest
        | cs => cs
      match cs with
      | [] => false
      | _ :: ']' :: _ => true
      | _ :: rest => closes fuel rest

/-- A pattern without the backslashes that let characters stand for themselves. -/
def withoutBackslashes : List Char → List Char
  | '\\' :: c :: rest => c :: withoutBackslashes rest
  | c :: rest => c :: withoutBackslashes rest
  | [] => []

/-- The parts of a path pattern between slashes. -/
def pathParts (cs : List Char) : List (List Char) :=
  go cs [] []
where
  go : List Char → List Char → List (List Char) → List (List Char)
    | [], part, done => (part.reverse :: done).reverse
    | '\\' :: '/' :: rest, part, done => go rest [] (part.reverse :: done)
    | '\\' :: c :: rest, part, done => go rest (c :: '\\' :: part) done
    | c :: rest, part, done =>
      if c = '/' then go rest [] (part.reverse :: done) else go rest (c :: part) done

def joinParts (parts : List (List Char)) : List Char := ['/'].intercalate parts

/-- The paths that fit the parts of a pattern below a path. -/
def fittingPaths (s : State) : (fuel : Nat) → (before : List Char) → List (List Char) →
    List (List Char)
  | 0, _, _ => []
  | fuel + 1, before, parts =>
    let literal := parts.takeWhile fun part => !hasSign (part.length + 1) part
    match parts.drop literal.length with
    | [] =>
      let path := before ++ withoutBackslashes (joinParts parts)
      match s.files.findEntry s.place (Octets.toBytes path) with
      | .ok _ => if before.isEmpty then [] else [path]
      | .error _ => []
    | part :: rest =>
      let before := before ++ literal.flatMap fun part => withoutBackslashes part ++ ['/']
      let directory := if before.isEmpty then ['.'] else before
      match s.files.list s.place (Octets.toBytes directory) with
      | .error _ => []
      | .ok names =>
        let names := [['.'], ['.', '.']] ++ names.map Octets.ofBytes
        let showsDots := part.head? = some '.' || part.take 2 = ['\\', '.']
        let pattern := Pattern.ofText part
        let fitting := names.filter fun name =>
          (name.head? != some '.' || showsDots) && pattern.fits name
        fitting.flatMap fun name =>
          if rest.isEmpty then [before ++ name]
          else fittingPaths s fuel (before ++ name ++ ['/']) rest

/-- The names for which a field stands. -/
def namesOf (s : State) (field : List Glyph) : List (List Char) :=
  let text := Glyph.text field
  if s.has "noglob" || !text.any (fun c => c == '*' || c == '?' || c == '[') then [text]
  else
    let parts := pathParts (Glyph.patternText field)
    match fittingPaths s (parts.length + 1) [] parts with
    | [] => [text]
    | paths => paths.mergeSort Name.notAfter

/-! ### Words -/

/-- The fields of a word. -/
def expandFields (w : Word) : Run (List (List Char)) := do
  let rs ← regions capture wordDepth { toFields := true, startTilde := true } w
  let s ← get
  return (Fields.ofRegions s.separators none rs).flatMap (namesOf s)

/-- The text of a word that is not cut. -/
def expandText (w : Word) : Run (List Char) := do
  return Region.textOf (← regions capture wordDepth { startTilde := true } w)

/-- The text of an assignment. -/
def expandAssignment (w : Word) : Run (List Char) := do
  return Region.textOf (← regions capture wordDepth { startTilde := true, signTilde := true } w)

def expandPattern (w : Word) : Run Pattern := do
  return Glyph.pattern (Region.glyphsOf (← regions capture wordDepth { startTilde := true } w))

/-- The text of a document. -/
def expandDocument (w : Word) : Run (List Char) := do
  return Region.textOf (← regions capture wordDepth { quoted := true } w)

end

end Run

end PipelineShell.Script
