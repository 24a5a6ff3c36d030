import PipelineShell.Script.Reading

/-!
# Reading words of scripts

A word is read character by character.  What a character means depends on the
quotes, braces and parentheses that are open around it.
-/

namespace PipelineShell.Script

/-- What characters mean. -/
inductive Quoting where
  | none | double | single | arithmetic
  deriving DecidableEq, Repr

/-- The quotes and braces around a character, up to the next change of meaning. -/
structure Surrounding where
  quoting : Quoting
  /-- what is expanded here is not split -/
  isQuoted : Bool := false
  /-- how many braces are open -/
  braces : Nat := 0
  /-- how many of them stand between quotes -/
  quotedBraces : Nat := 0
  /-- quotes are open inside the braces -/
  innerQuotes : Bool := false
  /-- the meaning ends with the braces -/
  endsWithBraces : Bool := false
  /-- how many parentheses are open -/
  parens : Nat := 0

/-- A part of a word that is not complete. -/
inductive Opening where
  | parameter (name : Name) (inquiry : Inquiry) (orEmpty : Bool)
  | arithmetic

/-- A word under reading; parts are kept with the latest first. -/
structure Scan where
  here : Surrounding
  around : List Surrounding := []
  parts : List Part := []
  openings : List (Opening × List Part) := []
  wasQuoted : Bool := false

/-- How a text is read that is not a word of a command; without a mark it goes on
to the end of all. -/
structure DocumentEnd where
  endMark : Option (List Char) := none
  stripsTabs : Bool := false

namespace Scan

def add (p : Part) (s : Scan) : Scan := { s with parts := p :: s.parts }

/-- Quotes begin or end; a document keeps no trace of them. -/
def addMark (isDocument : Bool) (s : Scan) : Scan := if isDocument then s else s.add .mark

def openPart (o : Opening) (s : Scan) : Scan :=
  { s with parts := [], openings := (o, s.parts) :: s.openings }

/-- Complete the part that was opened last. -/
def closePart (s : Scan) : Scan :=
  match s.openings with
  | [] => s
  | (o, before) :: openings =>
    let inner := s.parts.reverse
    let part : Part := match o with
      | .parameter name inquiry orEmpty => .parameter name inquiry orEmpty inner
      | .arithmetic => .arithmetic inner
    { s with parts := part :: before, openings }

def push (h : Surrounding) (s : Scan) : Scan := { s with here := h, around := s.here :: s.around }

def pop (s : Scan) : Scan :=
  match s.around with
  | [] => s
  | h :: around => { s with here := h, around }

def setHere (h : Surrounding) (s : Scan) : Scan := { s with here := h }

end Scan

namespace Read

/-- Characters that would mean something outside of quotes. -/
def isGuarded (c : Char) : Bool := "!*?[]=~:/-^".toList.contains c

/-- Bytes that are always kept as escaped. -/
def isMarkByte (c : Char) : Bool := '\x81' ≤ c && c ≤ '\x88'

section

-- `commands` reads the commands of a substitution, and leaves the token that ends them.
variable (commands : Read Command)

/-! ### Substitutions -/

/-- The text of an old substitution up to its end. -/
def backquoted (isQuoted : Bool) : (fuel : Nat) → List Char → Read (List Char)
  | 0, done => return done.reverse
  | fuel + 1, done => do
    match ← next with
    | some '\x60' => return done.reverse
    | none => throw "EOF in backquote substitution"
    | some '\\' =>
      match ← nextRaw with
      | none => throw "EOF in backquote substitution"
      | some c =>
        let kept := c != '\\' && c != '\x60' && c != '$' && !(isQuoted && c == '"')
        backquoted isQuoted fuel (if kept then c :: '\\' :: done else c :: done)
    | some c =>
      if c = '\n' then countLine
      backquoted isQuoted fuel (c :: done)

/-- Read commands that stand in a text of their own. -/
def commandsOf (text : List Char) : Read Command := do
  let r ← get
  let source := r.source
  let inUse := source.layers.filterMap (·.name)
  let nested := { Source.ofText text with outer := inUse ++ source.finished ++ source.outer }
  set { r with source := nested, pending := [] }
  let body ← commands
  modify fun after => { after with source, pending := r.pending, pushedBack := false }
  return body

/-- Read commands up to a closing parenthesis. -/
def commandsInside : Read Command := do
  let pending := (← get).pending
  modify fun r => { r with pending := [] }
  let body ← commands
  if (← get).last != .closeParen then unexpectedFor .closeParen
  modify fun r => { r with pending, pushedBack := false }
  return body

/-! ### Parameters -/

/-- Read characters of a name, given its first one; hands back what follows. -/
def nameFrom (accepts : Char → Bool) : (fuel : Nat) → Option Char → List Char →
    Read (List Char × Option Char)
  | 0, c, done => return (done.reverse, c)
  | fuel + 1, c, done =>
    match c with
    | some d =>
      if accepts d then do nameFrom accepts fuel (← next) (d :: done)
      else return (done.reverse, c)
    | none => return (done.reverse, c)

def wholeName (c : Char) : Read (List Char × Option Char) :=
  nameFrom (if isNameStart c then isNameChar else Char.isDigit) Source.readingLimit (some c) []

/-- What is asked by the sign after a name. -/
def inquiryOf? (c : Option Char) : Option Inquiry :=
  match c with
  | some '}' => some .value
  | some '-' => some .default
  | some '+' => some .alternative
  | some '?' => some .demand
  | some '=' => some .assignment
  | _ => none

/-- A parameter up to where its word begins. -/
structure Head where
  name : Name
  inquiry : Inquiry
  orEmpty : Bool := false
  /-- the word is a pattern -/
  isPattern : Bool := false

/-- Read what is asked of a parameter in braces, given what follows its name. -/
def inquiryAfter (name : Name) (c : Option Char) : Read Head := do
  match c with
  | some ':' => return { name, inquiry := (inquiryOf? (← next)).getD .unknown, orEmpty := true }
  | some '%' | some '#' =>
    let d ← next
    if d != c then unread d
    let inquiry := if c = some '#' then Inquiry.withoutFront (d == c) else .withoutBack (d == c)
    return { name, inquiry, isPattern := true }
  | _ => return { name, inquiry := (inquiryOf? c).getD .unknown }

/-- Read the name whose length is asked. -/
def lengthOf (c : Option Char) : Read Head := do
  let finish (name : Name) (c : Option Char) : Read Head := do
    unread c
    return { name, inquiry := if c = some '}' then .length else .unknown }
  match c with
  | some d =>
    if isNameChar d then
      let (name, c) ← wholeName d
      finish name c
    else
      let e ← next
      if d = '}' || e != some '}' then
        unread e
        inquiryAfter ['#'] c
      else if isSpecialName d then finish [d] e
      else
        unread e
        return { name := [], inquiry := .unknown }
  | none => inquiryAfter ['#'] c

/-- Read the head of a parameter in braces, given its first character. -/
def bracedHead (c : Option Char) : Read Head := do
  match c with
  | none =>
    unread (← next)
    return { name := [], inquiry := .unknown }
  | some d =>
    if isNameStart d || d.isDigit then
      let (name, c) ← wholeName d
      inquiryAfter name c
    else if d = '}' then
      unread c
      return { name := [], inquiry := .unknown }
    else
      let e ← next
      if d = '#' then lengthOf e
      else if isSpecialName d then inquiryAfter [d] e
      else
        unread e
        return { name := [], inquiry := .unknown }

/-- Open the word of a parameter. -/
def openWord (head : Head) (s : Scan) : Scan :=
  let quoting := if head.isPattern then Quoting.none
    else if s.here.quoting = .arithmetic then .double
    else s.here.quoting
  let s := if quoting != s.here.quoting || s.here.innerQuotes then
      s.push { quoting, isQuoted := quoting != .none, endsWithBraces := true }
    else s
  let s := s.setHere { s.here with
    braces := s.here.braces + 1
    quotedBraces := s.here.quotedBraces + if s.here.isQuoted then 1 else 0 }
  s.openPart (.parameter head.name head.inquiry head.orEmpty)

/-- Read what a dollar sign begins. -/
def substitution (s : Scan) : Read Scan := do
  let c ← next
  match c with
  | some '(' =>
    if (← get).checks.endMark then
      unread c
      return s.add (.plain '$')
    else
      let d ← next
      if d = some '(' then
        return (s.push { quoting := .arithmetic, isQuoted := true }).openPart .arithmetic
      else
        unread d
        return s.add (.output (← commandsInside commands))
  | some d =>
    if (← get).checks.endMark || (d != '\x7b' && !isNameStart d && !isSpecialName d) then
      unread c
      return s.add (.plain '$')
    else if d = '\x7b' then
      let head ← bracedHead (← next)
      if head.inquiry = .value && !head.orEmpty then
        return s.add (.parameter head.name .value false [])
      else return openWord head s
    else if isNameStart d then
      let (name, c) ← wholeName d
      unread c
      return s.add (.parameter name .value false [])
    else return s.add (.parameter [d] .value false [])
  | none => return s.add (.plain '$')

/-! ### Characters -/

/-- Read the character after a backslash. -/
def escape (isDocument : Bool) (s : Scan) : Read Scan := do
  match ← nextRaw with
  | none => return s.add (.escaped '\\')
  | some c =>
    let keepsBackslash := s.here.isQuoted && c != '\\' && c != '\x60' && c != '$' &&
      (c != '"' || (isDocument && s.here.braces = 0)) && (c != '}' || s.here.braces = 0)
    let s := if keepsBackslash then s.add (.escaped '\\') else s
    return { s.add (.escaped c) with wasQuoted := true }

/-- Quotes begin or end between braces. -/
def toggleInner (s : Scan) : Scan :=
  if s.here.braces > 0 then s.setHere { s.here with innerQuotes := !s.here.innerQuotes } else s

/-- Quotes end. -/
def endQuotes (isDocument : Bool) (c : Char) (s : Scan) : Scan :=
  if isDocument && s.here.braces = 0 then s.add (.plain c)
  else
    let s := if s.here.quotedBraces = 0 then
        s.setHere { s.here with quoting := .none, isQuoted := false }
      else s
    let s := if c = '"' then toggleInner s else s
    { s.addMark isDocument with wasQuoted := true }

/-- Braces end. -/
def endBraces (s : Scan) : Scan :=
  if s.here.innerQuotes || s.here.braces = 0 then s.add (.plain '}')
  else
    let here := { s.here with braces := s.here.braces - 1 }
    let s := if here.braces = 0 && here.endsWithBraces then (s.setHere here).pop
      else s.setHere { here with quotedBraces := here.quotedBraces - 1 }
    s.closePart

/-- A parenthesis closes in an expression. -/
def closeParen (s : Scan) : Read Scan := do
  if s.here.parens > 0 then
    return (s.setHere { s.here with parens := s.here.parens - 1 }).add (.plain ')')
  else
    let c ← next
    if c = some ')' then return s.pop.closePart
    else
      unread c
      return s.add (.plain ')')

/-- Go on with a character inside a word; `none` if the word ends before it. -/
def scanChar (isDocument : Bool) (c : Char) (s : Scan) :
    Read (Option Scan) := do
  let endMark := (← get).checks.endMark
  let guarded : Part := if !isDocument || s.here.isQuoted then .escaped c else .plain c
  if isMarkByte c then return some (s.add guarded)
  match s.here.quoting with
  | .single =>
    if c = '\'' then return some (endQuotes isDocument c s)
    else if c = '\\' || isGuarded c then return some (s.add guarded)
    else return some (s.add (.plain c))
  | quoting =>
    if c = '\\' then return some (← escape isDocument s)
    else if c = '$' then return some (← substitution commands s)
    else if c = '}' then return some (endBraces s)
    else if c = '\x60' then
      if endMark then return some (s.add (.plain c))
      else
        let text ← backquoted s.here.isQuoted Source.readingLimit []
        return some (s.add (.output (← commandsOf commands text)))
    else match quoting with
      | .arithmetic =>
        if c = '(' then
          return some ((s.setHere { s.here with parens := s.here.parens + 1 }).add (.plain c))
        else if c = ')' then return some (← closeParen s)
        else return some (s.add (.plain c))
      | .double =>
        if c = '"' then return some (endQuotes isDocument c s)
        else if isGuarded c then return some (s.add guarded)
        else return some (s.add (.plain c))
      | _ =>
        if c = '\'' then
          return some ((s.setHere { s.here with quoting := .single }).addMark isDocument)
        else if c = '"' then
          let s := s.setHere { s.here with quoting := .double, isQuoted := true }
          return some ((toggleInner s).addMark isDocument)
        else if "<>();&| \t".toList.contains c then
          return if s.here.braces = 0 then none else some (s.add (.plain c))
        else return some (s.add (.plain c))

/-! ### Words and documents -/

/-- Read the tabs at the start of a line. -/
def skipTabs : (fuel : Nat) → Option Char → Read (Option Char)
  | 0, c => return c
  | fuel + 1, c => do if c = some '\t' then skipTabs fuel (← nextRaw) else return c

/-- Compare the start of a line with the end mark; hands back the character from
which the line is to be read, which is none if the document ends here. -/
def lineAgainst (first : Option Char) : (matched mark : List Char) → Option Char →
    Read (Option Char)
  | matched, d :: mark, c => do
    if c = some d then lineAgainst first (d :: matched) mark (← nextRaw)
    else giveBack matched c
  | matched, [], c => do
    if c = some '\n' || c = none then
      countLine
      return none
    else giveBack matched c
where
  giveBack (matched : List Char) (c : Option Char) : Read (Option Char) := do
    if matched.isEmpty then return c
    else
      unread c
      for d in matched.dropLast do unread (some d)
      return first

/-- A line begins with a character, unless it ends the document. -/
def beginLine (document : Option DocumentEnd) (c : Option Char) : Read (Option Char) := do
  match document with
  | none => return c
  | some e =>
    let c ← if e.stripsTabs then skipTabs Source.readingLimit c else pure c
    match e.endMark with
    | none => return c
    | some mark => lineAgainst c [] mark c

/-- Read a character as the quotes around it demand. -/
def nextIn (s : Scan) : Read (Option Char) :=
  if s.here.quoting = .single then nextRaw else next

/-- Read on to the end of a word or a document, from a character; hands back the
character after it. -/
def scan (document : Option DocumentEnd) : (fuel : Nat) → Option Char →
    Scan → Read (Scan × Option Char)
  | 0, c, s => return (s, c)
  | fuel + 1, c, s => do
    match c with
    | none => return (s, c)
    | some '\n' =>
      if s.here.quoting = .none && s.here.braces = 0 then return (s, c)
      else
        let s := s.add (.plain '\n')
        countLine
        let c ← beginLine document (← nextIn s)
        scan document fuel c s
    | some d =>
      match ← scanChar commands document.isSome d s with
      | none => return (s, c)
      | some s => scan document fuel (← nextIn s) s

/-- Everything that was opened must have been closed. -/
def checkClosed (isDocument : Bool) (s : Scan) : Read Unit := do
  if s.here.quoting = .arithmetic then throw "Missing '))'"
  if s.here.quoting != .none && !isDocument then throw "Unterminated quoted string"
  if s.here.braces != 0 then throw "Missing '\x7d'"

/-- Read a redirection after its number. -/
def redirectionFrom (number : Option Nat) (sign : Char) : Read Unit := do
  let c ← next
  let put (kind : RedirectionKind) : Read Unit :=
    modify fun r => { r with number := number.getD (if sign = '>' then 1 else 0), kind }
  match sign, c with
  | '>', some '>' => put .append
  | '>', some '|' => put (.write true)
  | _, some '&' => put .duplicate
  | '<', some '>' => put .readWrite
  | '<', some '<' =>
    let d ← next
    if d != some '-' then unread d
    modify fun r => { r with stripsTabs := d = some '-' }
    let index := (← get).documents.size
    modify fun r => { r with documents := r.documents.push [] }
    put (.document index true)
  | '>', _ =>
    unread c
    put (.write false)
  | _, _ =>
    unread c
    put .read

/-- Read a word or a redirection that begins with a character. -/
def wordFrom (c : Option Char) : Read Token := do
  let (s, c) ← scan commands none Source.readingLimit c { here := { quoting := .none } }
  checkClosed false s
  let number : Option (Option Nat) := match s.parts with
    | [] => some none
    | [.plain d] => if d.isDigit then some (some (d.toNat - 48)) else none
    | _ => none
  match c, (if s.wasQuoted then none else number) with
  | some '<', some number =>
    redirectionFrom number '<'
    return .redirection
  | some '>', some number =>
    redirectionFrom number '>'
    return .redirection
  | _, _ =>
    unread c
    modify fun r => { r with word := s.parts.reverse, wordIsQuoted := s.wasQuoted }
    return .word

/-- Read the text of a document. -/
def documentText (d : PendingDocument) : Read Unit := do
  let here : Surrounding :=
    if d.expanded then { quoting := .double, isQuoted := true } else { quoting := .single }
  let document : DocumentEnd := ⟨some d.endMark, d.stripsTabs⟩
  let c ← if d.expanded then next else nextRaw
  let c ← beginLine (some document) c
  let (s, _) ← scan commands (some document) Source.readingLimit c { here }
  checkClosed true s
  modify fun r => { r with documents := r.documents.setIfInBounds d.index s.parts.reverse }

/-- Read a whole text as if it stood between quotes. -/
def quotedText : Read Word := do
  let here : Surrounding := { quoting := .double, isQuoted := true }
  let (s, _) ← scan commands (some {}) Source.readingLimit (← next) { here }
  checkClosed true s
  return s.parts.reverse

/-- Read the documents that were asked for in the line that has ended. -/
def readDocuments : Read Unit := do
  let pending := (← get).pending
  modify fun r => { r with pending := [] }
  for d in pending do documentText commands d

end

end Read

end PipelineShell.Script
