import PipelineShell.Program.Call
import PipelineShell.Program.Options
import PipelineShell.Text.OctetClass

/-!
# Translating characters

Each character of the input that stands in a first list is replaced by the
character at the same place in a second list, or deleted.  Repeated characters
can be squeezed into one.
-/

namespace PipelineShell.Program.Translate

/-- The characters from one to another. -/
def charsBetween (lo hi : Char) : List Char :=
  (List.range (hi.toNat + 1 - lo.toNat)).map fun n => Char.ofNat (lo.toNat + n)

def allChars : List Char := charsBetween '\x00' '\xff'

/-- The classes of characters, each in ascending order. -/
def classes : List (String × List Char) :=
  Octets.classes.map fun (name, isMember) => (name, allChars.filter isMember)

/-! ### Escapes in a list -/

/-- A character of a list as it is written: by itself or by an escape. -/
inductive Written where
  | plain (c : Char)
  | escaped (c : Char)
  deriving DecidableEq, Repr

def Written.char : Written → Char
  | plain c => c
  | escaped c => c

/-- The character stands there by itself. -/
def Written.is (w : Written) (c : Char) : Bool := w == .plain c

def isOctal (c : Char) : Bool := '0' ≤ c && c ≤ '7'

def octalValue (cs : List Char) : Nat := cs.foldl (fun n c => n * 8 + (c.toNat - 48)) 0

def escapes : List (Char × Char) :=
  [('a', '\x07'), ('b', '\x08'), ('f', '\x0c'), ('n', '\n'), ('r', '\r'), ('t', '\t'),
    ('v', '\x0b')]

/-- The octal digits of an escape that make a byte. -/
def octalDigits (cs : List Char) : List Char :=
  let three := (cs.take 3).takeWhile isOctal
  if 255 < octalValue three then three.take 2 else three

/-- What is said of an escape whose third digit does not count. -/
def octalWarning? (cs : List Char) : Option String :=
  match cs with
  | [a, b, c] =>
    if isOctal a && isOctal b && isOctal c && 255 < octalValue cs then
      some (String.ofList ("warning: the ambiguous octal escape \\".toList ++ cs ++
        " is being\n\tinterpreted as the 2-byte sequence \\0".toList ++ [a, b, ',', ' ', c]))
    else none
  | _ => none

/-- Read the escapes of a list, with the warnings about them. -/
def unescape (cs : List Char) : List Written × List String :=
  match cs with
  | [] => ([], [])
  | ['\\'] =>
    ([.plain '\\'], ["warning: an unescaped backslash at end of string is not portable"])
  | '\\' :: c :: rest =>
    if isOctal c then
      let digits := octalDigits (c :: rest)
      let (more, warnings) := unescape (rest.drop (digits.length - 1))
      (.escaped (Char.ofNat (octalValue digits)) :: more,
        (octalWarning? ((c :: rest).take 3)).toList ++ warnings)
    else
      let (more, warnings) := unescape rest
      (.escaped ((escapes.lookup c).getD c) :: more, warnings)
  | c :: rest =>
    let (more, warnings) := unescape rest
    (.plain c :: more, warnings)
termination_by cs.length
decreasing_by all_goals simp only [List.length_drop, List.length_cons]; omega

/-! ### The elements of a list -/

inductive Element where
  | char (c : Char)
  | range (lo hi : Char)
  | named (name : String) (members : List Char)
  | alike (c : Char)
  /-- so many times a character; zero times stand for as many as are needed -/
  | repeated (c : Char) (count : Nat)
  deriving DecidableEq, Repr

namespace Element

/-- More copies of a character than this change nothing. -/
def maxCopies : Nat := 65536

def chars : Element → List Char
  | char c | alike c => [c]
  | range lo hi => charsBetween lo hi
  | named _ members => members
  | repeated c count => List.replicate (min count maxCopies) c

def size : Element → Nat
  | repeated _ count => count
  | e => e.chars.length

def isOpen : Element → Bool
  | repeated _ count => count = 0
  | _ => false

/-- A class of letters of one case. -/
def isCase : Element → Bool
  | named name _ => name == "upper" || name == "lower"
  | _ => false

def isNamed : Element → Bool
  | named _ _ => true
  | _ => false

def isAlike : Element → Bool
  | alike _ => true
  | _ => false

end Element

/-- Show a character in a message. -/
def shown (c : Char) : List Char :=
  if ' ' ≤ c ∧ c ≤ '~' then [c] else escapeUnseenOctal c
where
  escapeUnseenOctal (c : Char) : List Char :=
    let n := c.toNat
    ['\\', Char.ofNat (48 + n / 64), Char.ofNat (48 + n / 8 % 8), Char.ofNat (48 + n % 8)]

/-- Show a part of a list in a message. -/
def shownText (ws : List Written) : List Char :=
  ws.flatMap fun w => match (escapes.map fun e => (e.2, e.1)).lookup w.char with
    | some letter => ['\\', letter]
    | none => shown w.char

def quotedText (cs : List Char) : Bytes := quotedWord (Octets.toBytes cs)

/-- The text up to a sign and a closing bracket, and what follows them. -/
def closedBy (sign : Char) : List Written → Option (List Written × List Written)
  | a :: b :: rest =>
    if a.is sign && b.is ']' then some ([], rest)
    else (closedBy sign (b :: rest)).map fun (inside, after) => (a :: inside, after)
  | _ => none

/-- Whether a star, digits and a closing bracket follow. -/
def isCountedStar (ws : List Written) : Bool :=
  match ws with
  | star :: rest =>
    star.is '*' && ((rest.dropWhile fun w => w.char.isDigit).head?.any fun w => w.is ']')
  | [] => false

/-- A character that is repeated, after the opening bracket: the character, the
digits of its number, and what follows. -/
def repetition? (ws : List Written) : Option (Char × List Written × List Written) :=
  match ws with
  | c :: star :: rest =>
    if !star.is '*' then none
    else
      let digits := rest.takeWhile fun w => match w with
        | .plain c => c != ']'
        | .escaped _ => false
      match rest.drop digits.length with
      | close :: after => if close.is ']' then some (c.char, digits, after) else none
      | [] => none
  | _ => none

/-- The number that digits write, in the base eight after a leading zero. -/
def countOf? (ws : List Written) : Option Nat :=
  let cs := ws.map Written.char
  let cs := if cs.head? == some '+' then cs.drop 1 else cs
  let octal := (ws.head?.any fun w => w.char == '0')
  let n := if octal then octalValue cs else Octets.decimal cs
  if cs.isEmpty then (if ws.isEmpty then some 0 else none)
  else if cs.all (fun c => c.isDigit && (!octal || isOctal c)) && n < Nat.pow 2 64 - 1 then some n
  else none

abbrev Elements := Except Bytes (List Element)

def messageOf {α : Type} (before : String) (middle : Bytes) (after : String) : Except Bytes α :=
  .error (utf8 before ++ middle ++ utf8 after)

/-- A class or a character and those alike, after the opening bracket and the
sign; what is none can still be a repetition. -/
inductive Bracket where
  | element (e : Element) (rest : List Written)
  | wrong (message : Bytes)
  | none

def readNamed (name rest inside : List Written) : Bracket :=
  let text := String.ofList (name.map Written.char)
  if name.isEmpty then .wrong (utf8 "missing character class name '[::]'")
  else match classes.lookup text with
    | some members => .element (.named text members) rest
    | Option.none =>
      if isCountedStar inside then .none
      else .wrong (utf8 "invalid character class " ++ quotedText (shownText name))

def readAlike (name rest inside : List Written) : Bracket :=
  match name with
  | [] => .wrong (utf8 "missing equivalence class character '[==]'")
  | [w] => .element (.alike w.char) rest
  | _ =>
    if isCountedStar inside then .none
    else .wrong (Octets.toBytes (shownText name) ++
      utf8 ": equivalence class operand must be a single character")

/-- What an opening bracket begins, given what follows it. -/
def readBracket (ws : List Written) : Bracket :=
  let signed : Bracket := match ws with
    | sign :: inside =>
      match if sign.is ':' || sign.is '=' then closedBy sign.char inside else Option.none with
      | some (name, rest) =>
        if sign.is ':' then readNamed name rest inside else readAlike name rest inside
      | Option.none => .none
    | [] => .none
  match signed with
  | .none =>
    match repetition? ws with
    | some (c, digits, rest) =>
      match countOf? digits with
      | some n => .element (.repeated c n) rest
      | Option.none => .wrong (utf8 "invalid repeat count " ++ quotedText (shownText digits) ++
          utf8 " in [c*n] construct")
    | Option.none => .none
  | found => found

/-- The elements of a list; `fuel` is more than its length. -/
def elements : (fuel : Nat) → List Written → Elements
  | 0, _ => .ok []
  | fuel + 1, ws =>
    match ws with
    | a :: b :: c :: rest =>
      match if a.is '[' then readBracket (b :: c :: rest) else .none with
      | .element e rest => (elements fuel rest).map (e :: ·)
      | .wrong message => .error message
      | .none =>
        if b.is '-' then
          if c.char < a.char then
            messageOf "range-endpoints of '" (Octets.toBytes (shown a.char ++ '-' :: shown c.char))
              "' are in reverse collating sequence order"
          else (elements fuel rest).map (.range a.char c.char :: ·)
        else (elements fuel (b :: c :: rest)).map (.char a.char :: ·)
    | ws => .ok (ws.map fun w => .char w.char)

def sizeOf (es : List Element) : Nat := (es.map Element.size).foldl (· + ·) 0

def charsOf (es : List Element) : List Char := es.flatMap Element.chars

/-! ### Options -/

structure Options where
  complement : Bool := false
  delete : Bool := false
  squeeze : Bool := false
  truncate : Bool := false

def grammar : OptionGrammar where
  letters := "AcCdst".toList.map fun c => (c, .none)
  long := [("complement", .none, "c"), ("delete", .none, "d"), ("squeeze-repeats", .none, "s"),
    ("truncate-set1", .none, "t"), ("help", .none, "help"), ("version", .none, "version")]
  mixed := false

def Options.ofKey (o : Options) : String → Options
  | "c" | "C" => { o with complement := true }
  | "d" => { o with delete := true }
  | "s" => { o with squeeze := true }
  | "t" => { o with truncate := true }
  | _ => o

/-! ### What two lists mean together -/

/-- What becomes of a character: another character, or nothing. -/
structure Table where
  image : Char → Option Char
  squeezed : Char → Bool

/-- The characters of the first list, or all others. -/
def Options.domain (o : Options) (es : List Element) : List Char :=
  let cs := charsOf es
  if o.complement then allChars.filter (fun c => !cs.contains c) else cs

/-- Put so many copies into the place of a character without a number. -/
def fillOpen (count : Nat) (es : List Element) : List Element :=
  es.map fun e => match e with
    | .repeated c 0 => .repeated c count
    | e => e

/-- Elements of the lists that stand at the same places: classes of letters of
one case have to stand against such classes. -/
def areAligned : (fuel : Nat) → List Element → List Element → Bool
  | 0, _, _ => true
  | fuel + 1, first, second =>
    match first, second with
    | a :: first, b :: second =>
      if b.isCase then a.isCase && areAligned fuel first second
      else
        -- both elements are cut at the end of the shorter one
        let m := a.chars.length
        let n := b.chars.length
        if m = 0 then areAligned fuel first (b :: second)
        else if n = 0 then areAligned fuel (a :: first) second
        else if m ≤ n then
          areAligned fuel first
            (if m = n then second else (b.chars.drop m).map .char ++ second)
        else areAligned fuel ((a.chars.drop n).map .char ++ first) second
    | [], b :: second =>
      if b.chars.isEmpty then areAligned fuel [] second else !b.isCase
    | _, [] => true

/-- Lengthen the second list by its last character. -/
def stretch (missing : Nat) (es : List Element) : Elements :=
  match es.getLast? with
  | none => .error (utf8 "when not truncating set1, string2 must be non-empty")
  | some (.named _ _) =>
    .error (utf8 ("when translating with string1 longer than string2,\n" ++
      "the latter string must not end with a character class"))
  | some (.char c) | some (.range _ c) | some (.alike c) | some (.repeated c _) =>
    .ok (es ++ [.repeated c missing])

/-- The second list of a translation, as long as it has to be. -/
def secondList (o : Options) (first second : List Element) : Elements := do
  let size := if o.complement then (o.domain first).length else sizeOf first
  let second := fillOpen (size - sizeOf second) second
  if second.any Element.isAlike then
    throw (utf8 "[=c=] expressions may not appear in string2 when translating")
  if second.any (fun e => e.isNamed && !e.isCase) then
    throw (utf8 ("when translating, the only character classes that may appear in\n" ++
      "string2 are 'upper' and 'lower'"))
  if !o.complement && second.any Element.isNamed &&
      !areAligned (2 * (size + sizeOf second) + 2) first second then
    throw (utf8 "misaligned [:upper:] and/or [:lower:] construct")
  let missing := size - sizeOf second
  let second ← if 0 < missing && !o.truncate then stretch missing second else .ok second
  let images := charsOf second
  let isConstant := images.all fun c => some c == images.head?
  if o.complement && first.any Element.isNamed && !(sizeOf second = size && isConstant) then
    throw (utf8 ("when translating with complemented character classes,\n" ++
      "string2 must map all characters in the domain to one"))
  return second

/-- The last image of a character that stands in the first list several times counts. -/
def Table.translating (o : Options) (first second : List Char) : Table :=
  let pairs := (first.zip second).reverse
  ⟨fun c => some ((pairs.lookup c).getD c), fun c => o.squeeze && second.contains c⟩

/-- The table for a list, or for two. -/
def tableOf (o : Options) (first : List Element) (second : Option (List Element)) :
    Except Bytes Table := do
  if first.any Element.isOpen then
    throw (utf8 "the [c*] repeat construct may not appear in string1")
  let domain := o.domain first
  match second with
  | none =>
    if o.delete then return ⟨fun c => if domain.contains c then none else some c, fun _ => false⟩
    else return ⟨some, domain.contains⟩
  | some second =>
    let opens := second.countP Element.isOpen
    if 1 < opens then throw (utf8 "only one [c*] repeat construct may appear in string2")
    if o.delete then
      if 0 < opens then
        throw (utf8 "the [c*] construct may appear in string2 only when translating")
      let squeezed := charsOf second
      return ⟨fun c => if domain.contains c then none else some c, squeezed.contains⟩
    else return .translating o domain (charsOf (← secondList o first second))

/-! ### Translating a text -/

/-- Translate a text after a character; the last character of the result is
handed back. -/
def Table.apply (t : Table) (previous : Option Char) (cs : List Char) : List Char × Option Char :=
  go previous cs []
where
  go (previous : Option Char) : List Char → List Char → List Char × Option Char
    | [], done => (done.reverse, previous)
    | c :: rest, done =>
      match t.image c with
      | none => go previous rest done
      | some image =>
        if t.squeezed image && previous == some image then go previous rest done
        else go (some image) rest (image :: done)

/-- Translate a stream.  What is repeated has been translated once before, so
that what comes before it is the same each time. -/
def Table.applyStream (t : Table) (s : Stream) : Stream :=
  let (first, previous) := t.apply none (Octets.ofBytes (s.first ++ s.cycle))
  let (cycle, _) := t.apply previous (Octets.ofBytes s.cycle)
  ⟨Octets.toBytes first, Octets.toBytes cycle⟩

/-! ### The call -/

/-- The lists of a call, if their number is right. -/
def chooseLists (call : Call) (o : Options) (lists : List Bytes) :
    Except Result (Bytes × Option Bytes) :=
  match lists with
  | [] => .error (call.misuse (utf8 "missing operand") 1)
  | [only] =>
    if o.delete == o.squeeze then
      let reason := if o.delete
        then "Two strings must be given when both deleting and squeezing repeats."
        else "Two strings must be given when translating."
      .error (call.misuse
        (utf8 "missing operand after " ++ quotedWord only ++ 10 :: utf8 reason) 1)
    else .ok (only, none)
  | first :: second :: more =>
    match (if o.delete && !o.squeeze then second :: more else more), more with
    | [], _ => .ok (first, some second)
    | extra :: _, [] =>
      .error (call.misuse (utf8 "extra operand " ++ quotedWord extra ++
        utf8 "\nOnly one string may be given when deleting without squeezing repeats.") 1)
    | extra :: _, _ => .error (call.misuse (utf8 "extra operand " ++ quotedWord extra) 1)

/-- A list as it is written, with the warnings about it. -/
def readList (call : Call) (word : Bytes) : List Write × Elements :=
  let (written, warnings) := unescape (Octets.ofBytes word)
  (warnings.map fun w => .errors (call.message (utf8 w)), elements (written.length + 1) written)

/-- Translate the input, after the warnings. -/
def translate (call : Call) (warnings : List Write) (t : Table) : Result :=
  match call.stdin with
  | .error e =>
    { writes := warnings ++ [.errors (call.message (utf8 ("read error: " ++ failureText e)))]
      status := 1 }
  | .ok text =>
    { writes := warnings ++ [.output (t.applyStream text)], taken := text.first.length }

def run (call : Call) : Result :=
  let words := grammar.read call.args
  match words.wrong with
  | some text => call.misuse text 1
  | none =>
    let o := words.words.foldl (fun o word => match word with
      | .option key _ => o.ofKey key
      | .operand _ => o) ({} : Options)
    match chooseLists call o words.operands with
    | .error result => result
    | .ok (first, second) =>
      let (warnings, first) := readList call first
      let fail (warnings : List Write) (text : Bytes) : Result :=
        { writes := warnings ++ [.errors (call.message text)], status := 1 }
      match first with
      | .error text => fail warnings text
      | .ok first =>
        let (more, second) : List Write × Except Bytes (Option (List Element)) := match second with
          | none => ([], .ok none)
          | some word =>
            let (more, second) := readList call word
            (more, second.map some)
        match second.bind (tableOf o first) with
        | .error text => fail (warnings ++ more) text
        | .ok t => translate call (warnings ++ more) t

/-- How much of the input is read at once. -/
def portion : Nat := 8192

def behaviour : Behaviour := { run, unwritable := lostAtEnd, portion := some portion }

end PipelineShell.Program.Translate
