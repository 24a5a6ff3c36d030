import PipelineShell.Script.Builtin.Words

/-!
# Conditions

A condition is written in words: an operand, a sign before an operand, or a sign
between two of them, joined by signs for not, and, or.  A sign that stands where
an operand has to be is one.
-/

namespace PipelineShell.Script.Builtin

open Run

namespace Condition

inductive Sign where
  /-- a question about one operand -/
  | question (letter : Char)
  /-- a comparison of two operands -/
  | comparison (text : String)
  | negation | conjunction | disjunction | opening | closing
  deriving DecidableEq, Repr

def questions : List Char := "rwxefdcbpugkstznhOGLS".toList

def comparisons : List String :=
  ["=", "!=", "<", ">", "-eq", "-ne", "-ge", "-gt", "-le", "-lt", "-nt", "-ot", "-ef"]

def Sign.ofText? (text : List Char) : Option Sign :=
  match text with
  | ['!'] => some negation
  | ['-', 'a'] => some conjunction
  | ['-', 'o'] => some disjunction
  | ['('] => some opening
  | [')'] => some closing
  | _ =>
    if comparisons.contains (String.ofList text) then some (comparison (String.ofList text))
    else match text with
      | ['-', c] => if questions.contains c then some (question c) else none
      | _ => none

def isComparison (word : List Char) : Bool :=
  match Sign.ofText? word with
  | some (.comparison _) => true
  | _ => false

/-- What a word is in its place. -/
inductive Role where
  | ending
  | sign (s : Sign)
  | operand
  deriving DecidableEq, Repr

structure Reading where
  state : State
  words : Array (List Char)

/-- A place in the words; reading fails with a message. -/
abbrev Reader := ReaderT Reading (StateT Nat (Except (List Char)))

def wordAt (r : Reading) (i : Nat) : Option (List Char) := r.words[i]?

/-- A question has no operand of its own after it. -/
def standsAlone (r : Reading) (i : Nat) : Bool :=
  match wordAt r (i + 1), wordAt r (i + 2) with
  | none, _ => true
  | some _, none => false
  | some next, some _ => isComparison next

def roleAt (r : Reading) (i : Nat) : Role :=
  match wordAt r i with
  | none => .ending
  | some word =>
    match Sign.ofText? word with
    | none => .operand
    | some (.question c) => if standsAlone r i then .operand else .sign (.question c)
    | some .opening => if (wordAt r (i + 1)).isNone then .operand else .sign .opening
    | some s => .sign s

def move (count : Nat) : Reader Unit := modify (· + count)

/-- The role of a word so many places on. -/
def role (ahead : Nat) : Reader Role := do return roleAt (← read) ((← get) + ahead)

def word : Reader (List Char) := do return (wordAt (← read) (← get)).getD []

def wrong {α : Type} (text : List Char) (message : String) : Reader α :=
  throw (if text.isEmpty then named message else text ++ named (": " ++ message))

/-! ### Answers -/

def integer (text : List Char) : Reader Int :=
  match Arithmetic.decimal? text with
  | some n => return n
  | none => throw (named "Illegal number: " ++ text)

/-- What a path leads to. -/
inductive Subject where
  | node (n : Node)
  | pipe

/-- What is behind an open channel. -/
def behind (s : State) : Channel → Option Subject
  | .collected pieces _ .terminal => some (.node (.file pieces.reverse.flatten 0o600))
  | .source _ _ | .collected _ _ _ => some .pipe
  | .file handle _ => (Channel.handleNode s.files handle).map .node

def subject? (s : State) (path : Bytes) : Option Subject :=
  match s.descriptorOf? path with
  | some number => (s.channel? number).bind (behind s)
  | none => (s.files.find s.place path).toOption.map .node

/-- The answer to a question about a file. -/
def askFile (s : State) (letter : Char) (path : List Char) : Bool :=
  let path := Octets.toBytes path
  if letter = 'L' ∨ letter = 'h' then
    match s.files.findEntry s.place path with
    | .ok (.link _) => true
    | _ => (s.descriptorOf? path).any fun number => (s.channel? number).isSome
  else match subject? s path with
    | none => false
    | some .pipe => ['e', 'r', 'w', 'O', 'G', 'p'].contains letter
    | some (.node node) =>
      match letter, node with
      | 'e', _ | 'r', _ | 'w', _ | 'O', _ | 'G', _ => true
      | 'f', .file _ _ | 'f', .program _ => true
      | 'd', .directory => true
      | 'x', .directory | 'x', .program _ => true
      | 'x', .file _ mode => mode &&& 0o111 != 0
      | 's', .file content _ => !content.isEmpty
      | 's', .directory | 's', .program _ => true
      | 'c', .device _ => true
      | 'u', .file _ mode => mode &&& 0o4000 != 0
      | 'g', .file _ mode => mode &&& 0o2000 != 0
      | 'k', .file _ mode => mode &&& 0o1000 != 0
      | _, _ => false

def sameFile (s : State) (a b : List Char) : Bool :=
  let place (path : List Char) : Option Place :=
    match s.files.find s.place (Octets.toBytes path), s.files.locate s.place (Octets.toBytes path) with
    | .ok _, .ok place => some place
    | _, _ => none
  match place a, place b with
  | some p, some q => p == q
  | _, _ => false

def compareWith (sign : String) (a b : List Char) : Reader Bool := do
  let integers (holds : Int → Int → Bool) : Reader Bool := do
    let m ← integer a
    let n ← integer b
    return holds m n
  match sign with
  | "=" => return a == b
  | "!=" => return a != b
  | "<" => return decide (a < b)
  | ">" => return decide (b < a)
  | "-eq" => integers (· == ·)
  | "-ne" => integers (· != ·)
  | "-ge" => integers (· ≥ ·)
  | "-gt" => integers (· > ·)
  | "-le" => integers (· ≤ ·)
  | "-lt" => integers (· < ·)
  | "-ef" => return sameFile (← read).state a b
  | _ => return false

mutual

def primary : (fuel : Nat) → Role → Reader Bool
  | 0, _ => return false
  | fuel + 1, r => do
    match r with
    | .ending => return false
    | .sign .opening =>
      move 1
      let first ← role 0
      if first = .sign .closing then return false
      else
        let b ← disjunction fuel first
        move 1
        if (← role 0) != .sign .closing then wrong [] "closing paren expected"
        return b
    | .sign (.question letter) =>
      move 1
      if (wordAt (← read) (← get)).isNone then wrong ['-', letter] "argument expected"
      let w ← word
      match letter with
      | 'z' => return w.isEmpty
      | 'n' => return !w.isEmpty
      | 't' =>
        discard (integer w)
        return false
      | _ => return askFile (← read).state letter w
    | _ =>
      let a ← word
      match ← role 1 with
      | .sign (.comparison sign) =>
        move 2
        match wordAt (← read) (← get) with
        | some b => compareWith sign a b
        | none => wrong sign.toList "argument expected"
      | _ => return !a.isEmpty

def negation : (fuel : Nat) → Role → Reader Bool
  | 0, _ => return false
  | fuel + 1, r => do
    if r = .sign .negation then
      let next ← role 1
      if next != .ending then move 1
      return !(← negation fuel next)
    else primary fuel r

def conjunction : (fuel : Nat) → Role → Reader Bool
  | 0, _ => return false
  | fuel + 1, r => do
    let a ← negation fuel r
    if (← role 1) = .sign .conjunction then
      move 2
      let b ← conjunction fuel (← role 0)
      return a && b
    else return a

def disjunction : (fuel : Nat) → Role → Reader Bool
  | 0, _ => return false
  | fuel + 1, r => do
    let a ← conjunction fuel r
    if (← role 1) = .sign .disjunction then
      move 2
      let b ← disjunction fuel (← role 0)
      return a || b
    else return a

end

/-- Decide words that begin with a role; what is left over must be at most one word. -/
def decideWords (s : State) (words : Words) (first : Option Role) : Except (List Char) Bool := do
  let r : Reading := ⟨s, words.toArray⟩
  let (b, i) ← (disjunction (4 * words.length + 8) (first.getD (roleAt r 0))).run r |>.run 0
  match words[i]?, words[i + 1]? with
  | some w, some _ =>
    throw (if w.isEmpty then named "unexpected operator" else w ++ named ": unexpected operator")
  | _, _ => return b

/-- Decide words; a few of them mean what they would mean alone.  Signs for not
before them count once. -/
def decide? (s : State) : (fuel : Nat) → (negated : Bool) → Words → Except (List Char) Bool
  | 0, _, _ => .ok false
  | fuel + 1, negated, words =>
    let answer (words : Words) (first : Option Role) : Except (List Char) Bool :=
      (decideWords s words first).map (· != negated)
    let few : Except (List Char) Bool :=
      if words.head? = some ['('] && words.getLast? = some [')'] then
        answer (words.drop 1).dropLast none
      else if words.head? = some ['!'] then decide? s fuel true (words.drop 1)
      else answer words none
    match words with
    | [] => .ok false
    | [_, sign, _] => if isComparison sign then answer words (some .operand) else few
    | [_, _, _, _] => few
    | _ => answer words none

end Condition

/-- Decide a condition; with brackets around it the last word must close them. -/
def test (bracket : Bool) (words : Words) : Run Nat := do
  let words ← if !bracket then pure words
    else match words.getLast? with
      | some (']' :: _) => pure words.dropLast
      | _ => failWith "missing ]"
  match Condition.decide? (← get) (words.length + 1) false words with
  | .ok b => return if b then 0 else 1
  | .error message => fail message

end PipelineShell.Script.Builtin
