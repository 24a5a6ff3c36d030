import PipelineShell.Text.Octets

/-!
# Options on a command line

A word that begins with a dash holds options of one letter each; a word that
begins with two dashes is one option with a long name, of which an unambiguous
beginning is enough.  An option may take a value: the rest of its word, what
follows an equals sign, or the next word.
-/

namespace PipelineShell.Program

/-- Whether an option takes a value. -/
inductive Arity where
  | none
  | required
  | optional
  deriving DecidableEq, Repr

/-- The options that a program has.  Letters and long names lead to keys, which
mean the same option where they are equal. -/
structure OptionGrammar where
  letters : List (Char × Arity)
  long : List (String × Arity × String)
  /-- options may stand after other words -/
  mixed : Bool := true

/-- A word of a command line, as a program understands it. -/
inductive CommandWord where
  | option (key : String) (value : Bytes)
  | operand (text : Bytes)
  deriving DecidableEq, Repr

/-- The words up to the first that is wrong, and what is wrong with that one. -/
structure CommandWords where
  words : List CommandWord
  wrong : Option Bytes := none
  deriving Repr

namespace CommandWords

def add (word : CommandWord) (w : CommandWords) : CommandWords :=
  { w with words := word :: w.words }

def fail (message : Bytes) : CommandWords := ⟨[], some message⟩

/-- Words that are no options. -/
def ofOperands (texts : List Bytes) : CommandWords := ⟨texts.map .operand, Option.none⟩

/-- The words that are no options. -/
def operands (w : CommandWords) : List Bytes :=
  w.words.filterMap fun
    | .operand text => some text
    | .option _ _ => Option.none

end CommandWords

namespace OptionGrammar

/-- The long option that a name means: the one of this name, or the only one
that begins with it. -/
inductive LongMatch where
  | unknown
  | ambiguous (names : List String)
  | found (name : String) (arity : Arity) (key : String)

def matchLong (g : OptionGrammar) (name : String) : LongMatch :=
  match g.long.find? (fun option => option.1 == name) with
  | some (full, arity, key) => .found full arity key
  | Option.none =>
    match g.long.filter (fun option => option.1.startsWith name) with
    | [] => .unknown
    | (full, arity, key) :: others =>
      if others.all (fun option => option.2 == (arity, key)) then .found full arity key
      else .ambiguous (full :: others.map Prod.fst)

/-- Read a word with a long name, given the words after it; `goOn` reads those
that are left. -/
def readLong (g : OptionGrammar) (goOn : List Bytes → CommandWords) (body : Bytes)
    (rest : List Bytes) : CommandWords :=
  let name := body.takeWhile (· != 61)
  let value : Option Bytes := match body.drop name.length with
    | _ :: value => some value
    | [] => Option.none
  let shown (text : Bytes) : Bytes := utf8 "option '--" ++ text ++ utf8 "'"
  match g.matchLong (Bytes.display name) with
  | .unknown => .fail (utf8 "unrecognized option '--" ++ body ++ utf8 "'")
  | .ambiguous names =>
    .fail (shown body ++ utf8 " is ambiguous; possibilities:" ++
      names.flatMap fun name => utf8 (" '--" ++ name ++ "'"))
  | .found full arity key =>
    match arity, value, rest with
    | .none, Option.none, _ => (goOn rest).add (.option key [])
    | .none, some _, _ => .fail (shown (utf8 full) ++ utf8 " doesn't allow an argument")
    | _, some value, _ => (goOn rest).add (.option key value)
    | .optional, Option.none, _ => (goOn rest).add (.option key [])
    | .required, Option.none, value :: rest => (goOn rest).add (.option key value)
    | .required, Option.none, [] => .fail (shown (utf8 full) ++ utf8 " requires an argument")

/-- Read the letters of a word. -/
def readLetters (g : OptionGrammar) (goOn : List Bytes → CommandWords) (rest : List Bytes) :
    List Char → CommandWords
  | [] => goOn rest
  | c :: more =>
    let key := String.ofList [c]
    match g.letters.lookup c with
    | Option.none => .fail (utf8 "invalid option -- '" ++ Octets.toBytes [c] ++ utf8 "'")
    | some .none => (readLetters g goOn rest more).add (.option key [])
    | some .optional => (goOn rest).add (.option key (Octets.toBytes more))
    | some .required =>
      if !more.isEmpty then (goOn rest).add (.option key (Octets.toBytes more))
      else match rest with
        | value :: rest => (goOn rest).add (.option key value)
        | [] => .fail (utf8 "option requires an argument -- '" ++ Octets.toBytes [c] ++ utf8 "'")

/-- Read words; `fuel` is more than their number. -/
def readWords (g : OptionGrammar) : (fuel : Nat) → List Bytes → CommandWords
  | 0, _ => ⟨[], Option.none⟩
  | _, [] => ⟨[], Option.none⟩
  | fuel + 1, word :: rest =>
    match word with
    | [45, 45] => .ofOperands rest
    | 45 :: 45 :: body => g.readLong (g.readWords fuel) body rest
    | 45 :: c :: more => g.readLetters (g.readWords fuel) rest (Octets.ofBytes (c :: more))
    | _ =>
      if g.mixed then (g.readWords fuel rest).add (.operand word) else .ofOperands (word :: rest)

def read (g : OptionGrammar) (args : List Bytes) : CommandWords :=
  g.readWords (args.length + 1) args

end OptionGrammar

end PipelineShell.Program
