import PipelineShell.Text.Octets

/-!
# Commands of scripts

A script is read into commands, and its words into parts.  A character of a word
stands plainly or is escaped; a mark stands where quotes begin or end, so that
an empty text between quotes is still a word.
-/

namespace PipelineShell.Script

abbrev Name := List Char

/-- The order of names, character by character. -/
def Name.notAfter (a b : Name) : Bool := !b.lex a fun c d => c.toNat < d.toNat

/-- What is asked of a parameter. -/
inductive Inquiry where
  | value
  /-- the word where the parameter has no value -/
  | default
  /-- the word where the parameter has a value -/
  | alternative
  /-- the word becomes the value where there is none -/
  | assignment
  /-- the word is the complaint where there is no value -/
  | demand
  /-- the value without its front that fits the word -/
  | withoutFront (longest : Bool)
  /-- the value without its back that fits the word -/
  | withoutBack (longest : Bool)
  | length
  /-- nothing that has a meaning -/
  | unknown
  deriving DecidableEq, Repr

/-- What a redirection does with its word. -/
inductive RedirectionKind where
  | read
  | write (overExisting : Bool)
  | append
  | readWrite
  /-- the word is the number of another channel; the direction only shows in
  what is opened by default -/
  | duplicate
  /-- the text is a document that follows in the script -/
  | document (index : Nat) (expanded : Bool)
  deriving DecidableEq, Repr

mutual

inductive Part where
  | plain (c : Char)
  | escaped (c : Char)
  | mark
  | parameter (name : Name) (inquiry : Inquiry) (orEmpty : Bool) (word : List Part)
  | output (body : Command)
  | arithmetic (expression : List Part)

inductive Redirection where
  | mk (number : Nat) (kind : RedirectionKind) (word : List Part)

inductive Command where
  | nothing
  | simple (line : Nat) (assignments words : List (List Part)) (redirections : List Redirection)
  | pipe (inBackground : Bool) (stages : List Command)
  | negate (body : Command)
  | andThen (first second : Command)
  | orElse (first second : Command)
  | sequence (first second : Command)
  | background (line : Nat) (body : Command) (redirections : List Redirection)
  | subshell (line : Nat) (body : Command) (redirections : List Redirection)
  | redirected (line : Nat) (body : Command) (redirections : List Redirection)
  | conditional (condition thenPart : Command) (elsePart : Option Command)
  | loop (endsWhenTrue : Bool) (condition body : Command)
  | forEach (line : Nat) (name : Name) (words : List (List Part)) (body : Command)
  | choose (line : Nat) (subject : List Part) (arms : List (List (List Part) × Command))
  | define (line : Nat) (name : Name) (body : Command)

end

instance : Inhabited Command := ⟨.nothing⟩
instance : Inhabited Part := ⟨.mark⟩

abbrev Word := List Part

/-! ### Names -/

def isNameStart (c : Char) : Bool := c.isAlpha || c == '_'

def isNameChar (c : Char) : Bool := c.isAlphanum || c == '_'

/-- The parameters that have a sign for a name. -/
def isSpecialName (c : Char) : Bool := "!#$*-?@".toList.contains c || c.isDigit

/-- A text that can name a variable. -/
def isName (cs : List Char) : Bool :=
  match cs with
  | [] => false
  | c :: rest => isNameStart c && rest.all isNameChar

/-- A word without quotes and expansions. -/
def Word.literal? (w : Word) : Option (List Char) :=
  w.mapM fun
    | .plain c => some c
    | _ => none

/-- A word as the assignment that it is: the name, and the parts after the sign. -/
def Word.assignment? (w : Word) : Option (Name × Word) :=
  go w []
where
  go : Word → List Char → Option (Name × Word)
    | .plain c :: rest, name =>
      if c = '=' then (if name.isEmpty then none else some (name.reverse, rest))
      else if (if name.isEmpty then isNameStart c else isNameChar c) then go rest (c :: name)
      else none
    | _, _ => none

/-- All arguments, each as a word of its own. -/
def allArguments : Word := [.mark, .parameter ['@'] .value false [], .mark]

end PipelineShell.Script
