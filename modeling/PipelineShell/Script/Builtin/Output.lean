import PipelineShell.Script.Builtin.Words
import PipelineShell.Script.Field
import PipelineShell.Script.Format

/-!
# Commands that write and read
-/

namespace PipelineShell.Script.Builtin

open Run

/-! ### Writing -/

def echo (words : Words) : Run Nat := do
  print (Format.echo words)
  return 0

def printf (words : Words) : Run Nat := do
  match ← plainWords words with
  | [] => failWith "usage: printf format [arg ...]"
  | format :: args =>
    let p := Format.run format args
    for (arg, fault) in p.faults.reverse do report (arg ++ named (": " ++ fault.message))
    modify fun s => { s with printed := p.output ++ s.printed }
    match p.wrong with
    | some message => fail message
    | none => return if p.faults.isEmpty then 0 else 1

/-! ### Reading a line -/

/-- A line under reading: regions, latest first, and the last one, also backwards. -/
structure Line where
  regions : List Region := []
  last : List Glyph := []

def Line.close (l : Line) (cutting : Cutting) : Line :=
  { regions := ⟨l.last.reverse, cutting⟩ :: l.regions, last := [] }

/-- One line of an input, how much of the input it takes, and whether it was
ended.  A backslash keeps what follows it together, and joins the next line;
`raw` takes its meaning away. -/
def lineOf (raw : Bool) : Bytes → Line → (taken : Nat) → (escaped : Bool) →
    List Region × Nat × Bool
  | [], l, taken, _ => ((l.close .atSeparators).regions.reverse, taken, false)
  | b :: rest, l, taken, escaped =>
    let c := Octets.ofByte b
    if c = '\x00' then lineOf raw rest l (taken + 1) escaped
    else if escaped then
      if c = '\n' then lineOf raw rest (l.close .atSeparators) (taken + 1) false
      else
        let l := { l.close .atSeparators with last := [.char c true] }
        lineOf raw rest (l.close .never) (taken + 1) false
    else if c = '\\' && !raw then lineOf raw rest l (taken + 1) true
    else if c = '\n' then ((l.close .atSeparators).regions.reverse, taken + 1, true)
    else lineOf raw rest { l with last := .char c false :: l.last } (taken + 1) false

/-- Give names the fields of a line. -/
def assignFields : Words → List (List Glyph) → Run Unit
  | [], _ => pure ()
  | name :: names, fields => do
    if !isName name then fail (name ++ named ": bad variable name")
    assign name (Glyph.text (fields.headD []))
    assignFields names (fields.drop 1)

def read (words : Words) : Run Nat := do
  let o ← options [('p', true), ('r', false)] words
  if o.rest.isEmpty then failWith "arg count"
  let s ← get
  let input := ((s.input 0).toOption).getD .empty
  let input := if input.first.contains 10 then input
    else input.unroll (input.first.length + input.cycle.length)
  let (regions, taken, ended) := lineOf (o.has 'r') input.first {} 0 false
  modify fun s => s.take 0 taken
  assignFields o.rest (Fields.ofRegions s.separators (some o.rest.length) regions)
  return if ended then 0 else 1

end PipelineShell.Script.Builtin
