import PipelineShell.Program.StreamEditor.Replacement

/-!
# Editing instructions

A script is a list of instructions.  Each may have addresses that select the
lines on which it is carried out, and some name the instruction that comes next.
-/

namespace PipelineShell.Program.StreamEditor

/-- An expression; `none` is the last one that was used. -/
abbrev Pattern := Option Regex.Machine

inductive Address where
  | line (n : Nat)
  /-- a line and every so many lines after it -/
  | step (first step : Nat)
  | last
  | found (pattern : Pattern)
  /-- so many lines after the first -/
  | after (count : Nat)
  /-- the next line whose number is a multiple -/
  | multiple (of : Nat)

/-- When a jump is taken. -/
inductive Jump where
  | always
  | replaced
  | notReplaced
  deriving DecidableEq, Repr

inductive Action where
  | openBlock
  | closeBlock
  | label
  | jump (when : Jump)
  | append (text : Bytes)
  | insert (text : Bytes)
  | change (text : Bytes)
  | delete
  | deleteFirst
  | print
  | printFirst
  | number
  | fileName
  | list (width : Option Nat)
  | hold
  | holdMore
  | recall
  | recallMore
  | exchange
  | clear
  | next
  | nextMore
  | quit (status : Nat) (print : Bool)
  | readFile (name : Bytes)
  | readLine (source : Nat)
  | write (outlet : Nat)
  | writeFirst (outlet : Nat)
  | substitute (pattern : Pattern) (how : Substitution)
  | translate (table : Array UInt8)
  /-- an instruction that is known but cannot be carried out -/
  | broken (c : Char)

structure Instruction where
  first : Option Address := none
  second : Option Address := none
  negated : Bool := false
  action : Action
  /-- the instruction after a block or a jump -/
  target : Nat := 0

end PipelineShell.Program.StreamEditor
