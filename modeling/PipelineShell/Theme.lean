import PipelineShell.Environment

/-!
# Colours

A coloured text stands between the sequence of its style and the reset
sequence.  After a reset inside the text the style is opened again.
-/

namespace PipelineShell

namespace Style

def reset : List Char := ['\x1b', '[', '0', 'm']

/-- The sequence that opens a style. -/
def opening (code : Nat) : List Char := ['\x1b', '['] ++ (toString code).toList ++ ['m']

/-- Open a style again after each reset. -/
def reopen (code : Nat) (cs : List Char) : List Char :=
  go cs []
where
  go (cs done : List Char) : List Char :=
    match cs with
    | '\x1b' :: '[' :: '0' :: 'm' :: rest =>
      go rest ((reset ++ opening code).reverse ++ done)
    | c :: rest => go rest (c :: done)
    | [] => done.reverse

/-- A text in a style, or as it is without colours. -/
def paint (colour : Bool) (code : Nat) (text : String) : String :=
  if colour then
    String.ofList (opening code ++ reopen code text.toList ++ reset)
  else text

end Style

/-- Whether colours are used: they can be forced, then forbidden, and else they
are for terminals. -/
def usesColour (env : Environment) (terminal : Bool) : Bool :=
  if (env.text? "CLICOLOR_FORCE").any (· != "0") then true
  else if (env.text? "NO_COLOR").isSome then false
  else terminal && (env.text? "CLICOLOR").all (· != "0")

structure Theme where
  prompt : String
  error : String → String
  warning : String → String

namespace Theme

def brightRed : Nat := 91
def yellow : Nat := 33
def brightCyan : Nat := 96

/-- The theme of a name: only the prompt of the theme `color` is coloured. -/
def ofName (colour : Bool) (name : String) : Theme where
  prompt := if name = "color" then Style.paint colour brightCyan "$ " else "$ "
  error := Style.paint colour brightRed
  warning := Style.paint colour yellow

end Theme

end PipelineShell
