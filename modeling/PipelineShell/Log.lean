/-!
# Log records

A record has one of five levels.  A level admits the records that are at least
as severe as itself.
-/

namespace PipelineShell

inductive LogLevel where
  | error
  | warn
  | info
  | debug
  | trace
  deriving DecidableEq, Repr

namespace LogLevel

/-- The more severe, the smaller. -/
def rank : LogLevel → Nat
  | error => 1
  | warn => 2
  | info => 3
  | debug => 4
  | trace => 5

def name : LogLevel → String
  | error => "ERROR"
  | warn => "WARN"
  | info => "INFO"
  | debug => "DEBUG"
  | trace => "TRACE"

def all : List LogLevel := [error, warn, info, debug, trace]

/-- Letters of the ASCII alphabet in upper case. -/
def upperAscii (s : String) : String :=
  String.ofList (s.toList.map Char.toUpper)

/-- The level of a name in any case; an unknown name means `info`. -/
def ofName (s : String) : LogLevel :=
  (all.find? (fun level => level.name == upperAscii s)).getD info

def admits (limit level : LogLevel) : Bool := level.rank ≤ limit.rank

/-- The more severe of two levels. -/
def stricter (a b : LogLevel) : LogLevel := if a.rank ≤ b.rank then a else b

end LogLevel

structure LogRecord where
  level : LogLevel
  message : String
  deriving DecidableEq, Repr

namespace LogRecord

def error (message : String) : LogRecord := ⟨.error, message⟩
def warn (message : String) : LogRecord := ⟨.warn, message⟩
def info (message : String) : LogRecord := ⟨.info, message⟩
def debug (message : String) : LogRecord := ⟨.debug, message⟩
def trace (message : String) : LogRecord := ⟨.trace, message⟩

end LogRecord

end PipelineShell
