import PipelineShell.Token
import PipelineShell.OsError

/-!
# Why a line does not run

The first three causes are found while reading the line, the last one when the
file of a redirection is opened.
-/

namespace PipelineShell

inductive LineError where
  /-- a quote is still open at the end of the line -/
  | unterminatedQuote (quote : Quote)
  /-- a stage starts with a redirection operator -/
  | missingCommand (operator : String)
  /-- the redirection of the last stage names no file -/
  | missingRedirectTarget (operator : String)
  /-- the file of the redirection cannot be opened -/
  | redirection (target : String) (cause : OsError)
  deriving DecidableEq, Repr

def Quote.name : Quote → String
  | .single => "single"
  | .double => "double"

/-- The text shown to the user. -/
def LineError.message : LineError → String
  | .unterminatedQuote quote => "syntax error: unterminated " ++ quote.name ++ " quote"
  | .missingCommand operator => "syntax error: missing command before `" ++ operator ++ "`"
  | .missingRedirectTarget operator =>
    "syntax error: missing file name after `" ++ operator ++ "`"
  | .redirection target cause => target ++ ": " ++ cause.message

end PipelineShell
