import PipelineShell.Script.Command

/-!
# Tokens of scripts

The signs between words, and the words that can be reserved.
-/

namespace PipelineShell.Script

inductive Keyword where
  | bang | caseOf | doLoop | done | elseIf | elsePart | esac | fi | forEach | ifThat | inList
  | thenPart | untilThat | whileThat | openBrace | closeBrace
  deriving DecidableEq, Repr

namespace Keyword

def texts : List (String × Keyword) :=
  [("!", bang), ("case", caseOf), ("do", doLoop), ("done", done), ("elif", elseIf),
    ("else", elsePart), ("esac", esac), ("fi", fi), ("for", forEach), ("if", ifThat),
    ("in", inList), ("then", thenPart), ("until", untilThat), ("while", whileThat),
    ("\x7b", openBrace), ("\x7d", closeBrace)]

def ofText? (text : List Char) : Option Keyword := texts.lookup (String.ofList text)

def text (k : Keyword) : String :=
  ((texts.find? fun entry => entry.2 = k).map Prod.fst).getD ""

/-- A list of commands ends before this word. -/
def endsList : Keyword → Bool
  | doLoop | done | elseIf | elsePart | esac | fi | thenPart | closeBrace => true
  | _ => false

end Keyword

inductive Token where
  | endOfText | newline | semicolon | ampersand | andThen | orElse | bar | openParen | closeParen
  | endOfArm | redirection | word
  | keyword (k : Keyword)
  deriving DecidableEq, Repr

namespace Token

/-- A token in messages. -/
def shown : Token → String
  | endOfText => "end of file"
  | newline => "newline"
  | redirection => "redirection"
  | word => "word"
  | semicolon => "\";\""
  | ampersand => "\"&\""
  | andThen => "\"&&\""
  | orElse => "\"||\""
  | bar => "\"|\""
  | openParen => "\"(\""
  | closeParen => "\")\""
  | endOfArm => "\";;\""
  | keyword k => "\"" ++ k.text ++ "\""

/-- A list of commands ends before this token. -/
def endsList : Token → Bool
  | endOfText | closeParen | endOfArm => true
  | keyword k => k.endsList
  | _ => false

end Token

end PipelineShell.Script
