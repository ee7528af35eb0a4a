/-
# Command errors

The ways in which the program cannot get at a text to read, or is asked for something that it does
not know.  Every error has two forms: one line for the user (`CommandError.render`) and one for the
log (`CommandError.describe`), which names the case and quotes the path.
-/
import QueryLexer.SyntaxError
import QueryLexer.Text.Quoted

namespace QueryLexer

/-- Why an existing file cannot be read. -/
inductive ReadFailure where
  /-- The contents are not valid UTF-8. -/
  | invalidText
  /-- The system refuses to hand the contents out. -/
  | accessRefused
  deriving DecidableEq

/-- A failed read as the log shows it. -/
def ReadFailure.describe : ReadFailure → String
  | invalidText =>
    "Error \x7b kind: InvalidData, message: \"stream did not contain valid UTF-8\" \x7d"
  | accessRefused =>
    "Os \x7b code: 13, kind: PermissionDenied, message: \"Permission denied\" \x7d"

/-- A problem with what the program is asked to do, as opposed to one with the text it reads. -/
inductive CommandError where
  | fileNotFound (path : String)
  | notAFile (path : String)
  | unreadable (path : String) (cause : ReadFailure)
  | unknownCommand (flag : String)
  deriving DecidableEq

namespace CommandError

/-- The line that tells the user about a problem. -/
def render : CommandError → String
  | fileNotFound path => "[ErrCmd]: File not found: " ++ path
  | notAFile path => "[ErrCmd]: Not a file: " ++ path
  | unreadable path _ => "[ErrCmd]: File cannot be read: " ++ path
  | unknownCommand flag => "[ErrCmd]: Unknown command " ++ flag

/-- A problem as the log shows it. -/
def describe : CommandError → String
  | fileNotFound path => "FileNotFound(" ++ quoted path ++ ")"
  | notAFile path => "NotAFile(" ++ quoted path ++ ")"
  | unreadable path cause =>
    "Unreadable \x7b path: " ++ quoted path ++ ", source: " ++ cause.describe ++ " \x7d"
  | unknownCommand flag => "UnknownCommand(" ++ quoted flag ++ ")"

/-- The failed read behind a problem, if there is one. -/
def cause? : CommandError → Option ReadFailure
  | unreadable _ cause => some cause
  | _ => none

end CommandError

/-- Whatever keeps a file from being split into tokens: an error in its text, or a problem with
getting at it. -/
inductive Failure where
  | inText (error : SyntaxError)
  | inCommand (error : CommandError)
  deriving DecidableEq

/-- The report of a failure. -/
def Failure.render : Failure → String
  | inText e => e.render
  | inCommand e => e.render

end QueryLexer
