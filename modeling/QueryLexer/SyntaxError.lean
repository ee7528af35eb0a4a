/-
# Syntax errors

The three ways in which a text fails to be a sequence of tokens, and the report that names the
file, the line and everything that was left to read.
-/
import QueryLexer.Text.Position

namespace QueryLexer

/-- Why a text cannot be split any further. -/
inductive SyntaxErrorKind where
  /-- No token begins with the character. -/
  | unexpectedCharacter (c : Char)
  /-- A string literal is not closed on its line. -/
  | unterminatedString
  /-- A number is followed by a letter, by `_`, or by a point without digits after it. -/
  | malformedNumber
  deriving DecidableEq

/-- The wording of an error. -/
def SyntaxErrorKind.message : SyntaxErrorKind → String
  | unexpectedCharacter c => "unknown character '" ++ String.singleton c ++ "'"
  | unterminatedString => "unterminated string literal"
  | malformedNumber => "malformed number literal"

/-- An error in a text, with the name of the text and all of it from the error on. -/
structure SyntaxError where
  kind : SyntaxErrorKind
  span : Span
  file : String
  remainder : String
  deriving DecidableEq

namespace SyntaxError

/-- The line on which an error stands. -/
def line (e : SyntaxError) : Nat :=
  e.span.start.line

/-- The report of an error: where it is, what was left to read, and what is wrong. -/
def render (e : SyntaxError) : String :=
  let line := toString e.line
  "file '" ++ e.file ++ "', at line " ++ line ++ ":\n" ++ e.remainder ++ "\n"
    ++ "[ErrSyntax]: " ++ e.kind.message ++ " at line " ++ line

end SyntaxError

end QueryLexer
