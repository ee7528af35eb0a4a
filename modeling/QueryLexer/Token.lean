/-
# Tokens

A token is a kind, a lexeme and the place where it stands.  The lexeme is the source text of the
token, except that the lexeme of a string literal leaves the quotes out; `TokenKind.written` puts
them back.  A token is shown on one line as its place, its kind and its source text.
-/
import QueryLexer.Keyword
import QueryLexer.Operator
import QueryLexer.Punctuation
import QueryLexer.Text.Position

namespace QueryLexer

/-- The kinds of token.  A string literal carries the text that it stands for, and `endOfInput`
closes every list of tokens. -/
inductive TokenKind where
  | keyword (keyword : Keyword)
  | identifier
  | intLiteral
  | floatLiteral
  | stringLiteral (value : String)
  | operator (operator : Operator)
  | punctuation (mark : Punctuation)
  | endOfInput
  deriving DecidableEq

namespace TokenKind

/-- The name under which a kind is shown.  Of the kinds with a payload only a keyword shows it. -/
def label : TokenKind → String
  | keyword k => "Keyword(" ++ k.name ++ ")"
  | identifier => "Identifier"
  | intLiteral => "IntLiteral"
  | floatLiteral => "FloatLiteral"
  | stringLiteral _ => "StringLiteral"
  | operator _ => "Operator"
  | punctuation _ => "Punctuation"
  | endOfInput => "EndOfInput"

/-- The source text of a token of this kind with the given lexeme: string literals stand between
quotes. -/
def written (kind : TokenKind) (lexeme : List Char) : List Char :=
  match kind with
  | stringLiteral _ => '"' :: lexeme ++ ['"']
  | _ => lexeme

@[simp] theorem written_stringLiteral (value : String) (lexeme : List Char) :
    (stringLiteral value).written lexeme = '"' :: (lexeme ++ ['"']) := rfl

end TokenKind

/-- A token with its place in the source. -/
structure Token where
  kind : TokenKind
  lexeme : String
  span : Span
  deriving DecidableEq

namespace Token

/-- The token that marks the end of a text. -/
def atEnd (place : Position) : Token :=
  ⟨.endOfInput, "", ⟨place, place.offset⟩⟩

/-- Whether a token marks the end of the text. -/
def isEndOfInput (t : Token) : Bool :=
  t.kind == .endOfInput

/-- The source text of a token. -/
def written (t : Token) : List Char :=
  t.kind.written t.lexeme.toList

/-- A token on one line: `line:column Kind text`, without a text at the end of the input. -/
def render (t : Token) : String :=
  let place := toString t.span.start.line ++ ":" ++ toString t.span.start.column
  let head := place ++ " " ++ t.kind.label
  if t.isEndOfInput then head else head ++ " " ++ String.ofList t.written

end Token

end QueryLexer
