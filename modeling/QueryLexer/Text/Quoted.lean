/-
# Quoted text

In the log a path stands between double quotes, so that its end shows whatever it holds: a quote
and a backslash are marked by a backslash, and characters that would not show as themselves are
spelled out.
-/
import QueryLexer.Text.Invisible

namespace QueryLexer

/-- The number of a character in hexadecimal, as in `\u{200b}`. -/
def codePoint (c : Char) : List Char :=
  '\\' :: 'u' :: '\x7b' :: Nat.toDigits 16 c.toNat ++ ['\x7d']

/-- A character as it stands inside a quoted text. -/
def quotedChar (c : Char) : List Char :=
  match c with
  | '"' => ['\\', '"']
  | '\\' => ['\\', '\\']
  | '\n' => ['\\', 'n']
  | '\t' => ['\\', 't']
  | '\r' => ['\\', 'r']
  | '\x00' => ['\\', '0']
  | _ => if isInvisible c then codePoint c else [c]

/-- A text between quotes. -/
def quoted (text : String) : String :=
  String.ofList ('"' :: text.toList.flatMap quotedChar ++ ['"'])

end QueryLexer
