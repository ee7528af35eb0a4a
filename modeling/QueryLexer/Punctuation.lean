/-
# Punctuation

The punctuation marks, each a single character.  One table says how each mark is written, and
another one which mark a character is.  The main statement is

* `Punctuation.ofChar?_eq_some_iff`: the tables agree, so a character is looked up as a mark exactly
  when the mark is written with it.
-/

namespace QueryLexer

/-- The punctuation marks. -/
inductive Punctuation where
  | openParen | closeParen | openBracket | closeBracket | openBrace | closeBrace
  | comma | semicolon | colon | dot
  deriving DecidableEq

namespace Punctuation

/-- The character of a punctuation mark. -/
def char : Punctuation → Char
  | .openParen => '('
  | .closeParen => ')'
  | .openBracket => '['
  | .closeBracket => ']'
  | .openBrace => '{'
  | .closeBrace => '}'
  | .comma => ','
  | .semicolon => ';'
  | .colon => ':'
  | .dot => '.'

/-- How a punctuation mark is written. -/
def spelling (p : Punctuation) : String :=
  String.singleton p.char

/-- Every punctuation mark. -/
def all : List Punctuation :=
  [.openParen, .closeParen, .openBracket, .closeBracket, .openBrace, .closeBrace,
    .comma, .semicolon, .colon, .dot]

/-- The punctuation mark that a character is, if it is one. -/
def ofChar? (c : Char) : Option Punctuation :=
  match c with
  | '(' => some .openParen
  | ')' => some .closeParen
  | '[' => some .openBracket
  | ']' => some .closeBracket
  | '{' => some .openBrace
  | '}' => some .closeBrace
  | ',' => some .comma
  | ';' => some .semicolon
  | ':' => some .colon
  | '.' => some .dot
  | _ => none

/-! ## The two tables agree -/

theorem ofChar?_char (p : Punctuation) : ofChar? p.char = some p := by
  cases p <;> rfl

theorem char_of_ofChar? {c : Char} {p : Punctuation} (h : ofChar? c = some p) : p.char = c := by
  unfold ofChar? at h
  split at h <;> cases h <;> rfl

/-- **A character is looked up as a mark exactly when the mark is written with it.** -/
theorem ofChar?_eq_some_iff {c : Char} {p : Punctuation} : ofChar? c = some p ↔ p.char = c := by
  constructor
  · exact char_of_ofChar?
  · rintro rfl
    exact ofChar?_char p

end Punctuation

end QueryLexer
