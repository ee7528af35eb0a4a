/-
# The front of a text

What a text that is past its trivia begins with: the first character decides the class of the
token, and the class decides how far the token goes.

* A letter or `_` begins a word, which takes every letter, digit and `_` that follows.
* A digit begins a number, which takes every digit that follows, and a point with the digits after
  it.  A number may not be followed by a letter or `_`, nor whole digits by a bare point.
* A double quote begins a string literal.
* Anything else is an operator, a punctuation mark, or an error.

The main statement is

* `scan_accept`: what is accepted, together with the rest, makes up the text, and it is not empty.
-/
import QueryLexer.Options
import QueryLexer.StringLiteral
import QueryLexer.SyntaxError
import QueryLexer.Token

namespace QueryLexer

/-- What stands at the front of a text: nothing, a token and the text after it, or an error
together with the characters that it covers. -/
inductive Scan where
  | atEnd
  | accept (kind : TokenKind) (lexeme rest : List Char)
  | reject (kind : SyntaxErrorKind) (taken : List Char)
  deriving DecidableEq

/-- The characters that begin a word: ASCII letters and the underscore. -/
def isWordStart (c : Char) : Bool :=
  c.isAlpha || c == '_'

/-- The characters that continue a word: ASCII letters, digits and the underscore. -/
def isWordChar (c : Char) : Bool :=
  c.isAlphanum || c == '_'

/-- The kind of a word: a keyword, or else an identifier. -/
def Options.wordKind (o : Options) (word : String) : TokenKind :=
  match o.keyword? word with
  | some k => .keyword k
  | none => .identifier

namespace Scan

/-- Reads a word. -/
def word (o : Options) (text : List Char) : Scan :=
  let lexeme := text.takeWhile isWordChar
  accept (o.wordKind (String.ofList lexeme)) lexeme (text.dropWhile isWordChar)

/-- Accepts a number, unless a letter or an underscore follows: a number and a word never touch. -/
def closeNumber (kind : TokenKind) (lexeme rest : List Char) : Scan :=
  match rest with
  | [] => accept kind lexeme []
  | c :: _ =>
    if isWordStart c then reject .malformedNumber (lexeme ++ [c]) else accept kind lexeme rest

/-- Reads a number. -/
def number (text : List Char) : Scan :=
  let whole := text.takeWhile Char.isDigit
  match text.dropWhile Char.isDigit with
  | '.' :: rest =>
    let fraction := rest.takeWhile Char.isDigit
    if fraction.isEmpty then reject .malformedNumber (whole ++ ['.'])
    else closeNumber .floatLiteral (whole ++ '.' :: fraction) (rest.dropWhile Char.isDigit)
  | rest => closeNumber .intLiteral whole rest

/-- Reads a string literal whose opening quote is already read.  An unclosed literal covers the
rest of its line. -/
def string (text : List Char) : Scan :=
  match StringLiteral.splitBody? text with
  | some (body, rest) =>
    accept (.stringLiteral (String.ofList (StringLiteral.decode body))) body rest
  | none => reject .unterminatedString ('"' :: text.takeWhile (· != '\n'))

/-- Reads an operator.  A second character that belongs to it is taken along. -/
def operator (c : Char) (text : List Char) : Scan :=
  match Operator.double? c text.head? with
  | some op => accept (.operator op) ((c :: text).take 2) ((c :: text).drop 2)
  | none => accept (.operator (.single c)) [c] text

/-- Reads an operator or a punctuation mark. -/
def symbol (c : Char) (text : List Char) : Scan :=
  if Operator.isStart c then operator c text
  else
    match Punctuation.ofChar? c with
    | some p => accept (.punctuation p) [c] text
    | none => reject (.unexpectedCharacter c) [c]

end Scan

/-- Reads the token or the error at the front of a text that is past its trivia. -/
def scan (o : Options) : List Char → Scan
  | [] => .atEnd
  | c :: text =>
    if isWordStart c then Scan.word o (c :: text)
    else if c.isDigit then Scan.number (c :: text)
    else if c == '"' then Scan.string text
    else Scan.symbol c text

/-! ## Nothing is lost -/

namespace Scan

/-- A scan accounts for `text` when what it accepts, together with the rest, is that text, and
something is accepted at all. -/
def AccountsFor (s : Scan) (text : List Char) : Prop :=
  ∀ kind lexeme rest, s = accept kind lexeme rest →
    kind.written lexeme ++ rest = text ∧ kind.written lexeme ≠ []

theorem accountsFor_reject (kind : SyntaxErrorKind) (taken text : List Char) :
    (reject kind taken).AccountsFor text := by
  intro kind lexeme rest h
  cases h

theorem accountsFor_accept {kind : TokenKind} {lexeme rest text : List Char}
    (h : kind.written lexeme ++ rest = text) (hne : kind.written lexeme ≠ []) :
    (accept kind lexeme rest).AccountsFor text := by
  rintro _ _ _ ⟨⟩
  exact ⟨h, hne⟩

theorem wordKind_written (o : Options) (word : String) (lexeme : List Char) :
    (o.wordKind word).written lexeme = lexeme := by
  unfold Options.wordKind
  split <;> rfl

theorem isWordChar_of_isWordStart {c : Char} (h : isWordStart c = true) : isWordChar c = true := by
  simp only [isWordStart, isWordChar, Char.isAlphanum, Bool.or_eq_true] at h ⊢
  exact h.imp_left Or.inl

theorem accountsFor_word (o : Options) {c : Char} (h : isWordStart c = true) (text : List Char) :
    (word o (c :: text)).AccountsFor (c :: text) := by
  refine accountsFor_accept ?_ ?_
  · rw [wordKind_written, List.takeWhile_append_dropWhile]
  · rw [wordKind_written, List.takeWhile_cons_of_pos (isWordChar_of_isWordStart h)]
    exact List.cons_ne_nil _ _

theorem accountsFor_closeNumber {kind : TokenKind} (hk : ∀ l, kind.written l = l)
    {lexeme rest text : List Char} (h : lexeme ++ rest = text) (hne : lexeme ≠ []) :
    (closeNumber kind lexeme rest).AccountsFor text := by
  have hall : (accept kind lexeme rest).AccountsFor text :=
    accountsFor_accept (by rw [hk]; exact h) (by rw [hk]; exact hne)
  unfold closeNumber
  split
  · exact hall
  · split
    · exact accountsFor_reject _ _ _
    · exact hall

theorem accountsFor_number {c : Char} (h : c.isDigit = true) (text : List Char) :
    (number (c :: text)).AccountsFor (c :: text) := by
  have hsplit := List.takeWhile_append_dropWhile (p := Char.isDigit) (l := c :: text)
  have hne : (c :: text).takeWhile Char.isDigit ≠ [] := by
    rw [List.takeWhile_cons_of_pos h]
    exact List.cons_ne_nil _ _
  unfold number
  dsimp only
  split
  · next rest hrest =>
    split
    · exact accountsFor_reject _ _ _
    · refine accountsFor_closeNumber (fun _ => rfl) ?_ (by simp)
      rw [List.append_assoc, List.cons_append, List.takeWhile_append_dropWhile, ← hrest, hsplit]
  · exact accountsFor_closeNumber (fun _ => rfl) hsplit hne

theorem accountsFor_string (text : List Char) : (string text).AccountsFor ('"' :: text) := by
  unfold string
  split
  · next body rest h =>
    refine accountsFor_accept ?_ (by simp)
    simp [StringLiteral.splitBody?_eq_some h]
  · exact accountsFor_reject _ _ _

theorem accountsFor_symbol (c : Char) (text : List Char) :
    (symbol c text).AccountsFor (c :: text) := by
  unfold symbol operator
  split
  · split
    · exact accountsFor_accept (List.take_append_drop 2 (c :: text)) (List.cons_ne_nil _ _)
    · exact accountsFor_accept rfl (List.cons_ne_nil _ _)
  · split
    · exact accountsFor_accept rfl (List.cons_ne_nil _ _)
    · exact accountsFor_reject _ _ _

end Scan

/-- **What is accepted, together with the rest, makes up the text, and it is not empty.** -/
theorem scan_accept {o : Options} {text : List Char} {kind : TokenKind} {lexeme rest : List Char}
    (h : scan o text = .accept kind lexeme rest) :
    kind.written lexeme ++ rest = text ∧ kind.written lexeme ≠ [] := by
  cases text with
  | nil => cases h
  | cons c text =>
    refine (?_ : (scan o (c :: text)).AccountsFor (c :: text)) _ _ _ h
    rw [scan]
    split
    · next hc => exact Scan.accountsFor_word o hc text
    · split
      · next hc => exact Scan.accountsFor_number hc text
      · split
        · next hc =>
          obtain rfl := eq_of_beq hc
          exact Scan.accountsFor_string text
        · exact Scan.accountsFor_symbol c text

/-! ## Progress -/

theorem length_rest_lt_of_accept {o : Options} {text : List Char} {kind : TokenKind}
    {lexeme rest : List Char} (h : scan o text = .accept kind lexeme rest) :
    rest.length < text.length := by
  obtain ⟨htext, hne⟩ := scan_accept h
  have := List.length_pos_iff.2 hne
  rw [← htext, List.length_append]
  omega

end QueryLexer
