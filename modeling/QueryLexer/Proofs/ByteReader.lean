/-
# Reading byte by byte

A second reader of sources.  It holds no characters, only a place in the text: it looks at the byte
there and at the one behind it, advances one byte at a time, and takes slices of the text between
places where it stood.  In comments and literals it stands inside of characters, too.  A slice that
does not begin and end on the boundaries of characters has no result, and neither has the reader
then; the same holds where it looks for the first character of a slice that has none.  The main
statements are

* `lt_of_step`: a step that reads a token advances the place, and not beyond the end of the text,
  so the walk ends;
* `walk_finished`, `walk_read` and `walk_failed`: what the walk does, one step after the other.
-/
import QueryLexer.Pass
import QueryLexer.Proofs.Bytes

namespace QueryLexer

namespace Bytewise

/-! ## Loops -/

section Loops

lemma le_advance (text : String) (place : Position) :
    place.offset ≤ (place.advance text).offset := by
  unfold Position.advance
  split
  · rw [Position.offset_overByte]
    exact Nat.le_succ _
  · exact Nat.le_refl _

variable (text : String)

/-- Advances a place over the bytes of a class. -/
def skipWhile (p : Char → Bool) (place : Position) : Position :=
  match h : place.peek text with
  | none => place
  | some c =>
    have := Position.offset_advance h
    if p c then skipWhile p (place.advance text) else place
termination_by text.utf8ByteSize - place.offset

variable {text} {place : Position}

lemma skipWhile_of_pos {p : Char → Bool} {c : Char} (h : place.peek text = some c)
    (hc : p c = true) : skipWhile text p place = skipWhile text p (place.advance text) := by
  rw [skipWhile]
  split <;> simp_all

lemma skipWhile_of_neg {p : Char → Bool} (h : ∀ c ∈ place.peek text, p c = false) :
    skipWhile text p place = place := by
  rw [skipWhile]
  split <;> simp_all

lemma le_skipWhile (p : Char → Bool) (place : Position) :
    place.offset ≤ (skipWhile text p place).offset := by
  fun_induction skipWhile text p place with
  | case1 => exact Nat.le_refl _
  | case2 place c _ _ _ ih => exact Nat.le_trans (le_advance text place) ih
  | case3 => exact Nat.le_refl _

lemma lt_skipWhile {p : Char → Bool} {c : Char} (h : place.peek text = some c) (hc : p c = true) :
    place.offset < (skipWhile text p place).offset := by
  rw [skipWhile_of_pos h hc]
  have := (Position.offset_advance h).1
  have : (place.advance text).offset ≤ (skipWhile text p (place.advance text)).offset :=
    le_skipWhile p _
  omega

variable (text)

/-- Advances a place over blanks and comments. -/
def skipTrivia (place : Position) : Position :=
  match h : place.peek text with
  | none => place
  | some c =>
    have := Position.offset_advance h
    if hhash : c = '#' then
      have : place.offset < (skipWhile text (· != '\n') place).offset :=
        lt_skipWhile h (by simp [hhash])
      skipTrivia (skipWhile text (· != '\n') place)
    else if Trivia.isBlank c then skipTrivia (place.advance text)
    else place
termination_by text.utf8ByteSize - place.offset

/-- Advances a place inside of a literal up to the closing quote, or up to the end of the line when
there is none.  The byte behind a backslash is taken along. -/
def literalEnd (place : Position) : Position :=
  match h : place.peek text with
  | none => place
  | some c =>
    have := Position.offset_advance h
    if c = '\n' ∨ c = '"' then place
    else if c = '\\' then
      if ((place.advance text).peek text).any (· != '\n') then
        have := le_advance text (place.advance text)
        literalEnd ((place.advance text).advance text)
      else literalEnd (place.advance text)
    else literalEnd (place.advance text)
termination_by text.utf8ByteSize - place.offset

end Loops

/-! ## Tokens -/

/-- What stands at a place: the end of the text, a token and the place behind it, or an error. -/
inductive Move where
  | finished (last : Token)
  | read (token : Token) (next : Position)
  | failed (error : SyntaxError)

section Tokens

variable (src : Source)

/-- A token whose lexeme is all that it covers. -/
def finish (kind : TokenKind) (start stop : Position) : Option Move := do
  let lexeme ← slice? src.text start.offset stop.offset
  return .read ⟨kind, lexeme, ⟨start, stop.offset⟩⟩ stop

/-- An error with all that is left of the text. -/
def fail (kind : SyntaxErrorKind) (start : Position) (stop : Nat) : Option Move := do
  let remainder ← slice? src.text start.offset src.text.utf8ByteSize
  return .failed ⟨kind, ⟨start, stop⟩, src.file, remainder⟩

/-- Reads a word. -/
def readWord (o : Options) (start : Position) : Option Move := do
  let stop := skipWhile src.text isWordChar start
  let word ← slice? src.text start.offset stop.offset
  finish src (o.wordKind word) start stop

/-- Reads the end of a number, where no word may follow. -/
def closeNumber (kind : TokenKind) (start stop : Position) : Option Move :=
  if (stop.peek src.text).any isWordStart then
    fail src .malformedNumber start (stop.advance src.text).offset
  else finish src kind start stop

/-- Reads a number. -/
def readNumber (start : Position) : Option Move :=
  let stop := skipWhile src.text Char.isDigit start
  if stop.peek src.text = some '.' then
    if (stop.peekNext src.text).any Char.isDigit then
      closeNumber src .floatLiteral start
        (skipWhile src.text Char.isDigit (stop.advance src.text))
    else fail src .malformedNumber start (stop.advance src.text).offset
  else closeNumber src .intLiteral start stop

/-- Reads a string literal. -/
def readString (start : Position) : Option Move :=
  let bodyStart := start.advance src.text
  let bodyStop := literalEnd src.text bodyStart
  if bodyStop.peek src.text = some '"' then do
    let body ← slice? src.text bodyStart.offset bodyStop.offset
    let stop := bodyStop.advance src.text
    let value := String.ofList (StringLiteral.decode body.toList)
    return .read ⟨.stringLiteral value, body, ⟨start, stop.offset⟩⟩ stop
  else fail src .unterminatedString start bodyStop.offset

/-- Reads an operator that begins with the byte `c`.  The byte behind it may belong to it, too. -/
def readOperator (c : Char) (start : Position) : Option Move :=
  match Operator.double? c (start.peekNext src.text) with
  | some op => finish src (.operator op) start ((start.advance src.text).advance src.text)
  | none => finish src (.operator (.single c)) start (start.advance src.text)

/-- Reads an operator or a punctuation mark that begins with the byte `c`.  If there is none, the
character at the place is unexpected. -/
def readSymbol (c : Char) (start : Position) : Option Move :=
  if Operator.isStart c then readOperator src c start
  else
    match Punctuation.ofChar? c with
    | some p => finish src (.punctuation p) start (start.advance src.text)
    | none => do
      let rest ← slice? src.text start.offset src.text.utf8ByteSize
      let unexpected ← rest.toList.head?
      fail src (.unexpectedCharacter unexpected) start (start.offset + unexpected.utf8Size)

/-- Reads the end, the token or the error that a place past the trivia stands at. -/
def readToken (o : Options) (start : Position) : Option Move :=
  match start.peek src.text with
  | none => some (.finished (Token.atEnd start))
  | some c =>
    if isWordStart c then readWord src o start
    else if c.isDigit then readNumber src start
    else if c = '"' then readString src start
    else readSymbol src c start

/-- Skips the trivia and reads what comes after it. -/
def step (o : Options) (place : Position) : Option Move :=
  readToken src o (skipTrivia src.text place)

end Tokens

/-! ## Progress -/

lemma le_skipTrivia (text : String) (place : Position) :
    place.offset ≤ (skipTrivia text place).offset := by
  fun_induction skipTrivia text place with
  | case1 => exact Nat.le_refl _
  | case2 place _ _ _ ih => exact Nat.le_trans (le_skipWhile _ place) ih
  | case3 place _ _ _ _ _ ih => exact Nat.le_trans (le_advance text place) ih
  | case4 => exact Nat.le_refl _

lemma le_literalEnd (text : String) (place : Position) :
    place.offset ≤ (literalEnd text place).offset := by
  fun_induction literalEnd text place with
  | case1 => exact Nat.le_refl _
  | case2 => exact Nat.le_refl _
  | case3 place _ hle _ _ _ ih =>
    exact Nat.le_trans (le_advance text place) (Nat.le_trans hle ih)
  | case4 place _ _ _ _ ih => exact Nat.le_trans (le_advance text place) ih
  | case5 place _ _ _ _ _ ih => exact Nat.le_trans (le_advance text place) ih

/-- A move from a place leads further on, if it reads a token. -/
def Progress (start : Position) (move : Option Move) : Prop :=
  ∀ t next, move = some (.read t next) → start.offset < next.offset

section Progress

variable {src : Source} {start stop : Position}

lemma progress_finish (kind : TokenKind) (h : start.offset < stop.offset) :
    Progress start (finish src kind start stop) := by
  intro t next hnext
  obtain ⟨lexeme, -, hread⟩ := Option.bind_eq_some_iff.1 hnext
  obtain ⟨-, rfl⟩ := Move.read.inj (Option.some.inj hread)
  exact h

lemma progress_fail (kind : SyntaxErrorKind) (stop : Nat) :
    Progress start (fail src kind start stop) := by
  intro t next hnext
  obtain ⟨remainder, -, hread⟩ := Option.bind_eq_some_iff.1 hnext
  cases hread

lemma progress_readWord (o : Options) {c : Char} (hpeek : start.peek src.text = some c)
    (hc : isWordStart c = true) : Progress start (readWord src o start) := by
  intro t next hnext
  obtain ⟨word, -, hread⟩ := Option.bind_eq_some_iff.1 hnext
  exact progress_finish _ (lt_skipWhile hpeek (Scan.isWordChar_of_isWordStart hc)) t next hread

lemma progress_closeNumber (kind : TokenKind) (h : start.offset < stop.offset) :
    Progress start (closeNumber src kind start stop) := by
  unfold closeNumber
  split
  · exact progress_fail _ _
  · exact progress_finish kind h

lemma progress_readNumber {c : Char} (hpeek : start.peek src.text = some c)
    (hc : c.isDigit = true) : Progress start (readNumber src start) := by
  have hlt := lt_skipWhile hpeek hc
  unfold readNumber
  dsimp only
  split
  · split
    · refine progress_closeNumber _ (Nat.lt_of_lt_of_le hlt ?_)
      exact Nat.le_trans (le_advance src.text _) (le_skipWhile _ _)
    · exact progress_fail _ _
  · exact progress_closeNumber _ hlt

lemma progress_readString {c : Char} (hpeek : start.peek src.text = some c) :
    Progress start (readString src start) := by
  have hstart := (Position.offset_advance hpeek).1
  unfold readString
  dsimp only
  split
  · intro t next hnext
    obtain ⟨body, -, hread⟩ := Option.bind_eq_some_iff.1 hnext
    obtain ⟨-, rfl⟩ := Move.read.inj (Option.some.inj hread)
    have hbody := le_literalEnd src.text (start.advance src.text)
    have := le_advance src.text (literalEnd src.text (start.advance src.text))
    omega
  · exact progress_fail _ _

lemma progress_readOperator (c : Char) (h : start.offset < (start.advance src.text).offset) :
    Progress start (readOperator src c start) := by
  unfold readOperator
  split
  · exact progress_finish _ (Nat.lt_of_lt_of_le h (le_advance src.text _))
  · exact progress_finish _ h

lemma progress_readSymbol {c : Char} (hpeek : start.peek src.text = some c) :
    Progress start (readSymbol src c start) := by
  have hlt : start.offset < (start.advance src.text).offset := by
    have := (Position.offset_advance hpeek).1
    omega
  unfold readSymbol
  split
  · exact progress_readOperator c hlt
  · split
    · exact progress_finish _ hlt
    · intro t next hnext
      obtain ⟨rest, -, hrest⟩ := Option.bind_eq_some_iff.1 hnext
      obtain ⟨unexpected, -, hread⟩ := Option.bind_eq_some_iff.1 hrest
      exact progress_fail _ _ t next hread

lemma progress_readToken (o : Options) {c : Char} (hpeek : start.peek src.text = some c) :
    Progress start (readToken src o start) := by
  rw [readToken, hpeek]
  dsimp only
  split_ifs with hword hdigit
  · exact progress_readWord o hpeek hword
  · exact progress_readNumber hpeek hdigit
  · exact progress_readString hpeek
  · exact progress_readSymbol hpeek

/-- **A step that reads a token leads further on**, from a place in front of the end of the text. -/
theorem lt_of_step {o : Options} {place next : Position} {t : Token}
    (h : step src o place = some (.read t next)) :
    place.offset < src.text.utf8ByteSize ∧ place.offset < next.offset := by
  have hle := le_skipTrivia src.text place
  cases hpeek : (skipTrivia src.text place).peek src.text with
  | none =>
    rw [step, readToken, hpeek] at h
    cases h
  | some c =>
    have hsize := (Position.offset_advance hpeek).2
    have hlt := progress_readToken o hpeek t next h
    omega

end Progress

/-! ## Walks -/

/-- Steps from a place until the text is over or an error stands in the way. -/
def walk (src : Source) (o : Options) (place : Position) : Option Pass :=
  match h : step src o place with
  | none => none
  | some (.finished last) => some ⟨[], .ok last⟩
  | some (.read t next) =>
    have := lt_of_step h
    (walk src o next).map (Pass.cons t)
  | some (.failed e) => some ⟨[], .error e⟩
termination_by src.text.utf8ByteSize - place.offset

/-- The place behind the bytes of a byte-order mark, or the beginning of the text when it does not
begin with them. -/
def start (text : String) : Position :=
  if (text.toUTF8.extract 0 3).data = "\uFEFF".toUTF8.data then ⟨1, 1, 3⟩ else .origin

end Bytewise

/-- The pass over a source, read byte by byte. -/
def Source.bytewisePass (src : Source) (o : Options) : Option Pass :=
  Bytewise.walk src o (Bytewise.start src.text)

namespace Bytewise

variable {src : Source} {o : Options} {place : Position}

lemma walk_finished {last : Token} (h : step src o place = some (.finished last)) :
    walk src o place = some ⟨[], .ok last⟩ := by
  rw [walk]
  split <;> simp_all

lemma walk_failed {e : SyntaxError} (h : step src o place = some (.failed e)) :
    walk src o place = some ⟨[], .error e⟩ := by
  rw [walk]
  split <;> simp_all

lemma walk_read {t : Token} {next : Position} (h : step src o place = some (.read t next)) :
    walk src o place = (walk src o next).map (Pass.cons t) := by
  rw [walk]
  split <;> simp_all

end Bytewise

end QueryLexer
