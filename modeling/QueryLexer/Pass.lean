/-
# A pass over a source

A cursor walks over a text.  Each step skips the trivia under the cursor and reads what stands
behind it: the end of the text and an error stop the walk, a token moves the cursor past it.  A
pass collects the tokens that were read and how the walk ended.  The main statements are

* `Cursor.rest_lt_of_step`: a step that reads a token leaves less of the text, so the walk ends;
* `Cursor.walk_finished`, `Cursor.walk_failed` and `Cursor.walk_read`: what the walk does in each
  of the three cases;
* `Pass.tokens_eq_ok_iff`: a pass succeeds exactly with the tokens read and the end of the input.
-/
import QueryLexer.Log
import QueryLexer.Scan
import QueryLexer.Trivia

namespace QueryLexer

/-! ## Cursors -/

/-- A place in a text together with the text from there on. -/
structure Cursor where
  place : Position
  rest : List Char
  deriving DecidableEq

namespace Cursor

/-- The cursor at the beginning of a text.  A byte-order mark there is no part of the first line,
but its three bytes count. -/
def start (text : List Char) : Cursor :=
  match text with
  | '\uFEFF' :: rest => ⟨⟨1, 1, 3⟩, rest⟩
  | _ => ⟨.origin, text⟩

/-- Moves a cursor over the trivia that it stands at. -/
def skipTrivia (c : Cursor) : Cursor :=
  let (gap, rest) := Trivia.split .blanks c.rest
  ⟨c.place.after gap, rest⟩

end Cursor

/-- What a step of a cursor comes to. -/
inductive Step where
  /-- The text is over. -/
  | finished (last : Token)
  /-- A token was read, and the cursor stands behind it. -/
  | read (token : Token) (next : Cursor)
  /-- The text goes on with something that is no token. -/
  | failed (error : SyntaxError)
  deriving DecidableEq

namespace Cursor

/-- Reads the token, the end or the error that a cursor past its trivia stands at. -/
def readToken (o : Options) (file : String) (c : Cursor) : Step :=
  match scan o c.rest with
  | .atEnd => .finished (Token.atEnd c.place)
  | .accept kind lexeme rest =>
    let written := kind.written lexeme
    .read ⟨kind, String.ofList lexeme, Span.of c.place written⟩ ⟨c.place.after written, rest⟩
  | .reject kind taken => .failed ⟨kind, Span.of c.place taken, file, String.ofList c.rest⟩

/-- Skips the trivia and reads what comes after it. -/
def step (o : Options) (file : String) (c : Cursor) : Step :=
  c.skipTrivia.readToken o file

theorem rest_lt_of_readToken {o : Options} {file : String} {c next : Cursor} {t : Token}
    (h : c.readToken o file = .read t next) : next.rest.length < c.rest.length := by
  unfold readToken at h
  split at h
  · cases h
  · next kind lexeme rest hscan =>
    obtain ⟨-, rfl⟩ := Step.read.inj h
    exact length_rest_lt_of_accept hscan
  · cases h

/-- **A step that reads a token leaves less of the text.** -/
theorem rest_lt_of_step {o : Options} {file : String} {c next : Cursor} {t : Token}
    (h : c.step o file = .read t next) : next.rest.length < c.rest.length :=
  Nat.lt_of_lt_of_le (rest_lt_of_readToken h) (Trivia.length_rest_le .blanks c.rest)

end Cursor

/-! ## Passes -/

/-- The tokens read on the way through a text, and the end of the input or the error that closed
the way. -/
structure Pass where
  read : List Token
  ending : Except SyntaxError Token

namespace Pass

/-- The pass that reads one more token first. -/
def cons (t : Token) (p : Pass) : Pass :=
  { p with read := t :: p.read }

@[simp] theorem read_cons (t : Token) (p : Pass) : (p.cons t).read = t :: p.read := rfl

@[simp] theorem ending_cons (t : Token) (p : Pass) : (p.cons t).ending = p.ending := rfl

/-- The tokens of a pass, the end of the input among them, or the error that it met. -/
def tokens (p : Pass) : Except SyntaxError (List Token) :=
  p.ending.map fun last => p.read ++ [last]

/-- The records of a pass over a file of the given size: its beginning, every token that was read,
and how it ended. -/
def log (p : Pass) (file : String) (size : Nat) : List Record :=
  let closing :=
    match p.ending with
    | .ok _ => "lexed '" ++ file ++ "' into " ++ toString (p.read.length + 1) ++ " tokens"
    | .error e =>
      "syntax error in '" ++ file ++ "' at line " ++ toString e.line ++ ": " ++ e.kind.message
  .debug ("lexing '" ++ file ++ "' (" ++ toString size ++ " bytes)")
    :: p.read.map (fun t => .trace t.render) ++ [.debug closing]

/-- **A pass succeeds exactly with the tokens read and the end of the input.** -/
theorem tokens_eq_ok_iff {p : Pass} {ts : List Token} :
    p.tokens = .ok ts ↔ ∃ last, p.ending = .ok last ∧ ts = p.read ++ [last] := by
  unfold tokens
  cases h : p.ending <;> simp [Except.map, eq_comm]

theorem tokens_eq_error_iff {p : Pass} {e : SyntaxError} :
    p.tokens = .error e ↔ p.ending = .error e := by
  unfold tokens
  cases h : p.ending <;> simp [Except.map]

end Pass

namespace Cursor

/-- Steps from a cursor until the text is over or an error stands in the way. -/
def walk (o : Options) (file : String) (c : Cursor) : Pass :=
  match h : c.step o file with
  | .finished last => ⟨[], .ok last⟩
  | .read t next =>
    have : next.rest.length < c.rest.length := rest_lt_of_step h
    (next.walk o file).cons t
  | .failed e => ⟨[], .error e⟩
termination_by c.rest.length

variable {o : Options} {file : String} {c : Cursor}

theorem walk_finished {last : Token} (h : c.step o file = .finished last) :
    c.walk o file = ⟨[], .ok last⟩ := by
  rw [walk]
  split <;> simp_all

theorem walk_failed {e : SyntaxError} (h : c.step o file = .failed e) :
    c.walk o file = ⟨[], .error e⟩ := by
  rw [walk]
  split <;> simp_all

theorem walk_read {t : Token} {next : Cursor} (h : c.step o file = .read t next) :
    c.walk o file = (next.walk o file).cons t := by
  rw [walk]
  split <;> simp_all

end Cursor

/-! ## Sources -/

/-- A text with the name under which it is reported. -/
structure Source where
  file : String
  text : String
  deriving DecidableEq

namespace Source

/-- The pass over a source. -/
def pass (s : Source) (o : Options) : Pass :=
  (Cursor.start s.text.toList).walk o s.file

/-- The tokens of a source, or the first error in it. -/
def lex (s : Source) (o : Options) : Except SyntaxError (List Token) :=
  (s.pass o).tokens

/-- The records that are kept of the pass over a source. -/
def log (s : Source) (o : Options) : List Record :=
  (s.pass o).log s.file s.text.utf8ByteSize

end Source

end QueryLexer
