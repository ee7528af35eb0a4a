/-
# Moved texts

How a text is split does not depend on where its first character stands.  A text that is moved down
by some lines and bytes, its columns kept, is split like before, and all places are moved alike.
The main statements are

* `Position.after_shift`: a moved place is moved on like the place itself;
* `Run.shift`: a moved run is a run;
* `Pass.tokens_shift`: the tokens of a moved pass are moved, and so is its error.
-/
import QueryLexer.Proofs.Run

namespace QueryLexer

/-- By how many lines and bytes a text is moved. -/
structure Shift where
  lines : Nat
  bytes : Nat
  deriving DecidableEq

/-! ## What is moved -/

/-- A place moved to a later line. -/
def Position.shift (d : Shift) (p : Position) : Position :=
  ⟨p.line + d.lines, p.column, p.offset + d.bytes⟩

/-- A span moved with its place. -/
def Span.shift (d : Shift) (s : Span) : Span :=
  ⟨s.start.shift d, s.stop + d.bytes⟩

/-- A token moved with its span.  It stays what it is. -/
def Token.shift (d : Shift) (t : Token) : Token :=
  { t with span := t.span.shift d }

/-- An error moved with its span.  The text that it carries stays. -/
def SyntaxError.shift (d : Shift) (e : SyntaxError) : SyntaxError :=
  { e with span := e.span.shift d }

/-- A pass with everything that it reports moved. -/
def Pass.shift (d : Shift) (p : Pass) : Pass :=
  ⟨p.read.map (Token.shift d), (p.ending.mapError (SyntaxError.shift d)).map (Token.shift d)⟩

/-! ## Moved runs -/

variable {d : Shift}

lemma Position.next_shift (p : Position) (c : Char) : (p.shift d).next c = (p.next c).shift d := by
  by_cases hc : c = '\n'
  · subst hc
    simp only [next_newline, shift, Nat.add_right_comm]
  · simp only [next_of_ne _ hc, shift, Nat.add_right_comm]

@[simp] lemma Position.after_shift (p : Position) (text : List Char) :
    (p.shift d).after text = (p.after text).shift d := by
  induction text generalizing p with
  | nil => rfl
  | cons c text ih => rw [after_cons, after_cons, next_shift, ih]

lemma Span.of_shift (p : Position) (taken : List Char) :
    Span.of (p.shift d) taken = (Span.of p taken).shift d := by
  simp only [Span.of, Span.shift, Position.shift, Nat.add_right_comm]

lemma Spelling.token_shift (s : Spelling) (o : Options) (p : Position) :
    s.token o (p.shift d) = (s.token o p).shift d := by
  simp only [Spelling.token, Token.shift, Span.of_shift]

lemma faultAt_shift (file : String) (p : Position) (text : List Char) (kind : SyntaxErrorKind)
    (n : Nat) : faultAt file (p.shift d) text kind n = (faultAt file p text kind n).shift d := by
  simp only [faultAt, SyntaxError.shift, Span.shift, Position.shift, Nat.add_right_comm]

variable {o : Options} {file : String}

/-- **A moved run is a run.** -/
theorem Run.shift {c : Cursor} {pass : Pass} (h : Run o file c pass) (d : Shift) :
    Run o file ⟨c.place.shift d, c.rest⟩ (pass.shift d) := by
  induction h with
  | @finished place gap hgap =>
    have hrun : Run o file ⟨place.shift d, gap⟩ _ := Run.finished hgap
    rw [Position.after_shift] at hrun
    exact hrun
  | @read place gap rest s pass hgap hstops _ ih =>
    rw [← Position.after_shift, ← Position.after_shift] at ih
    have hrun := Run.read hgap hstops ih
    rw [Position.after_shift, s.token_shift] at hrun
    exact hrun
  | @failed place gap text kind n hgap hfault =>
    have hrun : Run o file ⟨place.shift d, gap ++ text⟩ _ := Run.failed hgap hfault
    rw [Position.after_shift, faultAt_shift] at hrun
    exact hrun

/-! ## Moved passes -/

namespace Pass

variable {p : Pass}

lemma ending_shift_of_ok {last : Token} (h : p.ending = .ok last) :
    (p.shift d).ending = .ok (last.shift d) := by
  simp only [shift, h]
  rfl

lemma ending_shift_of_error {e : SyntaxError} (h : p.ending = .error e) :
    (p.shift d).ending = .error (e.shift d) := by
  simp only [shift, h]
  rfl

lemma tokens_shift (p : Pass) (d : Shift) :
    (p.shift d).tokens =
      (p.tokens.mapError (SyntaxError.shift d)).map (List.map (Token.shift d)) := by
  cases h : p.ending with
  | ok last =>
    rw [tokens_eq_ok_iff.2 ⟨last, h, rfl⟩, tokens_eq_ok_iff.2 ⟨_, ending_shift_of_ok h, rfl⟩]
    simp [shift, Except.map, Except.mapError]
  | error e =>
    rw [tokens_eq_error_iff.2 h, tokens_eq_error_iff.2 (ending_shift_of_error h)]
    rfl

end Pass

end QueryLexer
