/-
# Errors

An error tells where the first fault of a text stands and which one it is.  It carries the text from
there on, and that text decides the kind of the error and the bytes that it covers.  The main
statements are

* `Reached.lex_eq_error`: a fault at which a scan arrives is reported;
* `lex_error_exact`: this is the only error that is reported, and it is the only fault that stands
  at its place.
-/
import QueryLexer.Proofs.Run

namespace QueryLexer

variable {o : Options} {src : Source}

/-! ## Reached cursors -/

/-- The cursors at which the scan of a source arrives: in front of the text, and behind each token
that it reads. -/
inductive Reached (o : Options) (src : Source) : Cursor → Prop
  | start : Reached o src (Cursor.start src.text.toList)
  | read {c next : Cursor} {t : Token} (hc : Reached o src c)
      (hstep : c.step o src.file = .read t next) : Reached o src next

/-- From every cursor at which a scan arrives, it goes on to the same end. -/
lemma Reached.ending_walk {c : Cursor} (h : Reached o src c) :
    (c.walk o src.file).ending = (src.pass o).ending := by
  induction h with
  | start => rfl
  | read _ hstep ih => rw [← ih, Cursor.walk_read hstep, Pass.ending_cons]

/-- **A fault at which a scan arrives is reported.** -/
theorem Reached.lex_eq_error {c : Cursor} (h : Reached o src c) {kind : SyntaxErrorKind} {n : Nat}
    (hfault : Fault c.skipTrivia.rest kind n) :
    src.lex o =
      .error (faultAt src.file c.skipTrivia.place c.skipTrivia.rest kind n) := by
  have hstep : c.step o src.file =
      .failed (faultAt src.file c.skipTrivia.place c.skipTrivia.rest kind n) :=
    readToken_of_fault hfault
  rw [Source.lex, Pass.tokens_eq_error_iff, ← h.ending_walk, Cursor.walk_failed hstep]

/-! ## What an error says -/

/-- An error describes a fault in a source. -/
structure Describes (src : Source) (e : SyntaxError) : Prop where
  file_eq : e.file = src.file
  /-- The error carries the text from its place on. -/
  remainder : slice? src.text e.span.start.offset src.text.utf8ByteSize = some e.remainder
  /-- The fault that the error names stands there. -/
  fault : ∃ n, Fault e.remainder.toList e.kind n ∧ e.span.stop = e.span.start.offset + n
  /-- No other fault stands there. -/
  unique : ∀ kind n, Fault e.remainder.toList kind n →
    kind = e.kind ∧ e.span.stop = e.span.start.offset + n
  /-- An unclosed literal is reported up to the first newline, or up to the end of the source. -/
  line : e.kind = .unterminatedString →
    ∃ line, slice? src.text e.span.start.offset e.span.stop = some line ∧ '\n' ∉ line.toList ∧
      (slice? src.text e.span.stop (e.span.stop + 1) = some "\n" ∨
        e.span.stop = src.text.utf8ByteSize)

lemma Fault.exists_line {text : List Char} {n : Nat} (h : Fault text .unterminatedString n) :
    ∃ line rest, text = line ++ rest ∧ '\n' ∉ line ∧ byteLength line = n ∧
      (rest = [] ∨ ∃ tail, rest = '\n' :: tail) := by
  cases h with
  | @unterminated line rest _ _ htext hline hrest =>
    refine ⟨line, rest, htext, hline, rfl, ?_⟩
    cases rest with
    | nil => exact Or.inl rfl
    | cons c tail =>
      obtain rfl : c = '\n' := hrest c rfl
      exact Or.inr ⟨tail, rfl⟩

lemma Fault.describes {text : List Char} {place : Position} {kind : SyntaxErrorKind} {n : Nat}
    (hfault : Fault text kind n) (htext : GoesOn src.text place text) :
    Describes src (faultAt src.file place text kind n) := by
  have hchars : (faultAt src.file place text kind n).remainder.toList = text :=
    String.toList_ofList
  refine ⟨rfl, htext.slice_rest, ⟨n, hchars.symm ▸ hfault, rfl⟩, ?_, ?_⟩
  · intro kind' n' hfault'
    rw [hchars] at hfault'
    obtain ⟨hkind, hn⟩ := Fault.unique hfault' hfault
    exact ⟨hkind, congrArg (place.offset + ·) hn.symm⟩
  · intro hkind
    obtain rfl : kind = .unterminatedString := hkind
    obtain ⟨line, rest, rfl, hline, rfl, hrest⟩ := hfault.exists_line
    refine ⟨String.ofList line, htext.slice, ?_, ?_⟩
    · rwa [String.toList_ofList]
    · rcases hrest with rfl | ⟨tail, rfl⟩
      · rw [List.append_nil] at htext
        exact Or.inr htext.offset_add
      · have hnewline : GoesOn src.text (place.after line) (['\n'] ++ tail) := htext.after
        have hslice := hnewline.slice
        rw [Position.offset_after] at hslice
        exact Or.inl hslice

/-- **An error describes the fault at which the scan arrived.**  And a fault at which the scan
arrives, having read complete tokens only, is the one that is reported. -/
theorem lex_error_exact (src : Source) (o : Options) :
    (∀ e, src.lex o = .error e → Describes src e) ∧
      ∀ c kind n, Reached o src c → Fault c.skipTrivia.rest kind n →
        src.lex o =
          .error (faultAt src.file c.skipTrivia.place c.skipTrivia.rest kind n) := by
  constructor
  · intro e he
    obtain ⟨mark, -, rest, htext, hrun⟩ := src.exists_run o
    obtain ⟨before, text, kind, n, hrest, hfault, rfl⟩ :=
      hrun.exists_of_error (Pass.tokens_eq_error_iff.1 he)
    obtain rfl : rest = before ++ text := hrest
    exact hfault.describes (goesOn_firstLine htext).after
  · intro c kind n hc hfault
    exact hc.lex_eq_error hfault

/-- An escaped quote in front of a newline does not hide that the literal is not closed. -/
theorem error_exact_escaped_quote :
    (Source.mk "text" "x \"\\\"\n").lex {} =
        .error ⟨.unterminatedString, ⟨⟨1, 3, 2⟩, 5⟩, "text", "\"\\\"\n"⟩ ∧
      Describes ⟨"text", "x \"\\\"\n"⟩
        ⟨.unterminatedString, ⟨⟨1, 3, 2⟩, 5⟩, "text", "\"\\\"\n"⟩ ∧
      Reached {} ⟨"text", "x \"\\\"\n"⟩ ⟨⟨1, 2, 1⟩, [' ', '"', '\\', '"', '\n']⟩ ∧
      ∃ n, Fault ['"', '\\', '"', '\n'] .unterminatedString n ∧
        (Source.mk "text" "x \"\\\"\n").lex {} =
          .error (faultAt "text" ⟨1, 3, 2⟩ ['"', '\\', '"', '\n'] .unterminatedString n) := by
  have hword : (Cursor.start "x \"\\\"\n".toList).step {} "text" =
      .read ⟨.identifier, "x", ⟨⟨1, 1, 0⟩, 1⟩⟩ ⟨⟨1, 2, 1⟩, [' ', '"', '\\', '"', '\n']⟩ := by
    rfl
  have hquote : (Cursor.mk ⟨1, 2, 1⟩ [' ', '"', '\\', '"', '\n']).step {} "text" =
      .failed ⟨.unterminatedString, ⟨⟨1, 3, 2⟩, 5⟩, "text", "\"\\\"\n"⟩ := by
    rfl
  have hlex : (Source.mk "text" "x \"\\\"\n").lex {} =
      .error ⟨.unterminatedString, ⟨⟨1, 3, 2⟩, 5⟩, "text", "\"\\\"\n"⟩ := by
    rw [Source.lex, Source.pass, Cursor.walk_read hword, Cursor.walk_failed hquote]
    rfl
  have hreached : Reached {} ⟨"text", "x \"\\\"\n"⟩
      ⟨⟨1, 2, 1⟩, [' ', '"', '\\', '"', '\n']⟩ :=
    Reached.read Reached.start hword
  obtain ⟨hdescribes, hreport⟩ := lex_error_exact ⟨"text", "x \"\\\"\n"⟩ {}
  obtain ⟨n, hfault, -⟩ := (hdescribes _ hlex).fault
  exact ⟨hlex, hdescribes _ hlex, hreached, n, hfault, hreport _ _ _ hreached hfault⟩

end QueryLexer
