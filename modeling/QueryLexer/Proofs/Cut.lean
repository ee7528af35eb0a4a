/-
# Texts cut at an error

An error cuts a source in two.  The text in front of it is split into exactly the tokens that were
read before the error was met, and ends where the error stands.  The text from the error on fails at
once with the same error.  There is one exception: a byte-order mark is an error in the middle of a
text, but it is skipped where a text begins with it.  The main statements are

* `Fault.lex_eq_error`: a source that begins with a fault fails with it;
* `lex_error_cuts`: what the two parts of a source with an error are split into.
-/
import QueryLexer.Proofs.Tiling

namespace QueryLexer

open Trivia (IsGap)

variable {o : Options}

/-! ## Faults at the beginning -/

/-- The fault that a byte-order mark makes is that no token begins with it. -/
lemma Fault.kind_of_mark {rest : List Char} {kind : SyntaxErrorKind} {n : Nat}
    (h : Fault ('\uFEFF' :: rest) kind n) : kind = .unexpectedCharacter '\uFEFF' :=
  (h.unique (fault_mark rest)).1

/-- **A source that begins with a fault fails with it**, unless the fault is a byte-order mark. -/
theorem Fault.lex_eq_error {src : Source} {kind : SyntaxErrorKind} {n : Nat}
    (h : Fault src.text.toList kind n) (hkind : kind ≠ .unexpectedCharacter '\uFEFF') :
    src.lex o = .error (faultAt src.file .origin src.text.toList kind n) := by
  have hmark : src.text.toList.head? ≠ some '\uFEFF' := by
    intro hhead
    obtain ⟨rest, hrest⟩ := List.head?_eq_some_iff.1 hhead
    rw [hrest] at h
    exact hkind h.kind_of_mark
  have hrun : Run o src.file ⟨firstLine [], [] ++ src.text.toList⟩ _ := Run.failed IsGap.nil h
  rw [Source.lex, Source.pass_eq_of_run List.mem_cons_self (fun _ => hmark) rfl hrun,
    Pass.tokens_eq_error_iff]
  rfl

/-! ## Both parts -/

lemma Run.kind_ne_of_mem {file : String} {c : Cursor} {pass : Pass} (h : Run o file c pass)
    {t : Token} (ht : t ∈ pass.read) : t.kind ≠ .endOfInput := by
  obtain ⟨_, s, _, _, _, rfl⟩ := h.exists_of_mem ht
  exact s.kind_ne_endOfInput o

/-- The records about single tokens are those of the tokens that were read. -/
lemma Pass.filter_trace_log (p : Pass) (file : String) (size : Nat) :
    (p.log file size).filter (·.level = .trace) = p.read.map fun t => .trace t.render := by
  simp [Pass.log, Record.debug, Record.trace, List.filter_append]

/-- An error cuts a source into the text in front of it and the remainder that it carries. -/
structure Cuts (src : Source) (o : Options) (e : SyntaxError) (front : String) : Prop where
  text_eq : src.text = front ++ e.remainder
  /-- The front ends where the error starts. -/
  front_eq : slice? src.text 0 e.span.start.offset = some front
  /-- The front is split into the tokens that were recorded before the error, and it ends at the
  place of the error. -/
  front_lex : ∃ read last, (Source.mk src.file front).lex o = .ok (read ++ [last]) ∧
    (∀ t ∈ read, t.kind ≠ .endOfInput) ∧ last.kind = .endOfInput ∧
    last.span.start = e.span.start ∧
    (src.log o).filter (·.level = .trace) = read.map fun t => .trace t.render
  /-- The remainder fails at its beginning with the same error. -/
  remainder_lex : e.kind ≠ .unexpectedCharacter '\uFEFF' →
    (Source.mk src.file e.remainder).lex o =
      .error { e with span := ⟨.origin, e.span.stop - e.span.start.offset⟩ }

/-- **An error cuts a source into a front without errors and a remainder that begins with it.** -/
theorem lex_error_cuts {src : Source} {e : SyntaxError} (h : src.lex o = .error e) :
    ∃ front, Cuts src o e front := by
  obtain ⟨mark, hmark, rest, htext, hrest, hrun⟩ := src.exists_marked_run o
  obtain ⟨before, remainder, kind, n, rfl, hfault, rfl, hfront⟩ :=
    hrun.cut (Pass.tokens_eq_error_iff.1 h)
  refine ⟨String.ofList (mark ++ before), ?_, slice_before htext, ?_, fun hkind => ?_⟩
  · rw [← String.toList_inj, htext]
    simp [faultAt]
  · have hmarked : mark = [] → before.head? ≠ some '\uFEFF' := by
      intro hnil hhead
      obtain ⟨tail, rfl⟩ := List.head?_eq_some_iff.1 hhead
      exact hrest hnil rfl
    have hpass : (Source.mk src.file (String.ofList (mark ++ before))).pass o = _ :=
      Source.pass_eq_of_run hmark hmarked String.toList_ofList hfront
    refine ⟨(src.pass o).read, Token.atEnd ((firstLine mark).after before), ?_,
      fun t ht => hfront.kind_ne_of_mem ht, rfl, rfl, Pass.filter_trace_log _ _ _⟩
    rw [Source.lex, hpass]
    rfl
  · have hchars : (Source.mk src.file (String.ofList remainder)).text.toList = remainder :=
      String.toList_ofList
    have herror := (hchars.symm ▸ hfault).lex_eq_error (o := o) hkind
    rw [hchars] at herror
    simpa [faultAt, Position.origin] using herror

/-- Behind a comment, a number in front of an accented letter is cut off as a token. -/
theorem error_cuts_accented_letter :
    (Source.mk "text" "x#\n1é.").lex {} =
        .error ⟨.unexpectedCharacter 'é', ⟨⟨2, 2, 4⟩, 6⟩, "text", "é."⟩ ∧
      ∃ front, Cuts ⟨"text", "x#\n1é."⟩ {}
        ⟨.unexpectedCharacter 'é', ⟨⟨2, 2, 4⟩, 6⟩, "text", "é."⟩ front := by
  have hword : (Cursor.start "x#\n1é.".toList).step {} "text" =
      .read ⟨.identifier, "x", ⟨⟨1, 1, 0⟩, 1⟩⟩ ⟨⟨1, 2, 1⟩, ['#', '\n', '1', 'é', '.']⟩ := by
    rfl
  have hdigit : (Cursor.mk ⟨1, 2, 1⟩ ['#', '\n', '1', 'é', '.']).step {} "text" =
      .read ⟨.intLiteral, "1", ⟨⟨2, 1, 3⟩, 4⟩⟩ ⟨⟨2, 2, 4⟩, ['é', '.']⟩ := by
    rfl
  have hletter : (Cursor.mk ⟨2, 2, 4⟩ ['é', '.']).step {} "text" =
      .failed ⟨.unexpectedCharacter 'é', ⟨⟨2, 2, 4⟩, 6⟩, "text", "é."⟩ := by
    rfl
  have hlex : (Source.mk "text" "x#\n1é.").lex {} =
      .error ⟨.unexpectedCharacter 'é', ⟨⟨2, 2, 4⟩, 6⟩, "text", "é."⟩ := by
    rw [Source.lex, Source.pass, Cursor.walk_read hword, Cursor.walk_read hdigit,
      Cursor.walk_failed hletter]
    rfl
  exact ⟨hlex, lex_error_cuts hlex⟩

end QueryLexer
