/-
# Byte-order marks

A byte-order mark in front of a text is skipped, and it is no part of the first line.  So the text
behind it is split like the text alone: every offset moves by the three bytes of the mark, and lines
and columns stay.  Only one mark is skipped.  No token begins with a second one, and a text that has
a mark of its own fails behind another one.  The main statements are

* `Source.pass_marked`: behind a mark a text without one is split like before;
* `lex_marked`: what a mark changes, for texts with and without one of their own.
-/
import QueryLexer.Proofs.Shift

namespace QueryLexer

open Trivia (IsGap)

/-- A source with a byte-order mark in front of its text. -/
def Source.marked (src : Source) : Source :=
  { src with text := "\uFEFF" ++ src.text }

/-- How a mark moves the text behind it: by its bytes, and by no line. -/
def Shift.behindMark : Shift := ⟨0, "\uFEFF".utf8ByteSize⟩

variable {src : Source} {o : Options}

lemma Source.toList_text_marked (src : Source) :
    src.marked.text.toList = ['\uFEFF'] ++ src.text.toList :=
  String.toList_append

/-- The first line behind a mark begins where the mark moves the beginning of a text. -/
lemma shift_origin_behindMark :
    Position.origin.shift Shift.behindMark = firstLine ['\uFEFF'] := by
  rfl

lemma Source.pass_marked_of_run {pass : Pass}
    (h : Run o src.file ⟨firstLine ['\uFEFF'], src.text.toList⟩ pass) : src.marked.pass o = pass :=
  Source.pass_eq_of_run (by decide) (fun hnil => absurd hnil (List.cons_ne_nil _ _))
    src.toList_text_marked h

/-- **Behind a mark a text without one is split like before.** -/
theorem Source.pass_marked (hmark : src.text.toList.head? ≠ some '\uFEFF') (o : Options) :
    src.marked.pass o = (src.pass o).shift Shift.behindMark := by
  apply Source.pass_marked_of_run
  rw [← shift_origin_behindMark]
  exact (src.run_of_unmarked hmark o).shift Shift.behindMark

lemma Source.pass_marked_of_mark (hmark : src.text.toList.head? = some '\uFEFF') (o : Options) :
    src.marked.pass o =
      ⟨[], .error (faultAt src.file (firstLine ['\uFEFF']) src.text.toList
        (.unexpectedCharacter '\uFEFF') 3)⟩ := by
  apply Source.pass_marked_of_run
  obtain ⟨rest, hrest⟩ := List.head?_eq_some_iff.1 hmark
  rw [hrest]
  exact Run.failed IsGap.nil (fault_mark rest)

/-- **Exactly one mark is skipped.**  In front of a text without a mark it moves what the text is
split into by three bytes and changes nothing else.  In front of a text with a mark it makes that
mark an error. -/
theorem lex_marked (src : Source) (o : Options) :
    (src.text.toList.head? ≠ some '\uFEFF' →
        src.marked.lex o = ((src.lex o).mapError (SyntaxError.shift ⟨0, 3⟩)).map
          (List.map (Token.shift ⟨0, 3⟩))) ∧
      (src.text.toList.head? = some '\uFEFF' →
        src.marked.lex o =
          .error ⟨.unexpectedCharacter '\uFEFF', ⟨⟨1, 1, 3⟩, 6⟩, src.file, src.text⟩) := by
  constructor
  · intro hmark
    rw [Source.lex, Source.pass_marked hmark, Pass.tokens_shift]
    rfl
  · intro hmark
    rw [Source.lex, Source.pass_marked_of_mark hmark, Pass.tokens_eq_error_iff, faultAt,
      String.ofList_toList]
    rfl

/-- Behind a mark a comment, a literal and an error after them move by three bytes, and the columns
of the first line stay.  Behind two marks nothing is read. -/
theorem marked_once_and_twice :
    (Source.mk "text" "\"é\" 1").lex {} =
        .ok [⟨.stringLiteral "é", "é", ⟨⟨1, 1, 0⟩, 4⟩⟩, ⟨.intLiteral, "1", ⟨⟨1, 5, 5⟩, 6⟩⟩,
          Token.atEnd ⟨1, 6, 6⟩] ∧
      (Source.mk "text" "\uFEFF\"é\" 1").lex {} =
        .ok [⟨.stringLiteral "é", "é", ⟨⟨1, 1, 3⟩, 7⟩⟩, ⟨.intLiteral, "1", ⟨⟨1, 5, 8⟩, 9⟩⟩,
          Token.atEnd ⟨1, 6, 9⟩] ∧
      (Source.mk "text" "#\n1é").lex {} =
        .error ⟨.unexpectedCharacter 'é', ⟨⟨2, 2, 3⟩, 5⟩, "text", "é"⟩ ∧
      (Source.mk "text" "\uFEFF#\n1é").lex {} =
        .error ⟨.unexpectedCharacter 'é', ⟨⟨2, 2, 6⟩, 8⟩, "text", "é"⟩ ∧
      (Source.mk "text" "\uFEFF\uFEFF1").lex {} =
        .error ⟨.unexpectedCharacter '\uFEFF', ⟨⟨1, 1, 3⟩, 6⟩, "text", "\uFEFF1"⟩ := by
  have hliteral : (Cursor.start "\"é\" 1".toList).step {} "text" =
      .read ⟨.stringLiteral "é", "é", ⟨⟨1, 1, 0⟩, 4⟩⟩ ⟨⟨1, 4, 4⟩, [' ', '1']⟩ := by
    rfl
  have hdigit : (Cursor.mk ⟨1, 4, 4⟩ [' ', '1']).step {} "text" =
      .read ⟨.intLiteral, "1", ⟨⟨1, 5, 5⟩, 6⟩⟩ ⟨⟨1, 6, 6⟩, []⟩ := by
    rfl
  have hend : (Cursor.mk ⟨1, 6, 6⟩ []).step {} "text" = .finished (Token.atEnd ⟨1, 6, 6⟩) := by
    rfl
  have hdigit' : (Cursor.start "#\n1é".toList).step {} "text" =
      .read ⟨.intLiteral, "1", ⟨⟨2, 1, 2⟩, 3⟩⟩ ⟨⟨2, 2, 3⟩, ['é']⟩ := by
    rfl
  have hletter : (Cursor.mk ⟨2, 2, 3⟩ ['é']).step {} "text" =
      .failed ⟨.unexpectedCharacter 'é', ⟨⟨2, 2, 3⟩, 5⟩, "text", "é"⟩ := by
    rfl
  have hlex : (Source.mk "text" "\"é\" 1").lex {} =
      .ok [⟨.stringLiteral "é", "é", ⟨⟨1, 1, 0⟩, 4⟩⟩, ⟨.intLiteral, "1", ⟨⟨1, 5, 5⟩, 6⟩⟩,
        Token.atEnd ⟨1, 6, 6⟩] := by
    rw [Source.lex, Source.pass, Cursor.walk_read hliteral, Cursor.walk_read hdigit,
      Cursor.walk_finished hend]
    rfl
  have herror : (Source.mk "text" "#\n1é").lex {} =
      .error ⟨.unexpectedCharacter 'é', ⟨⟨2, 2, 3⟩, 5⟩, "text", "é"⟩ := by
    rw [Source.lex, Source.pass, Cursor.walk_read hdigit', Cursor.walk_failed hletter]
    rfl
  have hmoved := (lex_marked ⟨"text", "\"é\" 1"⟩ {}).1 (by decide)
  have hmoved' := (lex_marked ⟨"text", "#\n1é"⟩ {}).1 (by decide)
  have htwice := (lex_marked ⟨"text", "\uFEFF1"⟩ {}).2 (by decide)
  rw [hlex] at hmoved
  rw [herror] at hmoved'
  exact ⟨hlex, hmoved, herror, hmoved', htwice⟩

end QueryLexer
