/-
# Places

A place is moved along while a text is read, one character after the other.  Here it is said
outright what a place in a source is: the line counts the newlines in front of it, and the column
counts the characters since the last of them.  A byte-order mark is not counted as a character of
the first line.  The main statements are

* `Position.line_after` and `Position.column_after`: where a place is moved to, in closed form;
* `Run.comesBy_of_mem`, `Run.comesBy_of_last` and `Run.comesBy_of_error`: whatever a run reports
  stands at a place that it came by;
* `lex_places_exact`: the places of tokens and errors are exact.
-/
import QueryLexer.Proofs.Run
import Mathlib.Data.List.DropRight

namespace QueryLexer

/-! ## Moving over a text -/

/-- What stands behind the last newline of a text. -/
def lastLine (text : List Char) : List Char :=
  text.rtakeWhile (· != '\n')

namespace Position

lemma line_after (p : Position) (text : List Char) :
    (p.after text).line = p.line + text.count '\n' := by
  induction text generalizing p with
  | nil => rfl
  | cons c text ih =>
    rw [after_cons, ih]
    by_cases hc : c = '\n'
    · subst hc
      rw [next_newline, List.count_cons_self, Nat.add_assoc, Nat.add_comm 1]
    · rw [next_of_ne p hc, List.count_cons_of_ne hc]

/-- From the beginning of a line on, the column counts the characters of the last line. -/
lemma column_after {p : Position} (hp : p.column = 1) (text : List Char) :
    (p.after text).column = 1 + (lastLine text).length := by
  -- the last character decides, so the induction is on the text from its end
  induction text using List.reverseRecOn with
  | nil => exact hp
  | append_singleton text c ih =>
    rw [after_append, after_cons, after_nil]
    by_cases hc : c = '\n'
    · subst hc
      simp [lastLine]
    · rw [next_of_ne _ hc, ih, lastLine, lastLine,
        List.rtakeWhile_concat_pos _ _ _ (by simpa using hc), List.length_append, Nat.add_assoc]
      rfl

end Position

/-! ## Exact places -/

/-- A text without the byte-order mark that it may begin with. -/
def unmarked : List Char → List Char
  | '\uFEFF' :: text => text
  | text => text

/-- A place is counted exactly from the text in front of it. -/
structure IsExact (place : Position) (before : List Char) : Prop where
  line_eq : place.line = 1 + before.count '\n'
  column_eq : place.column = 1 + (lastLine (unmarked before)).length

/-- A place lies in a text, and is counted exactly from what stands in front of it. -/
def IsPlaceIn (text : String) (place : Position) : Prop :=
  ∃ before, slice? text 0 place.offset = some before ∧ IsExact place before.toList

lemma unmarked_append {mark before rest : List Char} (hmark : mark ∈ marks)
    (hrest : mark = [] → (before ++ rest).head? ≠ some '\uFEFF') :
    unmarked (mark ++ before) = before := by
  rcases List.mem_cons.1 hmark with rfl | hmark
  · rw [List.nil_append, unmarked]
    rintro text rfl
    exact hrest rfl rfl
  · obtain rfl := List.mem_singleton.1 hmark
    rfl

lemma newline_not_mem_mark {mark : List Char} (hmark : mark ∈ marks) : '\n' ∉ mark := by
  revert mark
  decide

/-- A place that is reached from the first line is counted exactly. -/
lemma isExact_after {mark before : List Char} (hmark : mark ∈ marks)
    (hbefore : unmarked (mark ++ before) = before) :
    IsExact ((firstLine mark).after before) (mark ++ before) := by
  constructor
  · rw [Position.line_after, List.count_append,
      List.count_eq_zero.2 (newline_not_mem_mark hmark), Nat.zero_add]
    rfl
  · rw [hbefore]
    exact Position.column_after rfl before

/-! ## Places of a run -/

/-- A cursor comes by a place: it stands there after some of the text that it has left. -/
def Cursor.ComesBy (c : Cursor) (place : Position) : Prop :=
  ∃ before rest, c.rest = before ++ rest ∧ place = c.place.after before

section Run

variable {o : Options} {file : String} {c : Cursor} {pass : Pass}

lemma Run.comesBy_of_mem (h : Run o file c pass) {t : Token} (ht : t ∈ pass.read) :
    c.ComesBy t.span.start := by
  obtain ⟨before, s, rest, hrest, -, rfl⟩ := h.exists_of_mem ht
  exact ⟨before, s.text ++ rest, hrest, rfl⟩

lemma Run.ending_eq (h : Run o file c pass) {last : Token} (hlast : pass.ending = .ok last) :
    last = Token.atEnd (c.place.after c.rest) := by
  induction h with
  | finished _ => exact (Except.ok.inj hlast).symm
  | read _ _ _ ih =>
    rw [ih hlast]
    simp
  | failed _ _ => cases hlast

lemma Run.comesBy_of_last (h : Run o file c pass) {last : Token} (hlast : pass.ending = .ok last) :
    c.ComesBy last.span.start := by
  obtain rfl := h.ending_eq hlast
  exact ⟨c.rest, [], by simp, rfl⟩

lemma Run.comesBy_of_error (h : Run o file c pass) {e : SyntaxError}
    (he : pass.ending = .error e) : c.ComesBy e.span.start := by
  obtain ⟨before, rest, kind, n, hrest, -, rfl⟩ := h.exists_of_error he
  exact ⟨before, rest, hrest, rfl⟩

end Run

lemma Cursor.ComesBy.isPlaceIn {text : String} {mark rest : List Char} {place : Position}
    (h : (Cursor.mk (firstLine mark) rest).ComesBy place) (hmark : mark ∈ marks)
    (htext : text.toList = mark ++ rest) (hrest : mark = [] → rest.head? ≠ some '\uFEFF') :
    IsPlaceIn text place := by
  obtain ⟨before, after, rfl, rfl⟩ := h
  refine ⟨String.ofList (mark ++ before), slice_before htext, ?_⟩
  rw [String.toList_ofList]
  exact isExact_after hmark (unmarked_append hmark hrest)

/-- **The places of tokens and errors are exact**, and so is that of the end of the input. -/
theorem lex_places_exact (src : Source) (o : Options) :
    (∀ ts, src.lex o = .ok ts → ∀ t ∈ ts, IsPlaceIn src.text t.span.start) ∧
      ∀ e, src.lex o = .error e → IsPlaceIn src.text e.span.start := by
  obtain ⟨mark, hmark, rest, htext, hrest, hrun⟩ := src.exists_marked_run o
  constructor
  · intro ts hts t ht
    obtain ⟨last, hlast, rfl⟩ := Pass.tokens_eq_ok_iff.1 hts
    rcases List.mem_append.1 ht with ht | ht
    · exact (hrun.comesBy_of_mem ht).isPlaceIn hmark htext hrest
    · obtain rfl := List.mem_singleton.1 ht
      exact (hrun.comesBy_of_last hlast).isPlaceIn hmark htext hrest
  · intro e he
    exact (hrun.comesBy_of_error (Pass.tokens_eq_error_iff.1 he)).isPlaceIn hmark htext hrest

/-- Behind a mark and a comment, an accented letter and a tab count as one column each; and an error
right behind a mark stands in the first column. -/
theorem places_exact_marked :
    (∃ ts, (Source.mk "text" "\uFEFF#é\n\"é\t\"x").lex {} = .ok ts ∧
        ts.map (·.span.start) = [⟨2, 1, 7⟩, ⟨2, 5, 12⟩, ⟨2, 6, 13⟩] ∧
        ∀ t ∈ ts, IsPlaceIn "\uFEFF#é\n\"é\t\"x" t.span.start) ∧
      (Source.mk "text" "\uFEFFé").lex {} =
        .error ⟨.unexpectedCharacter 'é', ⟨⟨1, 1, 3⟩, 5⟩, "text", "é"⟩ ∧
      IsPlaceIn "\uFEFFé" ⟨1, 1, 3⟩ := by
  have hliteral : (Cursor.start "\uFEFF#é\n\"é\t\"x".toList).step {} "text" =
      .read ⟨.stringLiteral "é\t", "é\t", ⟨⟨2, 1, 7⟩, 12⟩⟩ ⟨⟨2, 5, 12⟩, ['x']⟩ := by
    rfl
  have hword : (Cursor.mk ⟨2, 5, 12⟩ ['x']).step {} "text" =
      .read ⟨.identifier, "x", ⟨⟨2, 5, 12⟩, 13⟩⟩ ⟨⟨2, 6, 13⟩, []⟩ := by
    rfl
  have hend : (Cursor.mk ⟨2, 6, 13⟩ []).step {} "text" = .finished (Token.atEnd ⟨2, 6, 13⟩) := by
    rfl
  have hletter : (Cursor.start "\uFEFFé".toList).step {} "text" =
      .failed ⟨.unexpectedCharacter 'é', ⟨⟨1, 1, 3⟩, 5⟩, "text", "é"⟩ := by
    rfl
  have hlex : (Source.mk "text" "\uFEFF#é\n\"é\t\"x").lex {} =
      .ok [⟨.stringLiteral "é\t", "é\t", ⟨⟨2, 1, 7⟩, 12⟩⟩, ⟨.identifier, "x", ⟨⟨2, 5, 12⟩, 13⟩⟩,
        Token.atEnd ⟨2, 6, 13⟩] := by
    rw [Source.lex, Source.pass, Cursor.walk_read hliteral, Cursor.walk_read hword,
      Cursor.walk_finished hend]
    rfl
  have herror : (Source.mk "text" "\uFEFFé").lex {} =
      .error ⟨.unexpectedCharacter 'é', ⟨⟨1, 1, 3⟩, 5⟩, "text", "é"⟩ := by
    rw [Source.lex, Source.pass, Cursor.walk_failed hletter]
    rfl
  have hplaces := (lex_places_exact ⟨"text", "\uFEFF#é\n\"é\t\"x"⟩ {}).1 _ hlex
  have hplace := (lex_places_exact ⟨"text", "\uFEFFé"⟩ {}).2 _ herror
  exact ⟨⟨_, hlex, rfl, hplaces⟩, herror, hplace⟩

end QueryLexer
