/-
# Runs

A run tells how a walk over a text goes in the words of the grammar: gap after gap and spelling
after spelling, up to a last gap or a fault.  It does not mention the reader of trivia, the scanner
or the cursor's step, and it is the shape that every statement about whole passes is proved along.
The main statements are

* `run_iff`: a walk comes to a pass exactly when there is a run to it;
* `Source.exists_run` and `Source.pass_eq_of_run`: the same for the pass over a source, where a
  byte-order mark may stand in front;
* `Run.exists_of_mem`: where a token that was read stands;
* `Run.cut`: the text in front of an error is a run of its own.
-/
import QueryLexer.Pass
import QueryLexer.Proofs.Front
import QueryLexer.Proofs.Slice

namespace QueryLexer

open Trivia (IsGap IsLastGap BeginsToken)

/-- The token that a spelling makes at a place. -/
def Spelling.token (s : Spelling) (o : Options) (place : Position) : Token :=
  ⟨s.kind o, String.ofList s.lexeme, Span.of place s.text⟩

/-- The error that a fault at the front of a text makes at a place. -/
def faultAt (file : String) (place : Position) (text : List Char) (kind : SyntaxErrorKind)
    (n : Nat) : SyntaxError :=
  ⟨kind, ⟨place, place.offset + n⟩, file, String.ofList text⟩

/-- From a cursor there is a run to a pass. -/
inductive Run (o : Options) (file : String) : Cursor → Pass → Prop
  /-- Only a last gap is left. -/
  | finished {place : Position} {gap : List Char} (hgap : IsLastGap gap) :
      Run o file ⟨place, gap⟩ ⟨[], .ok (Token.atEnd (place.after gap))⟩
  /-- A gap and a spelling that stops are left behind. -/
  | read {place : Position} {gap rest : List Char} {s : Spelling} {pass : Pass} (hgap : IsGap gap)
      (hstops : s.Stops rest) (hrest : Run o file ⟨(place.after gap).after s.text, rest⟩ pass) :
      Run o file ⟨place, gap ++ (s.text ++ rest)⟩ (pass.cons (s.token o (place.after gap)))
  /-- A fault stands behind a gap. -/
  | failed {place : Position} {gap text : List Char} {kind : SyntaxErrorKind} {n : Nat}
      (hgap : IsGap gap) (hfault : Fault text kind n) :
      Run o file ⟨place, gap ++ text⟩ ⟨[], .error (faultAt file (place.after gap) text kind n)⟩

variable {o : Options} {file : String}

/-! ## Steps -/

lemma skipTrivia_of_isGap {place : Position} {gap text : List Char} (hgap : IsGap gap)
    (htext : BeginsToken text) :
    (Cursor.mk place (gap ++ text)).skipTrivia = ⟨place.after gap, text⟩ := by
  rw [Cursor.skipTrivia, Trivia.split_eq_iff.2 ⟨rfl, Or.inl ⟨hgap, htext⟩⟩]

lemma step_of_isLastGap {place : Position} {gap : List Char} (hgap : IsLastGap gap) :
    (Cursor.mk place gap).step o file = .finished (Token.atEnd (place.after gap)) := by
  rw [Cursor.step, Cursor.skipTrivia, Trivia.split_of_isLastGap hgap]
  rfl

lemma step_of_stops {place : Position} {gap rest : List Char} {s : Spelling} (hgap : IsGap gap)
    (hstops : s.Stops rest) :
    (Cursor.mk place (gap ++ (s.text ++ rest))).step o file =
      .read (s.token o (place.after gap)) ⟨(place.after gap).after s.text, rest⟩ := by
  rw [Cursor.step, skipTrivia_of_isGap hgap (s.beginsToken rest), Cursor.readToken,
    scan_of_stops hstops]
  simp only [Spelling.written_kind]
  rfl

lemma readToken_of_fault {place : Position} {text : List Char} {kind : SyntaxErrorKind} {n : Nat}
    (hfault : Fault text kind n) :
    (Cursor.mk place text).readToken o file = .failed (faultAt file place text kind n) := by
  obtain ⟨taken, hscan, rfl⟩ := scan_of_fault (o := o) hfault
  rw [Cursor.readToken, hscan]
  rfl

lemma step_of_fault {place : Position} {gap text : List Char} {kind : SyntaxErrorKind} {n : Nat}
    (hgap : IsGap gap) (hfault : Fault text kind n) :
    (Cursor.mk place (gap ++ text)).step o file =
      .failed (faultAt file (place.after gap) text kind n) := by
  rw [Cursor.step, skipTrivia_of_isGap hgap hfault.beginsToken, readToken_of_fault hfault]

/-- The three ways in which a text goes on. -/
lemma front_cases (text : List Char) :
    IsLastGap text ∨
      (∃ (gap : List Char) (s : Spelling) (rest : List Char),
        text = gap ++ (s.text ++ rest) ∧ IsGap gap ∧ s.Stops rest) ∨
      ∃ gap rest kind n, text = gap ++ rest ∧ IsGap gap ∧ Fault rest kind n := by
  rcases hsplit : Trivia.split .blanks text with ⟨gap, rest⟩
  obtain ⟨rfl, ⟨hgap, hrest⟩ | ⟨hgap, rfl⟩⟩ := Trivia.split_eq_iff.1 hsplit
  · rcases spelling_or_fault hrest with ⟨s, after, rfl, hstops⟩ | ⟨kind, n, hfault⟩
    · exact Or.inr (Or.inl ⟨gap, s, after, rfl, hgap, hstops⟩)
    · exact Or.inr (Or.inr ⟨gap, rest, kind, n, rfl, hgap, hfault⟩)
  · rw [List.append_nil]
    exact Or.inl hgap

/-! ## Walks -/

/-- A walk takes the way of a run. -/
lemma Run.walk_eq {c : Cursor} {pass : Pass} (h : Run o file c pass) : c.walk o file = pass := by
  induction h with
  | finished hgap => exact Cursor.walk_finished (step_of_isLastGap hgap)
  | read hgap hstops _ ih => rw [Cursor.walk_read (step_of_stops hgap hstops), ih]
  | failed hgap hfault => exact Cursor.walk_failed (step_of_fault hgap hfault)

/-- Every walk is a run. -/
lemma run_walk (o : Options) (file : String) (c : Cursor) : Run o file c (c.walk o file) := by
  -- by induction on what is left to read
  induction hlength : c.rest.length using Nat.strong_induction_on generalizing c with
  | h n ih =>
    obtain ⟨place, text⟩ := c
    rcases front_cases text with hgap | ⟨gap, s, rest, rfl, hgap, hstops⟩ |
      ⟨gap, rest, kind, n, rfl, hgap, hfault⟩
    · rw [Cursor.walk_finished (step_of_isLastGap hgap)]
      exact Run.finished hgap
    · have hstep : (Cursor.mk place _).step o file = _ := step_of_stops hgap hstops
      have hlt := Cursor.rest_lt_of_step hstep
      rw [Cursor.walk_read hstep]
      exact Run.read hgap hstops (ih _ (hlength ▸ hlt) _ rfl)
    · rw [Cursor.walk_failed (step_of_fault hgap hfault)]
      exact Run.failed hgap hfault

/-- **A walk comes to a pass exactly when there is a run to it.** -/
theorem run_iff {c : Cursor} {pass : Pass} : Run o file c pass ↔ c.walk o file = pass := by
  constructor
  · exact Run.walk_eq
  · rintro rfl
    exact run_walk o file c

/-- What a run says about the text and the pass, by the way it begins. -/
lemma Run.inversion {place : Position} {text : List Char} {pass : Pass}
    (h : Run o file ⟨place, text⟩ pass) :
    (IsLastGap text ∧ pass = ⟨[], .ok (Token.atEnd (place.after text))⟩) ∨
      (∃ (gap : List Char) (s : Spelling) (rest : List Char) (pass' : Pass),
        text = gap ++ (s.text ++ rest) ∧ IsGap gap ∧ s.Stops rest ∧
          Run o file ⟨(place.after gap).after s.text, rest⟩ pass' ∧
          pass = pass'.cons (s.token o (place.after gap))) ∨
      ∃ gap rest kind n, text = gap ++ rest ∧ IsGap gap ∧ Fault rest kind n ∧
        pass = ⟨[], .error (faultAt file (place.after gap) rest kind n)⟩ := by
  cases h with
  | finished hgap => exact Or.inl ⟨hgap, rfl⟩
  | read hgap hstops hrest =>
    exact Or.inr (Or.inl ⟨_, _, _, _, rfl, hgap, hstops, hrest, rfl⟩)
  | failed hgap hfault => exact Or.inr (Or.inr ⟨_, _, _, _, rfl, hgap, hfault, rfl⟩)

/-- A token that was read is a spelling in the text, and what follows leaves it as it is. -/
theorem Run.exists_of_mem {c : Cursor} {pass : Pass} (h : Run o file c pass) {t : Token}
    (ht : t ∈ pass.read) :
    ∃ (before : List Char) (s : Spelling) (rest : List Char),
      c.rest = before ++ (s.text ++ rest) ∧ s.Stops rest ∧ t = s.token o (c.place.after before) := by
  induction h with
  | finished _ => cases ht
  | @read place gap rest s pass _ hstops _ ih =>
    rcases List.mem_cons.1 ht with rfl | ht
    · exact ⟨gap, s, rest, rfl, hstops, rfl⟩
    · obtain ⟨before, s', rest', hrest, hstops', rfl⟩ := ih ht
      refine ⟨gap ++ (s.text ++ before), s', rest', ?_, hstops', by simp⟩
      show gap ++ (s.text ++ rest) = _
      rw [show rest = before ++ (s'.text ++ rest') from hrest]
      simp
  | failed _ _ => cases ht

/-- **The text in front of an error is a run of its own**, over the same tokens, and a fault stands
behind it. -/
theorem Run.cut {c : Cursor} {pass : Pass} (h : Run o file c pass) {e : SyntaxError}
    (he : pass.ending = .error e) :
    ∃ (before rest : List Char) (kind : SyntaxErrorKind) (n : Nat),
      c.rest = before ++ rest ∧ Fault rest kind n ∧
        e = faultAt file (c.place.after before) rest kind n ∧
        Run o file ⟨c.place, before⟩ ⟨pass.read, .ok (Token.atEnd (c.place.after before))⟩ := by
  induction h with
  | finished _ => cases he
  | @read place gap rest s pass hgap hstops _ ih =>
    obtain ⟨before, rest', kind, n, hrest, hfault, rfl, hrun⟩ := ih he
    obtain rfl : rest = before ++ rest' := hrest
    refine ⟨gap ++ (s.text ++ before), rest', kind, n, by simp, hfault, by simp, ?_⟩
    simpa [Pass.cons] using Run.read hgap hstops.of_append hrun
  | @failed place gap text kind n hgap hfault =>
    obtain rfl := Except.error.inj he
    exact ⟨gap, text, kind, n, rfl, hfault, rfl, Run.finished (IsLastGap.closed hgap)⟩

/-- An error that ended a run is a fault in the text. -/
theorem Run.exists_of_error {c : Cursor} {pass : Pass} (h : Run o file c pass) {e : SyntaxError}
    (he : pass.ending = .error e) :
    ∃ (before rest : List Char) (kind : SyntaxErrorKind) (n : Nat),
      c.rest = before ++ rest ∧ Fault rest kind n ∧
        e = faultAt file (c.place.after before) rest kind n := by
  obtain ⟨before, rest, kind, n, hrest, hfault, hplace, -⟩ := h.cut he
  exact ⟨before, rest, kind, n, hrest, hfault, hplace⟩

lemma Run.kind_of_ending {c : Cursor} {pass : Pass} (h : Run o file c pass) {last : Token}
    (hlast : pass.ending = .ok last) : last.kind = .endOfInput := by
  induction h with
  | finished _ =>
    obtain rfl := Except.ok.inj hlast
    rfl
  | read _ _ _ ih => exact ih hlast
  | failed _ _ => cases hlast

/-! ## Sources -/

/-- What may stand in front of the first line: nothing, or a byte-order mark. -/
def marks : List (List Char) := [[], ['\uFEFF']]

/-- Where the first line begins, behind a mark. -/
def firstLine (mark : List Char) : Position := ⟨1, 1, byteLength mark⟩

/-- A mark in front of a text is skipped, and nothing else is.  Without a mark the text must not
begin with one. -/
lemma start_append {mark text : List Char} (hmark : mark ∈ marks)
    (htext : mark = [] → text.head? ≠ some '\uFEFF') :
    Cursor.start (mark ++ text) = ⟨firstLine mark, text⟩ := by
  rcases List.mem_cons.1 hmark with rfl | hmark
  · rw [List.nil_append, Cursor.start]
    · rfl
    · rintro rest rfl
      exact htext rfl rfl
  · obtain rfl := List.mem_singleton.1 hmark
    rfl

lemma exists_mark (text : List Char) :
    ∃ mark ∈ marks, ∃ rest, text = mark ++ rest ∧ (mark = [] → rest.head? ≠ some '\uFEFF') := by
  by_cases hhead : text.head? = some '\uFEFF'
  · obtain ⟨rest, rfl⟩ := List.head?_eq_some_iff.1 hhead
    exact ⟨['\uFEFF'], by decide, rest, rfl, fun h => absurd h (List.cons_ne_nil _ _)⟩
  · exact ⟨[], by decide, text, rfl, fun _ => hhead⟩

lemma goesOn_firstLine {text : String} {mark rest : List Char} (h : text.toList = mark ++ rest) :
    GoesOn text (firstLine mark) rest :=
  ⟨mark, h, rfl⟩

/-- The slice up to a place that is reached from the first line is the mark and what was read. -/
lemma slice_before {text : String} {mark before rest : List Char}
    (h : text.toList = mark ++ (before ++ rest)) :
    slice? text 0 ((firstLine mark).after before).offset =
      some (String.ofList (mark ++ before)) := by
  have hstart : GoesOn text .origin ((mark ++ before) ++ rest) :=
    ⟨[], by rw [h, List.nil_append, List.append_assoc], rfl⟩
  have hslice := hstart.slice
  rw [byteLength_append] at hslice
  rw [Position.offset_after]
  simpa [Position.origin, firstLine] using hslice

/-- The pass over a source is a run behind its byte-order mark, and the mark is missing only where
the text does not begin with one. -/
lemma Source.exists_marked_run (src : Source) (o : Options) :
    ∃ mark ∈ marks, ∃ rest, src.text.toList = mark ++ rest ∧
      (mark = [] → rest.head? ≠ some '\uFEFF') ∧
      Run o src.file ⟨firstLine mark, rest⟩ (src.pass o) := by
  obtain ⟨mark, hmark, rest, htext, hrest⟩ := exists_mark src.text.toList
  refine ⟨mark, hmark, rest, htext, hrest, ?_⟩
  rw [run_iff, Source.pass, htext, start_append hmark hrest]

/-- **The pass over a source is a run behind its byte-order mark.** -/
theorem Source.exists_run (src : Source) (o : Options) :
    ∃ mark ∈ marks, ∃ rest, src.text.toList = mark ++ rest ∧
      Run o src.file ⟨firstLine mark, rest⟩ (src.pass o) := by
  obtain ⟨mark, hmark, rest, htext, -, hrun⟩ := src.exists_marked_run o
  exact ⟨mark, hmark, rest, htext, hrun⟩

lemma Source.run_of_unmarked (src : Source) (h : src.text.toList.head? ≠ some '\uFEFF')
    (o : Options) : Run o src.file ⟨.origin, src.text.toList⟩ (src.pass o) := by
  have hstart : Cursor.start ([] ++ src.text.toList) = ⟨firstLine [], src.text.toList⟩ :=
    start_append List.mem_cons_self fun _ => h
  rw [run_iff, Source.pass, ← List.nil_append src.text.toList, hstart]
  rfl

theorem Source.pass_eq_of_run {src : Source} {mark rest : List Char} {pass : Pass}
    (hmark : mark ∈ marks) (hrest : mark = [] → rest.head? ≠ some '\uFEFF')
    (htext : src.text.toList = mark ++ rest) (h : Run o src.file ⟨firstLine mark, rest⟩ pass) :
    src.pass o = pass := by
  rw [Source.pass, htext, start_append hmark hrest, h.walk_eq]

end QueryLexer
