/-
# Progress

The reader by bytes never moves back, and it never moves beyond the end of the text.  At the end of
the text `advance` does nothing, so a loop that relied on it there would never end.  No loop does:
every pass of a loop either leaves it or advances the place over bytes that are there.  Hence a loop
is left after no more passes than there are bytes in front of it, and so is the main loop, in which
each pass reads one token.  The main statements are

* `AdvancesTo.offset_le` and `AdvancesTo.le_utf8ByteSize`: the offset does not decrease, and it does
  not exceed the size of the text;
* `isLoop_skipWhile`, `isLoop_skipTrivia` and `isLoop_literalEnd`: the passes of the inner loops;
* `getsOn_of_passes`: the passes of the main loop;
* `lex_progress`: all of this for a source, and how many tokens it can have.
-/
import QueryLexer.Proofs.Boundaries
import QueryLexer.Proofs.Tiling

namespace QueryLexer

namespace Bytewise

/-! ## Advancing -/

/-- A place is advanced to another one, every time over a byte that is there. -/
inductive AdvancesTo (text : String) : Position → Position → Prop
  | refl (place : Position) : AdvancesTo text place place
  | advance {place stop : Position} {c : Char} (hpeek : place.peek text = some c)
      (hrest : AdvancesTo text (place.advance text) stop) : AdvancesTo text place stop

section AdvancesTo

variable {text : String} {place next stop : Position}

lemma AdvancesTo.single {c : Char} (hpeek : place.peek text = some c) :
    AdvancesTo text place (place.advance text) :=
  .advance hpeek (.refl _)

/-- Where there is no byte, `advance` leaves the place as it is. -/
lemma advancesTo_advance (place : Position) : AdvancesTo text place (place.advance text) := by
  cases hpeek : place.peek text with
  | none =>
    rw [Position.peek, Option.map_eq_none_iff] at hpeek
    rw [Position.advance, hpeek]
    exact .refl place
  | some c => exact .single hpeek

lemma AdvancesTo.trans (h : AdvancesTo text place next) (h' : AdvancesTo text next stop) :
    AdvancesTo text place stop := by
  induction h with
  | refl _ => exact h'
  | advance hpeek _ ih => exact .advance hpeek (ih h')

lemma AdvancesTo.offset_le (h : AdvancesTo text place stop) : place.offset ≤ stop.offset := by
  induction h with
  | refl _ => exact Nat.le_refl _
  | @advance place _ _ _ _ ih => exact Nat.le_trans (le_advance text place) ih

lemma AdvancesTo.le_utf8ByteSize (h : AdvancesTo text place stop)
    (hplace : place.offset ≤ text.utf8ByteSize) : stop.offset ≤ text.utf8ByteSize := by
  induction h with
  | refl _ => exact hplace
  | advance hpeek _ ih =>
    obtain ⟨hoffset, hlt⟩ := Position.offset_advance hpeek
    exact ih (by omega)

/-- A place that moves on has a byte in front of it, so it is inside of the text. -/
lemma AdvancesTo.le_utf8ByteSize_of_lt (h : AdvancesTo text place stop)
    (hlt : place.offset < stop.offset) : stop.offset ≤ text.utf8ByteSize := by
  cases h with
  | refl _ => exact absurd hlt (Nat.lt_irrefl _)
  | advance hpeek hrest =>
    obtain ⟨hoffset, hsize⟩ := Position.offset_advance hpeek
    exact hrest.le_utf8ByteSize (by omega)

lemma advancesTo_overBytes {bytes more : List UInt8}
    (h : bytesFrom text place.offset = bytes ++ more) :
    AdvancesTo text place (place.overBytes bytes) := by
  induction bytes generalizing place with
  | nil => exact .refl place
  | cons b bytes ih =>
    have hpeek : place.peek text = some (Char.ofUInt8 b) := Position.peek_eq h
    have hrest : AdvancesTo text (place.advance text) ((place.advance text).overBytes bytes) :=
      ih (bytesFrom_advance h)
    rw [Position.overBytes_cons, ← Position.advance_eq h]
    exact .advance hpeek hrest

lemma advancesTo_after {part rest : List Char} (h : GoesOn text place (part ++ rest)) :
    AdvancesTo text place (place.after part) := by
  induction part generalizing place with
  | nil => exact .refl place
  | cons c part ih =>
    have hchar : AdvancesTo text place (place.next c) := by
      rw [← Position.overBytes_utf8EncodeChar]
      exact advancesTo_overBytes h.bytesFrom_eq
    exact hchar.trans (ih h.next)

end AdvancesTo

/-! ## Loops -/

/-- Some passes of a loop, one after the other.  The body of the loop gives the place that a pass
comes to, or nothing when it leaves the loop. -/
inductive Passes (body : Position → Option Position) : Position → Nat → Position → Prop
  | nil (place : Position) : Passes body place 0 place
  | cons {place next stop : Position} {n : Nat} (hpass : body place = some next)
      (hrest : Passes body next n stop) : Passes body place (n + 1) stop

/-- After so many passes a loop is left at a place. -/
structure LeavesAt (body : Position → Option Position) (place : Position) (n : Nat)
    (stop : Position) : Prop where
  passes : Passes body place n stop
  leaves : body stop = none

/-- A loop over a text and its body.  Each pass moves on or leaves the loop, and the loop is left
wherever it begins. -/
structure IsLoop (text : String) (body : Position → Option Position)
    (loop : Position → Position) : Prop where
  progress : ∀ place next, body place = some next →
    AdvancesTo text place next ∧ place.offset < next.offset
  leavesAt : ∀ place, ∃ n, LeavesAt body place n (loop place)

section Loops

variable {text : String} {body : Position → Option Position} {loop : Position → Position}
  {place stop : Position} {n : Nat}

lemma Passes.advancesTo (h : Passes body place n stop)
    (hbody : ∀ place next, body place = some next → AdvancesTo text place next) :
    AdvancesTo text place stop := by
  induction h with
  | nil place => exact .refl place
  | cons hpass _ ih => exact (hbody _ _ hpass).trans ih

lemma Passes.offset_add_le (h : Passes body place n stop)
    (hbody : ∀ place next, body place = some next → place.offset < next.offset) :
    place.offset + n ≤ stop.offset := by
  induction h with
  | nil place => exact Nat.le_refl _
  | cons hpass _ ih =>
    have hlt := hbody _ _ hpass
    omega

namespace IsLoop

/-- A function that repeats passes which move on is a loop. -/
lemma of_unfold
    (hprogress : ∀ place next, body place = some next →
      AdvancesTo text place next ∧ place.offset < next.offset)
    (hleave : ∀ place, body place = none → loop place = place)
    (hpass : ∀ place next, body place = some next → loop place = loop next) :
    IsLoop text body loop := by
  refine ⟨hprogress, fun place => ?_⟩
  -- by induction on the bytes in front of the place, of which each pass takes some
  induction hleft : text.utf8ByteSize - place.offset using Nat.strong_induction_on
    generalizing place with
  | h left ih =>
    cases hnext : body place with
    | none =>
      rw [hleave place hnext]
      exact ⟨0, .nil place, hnext⟩
    | some next =>
      obtain ⟨hadvances, hlt⟩ := hprogress place next hnext
      have hle := hadvances.le_utf8ByteSize_of_lt hlt
      obtain ⟨n, hpasses, hleaves⟩ := ih _ (by omega) next rfl
      rw [hpass place next hnext]
      exact ⟨n + 1, .cons hnext hpasses, hleaves⟩

lemma advancesTo (h : IsLoop text body loop) (place : Position) :
    AdvancesTo text place (loop place) := by
  obtain ⟨n, hpasses, -⟩ := h.leavesAt place
  exact hpasses.advancesTo fun place next hnext => (h.progress place next hnext).1

end IsLoop

end Loops

/-! ## Inner loops -/

/-- A pass over a byte of a class.  Another byte and the end of the text leave the loop. -/
def classPass (text : String) (p : Char → Bool) (place : Position) : Option Position :=
  if (place.peek text).any p then some (place.advance text) else none

/-- A pass over a blank or over a comment.  Another byte and the end of the text leave the loop. -/
def triviaPass (text : String) (place : Position) : Option Position :=
  match place.peek text with
  | none => none
  | some c =>
    if c = '#' then some (skipWhile text (· != '\n') place)
    else if Trivia.isBlank c then some (place.advance text)
    else none

/-- A pass over a byte of a literal, and over the one behind it when it is a backslash.  A newline,
a quote and the end of the text leave the loop. -/
def literalPass (text : String) (place : Position) : Option Position :=
  match place.peek text with
  | none => none
  | some c =>
    if c = '\n' ∨ c = '"' then none
    else if c = '\\' ∧ ((place.advance text).peek text).any (· != '\n') then
      some ((place.advance text).advance text)
    else some (place.advance text)

section InnerLoops

variable {text : String} {p : Char → Bool} {place next : Position}

lemma classPass_eq_some_iff : classPass text p place = some next ↔
    ∃ c, place.peek text = some c ∧ p c = true ∧ place.advance text = next := by
  cases hpeek : place.peek text <;> simp [classPass, hpeek]

lemma classPass_eq_none_iff :
    classPass text p place = none ↔ ∀ c ∈ place.peek text, p c = false := by
  cases hpeek : place.peek text <;> simp [classPass, hpeek]

lemma triviaPass_eq_some (h : triviaPass text place = some next) :
    (place.peek text = some '#' ∧ next = skipWhile text (· != '\n') place) ∨
      ∃ c, place.peek text = some c ∧ c ≠ '#' ∧ Trivia.isBlank c = true ∧
        next = place.advance text := by
  unfold triviaPass at h
  split at h
  · cases h
  · next c hpeek =>
    split_ifs at h with hhash hblank
    · exact Or.inl ⟨hhash ▸ hpeek, (Option.some.inj h).symm⟩
    · exact Or.inr ⟨c, hpeek, hhash, hblank, (Option.some.inj h).symm⟩

lemma triviaPass_eq_none (h : triviaPass text place = none) :
    ∀ c ∈ place.peek text, c ≠ '#' ∧ Trivia.isBlank c = false := by
  unfold triviaPass at h
  split at h
  · next hpeek => simp [hpeek]
  · next c hpeek =>
    split_ifs at h with hhash hblank
    have hkeeps : c ≠ '#' ∧ Trivia.isBlank c = false := ⟨hhash, by simpa using hblank⟩
    simpa [hpeek] using hkeeps

lemma literalPass_eq_some (h : literalPass text place = some next) :
    (place.peek text = some '\\' ∧ ((place.advance text).peek text).any (· != '\n') = true ∧
        next = (place.advance text).advance text) ∨
      (place.peek text = some '\\' ∧ ((place.advance text).peek text).any (· != '\n') = false ∧
        next = place.advance text) ∨
      ∃ c, place.peek text = some c ∧ ¬ IsSpecial c ∧ next = place.advance text := by
  unfold literalPass at h
  split at h
  · cases h
  · next c hpeek =>
    split_ifs at h with hend hescape
    · obtain ⟨rfl, hnext⟩ := hescape
      exact Or.inl ⟨hpeek, hnext, (Option.some.inj h).symm⟩
    · obtain rfl := Option.some.inj h
      refine Or.inr ?_
      by_cases hc : c = '\\'
      · subst hc
        exact Or.inl ⟨hpeek, by simpa using hescape, rfl⟩
      · refine Or.inr ⟨c, hpeek, ?_, rfl⟩
        rintro (hc' | hc' | hc')
        · exact hend (Or.inl hc')
        · exact hend (Or.inr hc')
        · exact hc hc'

lemma literalPass_eq_none (h : literalPass text place = none) :
    ∀ c ∈ place.peek text, c = '\n' ∨ c = '"' := by
  unfold literalPass at h
  split at h
  · next hpeek => simp [hpeek]
  · next c hpeek =>
    split_ifs at h with hend
    simpa [hpeek] using hend

lemma progress_advance {c : Char} (hpeek : place.peek text = some c) :
    AdvancesTo text place (place.advance text) ∧ place.offset < (place.advance text).offset := by
  refine ⟨.single hpeek, ?_⟩
  rw [(Position.offset_advance hpeek).1]
  exact Nat.lt_succ_self _

variable (text)

/-- **The loop over a class of bytes**: over digits, over a word and over a comment. -/
theorem isLoop_skipWhile (p : Char → Bool) :
    IsLoop text (classPass text p) (skipWhile text p) := by
  refine .of_unfold ?_ ?_ ?_
  · intro place next h
    obtain ⟨c, hpeek, -, rfl⟩ := classPass_eq_some_iff.1 h
    exact progress_advance hpeek
  · intro place h
    exact skipWhile_of_neg (classPass_eq_none_iff.1 h)
  · intro place next h
    obtain ⟨c, hpeek, hc, rfl⟩ := classPass_eq_some_iff.1 h
    exact skipWhile_of_pos hpeek hc

/-- **The loop over trivia.**  A comment takes at least the byte that begins it. -/
theorem isLoop_skipTrivia : IsLoop text (triviaPass text) (skipTrivia text) := by
  refine .of_unfold ?_ ?_ ?_
  · intro place next h
    rcases triviaPass_eq_some h with ⟨hpeek, rfl⟩ | ⟨c, hpeek, -, -, rfl⟩
    · exact ⟨(isLoop_skipWhile text _).advancesTo place, lt_skipWhile hpeek (by decide)⟩
    · exact progress_advance hpeek
  · intro place h
    exact skipTrivia_stay (triviaPass_eq_none h)
  · intro place next h
    rcases triviaPass_eq_some h with ⟨hpeek, rfl⟩ | ⟨c, hpeek, hhash, hblank, rfl⟩
    · exact skipTrivia_comment hpeek
    · exact skipTrivia_blank hpeek hhash hblank

/-- **The loop over a literal.**  A backslash at the end of the text takes nothing along. -/
theorem isLoop_literalEnd : IsLoop text (literalPass text) (literalEnd text) := by
  refine .of_unfold ?_ ?_ ?_
  · intro place next h
    rcases literalPass_eq_some h with ⟨hpeek, hnext, rfl⟩ | ⟨hpeek, -, rfl⟩ | ⟨c, hpeek, -, rfl⟩
    · obtain ⟨d, hd, -⟩ := (Option.any_eq_true _ _).1 hnext
      obtain ⟨hfirst, hlt⟩ := progress_advance hpeek
      obtain ⟨hsecond, hlt'⟩ := progress_advance hd
      exact ⟨hfirst.trans hsecond, Nat.lt_trans hlt hlt'⟩
    · exact progress_advance hpeek
    · exact progress_advance hpeek
  · intro place h
    exact literalEnd_stay (literalPass_eq_none h)
  · intro place next h
    rcases literalPass_eq_some h with
      ⟨hpeek, hnext, rfl⟩ | ⟨hpeek, hnext, rfl⟩ | ⟨c, hpeek, hc, rfl⟩
    · exact literalEnd_escape hpeek hnext
    · exact literalEnd_lone hpeek hnext
    · exact literalEnd_plain hpeek hc

end InnerLoops

/-! ## The main loop -/

/-- A pass of the main loop: the place behind the token that is read.  The end of the text and an
error leave the loop. -/
def tokenPass (src : Source) (o : Options) (place : Position) : Option Position :=
  match step src o place with
  | some (.read _ next) => some next
  | _ => none

/-- What the last pass of the main loop comes to. -/
def Move.ofEnding : Except SyntaxError Token → Move
  | .ok last => .finished last
  | .error e => .failed e

/-- A move from a place past the trivia leads on or ends the loop.  The loop is left at the end of
the text only.  A token is advanced over by as many bytes as it has, so no advance over it was idle,
and an error stops inside of the text. -/
def Move.IsAhead (text : String) (start : Position) : Move → Prop
  | .finished last => last = Token.atEnd start ∧ start.offset = text.utf8ByteSize
  | .read t next =>
    t.span = ⟨start, next.offset⟩ ∧ start.offset < next.offset ∧
      next.offset = start.offset + byteLength t.written ∧ AdvancesTo text start next
  | .failed e =>
    e.span.start = start ∧ start.offset < e.span.stop ∧
      ∃ stop, AdvancesTo text start stop ∧ stop.offset = e.span.stop

/-- What a pass of the main loop that begins at a place does. -/
structure GetsOn (src : Source) (o : Options) (place : Position) : Prop where
  reached : AdvancesTo src.text (start src.text) place
  within : place.offset ≤ src.text.utf8ByteSize
  trivia : AdvancesTo src.text place (skipTrivia src.text place)
  move : ∃ move, step src o place = some move ∧
    move.IsAhead src.text (skipTrivia src.text place)

section MainLoop

variable {src : Source} {o : Options} {place next stop : Position} {rest : List Char} {n : Nat}

lemma step_cases (o : Options) (h : GoesOn src.text place rest) :
    (skipTrivia src.text place = place.after rest ∧
        step src o place = some (.finished (Token.atEnd (place.after rest)))) ∨
      (∃ gap, ∃ s : Spelling, ∃ after, rest = gap ++ (s.text ++ after) ∧
        skipTrivia src.text place = place.after gap ∧
          step src o place =
            some (.read (s.token o (place.after gap)) ((place.after gap).after s.text))) ∨
      ∃ gap after kind n, rest = gap ++ after ∧ Fault after kind n ∧
        skipTrivia src.text place = place.after gap ∧
          step src o place = some (.failed (faultAt src.file (place.after gap) after kind n)) := by
  have hskip : skipTrivia src.text place = (Cursor.mk place rest).skipTrivia.place :=
    skipTrivia_eq h
  have hstep := step_eq (c := ⟨place, rest⟩) (o := o) h
  rcases front_cases rest with hgap | ⟨gap, s, after, rfl, hgap, hstops⟩ |
    ⟨gap, after, kind, n, rfl, hgap, hfault⟩
  · refine Or.inl ⟨?_, ?_⟩
    · rw [hskip, Cursor.skipTrivia, Trivia.split_of_isLastGap hgap]
    · rw [hstep, step_of_isLastGap hgap]
      rfl
  · refine Or.inr (Or.inl ⟨gap, s, after, rfl, ?_, ?_⟩)
    · rw [hskip, skipTrivia_of_isGap hgap (s.beginsToken after)]
    · rw [hstep, step_of_stops hgap hstops]
      rfl
  · refine Or.inr (Or.inr ⟨gap, after, kind, n, rfl, hfault, ?_, ?_⟩)
    · rw [hskip, skipTrivia_of_isGap hgap hfault.beginsToken]
    · rw [hstep, step_of_fault hgap hfault]
      rfl

/-- From a place where a character begins, a move stands ahead, and where it reads a token a
character begins behind it. -/
lemma exists_isAhead (o : Options) (h : GoesOn src.text place rest) :
    ∃ move, step src o place = some move ∧ move.IsAhead src.text (skipTrivia src.text place) ∧
      ∀ t next, move = .read t next → ∃ after, GoesOn src.text next after := by
  rcases step_cases o h with ⟨hskip, hstep⟩ | ⟨gap, s, after, rfl, hskip, hstep⟩ |
    ⟨gap, after, kind, n, rfl, hfault, hskip, hstep⟩
  · refine ⟨_, hstep, ?_, by rintro t next ⟨⟩⟩
    rw [hskip]
    refine ⟨rfl, ?_⟩
    rw [Position.offset_after, h.offset_add]
  · refine ⟨_, hstep, ?_, ?_⟩
    · have hpos := s.byteLength_text_pos
      have hoffset := (place.after gap).offset_after s.text
      have hspan : (s.token o (place.after gap)).span =
          ⟨place.after gap, ((place.after gap).after s.text).offset⟩ := by
        rw [hoffset]
        rfl
      rw [hskip]
      refine ⟨hspan, by omega, ?_, advancesTo_after h.after⟩
      rw [hoffset, s.written_token]
    · rintro t next ⟨⟩
      exact ⟨after, h.after.after⟩
  · obtain ⟨taken, after', rfl, rfl, -⟩ := hfault.exists_taken
    refine ⟨_, hstep, ?_, by rintro t next ⟨⟩⟩
    rw [hskip]
    refine ⟨rfl, ?_, (place.after gap).after taken, advancesTo_after h.after, ?_⟩
    · exact Nat.lt_add_of_pos_right hfault.pos
    · exact Position.offset_after _ _

lemma exists_goesOn_start (text : String) :
    (∃ rest, GoesOn text (start text) rest) ∧
      (start text).offset = if text.toList.head? = some '\uFEFF' then 3 else 0 := by
  obtain ⟨mark, hmark, rest, htext, hrest⟩ := exists_mark text.toList
  rw [start_eq hmark htext hrest]
  refine ⟨⟨rest, goesOn_firstLine htext⟩, ?_⟩
  rw [htext]
  rcases List.mem_cons.1 hmark with rfl | hmark
  · exact (if_neg (hrest rfl)).symm
  · obtain rfl := List.mem_singleton.1 hmark
    exact (if_pos rfl).symm

lemma tokenPass_eq_some_iff :
    tokenPass src o place = some next ↔ ∃ t, step src o place = some (.read t next) := by
  unfold tokenPass
  constructor
  · intro h
    split at h
    · next t next' hstep =>
      obtain rfl := Option.some.inj h
      exact ⟨t, hstep⟩
    · cases h
  · rintro ⟨t, hstep⟩
    rw [hstep]

/-- The passes of the main loop lead from one beginning of a character to another. -/
lemma Passes.exists_goesOn (h : Passes (tokenPass src o) place n stop)
    (hplace : ∃ rest, GoesOn src.text place rest) :
    AdvancesTo src.text place stop ∧ ∃ rest, GoesOn src.text stop rest := by
  induction h with
  | nil place => exact ⟨.refl place, hplace⟩
  | @cons place next stop n hpass _ ih =>
    obtain ⟨t, hstep⟩ := tokenPass_eq_some_iff.1 hpass
    obtain ⟨rest, hrest⟩ := hplace
    obtain ⟨move, hmove, hahead, hnext⟩ := exists_isAhead o hrest
    obtain rfl : .read t next = move := Option.some.inj (hstep.symm.trans hmove)
    obtain ⟨-, -, -, hadvances⟩ := hahead
    obtain ⟨hstop, hgoes⟩ := ih (hnext t next rfl)
    have htrivia := (isLoop_skipTrivia src.text).advancesTo place
    exact ⟨htrivia.trans (hadvances.trans hstop), hgoes⟩

/-- **Every pass of the main loop moves on, ends at the end of the text or returns an error.** -/
theorem getsOn_of_passes (h : Passes (tokenPass src o) (start src.text) n place) :
    GetsOn src o place := by
  obtain ⟨hreached, rest, hrest⟩ := h.exists_goesOn (exists_goesOn_start src.text).1
  obtain ⟨move, hmove, hahead, -⟩ := exists_isAhead o hrest
  refine ⟨hreached, ?_, (isLoop_skipTrivia src.text).advancesTo place, move, hmove, hahead⟩
  rw [← hrest.offset_add]
  exact Nat.le_add_right _ _

/-- The passes of the main loop are the tokens that are read. -/
lemma exists_passes_of_walk {pass : Pass} (h : walk src o place = some pass) :
    ∃ stop, Passes (tokenPass src o) place pass.read.length stop ∧
      step src o stop = some (.ofEnding pass.ending) := by
  fun_induction walk src o place generalizing pass with
  | case1 => cases h
  | case2 place last hstep =>
    obtain rfl := Option.some.inj h
    exact ⟨place, .nil place, hstep⟩
  | case3 place t next hstep _ ih =>
    obtain ⟨pass, hwalk, rfl⟩ := Option.map_eq_some_iff.1 h
    obtain ⟨stop, hpasses, hstop⟩ := ih hwalk
    exact ⟨stop, .cons (tokenPass_eq_some_iff.2 ⟨t, hstep⟩) hpasses, hstop⟩
  | case4 place e hstep =>
    obtain rfl := Option.some.inj h
    exact ⟨place, .nil place, hstep⟩

end MainLoop

end Bytewise

open Bytewise

/-- **The reader gets on and comes to an end.**  Its offset neither decreases nor leaves the text,
each pass of a loop moves on or leaves the loop, and the main loop is left after one pass for each
token, and so after at most one pass for each byte and a last one. -/
theorem lex_progress (src : Source) (o : Options) :
    (∀ place : Position, place.offset ≤ (place.advance src.text).offset ∧
        (place.offset ≤ src.text.utf8ByteSize →
          (place.advance src.text).offset ≤ src.text.utf8ByteSize)) ∧
      (∀ p, IsLoop src.text (classPass src.text p) (skipWhile src.text p)) ∧
      IsLoop src.text (triviaPass src.text) (skipTrivia src.text) ∧
      IsLoop src.text (literalPass src.text) (literalEnd src.text) ∧
      (∀ n place, Passes (tokenPass src o) (start src.text) n place → GetsOn src o place) ∧
      (∃ stop, Passes (tokenPass src o) (start src.text) (src.pass o).read.length stop ∧
        step src o stop = some (.ofEnding (src.pass o).ending)) ∧
      (src.pass o).read.length + 1 ≤ src.text.utf8ByteSize + 1 ∧
      ∀ ts, src.lex o = .ok ts →
        ts.length ≤ (if src.text.toList.head? = some '\uFEFF' then src.text.utf8ByteSize - 3
          else src.text.utf8ByteSize) + 1 := by
  obtain ⟨stop, hpasses, hstop⟩ := exists_passes_of_walk (src.bytewisePass_eq o)
  have hbytes : (start src.text).offset + (src.pass o).read.length ≤ src.text.utf8ByteSize := by
    refine Nat.le_trans (hpasses.offset_add_le ?_) (getsOn_of_passes hpasses).within
    intro place next hnext
    obtain ⟨t, hstep⟩ := tokenPass_eq_some_iff.1 hnext
    exact (lt_of_step hstep).2
  refine ⟨?_, isLoop_skipWhile src.text, isLoop_skipTrivia src.text, isLoop_literalEnd src.text,
    fun n place => getsOn_of_passes, ⟨stop, hpasses, hstop⟩, by omega, ?_⟩
  · intro place
    have hadvances : AdvancesTo src.text place (place.advance src.text) := advancesTo_advance place
    exact ⟨hadvances.offset_le, hadvances.le_utf8ByteSize⟩
  · intro ts hts
    obtain ⟨last, -, rfl⟩ := Pass.tokens_eq_ok_iff.1 hts
    rw [(exists_goesOn_start src.text).2] at hbytes
    rw [List.length_append, List.length_singleton]
    split_ifs at hbytes ⊢ <;> omega

/-- Behind a mark two bytes are two tokens, and the end of the input is the third.  An open literal
that ends with a backslash ends with the text: the backslash takes no byte along, and the loop over
the literal is left behind it. -/
theorem progress_marked_and_open :
    (Source.mk "text" "\uFEFF((").lex {} =
        .ok [⟨.punctuation .openParen, "(", ⟨⟨1, 1, 3⟩, 4⟩⟩,
          ⟨.punctuation .openParen, "(", ⟨⟨1, 2, 4⟩, 5⟩⟩, Token.atEnd ⟨1, 3, 5⟩] ∧
      3 ≤ ("\uFEFF((".utf8ByteSize - 3) + 1 ∧
      (∃ n, LeavesAt (literalPass "\"\\") ⟨1, 2, 1⟩ n ⟨1, 3, 2⟩) ∧
      GetsOn ⟨"text", "\"\\"⟩ {} .origin := by
  have hfirst : (Cursor.start "\uFEFF((".toList).step {} "text" =
      .read ⟨.punctuation .openParen, "(", ⟨⟨1, 1, 3⟩, 4⟩⟩ ⟨⟨1, 2, 4⟩, ['(']⟩ := by
    rfl
  have hsecond : (Cursor.mk ⟨1, 2, 4⟩ ['(']).step {} "text" =
      .read ⟨.punctuation .openParen, "(", ⟨⟨1, 2, 4⟩, 5⟩⟩ ⟨⟨1, 3, 5⟩, []⟩ := by
    rfl
  have hend : (Cursor.mk ⟨1, 3, 5⟩ []).step {} "text" = .finished (Token.atEnd ⟨1, 3, 5⟩) := by
    rfl
  have hlex : (Source.mk "text" "\uFEFF((").lex {} =
      .ok [⟨.punctuation .openParen, "(", ⟨⟨1, 1, 3⟩, 4⟩⟩,
        ⟨.punctuation .openParen, "(", ⟨⟨1, 2, 4⟩, 5⟩⟩, Token.atEnd ⟨1, 3, 5⟩] := by
    rw [Source.lex, Source.pass, Cursor.walk_read hfirst, Cursor.walk_read hsecond,
      Cursor.walk_finished hend]
    rfl
  have hstop : literalEnd "\"\\" ⟨1, 2, 1⟩ = ⟨1, 3, 2⟩ := by
    have hadvance : (Position.mk 1 2 1).advance "\"\\" = ⟨1, 3, 2⟩ := by rfl
    have hnone : (Position.mk 1 3 2).peek "\"\\" = none := by rfl
    rw [literalEnd_lone rfl (by rw [hadvance, hnone]; rfl), hadvance,
      literalEnd_stay (by simp [hnone])]
  have hstart : start "\"\\" = .origin := by rfl
  obtain ⟨-, -, -, -, -, -, -, htokens⟩ := lex_progress ⟨"text", "\uFEFF(("⟩ {}
  obtain ⟨-, -, -, hliteral, hpasses, -⟩ := lex_progress ⟨"text", "\"\\"⟩ {}
  have hleaves := hliteral.leavesAt ⟨1, 2, 1⟩
  have hgetsOn := hpasses 0 (start "\"\\") (.nil _)
  rw [hstop] at hleaves
  rw [hstart] at hgetsOn
  exact ⟨hlex, htokens _ hlex, hleaves, hgetsOn⟩

end QueryLexer
