/-
# Texts on later lines

A newline ends every token, every comment and every error.  So what stands in front of a newline is
split like a text of its own, and what stands behind it is split like a text of its own that is
moved down.  The main statements are

* `Run.append_newline`: a run that succeeds goes on behind a newline;
* `Run.append_newline_of_error`: a run that fails does not look behind one;
* `lex_append_newline`: how two sources with a newline between them are split.
-/
import QueryLexer.Proofs.Layout
import QueryLexer.Proofs.Places
import QueryLexer.Proofs.Shift

namespace QueryLexer

open Trivia (IsGap IsLastGap blankChars)

/-! ## Newlines behind a text -/

lemma StringLiteral.IsBody.newline_not_mem {body : List Char} (h : IsBody body) :
    '\n' ∉ body := by
  induction h with
  | nil => simp
  | plain _ _ hline _ ih => simpa [Ne.symm hline] using ih
  | escaped hline _ ih => simpa [Ne.symm hline] using ih

lemma Spelling.not_mem_blankChars {s : Spelling} (hs : s.group ≠ .string) {c : Char}
    (hc : c ∈ s.text) : c ∉ blankChars := by
  have hword : isWordChar c = true → c ∉ blankChars := by
    intro hword hmem
    simp only [blankChars, List.mem_cons, List.not_mem_nil, or_false] at hmem
    rcases hmem with rfl | rfl | rfl | rfl | rfl <;> cases hword
  have hdigit : c.isDigit = true → c ∉ blankChars := by
    intro hdigit
    exact hword (by rw [isWordChar_eq, hdigit, Bool.or_true])
  cases s with
  | word text h => exact hword (h.isWordChar c hc)
  | int digits h => exact hdigit (h.2 c hc)
  | float whole fraction hwhole hfraction =>
    rcases List.mem_append.1 hc with hc | hc
    · exact hdigit (hwhole.2 c hc)
    · rcases List.mem_cons.1 hc with rfl | hc
      · decide
      · exact hdigit (hfraction.2 c hc)
  | string body h => exact absurd rfl hs
  | operator op =>
    have hall : op.chars.all (fun c => !blankChars.contains c) = true := by cases op <;> rfl
    simpa using List.all_eq_true.1 hall c hc
  | punctuation p =>
    obtain rfl := List.mem_singleton.1 hc
    cases p <;> decide

lemma Spelling.newline_not_mem (s : Spelling) : '\n' ∉ s.text := by
  cases s with
  | string body h => simpa [text] using h.newline_not_mem
  | _ => exact fun hmem => not_mem_blankChars (by rintro ⟨⟩) hmem (by decide)

/-- What holds no newline does not reach behind one. -/
lemma prefix_of_prefix_newline {part text rest : List Char} (h : part <+: text ++ '\n' :: rest)
    (hpart : '\n' ∉ part) : part <+: text := by
  rcases List.prefix_or_prefix_of_prefix h (List.prefix_append text _) with h' | ⟨tail, rfl⟩
  · exact h'
  · cases tail with
    | nil => simp
    | cons c tail =>
      obtain ⟨rfl, -⟩ := List.cons_prefix_cons.1 ((List.prefix_append_right_inj text).1 h)
      exact absurd (by simp) hpart

lemma Spelling.Stops.append_newline {s : Spelling} {rest : List Char} (h : s.Stops rest)
    (text : List Char) : s.Stops (rest ++ '\n' :: text) := by
  cases rest with
  | nil =>
    refine stops_of_head_mem ?_ s
    simp [blankChars]
  | cons c rest => simpa using h

/-- A comment that is left open at the end of a text is closed by a newline. -/
lemma Trivia.IsLastGap.append_newline {gap : List Char} (h : IsLastGap gap) :
    IsGap (gap ++ ['\n']) := by
  cases h with
  | closed hgap => exact hgap.append (IsGap.blank (by decide) IsGap.nil)
  | unclosed hgap htext =>
    rw [List.append_assoc, List.cons_append]
    exact hgap.append (IsGap.comment htext IsGap.nil)

lemma Fault.append_newline {text : List Char} {kind : SyntaxErrorKind} {n : Nat}
    (h : Fault text kind n) (rest : List Char) : Fault (text ++ '\n' :: rest) kind n := by
  cases h with
  | unexpected htext hblank hhash hletter hunderscore hdigit hquote hoperator hmark =>
    exact Fault.unexpected (by rw [htext, List.cons_append]) hblank hhash hletter hunderscore hdigit
      hquote hoperator hmark
  | @unterminated line after hquote hopen htext hline hafter =>
    have htext' : text ++ '\n' :: rest = line ++ (after ++ '\n' :: rest) := by
      rw [htext, List.append_assoc]
    refine Fault.unterminated ?_ ?_ htext' hline ?_
    · rw [List.head?_append, hquote]
      rfl
    · intro body h hfront
      exact hopen body h (prefix_of_prefix_newline hfront (Spelling.newline_not_mem _))
    · cases after with
      | nil => simp
      | cons c after => simpa using hafter
  | @malformed m c after hm htext hc =>
    have hm' : IsLongestNumber m (text ++ '\n' :: rest) := by
      refine ⟨hm.number, hm.front.trans (List.prefix_append _ _), fun m' hm' hfront => ?_⟩
      exact hm.longest m' hm' (prefix_of_prefix_newline hfront m'.newline_not_mem)
    have htext' : text ++ '\n' :: rest = m.text ++ c :: (after ++ '\n' :: rest) := by
      rw [htext, List.append_assoc, List.cons_append]
    exact Fault.malformed hm' htext' hc

/-! ## Runs across a newline -/

variable {o : Options} {file : String}

lemma Run.behind_gap {place : Position} {gap text : List Char} {pass : Pass} (hgap : IsGap gap)
    (h : Run o file ⟨place.after gap, text⟩ pass) : Run o file ⟨place, gap ++ text⟩ pass := by
  rcases h.inversion with ⟨hlast, rfl⟩ | ⟨gap', s, rest, pass', rfl, hgap', hstops, hrest, rfl⟩ |
    ⟨gap', rest, kind, n, rfl, hgap', hfault, rfl⟩
  · rw [← Position.after_append]
    exact Run.finished (hgap.append_last hlast)
  · rw [← Position.after_append place gap gap'] at hrest ⊢
    rw [← List.append_assoc]
    exact Run.read (hgap.append hgap') hstops hrest
  · rw [← Position.after_append, ← List.append_assoc]
    exact Run.failed (hgap.append hgap') hfault

/-- **A run that succeeds goes on behind a newline.** -/
theorem Run.append_newline {c : Cursor} {text : List Char} {pass pass' : Pass}
    (h : Run o file c pass) {last : Token} (hlast : pass.ending = .ok last)
    (h' : Run o file ⟨c.place.after (c.rest ++ ['\n']), text⟩ pass') :
    Run o file ⟨c.place, c.rest ++ '\n' :: text⟩ ⟨pass.read ++ pass'.read, pass'.ending⟩ := by
  induction h with
  | @finished place gap hgap =>
    rw [List.append_cons]
    exact Run.behind_gap hgap.append_newline h'
  | @read place gap rest s pass hgap hstops _ ih =>
    have hrest := ih hlast (by simpa using h')
    simpa [Pass.cons] using Run.read hgap (hstops.append_newline text) hrest
  | failed _ _ => cases hlast

/-- **A run that fails does not look behind a newline**, but the error carries what stands there. -/
theorem Run.append_newline_of_error {c : Cursor} {pass : Pass} (h : Run o file c pass)
    {e : SyntaxError} (he : pass.ending = .error e) (text : List Char) :
    Run o file ⟨c.place, c.rest ++ '\n' :: text⟩
      ⟨pass.read, .error { e with remainder := e.remainder ++ "\n" ++ String.ofList text }⟩ := by
  induction h with
  | finished _ => cases he
  | @read place gap rest s pass hgap hstops _ ih =>
    simpa [Pass.cons] using Run.read hgap (hstops.append_newline text) (ih he)
  | @failed place gap front kind n hgap hfault =>
    obtain rfl := Except.error.inj he
    have hrun : Run o file ⟨place, gap ++ (front ++ '\n' :: text)⟩ _ :=
      Run.failed hgap (hfault.append_newline text)
    have hremainder : String.ofList front ++ "\n" ++ String.ofList text =
        String.ofList (front ++ '\n' :: text) := by
      rw [← String.toList_inj]
      simp
    simpa [faultAt, hremainder] using hrun

/-! ## Sources on later lines -/

/-- How far a text is moved that stands on the line behind another one. -/
def Shift.behind (s : String) : Shift :=
  ⟨1 + s.toList.count '\n', s.utf8ByteSize + 1⟩

lemma after_newline {s : String} {mark rest : List Char} (hmark : mark ∈ marks)
    (hs : s.toList = mark ++ rest) (hrest : mark = [] → rest.head? ≠ some '\uFEFF') :
    (firstLine mark).after (rest ++ ['\n']) = Position.origin.shift (Shift.behind s) := by
  have hunmarked : unmarked (mark ++ rest) = rest := by
    rw [← List.append_nil rest] at hrest
    exact unmarked_append hmark hrest
  have hline := (isExact_after hmark hunmarked).line_eq
  have hoffset : ((firstLine mark).after rest).offset = s.utf8ByteSize := by
    rw [Position.offset_after, ← byteLength_toList, hs, byteLength_append]
    rfl
  rw [Position.after_append, Position.after_cons, Position.after_nil, Position.next_newline, hline,
    hoffset, ← hs]
  simp only [Position.origin, Position.shift, Shift.behind, Position.mk.injEq]
  exact ⟨by omega, trivial, by omega⟩

section Sources

variable {s t : String}

lemma Source.pass_eq_of_run_append {mark rest : List Char} (hmark : mark ∈ marks)
    (hs : s.toList = mark ++ rest) (hrest : mark = [] → rest.head? ≠ some '\uFEFF') {pass : Pass}
    (h : Run o file ⟨firstLine mark, rest ++ '\n' :: t.toList⟩ pass) :
    (Source.mk file (s ++ "\n" ++ t)).pass o = pass := by
  refine Source.pass_eq_of_run hmark (fun hnil => ?_) ?_ h
  · cases rest with
    | nil => simp
    | cons c rest => simpa using hrest hnil
  · show (s ++ "\n" ++ t).toList = mark ++ (rest ++ '\n' :: t.toList)
    simp [hs]

/-- A pass that succeeds goes on with the moved pass over what stands behind the newline. -/
lemma Source.pass_append_newline {last : Token} (ht : t.toList.head? ≠ some '\uFEFF')
    (hlast : ((Source.mk file s).pass o).ending = .ok last) :
    (Source.mk file (s ++ "\n" ++ t)).pass o =
      ⟨((Source.mk file s).pass o).read ++
          (((Source.mk file t).pass o).shift (Shift.behind s)).read,
        (((Source.mk file t).pass o).shift (Shift.behind s)).ending⟩ := by
  obtain ⟨mark, hmark, rest, hs, hrest, hrun⟩ := (Source.mk file s).exists_marked_run o
  refine Source.pass_eq_of_run_append hmark hs hrest (hrun.append_newline hlast ?_)
  rw [after_newline hmark hs hrest]
  exact (Source.run_of_unmarked ⟨file, t⟩ ht o).shift (Shift.behind s)

lemma Source.pass_append_newline_of_error {e : SyntaxError}
    (he : ((Source.mk file s).pass o).ending = .error e) (t : String) :
    (Source.mk file (s ++ "\n" ++ t)).pass o =
      ⟨((Source.mk file s).pass o).read,
        .error { e with remainder := e.remainder ++ "\n" ++ t }⟩ := by
  obtain ⟨mark, hmark, rest, hs, hrest, hrun⟩ := (Source.mk file s).exists_marked_run o
  have hrun' := hrun.append_newline_of_error he t.toList
  rw [String.ofList_toList] at hrun'
  exact Source.pass_eq_of_run_append hmark hs hrest hrun'

end Sources

/-- **Two sources with a newline between them are split one after the other.**  The tokens and the
error of the second are moved, and an error of the first carries the second along. -/
theorem lex_append_newline {s t : String} (ht : t.toList.head? ≠ some '\uFEFF') (file : String)
    (o : Options) :
    (∀ read last ts, (Source.mk file s).lex o = .ok (read ++ [last]) →
        (Source.mk file t).lex o = .ok ts →
        (Source.mk file (s ++ "\n" ++ t)).lex o =
          .ok (read ++ ts.map (Token.shift (Shift.behind s)))) ∧
      (∀ ts e, (Source.mk file s).lex o = .ok ts → (Source.mk file t).lex o = .error e →
        (Source.mk file (s ++ "\n" ++ t)).lex o = .error (e.shift (Shift.behind s))) ∧
      ∀ e, (Source.mk file s).lex o = .error e →
        (Source.mk file (s ++ "\n" ++ t)).lex o =
          .error { e with remainder := e.remainder ++ "\n" ++ t } := by
  refine ⟨fun read last ts hs hts => ?_, fun ts e hs he => ?_, fun e he => ?_⟩
  · obtain ⟨final, hfinal, hread⟩ := Pass.tokens_eq_ok_iff.1 hs
    obtain ⟨final', hfinal', rfl⟩ := Pass.tokens_eq_ok_iff.1 hts
    obtain ⟨rfl, -⟩ := List.append_inj' hread rfl
    rw [Source.lex, Source.pass_append_newline ht hfinal, Pass.tokens_eq_ok_iff]
    exact ⟨_, Pass.ending_shift_of_ok hfinal', by simp [Pass.shift]⟩
  · obtain ⟨final, hfinal, -⟩ := Pass.tokens_eq_ok_iff.1 hs
    rw [Source.lex, Source.pass_append_newline ht hfinal, Pass.tokens_eq_error_iff]
    exact Pass.ending_shift_of_error (Pass.tokens_eq_error_iff.1 he)
  · rw [Source.lex, Source.pass_append_newline_of_error (Pass.tokens_eq_error_iff.1 he),
      Pass.tokens_eq_error_iff]

/-- An open comment in front of a newline takes nothing along, and an open literal takes the rest of
the text along into its error only. -/
theorem append_newline_open_comment :
    (Source.mk "text" "x#").lex {} =
        .ok ([⟨.identifier, "x", ⟨⟨1, 1, 0⟩, 1⟩⟩] ++ [Token.atEnd ⟨1, 3, 2⟩]) ∧
      (Source.mk "text" "1").lex {} =
        .ok [⟨.intLiteral, "1", ⟨⟨1, 1, 0⟩, 1⟩⟩, Token.atEnd ⟨1, 2, 1⟩] ∧
      (Source.mk "text" ("x#" ++ "\n" ++ "1")).lex {} =
        .ok [⟨.identifier, "x", ⟨⟨1, 1, 0⟩, 1⟩⟩, ⟨.intLiteral, "1", ⟨⟨2, 1, 3⟩, 4⟩⟩,
          Token.atEnd ⟨2, 2, 4⟩] ∧
      (Source.mk "text" "\"").lex {} =
        .error ⟨.unterminatedString, ⟨⟨1, 1, 0⟩, 1⟩, "text", "\""⟩ ∧
      (Source.mk "text" ("x#" ++ "\n" ++ "\"")).lex {} =
        .error ⟨.unterminatedString, ⟨⟨2, 1, 3⟩, 4⟩, "text", "\""⟩ ∧
      (Source.mk "text" ("\"" ++ "\n" ++ "1")).lex {} =
        .error ⟨.unterminatedString, ⟨⟨1, 1, 0⟩, 1⟩, "text", "\"" ++ "\n" ++ "1"⟩ := by
  have hword : (Cursor.start "x#".toList).step {} "text" =
      .read ⟨.identifier, "x", ⟨⟨1, 1, 0⟩, 1⟩⟩ ⟨⟨1, 2, 1⟩, ['#']⟩ := by
    rfl
  have hcomment : (Cursor.mk ⟨1, 2, 1⟩ ['#']).step {} "text" =
      .finished (Token.atEnd ⟨1, 3, 2⟩) := by
    rfl
  have hdigit : (Cursor.start "1".toList).step {} "text" =
      .read ⟨.intLiteral, "1", ⟨⟨1, 1, 0⟩, 1⟩⟩ ⟨⟨1, 2, 1⟩, []⟩ := by
    rfl
  have hend : (Cursor.mk ⟨1, 2, 1⟩ []).step {} "text" = .finished (Token.atEnd ⟨1, 2, 1⟩) := by
    rfl
  have hquote : (Cursor.start "\"".toList).step {} "text" =
      .failed ⟨.unterminatedString, ⟨⟨1, 1, 0⟩, 1⟩, "text", "\""⟩ := by
    rfl
  have hs : (Source.mk "text" "x#").lex {} =
      .ok ([⟨.identifier, "x", ⟨⟨1, 1, 0⟩, 1⟩⟩] ++ [Token.atEnd ⟨1, 3, 2⟩]) := by
    rw [Source.lex, Source.pass, Cursor.walk_read hword, Cursor.walk_finished hcomment]
    rfl
  have ht : (Source.mk "text" "1").lex {} =
      .ok [⟨.intLiteral, "1", ⟨⟨1, 1, 0⟩, 1⟩⟩, Token.atEnd ⟨1, 2, 1⟩] := by
    rw [Source.lex, Source.pass, Cursor.walk_read hdigit, Cursor.walk_finished hend]
    rfl
  have he : (Source.mk "text" "\"").lex {} =
      .error ⟨.unterminatedString, ⟨⟨1, 1, 0⟩, 1⟩, "text", "\""⟩ := by
    rw [Source.lex, Source.pass, Cursor.walk_failed hquote]
    rfl
  refine ⟨hs, ht, ?_, he, ?_, ?_⟩
  · exact (lex_append_newline (by decide) "text" {}).1 _ _ _ hs ht
  · exact (lex_append_newline (by decide) "text" {}).2.1 _ _ hs he
  · exact (lex_append_newline (by decide) "text" {}).2.2 _ he

end QueryLexer
