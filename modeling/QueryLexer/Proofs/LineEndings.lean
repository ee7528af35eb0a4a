/-
# Line endings

A source may end its lines with a newline or with a carriage return and a newline.  The carriage
return is a blank between tokens and belongs to a comment or to an unclosed literal in front of it;
no token touches it.  So the same tokens are read, and only the offsets move, by one for every
newline in front of them.  The main statements are

* `prefix_of_prefix_withCrlf`: a token in front of a text with carriage returns stands in front of
  the text without them;
* `Position.after_crlf`: a place is moved by one byte for every line above it;
* `Run.crlf`: the run over a text is a run over the text with carriage returns;
* `lex_crlf`: what this says about a source.
-/
import QueryLexer.Proofs.Lines
import Mathlib.Data.List.Forall2

namespace QueryLexer

open Trivia (IsGap IsLastGap blankChars)

/-! ## Texts -/

/-- A text with a carriage return in front of every newline. -/
def withCrlf (text : List Char) : List Char :=
  text.flatMap fun c => if c = '\n' then ['\r', '\n'] else [c]

@[simp] lemma withCrlf_nil : withCrlf [] = [] := rfl

@[simp] lemma withCrlf_newline (text : List Char) :
    withCrlf ('\n' :: text) = '\r' :: '\n' :: withCrlf text := rfl

lemma withCrlf_cons_of_ne {c : Char} (h : c ≠ '\n') (text : List Char) :
    withCrlf (c :: text) = c :: withCrlf text := by
  simp [withCrlf, h]

@[simp] lemma withCrlf_append (text text' : List Char) :
    withCrlf (text ++ text') = withCrlf text ++ withCrlf text' := by
  simp [withCrlf]

lemma withCrlf_of_newline_not_mem {text : List Char} (h : '\n' ∉ text) :
    withCrlf text = text := by
  induction text with
  | nil => rfl
  | cons c text ih =>
    rw [List.mem_cons, not_or] at h
    rw [withCrlf_cons_of_ne (Ne.symm h.1), ih h.2]

lemma head?_withCrlf (text : List Char) :
    (withCrlf text).head? = text.head?.map fun c => if c = '\n' then '\r' else c := by
  cases text with
  | nil => rfl
  | cons c text =>
    by_cases hc : c = '\n'
    · subst hc
      rfl
    · simp [withCrlf_cons_of_ne hc, hc]

/-- **What neither holds a newline nor ends with a carriage return** stands in front of a text with
carriage returns only if it stands in front of the text itself. -/
theorem prefix_of_prefix_withCrlf {part text : List Char} (h : part <+: withCrlf text)
    (hline : '\n' ∉ part) (hreturn : part.getLast? ≠ some '\r') : part <+: text := by
  obtain ⟨line, rest, rfl, hnewline, hrest⟩ := exists_line text
  rw [withCrlf_append, withCrlf_of_newline_not_mem hnewline] at h
  cases rest with
  | nil => exact h
  | cons c rest =>
    obtain rfl := hrest c rfl
    -- behind the line stands the carriage return, which the part would have to end with
    have hfront : part <+: (line ++ ['\r']) ++ '\n' :: withCrlf rest := by simpa using h
    rcases List.prefix_concat_iff.1 (prefix_of_prefix_newline hfront hline) with rfl | hpart
    · exact absurd List.getLast?_concat hreturn
    · exact hpart.trans (List.prefix_append _ _)

/-! ## Gaps, spellings and faults -/

/-- A gap remains a gap: a carriage return is a blank, and a comment may end with one. -/
lemma Trivia.IsGap.crlf {gap : List Char} (h : IsGap gap) : IsGap (withCrlf gap) := by
  induction h with
  | nil => exact IsGap.nil
  | @blank c gap hc _ ih =>
    by_cases hnewline : c = '\n'
    · subst hnewline
      exact IsGap.blank (by decide) (IsGap.blank (by decide) ih)
    · rw [withCrlf_cons_of_ne hnewline]
      exact IsGap.blank hc ih
  | @comment text gap htext _ ih =>
    have hclosed : IsGap ('#' :: ((text ++ ['\r']) ++ '\n' :: withCrlf gap)) :=
      IsGap.comment (by simpa using htext) ih
    rw [withCrlf_cons_of_ne (by decide), withCrlf_append, withCrlf_of_newline_not_mem htext,
      withCrlf_newline]
    simpa using hclosed

lemma Trivia.IsLastGap.crlf {gap : List Char} (h : IsLastGap gap) :
    IsLastGap (withCrlf gap) := by
  cases h with
  | closed hgap => exact IsLastGap.closed hgap.crlf
  | unclosed hgap htext =>
    rw [withCrlf_append, withCrlf_cons_of_ne (by decide), withCrlf_of_newline_not_mem htext]
    exact IsLastGap.unclosed hgap.crlf htext

namespace Spelling

lemma withCrlf_text (s : Spelling) : withCrlf s.text = s.text :=
  withCrlf_of_newline_not_mem s.newline_not_mem

/-- No token ends with a carriage return: a literal ends with a quote. -/
lemma getLast?_text_ne (s : Spelling) : s.text.getLast? ≠ some '\r' := by
  intro hlast
  cases s with
  | string body h =>
    rw [text, ← List.cons_append, List.getLast?_concat] at hlast
    cases hlast
  | _ => exact not_mem_blankChars (by rintro ⟨⟩) (List.mem_of_getLast? hlast) (by decide)

lemma prefix_of_prefix_withCrlf {s : Spelling} {text : List Char} (h : s.text <+: withCrlf text) :
    s.text <+: text :=
  QueryLexer.prefix_of_prefix_withCrlf h s.newline_not_mem s.getLast?_text_ne

lemma Stops.crlf {s : Spelling} {rest : List Char} (h : s.Stops rest) :
    s.Stops (withCrlf rest) := by
  cases rest with
  | nil => exact h
  | cons c rest =>
    by_cases hc : c = '\n'
    · subst hc
      refine stops_of_head_mem ?_ s
      rw [withCrlf_newline]
      rintro d ⟨⟩
      decide
    · rw [withCrlf_cons_of_ne hc, stops_cons]
      exact h c rfl

end Spelling

/-- A fault remains a fault.  An unclosed literal covers the carriage return, too. -/
lemma Fault.crlf {text : List Char} {kind : SyntaxErrorKind} {n : Nat} (h : Fault text kind n) :
    ∃ n', Fault (withCrlf text) kind n' := by
  cases h with
  | @unexpected c rest htext hblank hhash hletter hunderscore hdigit hquote hoperator hmark =>
    have hnewline : c ≠ '\n' := by
      rintro rfl
      exact hblank (by decide)
    have htext' : withCrlf text = c :: withCrlf rest := by
      rw [htext, withCrlf_cons_of_ne hnewline]
    exact ⟨_, Fault.unexpected htext' hblank hhash hletter hunderscore hdigit hquote hoperator
      hmark⟩
  | @unterminated line rest hquote hopen htext hline hrest =>
    have hquote' : (withCrlf text).head? = some '"' := by
      rw [head?_withCrlf, hquote]
      rfl
    have hopen' : ∀ body h, ¬ (Spelling.string body h).text <+: withCrlf text :=
      fun body h hfront => hopen body h (Spelling.prefix_of_prefix_withCrlf hfront)
    have htext' : withCrlf text = line ++ withCrlf rest := by
      rw [htext, withCrlf_append, withCrlf_of_newline_not_mem hline]
    cases rest with
    | nil => exact ⟨_, Fault.unterminated hquote' hopen' htext' hline (by simp)⟩
    | cons c rest =>
      obtain rfl := hrest c rfl
      -- the carriage return belongs to the line that the error covers
      have hreturn : withCrlf text = (line ++ ['\r']) ++ '\n' :: withCrlf rest := by
        simpa using htext'
      exact ⟨_, Fault.unterminated hquote' hopen' hreturn (by simpa using hline) (by simp)⟩
  | @malformed m c rest hm htext hc =>
    have hnewline : c ≠ '\n' := by
      rintro rfl
      rcases hc with hc | hc | ⟨-, hc⟩ <;> exact absurd hc (by decide)
    have htext' : withCrlf text = m.text ++ c :: withCrlf rest := by
      rw [htext, withCrlf_append, m.withCrlf_text, withCrlf_cons_of_ne hnewline]
    have hm' : IsLongestNumber m (withCrlf text) := by
      refine ⟨hm.number, htext' ▸ List.prefix_append _ _, fun m' hm' hfront => ?_⟩
      exact hm.longest m' hm' (Spelling.prefix_of_prefix_withCrlf hfront)
    exact ⟨_, Fault.malformed hm' htext' hc⟩

/-! ## Places -/

namespace Position

/-- A place with a carriage return at the end of every line above it. -/
def crlf (p : Position) : Position :=
  ⟨p.line, p.column, p.offset + (p.line - 1)⟩

/-- **A place is moved by one byte for every line above it.** -/
theorem after_crlf {p : Position} (hp : 1 ≤ p.line) (text : List Char) :
    p.crlf.after (withCrlf text) = (p.after text).crlf := by
  induction text generalizing p with
  | nil => rfl
  | cons c text ih =>
    by_cases hc : c = '\n'
    · subst hc
      -- the column of the carriage return is forgotten with its line
      have hnext : (p.crlf.next '\r').next '\n' = (p.next '\n').crlf := by
        have hreturn : p.crlf.next '\r' = ⟨p.line, p.column + 1, p.offset + (p.line - 1) + 1⟩ :=
          next_of_ne _ (by decide)
        have hoffset : p.offset + (p.line - 1) + 1 + 1 = p.offset + 1 + (p.line + 1 - 1) := by
          omega
        rw [hreturn, next_newline, next_newline, crlf]
        exact congrArg (Position.mk (p.line + 1) 1) hoffset
      rw [withCrlf_newline, after_cons, after_cons, hnext, after_cons,
        ih (Nat.le_add_left 1 p.line)]
    · have hnext : p.crlf.next c = (p.next c).crlf := by
        simp only [next_of_ne _ hc, crlf, Nat.add_right_comm]
      rw [withCrlf_cons_of_ne hc, after_cons, after_cons, hnext, ih]
      rwa [next_of_ne p hc]

lemma le_line_after {p : Position} (hp : 1 ≤ p.line) (text : List Char) :
    1 ≤ (p.after text).line := by
  rw [line_after]
  exact Nat.le_add_right_of_le hp

end Position

/-- A token with a carriage return at the end of every line above it. -/
def Token.crlf (t : Token) : Token :=
  { t with span := ⟨t.span.start.crlf, t.span.stop + (t.span.start.line - 1)⟩ }

lemma Spelling.token_crlf (s : Spelling) (o : Options) (p : Position) :
    s.token o p.crlf = (s.token o p).crlf := by
  simp only [Spelling.token, Token.crlf, Span.of, Position.crlf, Nat.add_right_comm]

/-! ## Runs -/

variable {o : Options} {file : String}

/-- A pass ends like another one: with the end of the input, or with an error of the same kind in
the same line and column. -/
inductive EndsLike : Except SyntaxError Token → Except SyntaxError Token → Prop
  | ok (last : Token) : EndsLike (.ok last) (.ok last.crlf)
  | error {e e' : SyntaxError} (hkind : e'.kind = e.kind)
      (hstart : e'.span.start = e.span.start.crlf) : EndsLike (.error e) (.error e')

/-- **The run over a text is a run over the text with carriage returns.** -/
theorem Run.crlf {c : Cursor} {pass : Pass} (h : Run o file c pass) (hline : 1 ≤ c.place.line) :
    ∃ ending, Run o file ⟨c.place.crlf, withCrlf c.rest⟩ ⟨pass.read.map Token.crlf, ending⟩ ∧
      EndsLike pass.ending ending := by
  induction h with
  | @finished place gap hgap =>
    have hrun : Run o file ⟨place.crlf, withCrlf gap⟩ _ := Run.finished hgap.crlf
    rw [Position.after_crlf hline] at hrun
    exact ⟨_, hrun, EndsLike.ok _⟩
  | @read place gap rest s pass hgap hstops _ ih =>
    have hplace := Position.le_line_after hline gap
    obtain ⟨ending, hrest, hends⟩ := ih (Position.le_line_after hplace s.text)
    refine ⟨ending, ?_, hends⟩
    simp only at hrest
    rw [← Position.after_crlf hplace, s.withCrlf_text, ← Position.after_crlf hline] at hrest
    have hrun := Run.read hgap.crlf hstops.crlf hrest
    rw [Position.after_crlf hline, s.token_crlf] at hrun
    simpa [s.withCrlf_text, Pass.cons] using hrun
  | @failed place gap text kind n hgap hfault =>
    obtain ⟨n', hfault'⟩ := hfault.crlf
    have hrun : Run o file ⟨place.crlf, withCrlf gap ++ withCrlf text⟩ _ :=
      Run.failed hgap.crlf hfault'
    rw [Position.after_crlf hline, ← withCrlf_append] at hrun
    exact ⟨_, hrun, EndsLike.error rfl rfl⟩

/-! ## Sources -/

/-- A source with a carriage return in front of every newline. -/
def Source.crlf (src : Source) : Source :=
  { src with text := String.ofList (withCrlf src.text.toList) }

lemma Source.exists_pass_crlf (src : Source) (o : Options) :
    ∃ ending, src.crlf.pass o = ⟨(src.pass o).read.map Token.crlf, ending⟩ ∧
      EndsLike (src.pass o).ending ending := by
  obtain ⟨mark, hmark, rest, htext, hrest, hrun⟩ := src.exists_marked_run o
  obtain ⟨ending, hrun', hends⟩ := hrun.crlf (Nat.le_refl 1)
  refine ⟨ending, ?_, hends⟩
  have hmarked : mark = [] → (withCrlf rest).head? ≠ some '\uFEFF' := by
    intro hnil hhead
    rw [head?_withCrlf, Option.map_eq_some_iff] at hhead
    obtain ⟨c, hc, hmoved⟩ := hhead
    split_ifs at hmoved with hnewline
    · cases hmoved
    · exact hrest hnil (hmoved ▸ hc)
  have htext' : src.crlf.text.toList = mark ++ withCrlf rest := by
    rw [Source.crlf, String.toList_ofList, htext, withCrlf_append,
      withCrlf_of_newline_not_mem (newline_not_mem_mark hmark)]
  exact Source.pass_eq_of_run hmark hmarked htext' hrun'

/-- A token is moved by as many bytes as there are newlines in front of each of its ends, and is the
same otherwise. -/
structure MovedByNewlines (text : String) (t t' : Token) : Prop where
  kind : t'.kind = t.kind
  lexeme : t'.lexeme = t.lexeme
  line : t'.span.start.line = t.span.start.line
  column : t'.span.start.column = t.span.start.column
  start : ∃ before, slice? text 0 t.span.start.offset = some before ∧
    t'.span.start.offset = t.span.start.offset + before.toList.count '\n'
  stop : ∃ before, slice? text 0 t.span.stop = some before ∧
    t'.span.stop = t.span.stop + before.toList.count '\n'

/-- In front of a place stand as many newlines as there are lines above it. -/
lemma IsPlaceIn.exists_before {text : String} {place : Position} (h : IsPlaceIn text place) :
    ∃ before, slice? text 0 place.offset = some before ∧
      before.toList.count '\n' = place.line - 1 := by
  obtain ⟨before, hslice, hline, -⟩ := h
  exact ⟨before, hslice, by omega⟩

/-- A token whose ends lie in a text, on one line, is moved by the newlines in front of it. -/
lemma movedByNewlines_crlf {text : String} {t : Token} {stop : Position}
    (hstart : IsPlaceIn text t.span.start) (hstop : IsPlaceIn text stop)
    (hoffset : stop.offset = t.span.stop) (hline : stop.line = t.span.start.line) :
    MovedByNewlines text t t.crlf := by
  obtain ⟨before, hbefore, hcount⟩ := hstart.exists_before
  obtain ⟨before', hbefore', hcount'⟩ := hstop.exists_before
  rw [hoffset] at hbefore'
  rw [hline] at hcount'
  exact ⟨rfl, rfl, rfl, rfl, ⟨before, hbefore, hcount ▸ rfl⟩, before', hbefore', hcount' ▸ rfl⟩

lemma Source.movedByNewlines {src : Source} {ts : List Token} (h : src.lex o = .ok ts) {t : Token}
    (ht : t ∈ ts) : MovedByNewlines src.text t t.crlf := by
  obtain ⟨mark, hmark, rest, htext, hrest, hrun⟩ := src.exists_marked_run o
  obtain ⟨last, hlast, rfl⟩ := Pass.tokens_eq_ok_iff.1 h
  rcases List.mem_append.1 ht with ht | ht
  · obtain ⟨before, s, after, hbefore, -, rfl⟩ := hrun.exists_of_mem ht
    have hstart : (Cursor.mk (firstLine mark) rest).ComesBy ((firstLine mark).after before) :=
      ⟨before, s.text ++ after, hbefore, rfl⟩
    have hstop : (Cursor.mk (firstLine mark) rest).ComesBy
        (((firstLine mark).after before).after s.text) := by
      refine ⟨before ++ s.text, after, ?_, (Position.after_append ..).symm⟩
      rw [List.append_assoc]
      exact hbefore
    refine movedByNewlines_crlf (hstart.isPlaceIn hmark htext hrest)
      (hstop.isPlaceIn hmark htext hrest) (Span.stop_of _ _).symm ?_
    rw [Position.line_after _ s.text, List.count_eq_zero.2 s.newline_not_mem]
    rfl
  · obtain rfl := List.mem_singleton.1 ht
    have hplace := (hrun.comesBy_of_last hlast).isPlaceIn hmark htext hrest
    obtain rfl := hrun.ending_eq hlast
    exact movedByNewlines_crlf hplace hplace rfl rfl

/-- **Line endings do not matter.** -/
theorem lex_crlf (src : Source) (o : Options) :
    (∀ ts, src.lex o = .ok ts → ∃ ts', src.crlf.lex o = .ok ts' ∧
        List.Forall₂ (MovedByNewlines src.text) ts ts') ∧
      ∀ e, src.lex o = .error e → ∃ e', src.crlf.lex o = .error e' ∧ e'.kind = e.kind ∧
        e'.span.start.line = e.span.start.line ∧ e'.span.start.column = e.span.start.column := by
  obtain ⟨ending, hpass, hends⟩ := src.exists_pass_crlf o
  constructor
  · intro ts hts
    obtain ⟨last, hlast, htokens⟩ := Pass.tokens_eq_ok_iff.1 hts
    rw [hlast] at hends
    cases hends with
    | ok =>
      refine ⟨ts.map Token.crlf, ?_, ?_⟩
      · rw [Source.lex, hpass, htokens]
        simp [Pass.tokens, Except.map]
      · rw [List.forall₂_map_right_iff, List.forall₂_same]
        exact fun t ht => Source.movedByNewlines hts ht
  · intro e he
    rw [Pass.tokens_eq_error_iff.1 he] at hends
    cases hends with
    | @error _ e' hkind hstart =>
      refine ⟨e', ?_, hkind, ?_, ?_⟩
      · rw [Source.lex, Pass.tokens_eq_error_iff, hpass]
      · rw [hstart]
        rfl
      · rw [hstart]
        rfl

/-- A literal that holds an escaped carriage return is read behind a comment with either line
ending; and where a backslash stands in front of the line ending, the literal is not closed either
way. -/
theorem crlf_escaped_return :
    (Source.mk "text" "#\n\"\\\r\"").lex {} =
        .ok [⟨.stringLiteral "\\\r", "\\\r", ⟨⟨2, 1, 2⟩, 6⟩⟩, Token.atEnd ⟨2, 5, 6⟩] ∧
      (∃ ts', (Source.mk "text" "#\r\n\"\\\r\"").lex {} = .ok ts' ∧
        List.Forall₂ (MovedByNewlines "#\n\"\\\r\"")
          [⟨.stringLiteral "\\\r", "\\\r", ⟨⟨2, 1, 2⟩, 6⟩⟩, Token.atEnd ⟨2, 5, 6⟩] ts') ∧
      (Source.mk "text" "\n\"\\\n").lex {} =
        .error ⟨.unterminatedString, ⟨⟨2, 1, 1⟩, 3⟩, "text", "\"\\\n"⟩ ∧
      ∃ e', (Source.mk "text" "\r\n\"\\\r\n").lex {} = .error e' ∧
        e'.kind = .unterminatedString ∧ e'.span.start.line = 2 ∧ e'.span.start.column = 1 := by
  have hliteral : (Cursor.start "#\n\"\\\r\"".toList).step {} "text" =
      .read ⟨.stringLiteral "\\\r", "\\\r", ⟨⟨2, 1, 2⟩, 6⟩⟩ ⟨⟨2, 5, 6⟩, []⟩ := by
    rfl
  have hend : (Cursor.mk ⟨2, 5, 6⟩ []).step {} "text" = .finished (Token.atEnd ⟨2, 5, 6⟩) := by
    rfl
  have hopen : (Cursor.start "\n\"\\\n".toList).step {} "text" =
      .failed ⟨.unterminatedString, ⟨⟨2, 1, 1⟩, 3⟩, "text", "\"\\\n"⟩ := by
    rfl
  have hlex : (Source.mk "text" "#\n\"\\\r\"").lex {} =
      .ok [⟨.stringLiteral "\\\r", "\\\r", ⟨⟨2, 1, 2⟩, 6⟩⟩, Token.atEnd ⟨2, 5, 6⟩] := by
    rw [Source.lex, Source.pass, Cursor.walk_read hliteral, Cursor.walk_finished hend]
    rfl
  have herror : (Source.mk "text" "\n\"\\\n").lex {} =
      .error ⟨.unterminatedString, ⟨⟨2, 1, 1⟩, 3⟩, "text", "\"\\\n"⟩ := by
    rw [Source.lex, Source.pass, Cursor.walk_failed hopen]
    rfl
  have htokens := (lex_crlf ⟨"text", "#\n\"\\\r\""⟩ {}).1 _ hlex
  have hfault := (lex_crlf ⟨"text", "\n\"\\\n"⟩ {}).2 _ herror
  exact ⟨hlex, htokens, herror, hfault⟩

end QueryLexer
