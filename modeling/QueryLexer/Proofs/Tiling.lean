/-
# Tilings

The tokens of a text lie in it side by side, and only gaps lie between them.  Nothing of the text is
lost: the gaps and the texts that the tokens cover make it up again, and each token covers its
lexeme, a string literal with the quotes around it.  The main statements are

* `Run.tiles`: a run that succeeds tiles what was left of the text;
* `lex_tiling`: the tokens of a source tile it behind its byte-order mark.
-/
import QueryLexer.Proofs.Run
import Mathlib.Data.List.Forall2

namespace QueryLexer

open Trivia (IsGap IsLastGap)

/-! ## Tokens in a text -/

/-- The texts in front of tokens: from an offset up to the first of them, and from where each stops
up to the next. -/
def gaps? (text : String) (offset : Nat) : List Token → Option (List String)
  | [] => some []
  | t :: ts => do
    let gap ← slice? text offset t.span.start.offset
    let gaps ← gaps? text t.span.stop ts
    return gap :: gaps

/-- The texts that tokens cover. -/
def slices? (text : String) : List Token → Option (List String)
  | [] => some []
  | t :: ts => do
    let slice ← slice? text t.span.start.offset t.span.stop
    let slices ← slices? text ts
    return slice :: slices

/-- Gaps and slices in turn, as one text. -/
def weave : List String → List String → String
  | gap :: gaps, slice :: slices => gap ++ (slice ++ weave gaps slices)
  | _, _ => ""

/-- A text may stand in front of a token.  In front of the end of the input a comment need not be
closed. -/
def IsGapBefore (gap : String) (t : Token) : Prop :=
  if t.kind = .endOfInput then IsLastGap gap.toList else IsGap gap.toList

/-- Tokens and gaps tile a text. -/
structure Tiling (text : String) (ts : List Token) : Prop where
  /-- The last token marks the end of the input, where the text ends, and no other token does. -/
  closed : ∃ read last, ts = read ++ [last] ∧ (∀ t ∈ read, t.kind ≠ .endOfInput) ∧
    last.kind = .endOfInput ∧ last.lexeme = "" ∧
    last.span.start.offset = text.utf8ByteSize ∧ last.span.stop = text.utf8ByteSize
  /-- Every other token covers something. -/
  start_lt_stop : ∀ t ∈ ts, t.kind ≠ .endOfInput → t.span.start.offset < t.span.stop
  /-- A token stops before the ones after it start. -/
  ordered : ts.Pairwise fun t u => t.span.stop ≤ u.span.start.offset
  /-- A token covers its lexeme. -/
  lexeme : ∀ t ∈ ts, (∀ value, t.kind ≠ .stringLiteral value) →
    slice? text t.span.start.offset t.span.stop = some t.lexeme
  /-- A string literal covers its lexeme and the quotes around it. -/
  quoted : ∀ t ∈ ts, ∀ value, t.kind = .stringLiteral value →
    slice? text t.span.start.offset t.span.stop = some ("\"" ++ t.lexeme ++ "\"")
  /-- Behind a byte-order mark, gaps and tokens make up the text. -/
  lossless : ∃ mark ∈ marks, ∃ gaps slices, gaps? text (byteLength mark) ts = some gaps ∧
    slices? text ts = some slices ∧ List.Forall₂ IsGapBefore gaps ts ∧
    text = String.ofList mark ++ weave gaps slices

/-- From an offset on, gaps and tokens tile a text up to its end. -/
inductive Tiles (text : String) : Nat → List Token → Prop
  /-- Only a gap and the end of the text are left. -/
  | last {offset : Nat} {gap : String} {t : Token} (hgap : IsLastGap gap.toList)
      (hkind : t.kind = .endOfInput) (hlexeme : t.lexeme = "")
      (hstart : t.span.start.offset = text.utf8ByteSize)
      (hstop : t.span.stop = text.utf8ByteSize)
      (hbefore : slice? text offset t.span.start.offset = some gap) : Tiles text offset [t]
  /-- A gap and a token stand in front of the others. -/
  | cons {offset : Nat} {gap : String} {t : Token} {ts : List Token} (hgap : IsGap gap.toList)
      (hkind : t.kind ≠ .endOfInput) (hlt : t.span.start.offset < t.span.stop)
      (hbefore : slice? text offset t.span.start.offset = some gap)
      (hslice : slice? text t.span.start.offset t.span.stop = some (String.ofList t.written))
      (htiles : Tiles text t.span.stop ts) : Tiles text offset (t :: ts)

/-! ## Tilings from runs -/

lemma Spelling.kind_ne_endOfInput (s : Spelling) (o : Options) : s.kind o ≠ .endOfInput := by
  intro h
  cases s with
  | word text _ =>
    change o.wordKind (String.ofList text) = _ at h
    rw [Options.wordKind] at h
    split at h <;> cases h
  | _ => cases h

lemma Spelling.byteLength_text_pos (s : Spelling) : 0 < byteLength s.text := by
  have hlength := length_le_byteLength s.text
  have hpos := List.length_pos_iff.2 s.text_ne_nil
  omega

@[simp] lemma Spelling.written_token (s : Spelling) (o : Options) (place : Position) :
    (s.token o place).written = s.text := by
  show (s.kind o).written (String.ofList s.lexeme).toList = s.text
  rw [String.toList_ofList, s.written_kind]

/-- **A run that succeeds tiles what was left of the text.** -/
theorem Run.tiles {o : Options} {file : String} {c : Cursor} {pass : Pass} (h : Run o file c pass)
    {text : String} {ts : List Token} (htext : GoesOn text c.place c.rest)
    (htokens : pass.tokens = .ok ts) : Tiles text c.place.offset ts := by
  obtain ⟨final, hfinal, rfl⟩ := Pass.tokens_eq_ok_iff.1 htokens
  clear htokens
  -- by induction on the run; the cursor moves over the text and over the gap and the token alike
  induction h with
  | @finished place gap hgap =>
    obtain rfl := Except.ok.inj hfinal
    rw [← String.toList_ofList (l := gap)] at hgap
    have hend : (place.after gap).offset = text.utf8ByteSize := by
      rw [Position.offset_after]
      exact htext.offset_add
    refine Tiles.last hgap rfl rfl hend hend ?_
    show slice? text place.offset (place.after gap).offset = _
    rw [hend]
    exact htext.slice_rest
  | @read place gap rest s pass hgap _ _ ih =>
    rw [← String.toList_ofList (l := gap)] at hgap
    have hpos := s.byteLength_text_pos
    refine Tiles.cons hgap (s.kind_ne_endOfInput o) (Nat.lt_add_of_pos_right hpos) ?_ ?_ ?_
    · show slice? text place.offset (place.after gap).offset = _
      rw [Position.offset_after]
      exact htext.slice
    · rw [s.written_token]
      exact htext.after.slice
    · have htiles := ih htext.after.after hfinal
      rwa [Position.offset_after] at htiles
  | failed _ _ => cases hfinal

/-! ## What a tiling says -/

namespace Tiles

variable {text : String} {offset : Nat} {ts : List Token}

lemma closed (h : Tiles text offset ts) :
    ∃ read last, ts = read ++ [last] ∧ (∀ t ∈ read, t.kind ≠ .endOfInput) ∧
      last.kind = .endOfInput ∧ last.lexeme = "" ∧
      last.span.start.offset = text.utf8ByteSize ∧ last.span.stop = text.utf8ByteSize := by
  induction h with
  | last _ hkind hlexeme hstart hstop _ =>
    exact ⟨[], _, rfl, by simp, hkind, hlexeme, hstart, hstop⟩
  | @cons _ _ t _ _ hkind _ _ _ _ ih =>
    obtain ⟨read, last, rfl, hread, hlast⟩ := ih
    refine ⟨t :: read, last, rfl, ?_, hlast⟩
    intro u hu
    rcases List.mem_cons.1 hu with rfl | hu
    · exact hkind
    · exact hread u hu

lemma start_lt_stop (h : Tiles text offset ts) :
    ∀ t ∈ ts, t.kind ≠ .endOfInput → t.span.start.offset < t.span.stop := by
  intro u hu
  induction h with
  | last _ hkind _ _ _ _ =>
    obtain rfl := List.mem_singleton.1 hu
    exact fun hne => absurd hkind hne
  | cons _ _ hlt _ _ _ ih =>
    rcases List.mem_cons.1 hu with rfl | hu
    · exact fun _ => hlt
    · exact ih hu

lemma le_start (h : Tiles text offset ts) : ∀ t ∈ ts, offset ≤ t.span.start.offset := by
  intro u hu
  induction h with
  | last _ _ _ _ _ hbefore =>
    obtain rfl := List.mem_singleton.1 hu
    exact le_of_slice? hbefore
  | cons _ _ hlt hbefore _ _ ih =>
    have hle := le_of_slice? hbefore
    rcases List.mem_cons.1 hu with rfl | hu
    · exact hle
    · have := ih hu
      omega

lemma ordered (h : Tiles text offset ts) :
    ts.Pairwise fun t u => t.span.stop ≤ u.span.start.offset := by
  induction h with
  | last => exact List.pairwise_singleton _ _
  | cons _ _ _ _ _ htiles ih => exact List.pairwise_cons.2 ⟨htiles.le_start, ih⟩

/-- Every token covers its text. -/
lemma slice_written (h : Tiles text offset ts) :
    ∀ t ∈ ts, slice? text t.span.start.offset t.span.stop = some (String.ofList t.written) := by
  intro u hu
  induction h with
  | @last _ _ t _ hkind hlexeme hstart hstop _ =>
    obtain rfl := List.mem_singleton.1 hu
    have hwritten : u.written = [] := by
      rw [Token.written, hkind, hlexeme]
      rfl
    have hend : GoesOn text u.span.start [] :=
      ⟨text.toList, by simp, by rw [hstart, byteLength_toList]⟩
    rw [hstop, hwritten]
    exact hend.slice_rest
  | cons _ _ _ _ hslice _ ih =>
    rcases List.mem_cons.1 hu with rfl | hu
    · exact hslice
    · exact ih hu

/-- Gaps and tokens make up the text from the offset on. -/
lemma lossless (h : Tiles text offset ts) :
    ∃ gaps slices, gaps? text offset ts = some gaps ∧ slices? text ts = some slices ∧
      List.Forall₂ IsGapBefore gaps ts ∧
      slice? text offset text.utf8ByteSize = some (weave gaps slices) := by
  induction h with
  | @last offset gap t hgap hkind hlexeme hstart hstop hbefore =>
    have hslice := (Tiles.last hgap hkind hlexeme hstart hstop hbefore).slice_written t
      (List.mem_singleton_self t)
    refine ⟨[gap], [String.ofList t.written], ?_, ?_, ?_, ?_⟩
    · simp [gaps?, hbefore]
    · simp [slices?, hslice]
    · refine List.Forall₂.cons ?_ List.Forall₂.nil
      rwa [IsGapBefore, if_pos hkind]
    · have hall := slice?_append hbefore hslice
      rw [hstop] at hall
      simpa [weave] using hall
  | @cons offset gap t ts hgap hkind _ hbefore hslice _ ih =>
    obtain ⟨gaps, slices, hgaps, hslices, hbetween, hrest⟩ := ih
    refine ⟨gap :: gaps, String.ofList t.written :: slices, ?_, ?_, ?_, ?_⟩
    · simp [gaps?, hbefore, hgaps]
    · simp [slices?, hslice, hslices]
    · refine List.Forall₂.cons ?_ hbetween
      rwa [IsGapBefore, if_neg hkind]
    · exact slice?_append hbefore (slice?_append hslice hrest)

end Tiles

lemma Token.written_of_ne {t : Token} (h : ∀ value, t.kind ≠ .stringLiteral value) :
    t.written = t.lexeme.toList := by
  obtain ⟨kind, lexeme, span⟩ := t
  cases kind with
  | stringLiteral value => exact absurd rfl (h value)
  | _ => rfl

lemma Token.written_of_stringLiteral {t : Token} {value : String}
    (h : t.kind = .stringLiteral value) : String.ofList t.written = "\"" ++ t.lexeme ++ "\"" := by
  rw [Token.written, h, TokenKind.written_stringLiteral, ← String.toList_inj]
  simp

/-- **The tokens of a source tile it.** -/
theorem lex_tiling {src : Source} {o : Options} {ts : List Token} (h : src.lex o = .ok ts) :
    Tiling src.text ts := by
  obtain ⟨mark, hmark, rest, htext, hrun⟩ := src.exists_run o
  have hgoes := goesOn_firstLine htext
  have htiles : Tiles src.text (byteLength mark) ts := hrun.tiles hgoes h
  refine ⟨htiles.closed, htiles.start_lt_stop, htiles.ordered, ?_, ?_, ?_⟩
  · intro t ht hkind
    rw [htiles.slice_written t ht, Token.written_of_ne hkind, String.ofList_toList]
  · intro t ht value hkind
    rw [htiles.slice_written t ht, Token.written_of_stringLiteral hkind]
  · obtain ⟨gaps, slices, hgaps, hslices, hbetween, hall⟩ := htiles.lossless
    refine ⟨mark, hmark, gaps, slices, hgaps, hslices, hbetween, ?_⟩
    rw [← Option.some.inj (hgoes.slice_rest.symm.trans hall), ← String.ofList_append, ← htext,
      String.ofList_toList]

/-- A text with a mark, a comment that is closed, a literal with an escaped quote and a comment that
is not closed. -/
theorem tiling_marked_source :
    (Source.mk "text" "\uFEFF#\n\"\\\"\"#").lex {} =
        .ok [⟨.stringLiteral "\"", "\\\"", ⟨⟨2, 1, 5⟩, 9⟩⟩, ⟨.endOfInput, "", ⟨⟨2, 6, 10⟩, 10⟩⟩] ∧
      Tiling "\uFEFF#\n\"\\\"\"#"
        [⟨.stringLiteral "\"", "\\\"", ⟨⟨2, 1, 5⟩, 9⟩⟩, ⟨.endOfInput, "", ⟨⟨2, 6, 10⟩, 10⟩⟩] := by
  have hliteral : (Cursor.start "\uFEFF#\n\"\\\"\"#".toList).step {} "text" =
      .read ⟨.stringLiteral "\"", "\\\"", ⟨⟨2, 1, 5⟩, 9⟩⟩ ⟨⟨2, 5, 9⟩, ['#']⟩ := by
    rfl
  have hend : (Cursor.mk ⟨2, 5, 9⟩ ['#']).step {} "text" = .finished (Token.atEnd ⟨2, 6, 10⟩) := by
    rfl
  have hlex : (Source.mk "text" "\uFEFF#\n\"\\\"\"#").lex {} =
      .ok [⟨.stringLiteral "\"", "\\\"", ⟨⟨2, 1, 5⟩, 9⟩⟩, ⟨.endOfInput, "", ⟨⟨2, 6, 10⟩, 10⟩⟩] := by
    rw [Source.lex, Source.pass, Cursor.walk_read hliteral, Cursor.walk_finished hend]
    rfl
  exact ⟨hlex, lex_tiling hlex⟩

end QueryLexer
