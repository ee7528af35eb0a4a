/-
# Layouts

A layout is a text that is put together from spellings with gaps between them.  Two spellings that
touch may be read differently than they were meant: a word takes a number that follows it along, a
number is spoiled by a word, `<` and `=` make `<=`.  `Spelling.Glues` lists the pairs for which this
happens.  The main statements are

* `Spelling.glues_iff`: a pair glues exactly when the second spelling, with whatever follows, does
  not leave the first one as it is;
* `lex_layout_iff`: a layout is read back as the spellings that it was put together from exactly
  when no gluing pair touches.
-/
import QueryLexer.Proofs.Run
import Mathlib.Data.List.Chain

namespace QueryLexer

open Trivia (IsGap IsLastGap blankChars)

/-! ## Gluing -/

namespace Spelling

/-- The pairs of spellings that must not touch. -/
inductive Glues : Spelling → Spelling → Prop
  /-- Words and numbers run into each other. -/
  | run {s t : Spelling} (hs : s.group ∈ [.word, .number]) (ht : t.group ∈ [.word, .number]) :
      Glues s t
  /-- A point spoils a number without a point. -/
  | point {digits : List Char} {h : IsDigits digits} : Glues (int digits h) (punctuation .dot)
  /-- A comparison takes an equals sign along. -/
  | comparison {op : Operator} (hop : op ∈ [.lt, .gt, .bang]) :
      Glues (operator op) (operator .eq)
  /-- A minus sign takes the head of an arrow along. -/
  | arrow {op : Operator} (hop : op ∈ [.gt, .gtEq]) : Glues (operator .minus) (operator op)

lemma isWordChar_iff_group? {c : Char} :
    isWordChar c = true ↔ group? c = some .word ∨ group? c = some .number := by
  rw [isWordChar_eq, Bool.or_eq_true]
  by_cases hword : isWordStart c = true
  · simp [group?, hword]
  by_cases hdigit : c.isDigit = true
  · simp [group?, hword, hdigit]
  · -- the groups that are asked for later are neither of the two
    have hother : group? c ∉ [some .word, some .number] := by
      simp only [group?, hword, hdigit, Bool.false_eq_true, if_false]
      split_ifs <;> simp
    simpa [hword, hdigit] using hother

/-- A character that a spelling may take along begins a token itself. -/
lemma group?_ne_none_of_joins {s : Spelling} {c : Char} (h : s.joins c = true) :
    group? c ≠ none := by
  have hword : isWordChar c = true → group? c ≠ none := by
    intro hc
    rcases isWordChar_iff_group?.1 hc with hc | hc <;> simp [hc]
  cases s with
  | word _ _ | float _ _ _ _ => exact hword h
  | int digits _ =>
    rcases (Bool.or_eq_true _ _).mp h with h | h
    · exact hword h
    · rw [eq_of_beq h]
      decide
  | string _ _ | punctuation _ => cases h
  | operator op =>
    rcases Operator.joins_iff.1 h with ⟨-, rfl⟩ | ⟨-, rfl⟩ <;> decide

lemma eq_dot_of_begins {t : Spelling} (h : t.Begins '.') : t = punctuation .dot := by
  have hgroup := group?_of_begins h
  cases t with
  | punctuation p =>
    obtain rfl : p = .dot := Punctuation.char_injective h
    rfl
  | _ => cases hgroup

lemma eq_operator_of_begins {t : Spelling} {c : Char} (h : t.Begins c)
    (hc : group? c = some .operator) : ∃ op : Operator, t = operator op ∧ op.chars.head? = some c := by
  rw [group?_of_begins h] at hc
  cases t with
  | operator op => exact ⟨op, rfl, h⟩
  | _ => cases hc

/-- What begins a gap leaves every spelling as it is. -/
lemma stops_of_head_mem {rest : List Char}
    (h : ∀ c ∈ rest.head?, c ∈ '#' :: blankChars) (s : Spelling) :
    s.Stops rest := by
  intro c hc
  by_contra hjoins
  exact group?_ne_none_of_joins ((Bool.not_eq_false _).mp hjoins) (group?_eq_none (h c hc))

lemma glues_iff_joins {s t : Spelling} {c : Char} (h : t.Begins c) :
    s.Glues t ↔ s.joins c = true := by
  have hword : isWordChar c = true ↔ t.group ∈ [.word, .number] := by
    rw [isWordChar_iff_group?, group?_of_begins h]
    simp
  constructor
  · intro hglues
    cases hglues with
    | run hs ht =>
      cases s with
      | word _ _ | float _ _ _ _ => exact hword.2 ht
      | int _ _ => simp [joins, hword.2 ht]
      | string _ _ | operator _ | punctuation _ => revert hs; simp [group]
    | point =>
      obtain rfl : '.' = c := h
      rfl
    | comparison hop =>
      obtain rfl : '=' = c := Option.some.inj h
      exact Operator.joins_iff.2 (Or.inl ⟨hop, rfl⟩)
    | @arrow op hop =>
      have hc : '>' = c := by
        have hhead : op.chars.head? = some c := h
        rcases List.mem_cons.1 hop with rfl | hop
        · exact Option.some.inj hhead
        · obtain rfl := List.mem_singleton.1 hop
          exact Option.some.inj hhead
      exact Operator.joins_iff.2 (Or.inr ⟨rfl, hc.symm⟩)
  · intro hjoins
    cases s with
    | word _ _ => exact Glues.run (by simp [group]) (hword.1 hjoins)
    | float _ _ _ _ => exact Glues.run (by simp [group]) (hword.1 hjoins)
    | int digits _ =>
      rcases (Bool.or_eq_true _ _).mp hjoins with hc | hc
      · exact Glues.run (by simp [group]) (hword.1 hc)
      · rw [eq_of_beq hc] at h
        rw [eq_dot_of_begins h]
        exact Glues.point
    | string _ _ | punctuation _ => cases hjoins
    | operator op =>
      rcases Operator.joins_iff.1 hjoins with ⟨hop, rfl⟩ | ⟨rfl, rfl⟩
      · obtain ⟨op', rfl, hhead⟩ := eq_operator_of_begins h (by decide)
        obtain rfl : op' = .eq := by
          revert hhead
          cases op' <;> decide
        exact Glues.comparison hop
      · obtain ⟨op', rfl, hhead⟩ := eq_operator_of_begins h (by decide)
        have hop : op' ∈ [.gt, .gtEq] := by
          revert hhead
          cases op' <;> decide
        exact Glues.arrow hop

/-- **A pair glues exactly when the second spelling changes how the first one is read.** -/
theorem glues_iff {s t : Spelling} (rest : List Char) :
    s.Glues t ↔ ¬ s.Stops (t.text ++ rest) := by
  obtain ⟨c, tail, htext, hc⟩ := t.exists_begins
  rw [glues_iff_joins hc, htext, List.cons_append, stops_cons, Bool.not_eq_false]

end Spelling

/-! ## Layouts -/

/-- A gap between two spellings. -/
structure Gap where
  text : List Char
  isGap : IsGap text

/-- Spellings, each behind its gap, with what comes after the last of them.  A byte-order mark may
stand in front. -/
structure Layout where
  marked : Bool
  pieces : List (Gap × Spelling)
  last : List Char
  isLastGap : IsLastGap last

/-- The bytes that a token covers: its first one and the one behind it. -/
def Token.bytes (t : Token) : Nat × Nat :=
  (t.span.start.offset, t.span.stop)

@[simp] lemma Spelling.bytes_token (s : Spelling) (o : Options) (place : Position) :
    (s.token o place).bytes = (place.offset, place.offset + byteLength s.text) := rfl

namespace Layout

/-- The text of spellings and their gaps, up to the last gap. -/
def join : List (Gap × Spelling) → List Char → List Char
  | [], last => last
  | (gap, s) :: pieces, last => gap.text ++ (s.text ++ join pieces last)

/-- The tokens that spellings make, when the first gap begins at a place. -/
def read (o : Options) (place : Position) : List (Gap × Spelling) → List Token
  | [] => []
  | (gap, s) :: pieces =>
    s.token o (place.after gap.text) :: read o ((place.after gap.text).after s.text) pieces

/-- The byte spans of spellings and of the end of the text, when the first gap begins at an
offset. -/
def spans (offset : Nat) : List (Gap × Spelling) → List Char → List (Nat × Nat)
  | [], last => [(offset + byteLength last, offset + byteLength last)]
  | (gap, s) :: pieces, last =>
    let start := offset + byteLength gap.text
    let stop := start + byteLength s.text
    (start, stop) :: spans stop pieces last

/-- The mark in front of a layout. -/
def mark (l : Layout) : List Char :=
  if l.marked then ['\uFEFF'] else []

/-- The source that a layout spells. -/
def source (l : Layout) (file : String) : Source :=
  ⟨file, String.ofList (l.mark ++ join l.pieces l.last)⟩

/-- The tokens that a layout is put together from, with the end of the input. -/
def tokens (l : Layout) (o : Options) : List Token :=
  read o (firstLine l.mark) l.pieces ++
    [Token.atEnd ((firstLine l.mark).after (join l.pieces l.last))]

/-- No gluing pair touches. -/
def Separated (l : Layout) : Prop :=
  l.pieces.IsChain fun p q => q.1.text = [] → ¬ p.2.Glues q.2

/-! ### Reading a layout -/

variable {o : Options} {file : String} {pieces : List (Gap × Spelling)} {last : List Char}

lemma map_bytes_read (o : Options) (place : Position) (pieces : List (Gap × Spelling))
    (last : List Char) :
    (read o place pieces ++ [Token.atEnd (place.after (join pieces last))]).map Token.bytes =
      spans place.offset pieces last := by
  induction pieces generalizing place with
  | nil => simp [read, join, spans, Token.bytes, Token.atEnd]
  | cons p pieces ih =>
    obtain ⟨gap, s⟩ := p
    have hrest := ih ((place.after gap.text).after s.text)
    simp only [Position.offset_after] at hrest
    simp only [read, join, spans, List.cons_append, List.map_cons, Spelling.bytes_token,
      Position.offset_after, Position.after_append, hrest]

/-- In front of spellings with their gaps a spelling stops if it does not glue to the next one. -/
lemma stops_join_iff {s : Spelling} (hlast : IsLastGap last) :
    s.Stops (join pieces last) ↔ ∀ q ∈ pieces.head?, q.1.text = [] → ¬ s.Glues q.2 := by
  cases pieces with
  | nil => simpa [join] using Spelling.stops_of_head_mem hlast.head_mem s
  | cons q pieces =>
    obtain ⟨⟨gap, hgap⟩, t⟩ := q
    simp only [join, List.head?_cons, Option.mem_some, forall_eq']
    cases gap with
    | nil => simp [Spelling.glues_iff (join pieces last)]
    | cons c gap => simpa using Spelling.stops_of_head_mem hgap.head_mem s

/-- If no gluing pair touches, there is a run over the spellings. -/
lemma run_of_isChain (hlast : IsLastGap last)
    (h : pieces.IsChain fun p q => q.1.text = [] → ¬ p.2.Glues q.2) (place : Position) :
    Run o file ⟨place, join pieces last⟩
      ⟨read o place pieces, .ok (Token.atEnd (place.after (join pieces last)))⟩ := by
  induction pieces generalizing place with
  | nil => exact Run.finished hlast
  | cons p pieces ih =>
    obtain ⟨gap, s⟩ := p
    obtain ⟨hstops, hchain⟩ := List.isChain_cons.1 h
    have hrest := ih hchain ((place.after gap.text).after s.text)
    simpa [join, read, Pass.cons] using
      Run.read gap.isGap ((stops_join_iff hlast).2 hstops) hrest

lemma spans_ne_nil (offset : Nat) : spans offset pieces last ≠ [] := by
  cases pieces <;> exact List.cons_ne_nil _ _

/-- If a run reads the spellings in their places, no gluing pair touches. -/
lemma isChain_of_run (hlast : IsLastGap last) {place : Position} {pass : Pass} {ts : List Token}
    (h : Run o file ⟨place, join pieces last⟩ pass) (htokens : pass.tokens = .ok ts)
    (hspans : ts.map Token.bytes = spans place.offset pieces last) :
    pieces.IsChain fun p q => q.1.text = [] → ¬ p.2.Glues q.2 := by
  -- by induction on the pieces; each of them takes a step of the run
  induction pieces generalizing place pass ts with
  | nil => exact List.isChain_nil
  | cons p pieces ih =>
    obtain ⟨gap, s⟩ := p
    obtain ⟨final, hfinal, rfl⟩ := Pass.tokens_eq_ok_iff.1 htokens
    rcases h.inversion with ⟨-, rfl⟩ | ⟨gap', s', rest, pass', hjoin, -, hstops, hrest, rfl⟩ |
      ⟨_, _, _, _, -, -, -, rfl⟩
    · -- a single token cannot have the spans of two
      simp only [List.nil_append, List.map_cons, List.map_nil, spans] at hspans
      exact absurd (List.cons.inj hspans).2.symm (spans_ne_nil _)
    · simp only [Pass.read_cons, List.cons_append, List.map_cons, spans, Spelling.bytes_token,
        Position.offset_after] at hspans
      obtain ⟨hfirst, hothers⟩ := List.cons.inj hspans
      obtain ⟨hstart, hstop⟩ := Prod.mk.inj hfirst
      -- the same bytes in front and the same bytes taken: the same gap and the same spelling
      obtain ⟨hgap, hfront⟩ := append_inj_of_byteLength hjoin (by omega)
      obtain ⟨hs, rfl⟩ := append_inj_of_byteLength hfront (by omega)
      obtain rfl := Spelling.text_injective hs
      refine List.isChain_cons.2 ⟨(stops_join_iff hlast).1 hstops, ?_⟩
      refine ih hrest (Pass.tokens_eq_ok_iff.2 ⟨final, hfinal, rfl⟩) ?_
      rw [hothers, Position.offset_after, Position.offset_after, hgap]
    · cases hfinal

/-- A layout does not begin with a byte-order mark of its own. -/
lemma head?_join_ne (hlast : IsLastGap last) : (join pieces last).head? ≠ some '\uFEFF' := by
  have hblank : '\uFEFF' ∉ '#' :: blankChars := by decide
  cases pieces with
  | nil => exact fun h => hblank (hlast.head_mem _ h)
  | cons p pieces =>
    obtain ⟨⟨gap, hgap⟩, s⟩ := p
    cases gap with
    | nil =>
      obtain ⟨c, tail, htext, hc⟩ := s.exists_begins
      simp only [join, List.nil_append, htext, List.cons_append, List.head?_cons]
      exact fun h => Spelling.ne_of_begins hc (by decide) (Option.some.inj h)
    | cons c gap => exact fun h => hblank (hgap.head_mem _ h)

lemma mark_mem (l : Layout) : l.mark ∈ marks := by
  rw [mark]
  split_ifs
  · exact List.mem_cons_of_mem _ (List.mem_singleton_self _)
  · exact List.mem_cons_self

lemma run_source (l : Layout) (o : Options) (file : String) :
    Run o file ⟨firstLine l.mark, join l.pieces l.last⟩ ((l.source file).pass o) := by
  have hrun := run_walk o file ⟨firstLine l.mark, join l.pieces l.last⟩
  have hpass : (l.source file).pass o = _ :=
    Source.pass_eq_of_run l.mark_mem (fun _ => head?_join_ne l.isLastGap) String.toList_ofList hrun
  rw [hpass]
  exact hrun

end Layout

/-- **A layout is read back exactly when no gluing pair touches.**  It is then split into the tokens
that it was put together from; and already the byte spans of these tokens are met only then. -/
theorem lex_layout_iff (l : Layout) (o : Options) (file : String) :
    ((l.source file).lex o = .ok (l.tokens o) ↔ l.Separated) ∧
      ((∃ ts, (l.source file).lex o = .ok ts ∧
          ts.map Token.bytes = Layout.spans (byteLength l.mark) l.pieces l.last) ↔ l.Separated) := by
  have hspans : (l.tokens o).map Token.bytes =
      Layout.spans (byteLength l.mark) l.pieces l.last :=
    Layout.map_bytes_read o (firstLine l.mark) l.pieces l.last
  have hlex : l.Separated → (l.source file).lex o = .ok (l.tokens o) := by
    intro h
    have hrun : Run o file ⟨firstLine l.mark, _⟩ _ :=
      Layout.run_of_isChain l.isLastGap h (firstLine l.mark)
    rw [Source.lex, ← (l.run_source o file).walk_eq, hrun.walk_eq]
    rfl
  have hseparated : ∀ ts, (l.source file).lex o = .ok ts →
      ts.map Token.bytes = Layout.spans (byteLength l.mark) l.pieces l.last → l.Separated := by
    intro ts hts hbytes
    exact Layout.isChain_of_run l.isLastGap (l.run_source o file) hts hbytes
  refine ⟨⟨fun h => hseparated _ h hspans, hlex⟩, ?_, fun h => ⟨_, hlex h, hspans⟩⟩
  rintro ⟨ts, hts, hbytes⟩
  exact hseparated ts hts hbytes

end QueryLexer
