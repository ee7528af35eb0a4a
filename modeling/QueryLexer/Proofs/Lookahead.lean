/-
# One byte of lookahead

A text is read from front to back, and the end of a token is known once the byte behind it is.  So
two sources that begin with the same bytes give the same tokens, as long as these stop in front of
the last of those bytes, whatever follows and however the passes end.  The bytes need not end with
a whole character.  The main statements are

* `AgreeOn.exists_append`: texts that agree on some bytes begin with the same characters, as far as
  these are whole;
* `Run.filter_emitted_prefix`: a walk over such a text emits the same tokens in the same order;
* `emitted_causal`: the same for the passes over two sources.
-/
import QueryLexer.Proofs.Places

namespace QueryLexer

open Trivia (IsGap)

/-! ## Texts with the same first bytes -/

/-- Two texts agree on their first `n` bytes.  A shorter text counts with all its bytes. -/
def AgreeOn (n : Nat) (text text' : List Char) : Prop :=
  text.utf8Encode.extract 0 n = text'.utf8Encode.extract 0 n

lemma size_utf8Encode (text : List Char) : text.utf8Encode.size = byteLength text := by
  rw [← String.toByteArray_ofList, String.size_toByteArray, utf8ByteSize_ofList]

lemma extract_utf8Encode_append {n : Nat} {part : List Char} (hn : byteLength part ≤ n)
    (rest : List Char) :
    (part ++ rest).utf8Encode.extract 0 n =
      part.utf8Encode ++ rest.utf8Encode.extract 0 (n - byteLength part) := by
  rw [List.utf8Encode_append, ByteArray.extract_append, Nat.zero_sub]
  rw [← size_utf8Encode] at hn ⊢
  have hpart : part.utf8Encode.extract 0 n = part.utf8Encode := by
    rw [← Nat.max_eq_left hn, ByteArray.extract_zero_max_size]
  rw [hpart]

namespace AgreeOn

variable {n : Nat} {part rest text text' : List Char}

lemma symm (h : AgreeOn n text text') : AgreeOn n text' text :=
  Eq.symm h

lemma append (part rest : List Char) :
    AgreeOn (byteLength part) part (part ++ rest) := by
  have hpart := extract_utf8Encode_append (Nat.le_refl (byteLength part)) []
  have hrest := extract_utf8Encode_append (Nat.le_refl (byteLength part)) rest
  rw [List.append_nil] at hpart
  rw [AgreeOn, hpart, hrest, Nat.sub_self]
  simp

/-- **Texts that agree on some bytes begin with the same characters**, and behind them they agree
on the bytes that are left. -/
theorem exists_append (h : AgreeOn n (part ++ rest) text') (hn : byteLength part ≤ n) :
    ∃ rest', text' = part ++ rest' ∧ AgreeOn (n - byteLength part) rest rest' := by
  have hfirst : part.utf8Encode ++ rest.utf8Encode.extract 0 (n - byteLength part) =
      text'.utf8Encode.extract 0 n := by
    rw [← extract_utf8Encode_append hn]
    exact h
  have hbytes : part.utf8Encode ++ (rest.utf8Encode.extract 0 (n - byteLength part) ++
      text'.utf8Encode.extract n (max n text'.utf8Encode.size)) = text'.utf8Encode := by
    rw [← ByteArray.append_assoc, hfirst, ← ByteArray.extract_eq_extract_append_extract n
      (Nat.zero_le n) (Nat.le_max_left _ _), ByteArray.extract_zero_max_size]
  obtain ⟨rest', rfl⟩ := List.isPrefix_of_utf8Encode_append_eq_utf8Encode _ hbytes
  rw [extract_utf8Encode_append hn] at hfirst
  exact ⟨rest', rfl, (ByteArray.append_right_inj _).1 hfirst⟩

/-- A text that is over is not mistaken for one that goes on. -/
lemma eq_nil (h : AgreeOn n [] text) (hn : 0 < n) : text = [] := by
  have hempty : text.utf8Encode.extract 0 n = ByteArray.empty := by
    rw [← show AgreeOn n [] text from h, List.utf8Encode_nil, ByteArray.extract_eq_empty_iff]
    exact Nat.min_le_right n 0
  rw [ByteArray.extract_eq_empty_iff] at hempty
  rw [← List.utf8Encode_eq_empty, ← ByteArray.size_eq_zero_iff]
  omega

end AgreeOn

/-! ## Spellings that stop -/

lemma utf8Size_of_isWordChar {c : Char} (h : isWordChar c = true) : c.utf8Size = 1 := by
  rw [isWordChar_eq, Bool.or_eq_true] at h
  rcases h with hword | hdigit
  · exact utf8Size_of_isWordStart hword
  · rw [Char.utf8Size_eq_one_iff, UInt32.le_iff_toNat_le]
    have hcode : c.val.toNat ≤ 57 := (Char.isDigit_iff_toNat.1 hdigit).2
    exact Nat.le_trans hcode (by decide)

lemma Spelling.utf8Size_of_joins {s : Spelling} {c : Char} (h : s.joins c = true) :
    c.utf8Size = 1 := by
  cases s with
  | word _ _ | float _ _ _ _ => exact utf8Size_of_isWordChar h
  | int _ _ =>
    have hc : isWordChar c = true ∨ c = '.' := by simpa [joins] using h
    rcases hc with hword | rfl
    · exact utf8Size_of_isWordChar hword
    · rfl
  | string _ _ | punctuation _ => cases h
  | operator op => rcases Operator.joins_iff.1 h with ⟨-, rfl⟩ | ⟨-, rfl⟩ <;> rfl

/-- **One byte decides whether a spelling stops.** -/
theorem Spelling.Stops.of_agreeOn {s : Spelling} {n : Nat} {rest rest' : List Char}
    (hstops : s.Stops rest) (h : AgreeOn n rest rest') (hn : 0 < n) : s.Stops rest' := by
  intro c hc
  by_contra hjoins
  rw [Bool.not_eq_false] at hjoins
  -- a character that joins is a single byte, so the other text begins with it too
  obtain ⟨tail, rfl⟩ := List.head?_eq_some_iff.1 hc
  have hagree : AgreeOn n ([c] ++ tail) rest := h.symm
  have hsize : byteLength [c] ≤ n := by
    rw [byteLength_cons, utf8Size_of_joins hjoins]
    exact hn
  obtain ⟨after, rfl, -⟩ := hagree.exists_append hsize
  have hnot := hstops c rfl
  rw [hjoins] at hnot
  cases hnot

/-! ## Emitted tokens -/

/-- The tokens that a pass emits: those that it returns or, if it fails, those that it read before
the error. -/
def Pass.emitted (p : Pass) : List Token :=
  match p.tokens with
  | .ok ts => ts
  | .error _ => p.read

namespace Pass

@[simp] lemma emitted_cons (t : Token) (p : Pass) : (p.cons t).emitted = t :: p.emitted := by
  obtain ⟨read, ending⟩ := p
  cases ending <;> rfl

lemma mem_emitted {p : Pass} {t : Token} (h : t ∈ p.emitted) : t ∈ p.read ∨ p.ending = .ok t := by
  obtain ⟨read, ending⟩ := p
  cases ending with
  | ok last => simpa [emitted, tokens, Except.map, eq_comm] using h
  | error e => exact Or.inl h

end Pass

variable {o : Options} {file : String}

lemma Run.offset_le_stop {c : Cursor} {pass : Pass} (h : Run o file c pass) {t : Token}
    (ht : t ∈ pass.emitted) : c.place.offset ≤ t.span.stop := by
  rcases Pass.mem_emitted ht with hread | hlast
  · obtain ⟨before, s, rest, -, -, rfl⟩ := h.exists_of_mem hread
    simp only [Spelling.token, Span.of, Position.offset_after]
    omega
  · rw [h.ending_eq hlast]
    simp only [Token.atEnd, Position.offset_after]
    omega

lemma Run.filter_emitted_eq_nil {c : Cursor} {pass : Pass} (h : Run o file c pass) {n : Nat}
    (hn : n ≤ c.place.offset) : pass.emitted.filter (·.span.stop < n) = [] := by
  rw [List.filter_eq_nil_iff]
  intro t ht
  have := h.offset_le_stop ht
  rw [decide_eq_true_eq]
  omega

/-- **A walk over a text that begins like the text of a run emits the same tokens.**  The run and
the walk may belong to sources of different names. -/
theorem Run.filter_emitted_prefix {c : Cursor} {pass : Pass} (h : Run o file c pass) {n : Nat}
    {text : List Char} (hagree : AgreeOn (n - c.place.offset) c.rest text) (file' : String) :
    pass.emitted.filter (·.span.stop < n) <+:
      ((Cursor.mk c.place text).walk o file').emitted := by
  -- by induction on the run; the walk takes the same steps as long as tokens stop in time
  induction h generalizing text with
  | @finished place gap hgap =>
    show [Token.atEnd (place.after gap)].filter _ <+: _
    have hend := Position.offset_after place gap
    by_cases hlt : (place.after gap).offset < n
    · -- the bytes reach behind the end of the text, so the other text ends there too
      have hgap' : AgreeOn (n - place.offset) (gap ++ []) text := by
        rw [List.append_nil]
        exact hagree
      obtain ⟨rest, rfl, hrest⟩ := hgap'.exists_append (by omega)
      obtain rfl := hrest.eq_nil (by omega)
      rw [List.append_nil, Cursor.walk_finished (step_of_isLastGap hgap),
        List.filter_cons_of_pos (by simpa [Token.atEnd] using hlt)]
      exact List.prefix_refl _
    · rw [List.filter_cons_of_neg (by simpa [Token.atEnd] using hlt)]
      exact List.nil_prefix
  | @read place gap rest s pass hgap hstops hrun ih =>
    have hstop : (s.token o (place.after gap)).span.stop = ((place.after gap).after s.text).offset :=
      Span.stop_of _ _
    have hend : ((place.after gap).after s.text).offset =
        place.offset + byteLength (gap ++ s.text) := by
      rw [← Position.after_append, Position.offset_after]
    rw [Pass.emitted_cons]
    by_cases hlt : ((place.after gap).after s.text).offset < n
    · -- the bytes reach behind the token, so it stands in the other text and stops there
      have htext : AgreeOn (n - place.offset) ((gap ++ s.text) ++ rest) text := by
        rw [List.append_assoc]
        exact hagree
      obtain ⟨rest', rfl, hrest⟩ := htext.exists_append (by omega)
      rw [Nat.sub_sub, ← hend] at hrest
      have hstops' : s.Stops rest' := hstops.of_agreeOn hrest (by omega)
      rw [List.filter_cons_of_pos (by rw [hstop]; exact decide_eq_true hlt), List.append_assoc,
        Cursor.walk_read (step_of_stops hgap hstops'), Pass.emitted_cons, List.cons_prefix_cons]
      exact ⟨rfl, ih hrest⟩
    · have hnone := hrun.filter_emitted_eq_nil (Nat.le_of_not_lt hlt)
      rw [List.filter_cons_of_neg (by rw [hstop]; simpa using hlt), hnone]
      exact List.nil_prefix
  | failed _ _ => exact List.nil_prefix

/-! ## Sources -/

/-- A pass emits the tokens of another one, as far as these stop in front of the last of the bytes
that the two sources begin with. -/
lemma Source.filter_emitted_prefix {src src' : Source} {n : Nat}
    (h : AgreeOn n src.text.toList src'.text.toList) (o : Options) :
    (src.pass o).emitted.filter (·.span.stop < n) <+: (src'.pass o).emitted := by
  obtain ⟨mark, hmark, rest, htext, -, hrun⟩ := src.exists_marked_run o
  by_cases hn : n ≤ byteLength mark
  · rw [hrun.filter_emitted_eq_nil hn]
    exact List.nil_prefix
  rw [htext] at h
  obtain ⟨rest', htext', hagree⟩ := h.exists_append (Nat.le_of_not_le hn)
  have hprefix := hrun.filter_emitted_prefix hagree src'.file
  by_cases hmarked : mark = [] ∧ rest'.head? = some '\uFEFF'
  · -- only the other source begins with a mark, and no token stands where a mark is not skipped
    obtain ⟨-, hhead⟩ := hmarked
    obtain ⟨tail, rfl⟩ := List.head?_eq_some_iff.1 hhead
    have hfailed : (Cursor.mk (firstLine mark) ('\uFEFF' :: tail)).step o src'.file = _ :=
      step_of_fault IsGap.nil (fault_mark tail)
    rw [Cursor.walk_failed hfailed] at hprefix
    rw [List.prefix_nil.1 hprefix]
    exact List.nil_prefix
  · have hstart : mark = [] → rest'.head? ≠ some '\uFEFF' := fun hnil hhead => hmarked ⟨hnil, hhead⟩
    have hpass : src'.pass o = (Cursor.mk (firstLine mark) rest').walk o src'.file := by
      rw [Source.pass, htext', start_append hmark hstart]
    rw [hpass]
    exact hprefix

/-- **The tokens of two sources that begin with the same bytes are the same**, as far as they stop
in front of the last of these bytes. -/
theorem emitted_causal (src src' : Source) (o : Options) {n : Nat}
    (h : src.text.toUTF8.extract 0 n = src'.text.toUTF8.extract 0 n) :
    (src.pass o).emitted.filter (·.span.stop < n) =
      (src'.pass o).emitted.filter (·.span.stop < n) := by
  have hagree : AgreeOn n src.text.toList src'.text.toList := by
    rw [AgreeOn, String.utf8Encode_toList, String.utf8Encode_toList]
    exact h
  have hprefix := (Source.filter_emitted_prefix hagree o).filter (·.span.stop < n)
  have hprefix' := (Source.filter_emitted_prefix hagree.symm o).filter (·.span.stop < n)
  simp only [List.filter_filter, Bool.and_self] at hprefix hprefix'
  exact hprefix.eq_of_length_le hprefix'.length_le

/-- Two accented letters begin with the same byte.  A literal with one of them is closed, and a
literal with the other one is not; the word in front of them is emitted either way. -/
theorem causal_accented_letters :
    "x \"é\"".toUTF8.extract 0 4 = "x \"è".toUTF8.extract 0 4 ∧
      (Source.mk "text" "x \"é\"").lex {} =
        .ok [⟨.identifier, "x", ⟨⟨1, 1, 0⟩, 1⟩⟩, ⟨.stringLiteral "é", "é", ⟨⟨1, 3, 2⟩, 6⟩⟩,
          Token.atEnd ⟨1, 6, 6⟩] ∧
      (Source.mk "text" "x \"è").lex {} =
        .error ⟨.unterminatedString, ⟨⟨1, 3, 2⟩, 5⟩, "text", "\"è"⟩ ∧
      ((Source.mk "text" "x \"é\"").pass {}).emitted.filter (·.span.stop < 4) =
        [⟨.identifier, "x", ⟨⟨1, 1, 0⟩, 1⟩⟩] ∧
      ((Source.mk "text" "x \"é\"").pass {}).emitted.filter (·.span.stop < 4) =
        ((Source.mk "text" "x \"è").pass {}).emitted.filter (·.span.stop < 4) := by
  have hbytes : "x \"é\"".toUTF8.extract 0 4 = "x \"è".toUTF8.extract 0 4 := by
    decide +kernel
  have hword : (Cursor.start "x \"é\"".toList).step {} "text" =
      .read ⟨.identifier, "x", ⟨⟨1, 1, 0⟩, 1⟩⟩ ⟨⟨1, 2, 1⟩, [' ', '"', 'é', '"']⟩ := by
    rfl
  have hliteral : (Cursor.mk ⟨1, 2, 1⟩ [' ', '"', 'é', '"']).step {} "text" =
      .read ⟨.stringLiteral "é", "é", ⟨⟨1, 3, 2⟩, 6⟩⟩ ⟨⟨1, 6, 6⟩, []⟩ := by
    rfl
  have hend : (Cursor.mk ⟨1, 6, 6⟩ []).step {} "text" = .finished (Token.atEnd ⟨1, 6, 6⟩) := by
    rfl
  have hword' : (Cursor.start "x \"è".toList).step {} "text" =
      .read ⟨.identifier, "x", ⟨⟨1, 1, 0⟩, 1⟩⟩ ⟨⟨1, 2, 1⟩, [' ', '"', 'è']⟩ := by
    rfl
  have hopen : (Cursor.mk ⟨1, 2, 1⟩ [' ', '"', 'è']).step {} "text" =
      .failed ⟨.unterminatedString, ⟨⟨1, 3, 2⟩, 5⟩, "text", "\"è"⟩ := by
    rfl
  have hpass : (Source.mk "text" "x \"é\"").pass {} =
      ⟨[⟨.identifier, "x", ⟨⟨1, 1, 0⟩, 1⟩⟩, ⟨.stringLiteral "é", "é", ⟨⟨1, 3, 2⟩, 6⟩⟩],
        .ok (Token.atEnd ⟨1, 6, 6⟩)⟩ := by
    rw [Source.pass, Cursor.walk_read hword, Cursor.walk_read hliteral, Cursor.walk_finished hend]
    rfl
  have hpass' : (Source.mk "text" "x \"è").pass {} =
      ⟨[⟨.identifier, "x", ⟨⟨1, 1, 0⟩, 1⟩⟩],
        .error ⟨.unterminatedString, ⟨⟨1, 3, 2⟩, 5⟩, "text", "\"è"⟩⟩ := by
    rw [Source.pass, Cursor.walk_read hword', Cursor.walk_failed hopen]
    rfl
  refine ⟨hbytes, ?_, ?_, ?_, emitted_causal ⟨_, _⟩ ⟨_, _⟩ {} hbytes⟩
  · rw [Source.lex, hpass]
    rfl
  · rw [Source.lex, hpass']
    rfl
  · rw [hpass]
    rfl

end QueryLexer
