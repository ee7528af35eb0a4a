/-
# Slices on the boundaries of characters

The reader by bytes comes to what the reader by characters does.  It stands at the beginning of a
character wherever it takes a slice, and at the end of one wherever a slice ends, although between
two slices it passes through the middle of characters.  So no slice is undefined, and where an
unexpected character is looked for, there is one.  The main statements are

* `Bytewise.step_eq`: a step over bytes is a step over characters;
* `Source.bytewisePass_eq`: so the pass over a source is the same;
* `slice?_isSome_iff`: a slice is defined exactly between boundaries of characters, in order;
* `lex_boundaries`: tokens, bodies of literals and errors begin and end on such boundaries.
-/
import QueryLexer.Proofs.ByteLoops
import QueryLexer.Proofs.LongestMatch
import QueryLexer.Proofs.Places

namespace QueryLexer

namespace Bytewise

variable {src : Source} {o : Options} {place : Position} {rest : List Char}

/-! ## Tokens -/

/-- What a scan of the front of a text comes to at a place. -/
def Move.ofScan (src : Source) (place : Position) (rest : List Char) : Scan → Move
  | .atEnd => .finished (Token.atEnd place)
  | .accept kind lexeme _ =>
    let written := kind.written lexeme
    .read ⟨kind, String.ofList lexeme, Span.of place written⟩ (place.after written)
  | .reject kind taken => .failed ⟨kind, Span.of place taken, src.file, String.ofList rest⟩

/-- A token is finished with the slice that it covers. -/
lemma finish_eq {kind : TokenKind} {lexeme after : List Char}
    (h : GoesOn src.text place (lexeme ++ after)) (hkind : kind.written lexeme = lexeme) :
    finish src kind place (place.after lexeme) =
      some (.ofScan src place rest (.accept kind lexeme after)) := by
  rw [finish, Position.offset_after, h.slice]
  simp [Move.ofScan, hkind, Span.of]

lemma fail_eq {kind : SyntaxErrorKind} {taken : List Char} (h : GoesOn src.text place rest)
    {stop : Nat} (hstop : stop = place.offset + byteLength taken) :
    fail src kind place stop = some (.ofScan src place rest (.reject kind taken)) := by
  rw [fail, h.slice_rest, hstop]
  rfl

lemma readWord_eq (h : GoesOn src.text place rest) :
    readWord src o place = some (.ofScan src place rest (Scan.word o rest)) := by
  have hword := skipWhile_eq isByteClass_isWordChar h
  have htext : GoesOn src.text place (rest.takeWhile isWordChar ++ rest.dropWhile isWordChar) := by
    rwa [List.takeWhile_append_dropWhile]
  rw [readWord, hword, Position.offset_after, htext.slice]
  exact finish_eq htext (Scan.wordKind_written o _ _)

lemma closeNumber_eq {kind : TokenKind} {lexeme after : List Char}
    (h : GoesOn src.text place (lexeme ++ after)) (hkind : kind.written lexeme = lexeme) :
    closeNumber src kind place (place.after lexeme) =
      some (.ofScan src place (lexeme ++ after) (Scan.closeNumber kind lexeme after)) := by
  have hany := h.after.any_peek isByteClass_isWordStart
  cases after with
  | nil =>
    rw [closeNumber, hany]
    exact finish_eq h hkind
  | cons c after =>
    have hany : ((place.after lexeme).peek src.text).any isWordStart = isWordStart c := hany
    by_cases hc : isWordStart c = true
    · have hnarrow := not_isWide_of_isWordChar (Scan.isWordChar_of_isWordStart hc)
      rw [closeNumber, hany, if_pos hc, Scan.closeNumber_reject hc, h.after.advance_eq hnarrow]
      exact fail_eq h (by simp [Nat.add_assoc])
    · rw [closeNumber, hany, if_neg hc, Scan.closeNumber_accept (by simpa using hc)]
      exact finish_eq h hkind

lemma exists_digits {text : List Char} (h : text.head?.any Char.isDigit = true) :
    ∃ digits after, text = digits ++ after ∧ IsDigits digits ∧
      ∀ c ∈ after.head?, c.isDigit = false := by
  refine ⟨text.takeWhile Char.isDigit, text.dropWhile Char.isDigit,
    List.takeWhile_append_dropWhile.symm, ⟨?_, fun _ => List.mem_takeWhile_imp⟩,
    not_head_dropWhile _ _⟩
  cases text with
  | nil => cases h
  | cons c text => simpa using h

/-- Behind digits and a point, the next byte decides whether the point belongs to the number. -/
lemma readNumber_point {digits tail : List Char} (hdigits : IsDigits digits)
    (h : GoesOn src.text place (digits ++ '.' :: tail)) :
    readNumber src place =
      if tail.head?.any Char.isDigit then
        closeNumber src .floatLiteral place
          (place.after (digits ++ '.' :: tail.takeWhile Char.isDigit))
      else fail src .malformedNumber place (place.after (digits ++ ['.'])).offset := by
  have hstop := skipWhile_eq isByteClass_isDigit h
  rw [takeWhile_run hdigits.2 (Spelling.point_not_digit tail)] at hstop
  have hpoint : GoesOn src.text (place.after digits) ('.' :: tail) := h.after
  have hpeek := (hpoint.peek_eq_some_iff (by decide)).2 rfl
  have hadvance := hpoint.advance_eq (by decide)
  have hnext : ((place.after digits).peekNext src.text).any Char.isDigit =
      tail.head?.any Char.isDigit := by
    rw [hpoint.peekNext_eq (by decide), ← hpoint.next.peek_eq,
      hpoint.next.any_peek isByteClass_isDigit]
  simp only [readNumber, hstop, hpeek, hnext, hadvance, if_true,
    skipWhile_eq isByteClass_isDigit hpoint.next, Position.after_append, Position.after_cons,
    Position.after_nil]

lemma readNumber_eq {digits after : List Char} (hdigits : IsDigits digits)
    (hafter : ∀ c ∈ after.head?, c.isDigit = false)
    (h : GoesOn src.text place (digits ++ after)) :
    readNumber src place =
      some (.ofScan src place (digits ++ after) (Scan.number (digits ++ after))) := by
  by_cases hpoint : after.head? = some '.'
  · obtain ⟨tail, rfl⟩ := List.head?_eq_some_iff.1 hpoint
    rw [readNumber_point hdigits h]
    by_cases hdigit : tail.head?.any Char.isDigit = true
    · obtain ⟨fraction, more, rfl, hfraction, hmore⟩ := exists_digits hdigit
      have hall : digits ++ '.' :: (fraction ++ more) = (digits ++ '.' :: fraction) ++ more := by
        simp
      rw [if_pos hdigit, Scan.number_fraction hdigits hfraction hmore,
        takeWhile_run hfraction.2 hmore]
      rw [hall] at h ⊢
      exact closeNumber_eq h rfl
    · have hrest : ∀ c ∈ tail.head?, c.isDigit = false := by
        intro c hc
        simpa [Option.mem_def.1 hc] using hdigit
      rw [if_neg hdigit, Scan.number_point hdigits hrest, Position.offset_after]
      exact fail_eq h rfl
  · have hstop := skipWhile_eq isByteClass_isDigit h
    rw [takeWhile_run hdigits.2 hafter] at hstop
    have hpeek := mt (h.after.peek_eq_some_iff (by decide)).1 hpoint
    have hnone : ∀ c ∈ after.head?, c ≠ '.' := by
      rintro c hc rfl
      exact hpoint hc
    simp only [readNumber, hstop]
    rw [if_neg hpeek, Scan.number_whole hdigits hafter hnone]
    exact closeNumber_eq h rfl

lemma readString_eq (h : GoesOn src.text place ('"' :: rest)) :
    readString src place = some (.ofScan src place ('"' :: rest) (Scan.string rest)) := by
  have hstart := h.advance_eq (by decide)
  have hstop := literalEnd_eq h.next
  cases hsplit : StringLiteral.splitBody? rest with
  | some split =>
    obtain ⟨body, after⟩ := split
    obtain rfl := StringLiteral.splitBody?_eq_some hsplit
    rw [StringLiteral.stretch_of_some hsplit] at hstop
    have hclose : GoesOn src.text ((place.next '"').after body) ('"' :: after) := h.next.after
    have hpeek := (hclose.peek_eq_some_iff (by decide)).2 rfl
    have hadvance := hclose.advance_eq (by decide)
    have hslice := h.next.slice
    rw [← Position.offset_after] at hslice
    have hplace : ((place.next '"').after body).next '"' = place.after ('"' :: (body ++ ['"'])) := by
      simp
    simp only [readString, hstart, hstop, hpeek, if_true, hslice, hadvance, Scan.string, hsplit]
    rw [hplace, ← Span.stop_of, Option.bind_eq_bind, Option.bind_some, String.toList_ofList]
    rfl
  | none =>
    rw [StringLiteral.stretch_of_none hsplit] at hstop
    obtain ⟨line, after, rfl, hline, hafter⟩ := exists_line rest
    have hall : ∀ c ∈ line, (c != '\n') = true := by
      intro c hc
      rw [bne_iff_ne]
      rintro rfl
      exact hline hc
    have htake : (line ++ after).takeWhile (· != '\n') = line :=
      takeWhile_run hall (by simpa using hafter)
    rw [htake] at hstop
    have hpeek : ¬ ((place.next '"').after line).peek src.text = some '"' := by
      rw [h.next.after.peek_eq_some_iff (by decide)]
      intro hhead
      exact absurd (hafter _ hhead) (by decide)
    simp only [readString, hstart, hstop, Scan.string, hsplit, htake]
    rw [if_neg hpeek]
    refine fail_eq h ?_
    rw [← Position.after_cons, Position.offset_after]

/-- The characters of operators and punctuation marks are single bytes. -/
lemma not_isWide_of_mem_chars {op : Operator} {c : Char} (h : c ∈ op.chars) : ¬ IsWide c := by
  have hall : op.chars.all (fun c => !decide (IsWide c)) = true := by cases op <;> rfl
  simpa using List.all_eq_true.1 hall c h

lemma not_isWide_char (p : Punctuation) : ¬ IsWide p.char := by
  cases p <;> decide

lemma not_isWide_of_isStart {c : Char} (h : Operator.isStart c = true) : ¬ IsWide c := by
  obtain ⟨op, hop⟩ := Operator.isStart_iff.1 h
  exact not_isWide_of_mem_chars (List.mem_of_head? hop)

lemma isByteClass_isStart : IsByteClass Operator.isStart :=
  .of_forall_wide fun _ hc => (Bool.not_eq_true _).mp fun h => not_isWide_of_isStart h hc

/-- The byte behind a character tells whether they make an operator. -/
lemma double?_map_lead (c : Char) (next : Option Char) :
    Operator.double? c (next.map lead) = Operator.double? c next := by
  ext op
  rw [Operator.double?_eq_some_iff, Operator.double?_eq_some_iff]
  refine exists_congr fun d => and_congr_left fun hchars => ?_
  have hmem : d ∈ op.chars := by simp [hchars]
  exact map_lead_eq_some_iff (not_isWide_of_mem_chars hmem)

lemma readOperator_eq {c : Char} (hc : Operator.isStart c = true)
    (h : GoesOn src.text place (c :: rest)) :
    readOperator src c place = some (.ofScan src place (c :: rest) (Scan.operator c rest)) := by
  have hnarrow := not_isWide_of_isStart hc
  have hfirst : place.advance src.text = place.next c := h.advance_eq hnarrow
  rw [readOperator, h.peekNext_eq hnarrow, double?_map_lead, hfirst]
  cases hdouble : Operator.double? c rest.head? with
  | some op =>
    obtain ⟨d, hd, hchars⟩ := Operator.double?_eq_some_iff.1 hdouble
    obtain ⟨after, rfl⟩ := List.head?_eq_some_iff.1 hd
    have hmem : d ∈ op.chars := by simp [hchars]
    have hsecond := h.next.advance_eq (not_isWide_of_mem_chars hmem)
    have hgoes : GoesOn src.text place ([c, d] ++ after) := h
    have hplace : (place.next c).next d = place.after [c, d] := rfl
    simp only [hsecond, hplace, Scan.operator_double hdouble]
    exact finish_eq hgoes rfl
  | none =>
    have hgoes : GoesOn src.text place ([c] ++ rest) := h
    have hplace : place.next c = place.after [c] := rfl
    simp only [hplace, Scan.operator_single hdouble]
    exact finish_eq hgoes rfl

lemma readSymbol_eq {c : Char} (h : GoesOn src.text place (c :: rest)) :
    readSymbol src (lead c) place = some (.ofScan src place (c :: rest) (Scan.symbol c rest)) := by
  have hmark : Punctuation.ofChar? (lead c) = Punctuation.ofChar? c := by
    ext p
    rw [Punctuation.ofChar?_eq_some_iff, Punctuation.ofChar?_eq_some_iff, eq_comm,
      lead_eq_iff (not_isWide_char p), eq_comm]
  rw [readSymbol, isByteClass_isStart.lead, hmark, Scan.symbol]
  split_ifs with hstart
  · rw [(lead_eq_iff (not_isWide_of_isStart hstart)).2 rfl]
    exact readOperator_eq hstart h
  · cases hp : Punctuation.ofChar? c with
    | some p =>
      obtain rfl := Punctuation.ofChar?_eq_some_iff.1 hp
      have hadvance := h.advance_eq (not_isWide_char p)
      have hgoes : GoesOn src.text place ([p.char] ++ rest) := h
      have hplace : place.next p.char = place.after [p.char] := rfl
      simp only [hadvance, hplace]
      exact finish_eq hgoes rfl
    | none =>
      have hfail : fail src (.unexpectedCharacter c) place (place.offset + c.utf8Size) =
          some (.ofScan src place (c :: rest) (.reject (.unexpectedCharacter c) [c])) :=
        fail_eq h (by simp)
      simp only [h.slice_rest, Option.bind_eq_bind, Option.bind_some, String.toList_ofList,
        List.head?_cons]
      exact hfail

/-! ## Steps -/

lemma readToken_eq (h : GoesOn src.text place rest) :
    readToken src o place = some (.ofScan src place rest (scan o rest)) := by
  rw [readToken, h.peek_eq]
  cases rest with
  | nil => rfl
  | cons c rest =>
    simp only [List.head?_cons, Option.map_some, scan, isByteClass_isWordStart.lead,
      isByteClass_isDigit.lead, beq_iff_eq, lead_eq_iff (show ¬ IsWide '"' by decide)]
    split_ifs with hword hdigit hquote
    · exact readWord_eq h
    · have hhead : (c :: rest).head?.any Char.isDigit = true := hdigit
      obtain ⟨digits, after, htext, hdigits, hafter⟩ := exists_digits hhead
      rw [htext] at h ⊢
      exact readNumber_eq hdigits hafter h
    · obtain rfl := hquote
      exact readString_eq h
    · exact readSymbol_eq h

/-- What a step of a cursor comes to, but for the text that it leaves. -/
def Move.ofStep : Step → Move
  | .finished last => .finished last
  | .read t next => .read t next.place
  | .failed e => .failed e

lemma Move.ofStep_readToken (src : Source) (o : Options) (c : Cursor) :
    ofStep (c.readToken o src.file) = ofScan src c.place c.rest (scan o c.rest) := by
  rw [Cursor.readToken]
  cases scan o c.rest <;> rfl

/-- **A step over bytes is a step over characters**, from every place where a character begins. -/
theorem step_eq {c : Cursor} (h : GoesOn src.text c.place c.rest) :
    step src o c.place = some (.ofStep (c.step o src.file)) := by
  have hsplit := Trivia.split_append .blanks c.rest
  have hskip : GoesOn src.text c.skipTrivia.place c.skipTrivia.rest := by
    rw [← hsplit] at h
    exact h.after
  rw [step, skipTrivia_eq h, Cursor.step, Move.ofStep_readToken]
  exact readToken_eq hskip

/-! ## Walks -/

/-- **Along a run the bytes are walked over like the characters.** -/
theorem walk_eq {c : Cursor} {pass : Pass} (h : Run o src.file c pass)
    (htext : GoesOn src.text c.place c.rest) : walk src o c.place = some pass := by
  induction h with
  | finished hgap =>
    have hstep := step_eq (o := o) htext
    rw [step_of_isLastGap hgap] at hstep
    exact walk_finished hstep
  | read hgap hstops _ ih =>
    have hstep := step_eq (o := o) htext
    rw [step_of_stops hgap hstops] at hstep
    rw [walk_read hstep, ih htext.after.after]
    rfl
  | failed hgap hfault =>
    have hstep := step_eq (o := o) htext
    rw [step_of_fault hgap hfault] at hstep
    exact walk_failed hstep

lemma start_eq {text : String} {mark rest : List Char} (hmark : mark ∈ marks)
    (htext : text.toList = mark ++ rest) (hrest : mark = [] → rest.head? ≠ some '\uFEFF') :
    start text = firstLine mark := by
  have hbytes : (text.toUTF8.extract 0 3).data = "\uFEFF".toUTF8.data ↔
      AgreeOn 3 ['\uFEFF'] text.toList := by
    rw [AgreeOn, String.utf8Encode_toList, eq_comm, ← ByteArray.ext_iff]
    rfl
  rcases List.mem_cons.1 hmark with rfl | hmark
  · have hne : ¬ (text.toUTF8.extract 0 3).data = "\uFEFF".toUTF8.data := by
      rw [hbytes]
      intro hagree
      rw [← List.append_nil ['\uFEFF']] at hagree
      obtain ⟨tail, htail, -⟩ := hagree.exists_append (by decide)
      refine hrest rfl ?_
      rw [← List.nil_append rest, ← htext, htail]
      rfl
    rw [start, if_neg hne]
    rfl
  · obtain rfl := List.mem_singleton.1 hmark
    have hagree : AgreeOn 3 ['\uFEFF'] text.toList := by
      rw [htext]
      exact AgreeOn.append ['\uFEFF'] rest
    rw [start, if_pos (hbytes.2 hagree)]
    rfl

end Bytewise

/-- **A source is read byte by byte to the same pass**, and every slice on the way is defined. -/
theorem Source.bytewisePass_eq (src : Source) (o : Options) :
    src.bytewisePass o = some (src.pass o) := by
  obtain ⟨mark, hmark, rest, htext, hrest, hrun⟩ := src.exists_marked_run o
  rw [bytewisePass, Bytewise.start_eq hmark htext hrest]
  exact Bytewise.walk_eq hrun (goesOn_firstLine htext)

/-! ## Boundaries -/

/-- Two offsets in a text that are boundaries of its characters, in order. -/
structure Bounds (text : String) (start stop : Nat) : Prop where
  start_isValid : String.Pos.Raw.IsValid text ⟨start⟩
  stop_isValid : String.Pos.Raw.IsValid text ⟨stop⟩
  start_le_stop : start ≤ stop
  stop_le : stop ≤ text.utf8ByteSize

/-- **A slice is defined exactly between boundaries in order.** -/
theorem slice?_isSome_iff {text : String} {start stop : Nat} :
    (slice? text start stop).isSome = true ↔ Bounds text start stop := by
  rw [Option.isSome_iff_exists]
  constructor
  · rintro ⟨part, h⟩
    obtain ⟨pre, post, rfl, rfl, rfl⟩ := slice?_eq_some_iff.1 h
    refine ⟨?_, ?_, Nat.le_add_right _ _, ?_⟩
    · exact String.Pos.Raw.isValid_iff_exists_append.2
        ⟨pre, part ++ post, String.append_assoc .., rfl⟩
    · exact String.Pos.Raw.isValid_iff_exists_append.2
        ⟨pre ++ part, post, rfl, String.Pos.Raw.ext (String.utf8ByteSize_append ..).symm⟩
    · simp
  · rintro ⟨hstart, hstop, hle, -⟩
    have hle : text.pos ⟨start⟩ hstart ≤ text.pos ⟨stop⟩ hstop := hle
    have hfirst : text.pos? ⟨start⟩ = some (text.pos ⟨start⟩ hstart) := pos?_eq_some_iff.2 rfl
    have hlast : text.pos? ⟨stop⟩ = some (text.pos ⟨stop⟩ hstop) := pos?_eq_some_iff.2 rfl
    refine ⟨text.extract (text.pos ⟨start⟩ hstart) (text.pos ⟨stop⟩ hstop), ?_⟩
    simp [slice?, hfirst, hlast, hle]

lemma bounds_of_slice? {text part : String} {start stop : Nat}
    (h : slice? text start stop = some part) : Bounds text start stop :=
  slice?_isSome_iff.1 (by rw [h]; rfl)

/-- A fault covers characters that the text begins with, and an unexpected character covers itself
alone. -/
lemma Fault.exists_taken {text : List Char} {kind : SyntaxErrorKind} {n : Nat}
    (h : Fault text kind n) :
    ∃ taken rest, text = taken ++ rest ∧ byteLength taken = n ∧
      ∀ c, kind = .unexpectedCharacter c → taken = [c] := by
  cases h with
  | @unexpected c rest htext =>
    refine ⟨[c], rest, htext, by simp, ?_⟩
    rintro d ⟨⟩
    rfl
  | unterminated _ _ htext => exact ⟨_, _, htext, rfl, by rintro _ ⟨⟩⟩
  | @malformed m c rest _ htext hc =>
    exact ⟨m.text ++ [c], rest, by simp [htext], by simp [utf8Size_of_spoils hc], by rintro _ ⟨⟩⟩

/-- The boundaries at a token: those of its span and, inside of the quotes of a literal, those of
its body. -/
structure Token.HasBounds (t : Token) (text : String) : Prop where
  span : Bounds text t.span.start.offset t.span.stop
  body : ∀ value, t.kind = .stringLiteral value →
    Bounds text (t.span.start.offset + 1) (t.span.stop - 1) ∧
      slice? text (t.span.start.offset + 1) (t.span.stop - 1) = some t.lexeme

/-- The boundaries at an error: those of its span and of the text that it carries.  An unexpected
character is the one that stands at the beginning of its span. -/
structure SyntaxError.HasBounds (e : SyntaxError) (text : String) : Prop where
  span : Bounds text e.span.start.offset e.span.stop
  remainder : Bounds text e.span.start.offset text.utf8ByteSize
  unexpected : ∀ c, e.kind = .unexpectedCharacter c →
    slice? text e.span.start.offset e.span.stop = some (String.singleton c)

section HasBounds

variable {text : String} {place : Position} {rest : List Char}

/-- The body of a literal lies one byte inside of its span, on both sides. -/
lemma slice_body {body : List Char} (h : GoesOn text place ('"' :: (body ++ '"' :: rest))) :
    slice? text (place.offset + 1) (place.offset + byteLength ('"' :: (body ++ ['"'])) - 1) =
      some (String.ofList body) := by
  have hslice := h.next.slice
  have hstart : (place.next '"').offset = place.offset + 1 := place.offset_next '"'
  have hstop : place.offset + byteLength ('"' :: (body ++ ['"'])) - 1 =
      place.offset + 1 + byteLength body := by
    rw [Spelling.byteLength_quoted]
    omega
  rwa [hstart, ← hstop] at hslice

lemma Spelling.hasBounds {s : Spelling} (o : Options) (h : GoesOn text place (s.text ++ rest)) :
    (s.token o place).HasBounds text := by
  refine ⟨bounds_of_slice? h.slice, ?_⟩
  intro value hvalue
  obtain ⟨body, hbody, rfl, -⟩ := (s.labels o).exists_string hvalue
  have htext : GoesOn text place ('"' :: (body ++ '"' :: rest)) := by
    simpa [Spelling.text] using h
  have hslice := slice_body htext
  exact ⟨bounds_of_slice? hslice, hslice⟩

lemma Fault.hasBounds {kind : SyntaxErrorKind} {n : Nat} (hfault : Fault rest kind n)
    (h : GoesOn text place rest) (file : String) :
    (faultAt file place rest kind n).HasBounds text := by
  obtain ⟨taken, after, htext, hn, hunexpected⟩ := hfault.exists_taken
  have hslice : slice? text place.offset (place.offset + n) = some (String.ofList taken) := by
    rw [htext] at h
    rw [← hn]
    exact h.slice
  refine ⟨bounds_of_slice? hslice, bounds_of_slice? h.slice_rest, ?_⟩
  intro c hc
  obtain rfl := hunexpected c hc
  exact hslice

lemma hasBounds_atEnd (h : GoesOn text place rest) :
    (Token.atEnd (place.after rest)).HasBounds text := by
  have hend : GoesOn text place (rest ++ ([] ++ [])) := by simpa using h
  refine ⟨bounds_of_slice? hend.after.slice, ?_⟩
  rintro value ⟨⟩

end HasBounds

/-- **No slice is taken inside of a character.**  Read byte by byte, every source comes to its pass,
so every slice on the way is defined, which means that it lies between boundaries of characters
(`slice?_isSome_iff`), and no character is missing.  What is reported begins and ends on such
boundaries, too. -/
theorem lex_boundaries (src : Source) (o : Options) :
    src.bytewisePass o = some (src.pass o) ∧
      (∀ t ∈ (src.pass o).emitted, t.HasBounds src.text) ∧
      ∀ e, src.lex o = .error e → e.HasBounds src.text := by
  obtain ⟨mark, -, rest, htext, hrun⟩ := src.exists_run o
  refine ⟨src.bytewisePass_eq o, ?_, ?_⟩
  · intro t ht
    rcases Pass.mem_emitted ht with ht | hlast
    · obtain ⟨before, s, after, hrest, -, rfl⟩ := hrun.exists_of_mem ht
      obtain rfl : rest = before ++ (s.text ++ after) := hrest
      exact s.hasBounds o (goesOn_firstLine htext).after
    · obtain rfl := hrun.ending_eq hlast
      exact hasBounds_atEnd (goesOn_firstLine htext)
  · intro e he
    obtain ⟨before, after, kind, n, hrest, hfault, rfl⟩ :=
      hrun.exists_of_error (Pass.tokens_eq_error_iff.1 he)
    obtain rfl : rest = before ++ after := hrest
    exact hfault.hasBounds (goesOn_firstLine htext).after src.file

/-- Behind a backslash the reader by bytes stands inside of the accented letter, where no slice
begins.  The literal is read nevertheless, and so is the letter that no token begins with. -/
theorem boundaries_accented_letters :
    slice? "#é\n\"\\é\" ü" 7 8 = none ∧
      (Source.mk "text" "#é\n\"\\é\" ü").lex {} =
        .error ⟨.unexpectedCharacter 'ü', ⟨⟨2, 6, 10⟩, 12⟩, "text", "ü"⟩ ∧
      (Source.mk "text" "#é\n\"\\é\" ü").bytewisePass {} =
        some ⟨[⟨.stringLiteral "\\é", "\\é", ⟨⟨2, 1, 4⟩, 9⟩⟩],
          .error ⟨.unexpectedCharacter 'ü', ⟨⟨2, 6, 10⟩, 12⟩, "text", "ü"⟩⟩ ∧
      Bounds "#é\n\"\\é\" ü" 5 8 ∧ Bounds "#é\n\"\\é\" ü" 10 12 := by
  have hliteral : (Cursor.start "#é\n\"\\é\" ü".toList).step {} "text" =
      .read ⟨.stringLiteral "\\é", "\\é", ⟨⟨2, 1, 4⟩, 9⟩⟩ ⟨⟨2, 5, 9⟩, [' ', 'ü']⟩ := by
    rfl
  have hletter : (Cursor.mk ⟨2, 5, 9⟩ [' ', 'ü']).step {} "text" =
      .failed ⟨.unexpectedCharacter 'ü', ⟨⟨2, 6, 10⟩, 12⟩, "text", "ü"⟩ := by
    rfl
  have hpass : (Source.mk "text" "#é\n\"\\é\" ü").pass {} =
      ⟨[⟨.stringLiteral "\\é", "\\é", ⟨⟨2, 1, 4⟩, 9⟩⟩],
        .error ⟨.unexpectedCharacter 'ü', ⟨⟨2, 6, 10⟩, 12⟩, "text", "ü"⟩⟩ := by
    rw [Source.pass, Cursor.walk_read hliteral, Cursor.walk_failed hletter]
    rfl
  have hlex : (Source.mk "text" "#é\n\"\\é\" ü").lex {} =
      .error ⟨.unexpectedCharacter 'ü', ⟨⟨2, 6, 10⟩, 12⟩, "text", "ü"⟩ := by
    rw [Source.lex, hpass]
    rfl
  obtain ⟨hbytes, htokens, herrors⟩ := lex_boundaries ⟨"text", "#é\n\"\\é\" ü"⟩ {}
  rw [hpass] at hbytes htokens
  obtain ⟨hbody, -⟩ := (htokens _ List.mem_cons_self).body _ rfl
  exact ⟨by rfl, hlex, hbytes, hbody, (herrors _ hlex).span⟩

end QueryLexer
