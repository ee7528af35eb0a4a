/-
# Printed tokens

A token is printed on one line: its place, the name of its kind and its text.  The name of a kind
tells a keyword from another one but not, say, an operator from another one, and it leaves out what
a string literal stands for.  But a text is a token in one way only, so the text tells what the
name does not.  Of a token that stands in a source all but the byte offsets can be read off its
line.  The main statements are

* `Token.render_inj`: the parts of a line are told apart;
* `Token.IsLexed.newline_not_mem` and `Token.IsLexed.sameButOffsets`: a token of a source is printed
  on one line, and its line tells what it is;
* `lex_printed`: the same for all tokens of a source, printed one below the other.
-/
import QueryLexer.Proofs.Classification
import QueryLexer.Proofs.Lines
import QueryLexer.Proofs.Printing

namespace QueryLexer

/-! ## The parts of a line -/

lemma isDigit_of_mem_toDigits {n : Nat} : ∀ c ∈ Nat.toDigits 10 n, c.isDigit = true :=
  fun _ => Nat.isDigit_of_mem_toDigits (by decide) (by decide)

/-- A number can be read off its digits. -/
lemma toDigits_inj {m n : Nat} (h : Nat.toDigits 10 m = Nat.toDigits 10 n) : m = n := by
  have hvalue := congrArg (fun digits => Nat.ofDigitChars 10 digits 0) h
  simpa only [Nat.ofDigitChars_ten_toDigits] using hvalue

lemma Keyword.decapitalize_name (k : Keyword) : k.name.decapitalize = k.spelling := by
  cases k <;> decide +kernel

lemma Keyword.name_injective {k l : Keyword} (h : k.name = l.name) : k = l := by
  refine spelling_injective ?_
  rw [← k.decapitalize_name, h, l.decapitalize_name]

lemma Keyword.isAlpha_of_mem_name {k : Keyword} {c : Char} (h : c ∈ k.name.toList) :
    c.isAlpha = true := by
  have hall : k.name.toList.all Char.isAlpha = true := by
    cases k <;> decide +kernel
  exact List.all_eq_true.1 hall c h

lemma TokenKind.isWord_label (kind : TokenKind) :
    ∀ c ∈ kind.label.toList, c ≠ ' ' ∧ c ≠ '\n' := by
  cases kind with
  | keyword k =>
    have hname : ∀ c ∈ k.name.toList, c ≠ ' ' ∧ c ≠ '\n' := by
      intro c hc
      constructor <;> rintro rfl <;> cases Keyword.isAlpha_of_mem_name hc
    simpa [label, or_imp, forall_and] using hname
  | _ => simp [label]

namespace Token

/-- What stands on the line of a token behind the label of its kind. -/
def shown (t : Token) : List Char :=
  if t.isEndOfInput then [] else ' ' :: t.written

/-- The line of a token: its line, its column, the label of its kind and its text. -/
lemma toList_render (t : Token) :
    t.render.toList = Nat.toDigits 10 t.span.start.line ++ ':' ::
      (Nat.toDigits 10 t.span.start.column ++ ' ' :: (t.kind.label.toList ++ t.shown)) := by
  unfold render shown
  split <;> simp

lemma head_shown (t : Token) : ∀ c ∈ t.shown.head?, (c != ' ') = false := by
  unfold shown
  split <;> simp

/-- **The parts of a line are told apart.** -/
theorem render_inj {t t' : Token} (h : t.render = t'.render) :
    t.span.start.line = t'.span.start.line ∧ t.span.start.column = t'.span.start.column ∧
      t.kind.label = t'.kind.label ∧ t.shown = t'.shown := by
  have hline := congrArg String.toList h
  rw [toList_render, toList_render] at hline
  -- the digits end at the colon and at the blank, and the label at the next blank or with the line
  obtain ⟨hline, hrest⟩ :=
    run_inj isDigit_of_mem_toDigits (by simp) isDigit_of_mem_toDigits (by simp) hline
  obtain ⟨hcolumn, hrest⟩ :=
    run_inj isDigit_of_mem_toDigits (by simp) isDigit_of_mem_toDigits (by simp)
      (List.tail_eq_of_cons_eq hrest)
  have hword : ∀ kind : TokenKind, ∀ c ∈ kind.label.toList, (c != ' ') = true :=
    fun kind c hc => bne_iff_ne.2 (kind.isWord_label c hc).1
  obtain ⟨hlabel, hshown⟩ :=
    run_inj (hword _) t.head_shown (hword _) t'.head_shown (List.tail_eq_of_cons_eq hrest)
  exact ⟨toDigits_inj hline, toDigits_inj hcolumn, String.toList_inj.1 hlabel, hshown⟩

/-! ## Tokens of a source -/

/-- Two tokens are the same but for the bytes that they cover. -/
structure SameButOffsets (t t' : Token) : Prop where
  line_eq : t.span.start.line = t'.span.start.line
  column_eq : t.span.start.column = t'.span.start.column
  lexeme_eq : t.lexeme = t'.lexeme
  kind_eq : t.kind = t'.kind

end Token

lemma TokenKind.label_keyword_inj {k l : Keyword} (h : (keyword k).label = (keyword l).label) :
    k = l := by
  refine Keyword.name_injective (String.toList_inj.1 ?_)
  simpa [label] using congrArg String.toList h

lemma TokenKind.label_keyword_ne (k : Keyword) : (keyword k).label ≠ identifier.label := by
  intro h
  simpa [label] using congrArg String.toList h

/-- The label tells the kinds apart that one spelling has under different options. -/
lemma Spelling.kind_eq_of_label {s : Spelling} {o o' : Options}
    (h : (s.kind o).label = (s.kind o').label) : s.kind o = s.kind o' := by
  cases s with
  | word text hword =>
    replace h : (o.wordKind (String.ofList text)).label =
        (o'.wordKind (String.ofList text)).label := h
    show o.wordKind (String.ofList text) = o'.wordKind (String.ofList text)
    rcases o.wordKind_cases (String.ofList text) with hk | ⟨k, hk⟩ <;>
      rcases o'.wordKind_cases (String.ofList text) with hl | ⟨l, hl⟩ <;> rw [hk, hl] at h ⊢
    · exact absurd h.symm (TokenKind.label_keyword_ne l)
    · exact absurd h (TokenKind.label_keyword_ne k)
    · rw [TokenKind.label_keyword_inj h]
  | _ => rfl

@[simp] lemma Spelling.shown_token (s : Spelling) (o : Options) (place : Position) :
    (s.token o place).shown = ' ' :: s.text := by
  have hkind : (s.token o place).isEndOfInput = false := by
    rw [Token.isEndOfInput, beq_eq_false_iff_ne]
    exact s.kind_ne_endOfInput o
  rw [Token.shown, hkind, s.written_token]
  rfl

namespace Token.IsLexed

variable {o o' : Options} {t t' : Token}

/-- **A token of a source is printed on one line.** -/
theorem newline_not_mem (h : t.IsLexed o) : '\n' ∉ t.render.toList := by
  have hdigits : ∀ n : Nat, '\n' ∉ Nat.toDigits 10 n :=
    fun n hmem => absurd (isDigit_of_mem_toDigits _ hmem) (by decide)
  have hlabel : '\n' ∉ t.kind.label.toList := fun hmem => (t.kind.isWord_label _ hmem).2 rfl
  have hshown : '\n' ∉ t.shown := by
    cases h with
    | spelled s place => simpa using s.newline_not_mem
    | closing place => exact List.not_mem_nil
  simp [toList_render, hdigits, hlabel, hshown]

/-- **The line of a token tells what it is.** -/
theorem sameButOffsets (ht : t.IsLexed o) (ht' : t'.IsLexed o') (h : t.render = t'.render) :
    t.SameButOffsets t' := by
  obtain ⟨hline, hcolumn, hlabel, hshown⟩ := render_inj h
  cases ht with
  | spelled s place =>
    cases ht' with
    | spelled s' place' =>
      rw [s.shown_token, s'.shown_token] at hshown
      obtain rfl := Spelling.text_injective (List.tail_eq_of_cons_eq hshown)
      exact ⟨hline, hcolumn, rfl, Spelling.kind_eq_of_label hlabel⟩
    | closing place' =>
      rw [s.shown_token] at hshown
      cases hshown
  | closing place =>
    cases ht' with
    | spelled s' place' =>
      rw [s'.shown_token] at hshown
      cases hshown
    | closing place' => exact ⟨hline, hcolumn, rfl, rfl⟩

end Token.IsLexed

/-! ## Printed texts -/

/-- The text that is printed for tokens: their lines, each closed by a newline. -/
def printed (ts : List Token) : String :=
  unlines (ts.map Token.render)

/-- The text of lines falls into these lines at its newlines, and nothing stands behind the last. -/
lemma splitOn_unlines {lines : List String} (h : ∀ line ∈ lines, '\n' ∉ line.toList) :
    (unlines lines).toList.splitOn '\n' = lines.map String.toList ++ [[]] := by
  induction lines with
  | nil => rfl
  | cons line lines ih =>
    obtain ⟨hline, hlines⟩ := List.forall_mem_cons.1 h
    have htext : (unlines (line :: lines)).toList =
        line.toList ++ '\n' :: (unlines lines).toList := by
      simp [unlines]
    rw [htext, List.splitOn_append_cons_self_of_not_mem hline, ih hlines]
    rfl

lemma count_unlines {lines : List String} (h : ∀ line ∈ lines, '\n' ∉ line.toList) :
    (unlines lines).toList.count '\n' = lines.length := by
  induction lines with
  | nil => rfl
  | cons line lines ih =>
    obtain ⟨hline, hlines⟩ := List.forall_mem_cons.1 h
    simp [unlines, List.count_eq_zero.2 hline, ih hlines]

/-- Lines without newlines can be read off their text. -/
lemma unlines_inj {lines lines' : List String} (h : ∀ line ∈ lines, '\n' ∉ line.toList)
    (h' : ∀ line ∈ lines', '\n' ∉ line.toList) (htext : unlines lines = unlines lines') :
    lines = lines' := by
  have hsplit := splitOn_unlines h
  rw [htext, splitOn_unlines h'] at hsplit
  exact List.map_injective_iff.2 (fun _ _ => String.toList_inj.1)
    (List.append_cancel_right hsplit).symm

lemma forall₂_of_map_render {ts ts' : List Token} {o o' : Options} (hts : ∀ t ∈ ts, t.IsLexed o)
    (hts' : ∀ t ∈ ts', t.IsLexed o') (h : ts.map Token.render = ts'.map Token.render) :
    List.Forall₂ Token.SameButOffsets ts ts' := by
  induction ts generalizing ts' with
  | nil =>
    obtain rfl := List.map_eq_nil_iff.1 h.symm
    exact List.Forall₂.nil
  | cons t ts ih =>
    obtain ⟨t', ts', rfl⟩ : ∃ t' us, ts' = t' :: us := by
      cases ts' with
      | nil => cases h
      | cons t' us => exact ⟨t', us, rfl⟩
    obtain ⟨ht, hts⟩ := List.forall_mem_cons.1 hts
    obtain ⟨ht', hts'⟩ := List.forall_mem_cons.1 hts'
    obtain ⟨hline, hlines⟩ := List.cons.inj h
    exact List.Forall₂.cons (ht.sameButOffsets ht' hline) (ih hts hts' hlines)

/-- **Printed tokens lose nothing but their byte offsets.**  The tokens of a source are printed one
on a line, and sources whose tokens are printed alike have tokens that are the same but for their
offsets. -/
theorem lex_printed :
    (∀ (src : Source) (o : Options) (ts : List Token), src.lex o = .ok ts →
        (∀ t ∈ ts, '\n' ∉ t.render.toList) ∧ (printed ts).toList.count '\n' = ts.length ∧
          (printed ts).toList.splitOn '\n' = ts.map (·.render.toList) ++ [[]]) ∧
      ∀ (src src' : Source) (o o' : Options) (ts ts' : List Token), src.lex o = .ok ts →
        src'.lex o' = .ok ts' → printed ts = printed ts' →
          List.Forall₂ Token.SameButOffsets ts ts' := by
  have hlines : ∀ {src : Source} {o : Options} {ts : List Token}, src.lex o = .ok ts →
      ∀ line ∈ ts.map Token.render, '\n' ∉ line.toList := by
    intro src o ts h
    rw [List.forall_mem_map]
    exact fun t ht => (Source.isLexed_of_mem h ht).newline_not_mem
  constructor
  · intro src o ts h
    refine ⟨fun t ht => hlines h t.render (List.mem_map_of_mem ht), ?_, ?_⟩
    · rw [printed, count_unlines (hlines h), List.length_map]
    · rw [printed, splitOn_unlines (hlines h), List.map_map]
      rfl
  · intro src src' o o' ts ts' h h' hprinted
    exact forall₂_of_map_render (fun _ => Source.isLexed_of_mem h) (fun _ => Source.isLexed_of_mem h')
      (unlines_inj (hlines h) (hlines h') hprinted)

/-- A mark in front moves the offsets only, and no line shows them.  The escape in the literal is
printed as it was written, so it breaks no line. -/
theorem printed_with_mark :
    (Source.mk "text" "\uFEFF>=\"\\n\"").lex {} =
        .ok [⟨.operator .gtEq, ">=", ⟨⟨1, 1, 3⟩, 5⟩⟩, ⟨.stringLiteral "\n", "\\n", ⟨⟨1, 3, 5⟩, 9⟩⟩,
          Token.atEnd ⟨1, 7, 9⟩] ∧
      ∃ ts, (Source.mk "copy" ">=\"\\n\"").lex ⟨true, true⟩ = .ok ts ∧
        printed ts = "1:1 Operator >=\n1:3 StringLiteral \"\\n\"\n1:7 EndOfInput\n" ∧
        (printed ts).toList.count '\n' = 3 ∧
        List.Forall₂ Token.SameButOffsets
          [⟨.operator .gtEq, ">=", ⟨⟨1, 1, 3⟩, 5⟩⟩, ⟨.stringLiteral "\n", "\\n", ⟨⟨1, 3, 5⟩, 9⟩⟩,
            Token.atEnd ⟨1, 7, 9⟩] ts := by
  have hsign : (Cursor.start "\uFEFF>=\"\\n\"".toList).step {} "text" =
      .read ⟨.operator .gtEq, ">=", ⟨⟨1, 1, 3⟩, 5⟩⟩ ⟨⟨1, 3, 5⟩, ['"', '\\', 'n', '"']⟩ := by
    rfl
  have hliteral : (Cursor.mk ⟨1, 3, 5⟩ ['"', '\\', 'n', '"']).step {} "text" =
      .read ⟨.stringLiteral "\n", "\\n", ⟨⟨1, 3, 5⟩, 9⟩⟩ ⟨⟨1, 7, 9⟩, []⟩ := by
    rfl
  have hend : (Cursor.mk ⟨1, 7, 9⟩ []).step {} "text" = .finished (Token.atEnd ⟨1, 7, 9⟩) := by
    rfl
  have hlex : (Source.mk "text" "\uFEFF>=\"\\n\"").lex {} =
      .ok [⟨.operator .gtEq, ">=", ⟨⟨1, 1, 3⟩, 5⟩⟩, ⟨.stringLiteral "\n", "\\n", ⟨⟨1, 3, 5⟩, 9⟩⟩,
        Token.atEnd ⟨1, 7, 9⟩] := by
    rw [Source.lex, Source.pass, Cursor.walk_read hsign, Cursor.walk_read hliteral,
      Cursor.walk_finished hend]
    rfl
  have hsign' : (Cursor.start ">=\"\\n\"".toList).step ⟨true, true⟩ "copy" =
      .read ⟨.operator .gtEq, ">=", ⟨⟨1, 1, 0⟩, 2⟩⟩ ⟨⟨1, 3, 2⟩, ['"', '\\', 'n', '"']⟩ := by
    rfl
  have hliteral' : (Cursor.mk ⟨1, 3, 2⟩ ['"', '\\', 'n', '"']).step ⟨true, true⟩ "copy" =
      .read ⟨.stringLiteral "\n", "\\n", ⟨⟨1, 3, 2⟩, 6⟩⟩ ⟨⟨1, 7, 6⟩, []⟩ := by
    rfl
  have hend' : (Cursor.mk ⟨1, 7, 6⟩ []).step ⟨true, true⟩ "copy" =
      .finished (Token.atEnd ⟨1, 7, 6⟩) := by
    rfl
  have hlex' : (Source.mk "copy" ">=\"\\n\"").lex ⟨true, true⟩ =
      .ok [⟨.operator .gtEq, ">=", ⟨⟨1, 1, 0⟩, 2⟩⟩, ⟨.stringLiteral "\n", "\\n", ⟨⟨1, 3, 2⟩, 6⟩⟩,
        Token.atEnd ⟨1, 7, 6⟩] := by
    rw [Source.lex, Source.pass, Cursor.walk_read hsign', Cursor.walk_read hliteral',
      Cursor.walk_finished hend']
    rfl
  exact ⟨hlex, _, hlex', by decide +kernel, (lex_printed.1 _ _ _ hlex').2.1,
    lex_printed.2 _ _ _ _ _ _ hlex hlex' (by decide +kernel)⟩

end QueryLexer
