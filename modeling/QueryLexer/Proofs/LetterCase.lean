/-
# Letter case

A text may be written in upper case or in lower case, in whole or in part, and it is split in the
same places.  Letters begin words and go on with them, they spoil numbers, and in literals and
comments they stand for themselves; nowhere is it asked in which case they are.  Their case decides
about two things only: what a literal stands for, and which words are keywords unless the options
leave that out of account.  The main statements are

* `Spelling.exists_of_sameLetters` and `Fault.of_sameLetters`: in other case a spelling is a
  spelling of the same sort, and a fault is the same fault;
* `Run.exists_of_sameLetters`: a run over a text in other case reads the same tokens up to case;
* `lex_letter_case`: what this says about two sources.
-/
import QueryLexer.Proofs.Classification

namespace QueryLexer

open Trivia (IsGap IsLastGap blankChars)

/-! ## Characters -/

section Characters

variable {c c' d : Char}

/-- In lower case a character is itself, or it is a letter in upper case and becomes another one. -/
lemma toLower_cases (c : Char) :
    c.toLower = c ∨ c.isUpper = true ∧ c.toLower.isLower = true := by
  unfold Char.toLower
  split
  · next h =>
    obtain ⟨hle, hge⟩ := h
    have hA : 65 ≤ c.val.toNat := UInt32.le_iff_toNat_le.1 hle
    have hZ : c.val.toNat ≤ 90 := UInt32.le_iff_toNat_le.1 hge
    have hlower : (c.val + ('a'.val - 'A'.val)).toNat = c.val.toNat + 32 := by
      rw [UInt32.toNat_add, show ('a'.val - 'A'.val).toNat = 32 from rfl]
      exact Nat.mod_eq_of_lt (by omega)
    have ha : 97 ≤ (c.val + ('a'.val - 'A'.val)).toNat := by omega
    have hz : (c.val + ('a'.val - 'A'.val)).toNat ≤ 122 := by omega
    refine Or.inr ⟨decide_eq_true ⟨hle, hge⟩, Bool.and_eq_true_iff.2 ⟨?_, ?_⟩⟩
    · exact decide_eq_true (UInt32.le_iff_toNat_le.2 ha)
    · exact decide_eq_true (UInt32.le_iff_toNat_le.2 hz)
  · exact Or.inl rfl

lemma eq_or_isAlpha_of_toLower_eq (h : c.toLower = c'.toLower) :
    c' = c ∨ c.isAlpha = true ∧ c'.isAlpha = true := by
  have halpha : ∀ d : Char, d.isUpper = true ∨ d.isLower = true → d.isAlpha = true := by
    intro d hd
    exact Bool.or_eq_true_iff.2 hd
  rcases toLower_cases c with hc | ⟨hupper, hlower⟩
  · rcases toLower_cases c' with hc' | ⟨hupper', hlower'⟩
    · exact Or.inl (hc'.symm.trans (h.symm.trans hc))
    · rw [← h, hc] at hlower'
      exact Or.inr ⟨halpha c (Or.inr hlower'), halpha c' (Or.inl hupper')⟩
  · rcases toLower_cases c' with hc' | ⟨hupper', -⟩
    · rw [h, hc'] at hlower
      exact Or.inr ⟨halpha c (Or.inl hupper), halpha c' (Or.inr hlower)⟩
    · exact Or.inr ⟨halpha c (Or.inl hupper), halpha c' (Or.inl hupper')⟩

/-- What is no letter is told apart from everything else in either case. -/
lemma eq_iff_of_toLower_eq (h : c.toLower = c'.toLower) (hd : d.isAlpha = false) :
    c' = d ↔ c = d := by
  rcases eq_or_isAlpha_of_toLower_eq h with rfl | ⟨hc, hc'⟩
  · exact Iff.rfl
  · refine iff_of_false ?_ ?_
    · rintro rfl
      exact Bool.false_ne_true (hd.symm.trans hc')
    · rintro rfl
      exact Bool.false_ne_true (hd.symm.trans hc)

lemma isWordStart_of_isAlpha (h : c.isAlpha = true) : isWordStart c = true :=
  isWordStart_iff.2 (Or.inl h)

lemma isWordStart_eq_of_toLower_eq (h : c.toLower = c'.toLower) :
    isWordStart c' = isWordStart c := by
  rcases eq_or_isAlpha_of_toLower_eq h with rfl | ⟨hc, hc'⟩
  · rfl
  · rw [isWordStart_of_isAlpha hc, isWordStart_of_isAlpha hc']

lemma isWordChar_eq_of_toLower_eq (h : c.toLower = c'.toLower) :
    isWordChar c' = isWordChar c := by
  rcases eq_or_isAlpha_of_toLower_eq h with rfl | ⟨hc, hc'⟩
  · rfl
  · rw [Scan.isWordChar_of_isWordStart (isWordStart_of_isAlpha hc),
      Scan.isWordChar_of_isWordStart (isWordStart_of_isAlpha hc')]

/-- Letters take one byte and end no line, so a place is moved over them alike. -/
lemma Position.next_eq_of_toLower_eq (p : Position) (h : c.toLower = c'.toLower) :
    p.next c' = p.next c := by
  rcases eq_or_isAlpha_of_toLower_eq h with rfl | ⟨hc, hc'⟩
  · rfl
  · have hletter : ∀ d : Char, d.isAlpha = true →
        p.next d = ⟨p.line, p.column + 1, p.offset + 1⟩ := by
      intro d hd
      have hline : d ≠ '\n' := by
        rintro rfl
        cases hd
      rw [next_of_ne p hline, utf8Size_of_isWordStart (isWordStart_of_isAlpha hd)]
    rw [hletter c hc, hletter c' hc']

lemma Spelling.joins_eq_of_toLower_eq (s : Spelling) (h : c.toLower = c'.toLower) :
    s.joins c' = s.joins c := by
  have hword := isWordChar_eq_of_toLower_eq h
  cases s with
  | word _ _ | float _ _ _ _ => exact hword
  | int _ _ =>
    have hpoint : (c' == '.') = (c == '.') := by
      rw [Bool.eq_iff_iff, beq_iff_eq, beq_iff_eq, eq_iff_of_toLower_eq h rfl]
    show (isWordChar c' || c' == '.') = (isWordChar c || c == '.')
    rw [hword, hpoint]
  | string _ _ | punctuation _ => rfl
  | operator op =>
    show op.joins c' = op.joins c
    rw [Bool.eq_iff_iff, Operator.joins_iff, Operator.joins_iff, eq_iff_of_toLower_eq h rfl,
      eq_iff_of_toLower_eq h rfl]

end Characters

/-! ## Texts -/

/-- Two stretches of text are the same up to the case of ASCII letters. -/
def SameLetters (text text' : List Char) : Prop :=
  text.map Char.toLower = text'.map Char.toLower

namespace SameLetters

variable {c : Char} {part rest text text' : List Char}

lemma refl (text : List Char) : SameLetters text text := rfl

lemma symm (h : SameLetters text text') : SameLetters text' text :=
  Eq.symm h

lemma eq_nil (h : SameLetters [] text') : text' = [] :=
  List.map_eq_nil_iff.1 h.symm

lemma exists_cons (h : SameLetters (c :: rest) text') :
    ∃ c' rest', text' = c' :: rest' ∧ c.toLower = c'.toLower ∧ SameLetters rest rest' := by
  obtain ⟨c', rest', rfl, hc, hrest⟩ := List.map_eq_cons_iff.1 h.symm
  exact ⟨c', rest', rfl, hc.symm, hrest.symm⟩

lemma exists_cons_of_not_isAlpha (h : SameLetters (c :: rest) text') (hc : c.isAlpha = false) :
    ∃ rest', text' = c :: rest' ∧ SameLetters rest rest' := by
  obtain ⟨c', rest', rfl, hlower, hrest⟩ := h.exists_cons
  obtain rfl := (eq_iff_of_toLower_eq hlower hc).2 rfl
  exact ⟨rest', rfl, hrest⟩

lemma exists_append (h : SameLetters (part ++ rest) text') :
    ∃ part' rest', text' = part' ++ rest' ∧ SameLetters part part' ∧ SameLetters rest rest' := by
  rw [SameLetters, List.map_append] at h
  obtain ⟨part', rest', rfl, hpart, hrest⟩ := List.map_eq_append_iff.1 h.symm
  exact ⟨part', rest', rfl, hpart.symm, hrest.symm⟩

lemma eq_of_not_isAlpha (h : SameLetters text text') (htext : ∀ c ∈ text, c.isAlpha = false) :
    text' = text := by
  induction text generalizing text' with
  | nil => exact h.eq_nil
  | cons c text ih =>
    obtain ⟨hc, htext⟩ := List.forall_mem_cons.1 htext
    obtain ⟨rest', rfl, hrest⟩ := h.exists_cons_of_not_isAlpha hc
    rw [ih hrest htext]

lemma exists_of_mem (h : SameLetters text text') (hc : c ∈ text') :
    ∃ d ∈ text, d.toLower = c.toLower := by
  have hmem := List.mem_map_of_mem (f := Char.toLower) hc
  rw [← h] at hmem
  exact List.mem_map.1 hmem

lemma newline_not_mem (h : SameLetters text text') (hline : '\n' ∉ text) : '\n' ∉ text' := by
  intro hmem
  obtain ⟨d, hd, hlower⟩ := h.exists_of_mem hmem
  obtain rfl := (eq_iff_of_toLower_eq hlower.symm rfl).2 rfl
  exact hline hd

lemma exists_of_head? (h : SameLetters text text') (hc : c ∈ text'.head?) :
    ∃ d ∈ text.head?, d.toLower = c.toLower := by
  obtain ⟨rest', rfl⟩ := List.head?_eq_some_iff.1 hc
  obtain ⟨d, rest, rfl, hlower, -⟩ := h.symm.exists_cons
  exact ⟨d, rfl, hlower.symm⟩

lemma head?_eq_of_not_isAlpha (h : SameLetters text text') (hc : c.isAlpha = false)
    (hhead : text.head? = some c) : text'.head? = some c := by
  obtain ⟨rest, rfl⟩ := List.head?_eq_some_iff.1 hhead
  obtain ⟨rest', rfl, -⟩ := h.exists_cons_of_not_isAlpha hc
  rfl

lemma after_eq (h : SameLetters text text') (p : Position) : p.after text' = p.after text := by
  induction text generalizing p text' with
  | nil => rw [h.eq_nil]
  | cons c text ih =>
    obtain ⟨c', rest', rfl, hc, hrest⟩ := h.exists_cons
    rw [Position.after_cons, Position.after_cons, p.next_eq_of_toLower_eq hc, ih hrest]

/-- What stands in front of the one text stands in front of the other one in other case. -/
lemma exists_prefix (h : SameLetters text text') (hpart : part <+: text') :
    ∃ part', part' <+: text ∧ SameLetters part part' := by
  obtain ⟨rest', rfl⟩ := hpart
  obtain ⟨part', rest, rfl, hletters, -⟩ := h.symm.exists_append
  exact ⟨part', List.prefix_append _ _, hletters⟩

lemma byteLength_eq (h : SameLetters text text') : byteLength text' = byteLength text := by
  simpa [Position.origin] using congrArg Position.offset (h.after_eq .origin)

end SameLetters

/-! ## Gaps -/

lemma isAlpha_of_mem_blankChars {c : Char} (h : c ∈ blankChars) : c.isAlpha = false := by
  simp only [blankChars, List.mem_cons, List.not_mem_nil, or_false] at h
  rcases h with rfl | rfl | rfl | rfl | rfl <;> rfl

lemma Trivia.IsGap.of_sameLetters {gap gap' : List Char} (h : IsGap gap)
    (hletters : SameLetters gap gap') : IsGap gap' := by
  induction h generalizing gap' with
  | nil =>
    rw [hletters.eq_nil]
    exact IsGap.nil
  | blank hc _ ih =>
    obtain ⟨rest', rfl, hrest⟩ := hletters.exists_cons_of_not_isAlpha (isAlpha_of_mem_blankChars hc)
    exact IsGap.blank hc (ih hrest)
  | comment htext _ ih =>
    obtain ⟨rest', rfl, hrest⟩ := hletters.exists_cons_of_not_isAlpha rfl
    obtain ⟨text', after', rfl, htext', hafter⟩ := hrest.exists_append
    obtain ⟨gap', rfl, hgap⟩ := hafter.exists_cons_of_not_isAlpha rfl
    exact IsGap.comment (htext'.newline_not_mem htext) (ih hgap)

lemma Trivia.IsLastGap.of_sameLetters {gap gap' : List Char} (h : IsLastGap gap)
    (hletters : SameLetters gap gap') : IsLastGap gap' := by
  cases h with
  | closed hgap => exact IsLastGap.closed (hgap.of_sameLetters hletters)
  | unclosed hgap htext =>
    obtain ⟨closed', rest', rfl, hclosed, hrest⟩ := hletters.exists_append
    obtain ⟨text', rfl, htext'⟩ := hrest.exists_cons_of_not_isAlpha rfl
    exact IsLastGap.unclosed (hgap.of_sameLetters hclosed) (htext'.newline_not_mem htext)

/-! ## Spellings -/

lemma IsWord.of_sameLetters {text text' : List Char} (h : IsWord text)
    (hletters : SameLetters text text') : IsWord text' := by
  obtain ⟨c, tail, rfl, hc, htail⟩ := h
  obtain ⟨c', tail', rfl, hlower, htail'⟩ := hletters.exists_cons
  refine ⟨c', tail', rfl, ?_, fun d hd => ?_⟩
  · rwa [← isWordStart_iff, isWordStart_eq_of_toLower_eq hlower, isWordStart_iff]
  · obtain ⟨e, he, hlower⟩ := htail'.exists_of_mem hd
    rw [← isWordChar_iff, isWordChar_eq_of_toLower_eq hlower, isWordChar_iff]
    exact htail e he

lemma StringLiteral.IsBody.of_sameLetters {body body' : List Char} (h : IsBody body)
    (hletters : SameLetters body body') : IsBody body' := by
  induction h generalizing body' with
  | nil =>
    rw [hletters.eq_nil]
    exact IsBody.nil
  | plain hquote hslash hline _ ih =>
    obtain ⟨c', rest', rfl, hlower, hrest⟩ := hletters.exists_cons
    exact IsBody.plain ((eq_iff_of_toLower_eq hlower rfl).not.2 hquote)
      ((eq_iff_of_toLower_eq hlower rfl).not.2 hslash)
      ((eq_iff_of_toLower_eq hlower rfl).not.2 hline) (ih hrest)
  | escaped hline _ ih =>
    obtain ⟨rest', rfl, hrest⟩ := hletters.exists_cons_of_not_isAlpha rfl
    obtain ⟨c', rest', rfl, hlower, hrest⟩ := hrest.exists_cons
    exact IsBody.escaped ((eq_iff_of_toLower_eq hlower rfl).not.2 hline) (ih hrest)

namespace Spelling

/-- Two spellings are of the same sort, and the same up to the case of letters. -/
inductive SameButCase : Spelling → Spelling → Prop
  | word {text text' : List Char} {h : IsWord text} {h' : IsWord text'}
      (hletters : SameLetters text text') : SameButCase (.word text h) (.word text' h')
  | string {body body' : List Char} {h : StringLiteral.IsBody body}
      {h' : StringLiteral.IsBody body'} (hletters : SameLetters body body') :
      SameButCase (.string body h) (.string body' h')
  | refl (s : Spelling) : SameButCase s s

/-- Only words and literals hold letters. -/
lemma isAlpha_of_mem_text {s : Spelling} (hs : s.group ≠ .word) (hs' : s.group ≠ .string) {c : Char}
    (hc : c ∈ s.text) : c.isAlpha = false := by
  have hdigit : ∀ d : Char, d.isDigit = true → d.isAlpha = false := by
    intro d hd
    by_contra halpha
    rw [isDigit_eq_false_of_isWordStart (isWordStart_of_isAlpha ((Bool.not_eq_false _).mp halpha))]
      at hd
    cases hd
  cases s with
  | word _ _ => exact absurd rfl hs
  | string _ _ => exact absurd rfl hs'
  | int digits h => exact hdigit c (h.2 c hc)
  | float whole fraction hwhole hfraction =>
    rcases List.mem_append.1 hc with hc | hc
    · exact hdigit c (hwhole.2 c hc)
    · rcases List.mem_cons.1 hc with rfl | hc
      · rfl
      · exact hdigit c (hfraction.2 c hc)
  | operator op =>
    have hall : op.chars.all (fun c => !c.isAlpha) = true := by cases op <;> rfl
    simpa using List.all_eq_true.1 hall c hc
  | punctuation p =>
    obtain rfl := List.mem_singleton.1 hc
    cases p <;> rfl

/-- **In other case a spelling is a spelling of the same sort.** -/
theorem exists_of_sameLetters (s : Spelling) {text' : List Char}
    (h : SameLetters s.text text') : ∃ s', text' = s'.text ∧ s.SameButCase s' := by
  cases s with
  | word text hword => exact ⟨.word text' (hword.of_sameLetters h), rfl, .word h⟩
  | string body hbody =>
    obtain ⟨rest', rfl, hrest⟩ := h.exists_cons_of_not_isAlpha rfl
    obtain ⟨body', quote, rfl, hletters, hquote⟩ := hrest.exists_append
    obtain rfl := hquote.eq_of_not_isAlpha (List.forall_mem_singleton.2 rfl)
    exact ⟨.string body' (hbody.of_sameLetters hletters), rfl, .string hletters⟩
  | _ =>
    obtain rfl := h.eq_of_not_isAlpha fun c => isAlpha_of_mem_text (by rintro ⟨⟩) (by rintro ⟨⟩)
    exact ⟨_, rfl, .refl _⟩

namespace SameButCase

variable {s s' : Spelling}

lemma lexeme (h : s.SameButCase s') : SameLetters s.lexeme s'.lexeme := by
  cases h with
  | word hletters => exact hletters
  | string hletters => exact hletters
  | refl => exact SameLetters.refl _

lemma text (h : s.SameButCase s') : SameLetters s.text s'.text := by
  cases h with
  | word hletters => exact hletters
  | string hletters =>
    show ('"' :: (_ ++ ['"'])).map Char.toLower = ('"' :: (_ ++ ['"'])).map Char.toLower
    simp only [List.map_cons, List.map_append]
    rw [hletters]
  | refl => exact SameLetters.refl _

lemma stops {rest rest' : List Char} (h : s.SameButCase s') (hstops : s.Stops rest)
    (hrest : SameLetters rest rest') : s'.Stops rest' := by
  have hjoins : ∀ c, s'.joins c = s.joins c := by
    intro c
    cases h <;> rfl
  intro c hc
  obtain ⟨d, hd, hlower⟩ := hrest.exists_of_head? hc
  rw [hjoins, s.joins_eq_of_toLower_eq hlower]
  exact hstops d hd

end SameButCase

end Spelling

/-! ## Faults -/

/-- **In other case a fault is the same fault.** -/
theorem Fault.of_sameLetters {text text' : List Char} {kind : SyntaxErrorKind} {n : Nat}
    (h : Fault text kind n) (hletters : SameLetters text text') : Fault text' kind n := by
  cases h with
  | unexpected htext hblank hhash hletter hunderscore hdigit hquote hoperator hmark =>
    subst htext
    obtain ⟨rest', rfl, -⟩ := hletters.exists_cons_of_not_isAlpha hletter
    exact Fault.unexpected rfl hblank hhash hletter hunderscore hdigit hquote hoperator hmark
  | @unterminated line rest hquote hopen htext hline hrest =>
    have hquote' := hletters.head?_eq_of_not_isAlpha rfl hquote
    have hopen' : ∀ body h, ¬ (Spelling.string body h).text <+: text' := by
      intro body h hfront
      obtain ⟨front, hfront, hbody⟩ := hletters.exists_prefix hfront
      obtain ⟨s, rfl, hs⟩ := (Spelling.string body h).exists_of_sameLetters hbody
      cases hs with
      | string => exact hopen _ _ hfront
      | refl => exact hopen _ _ hfront
    rw [htext] at hletters
    obtain ⟨line', rest', rfl, hline', hrest'⟩ := hletters.exists_append
    rw [← hline'.byteLength_eq]
    refine Fault.unterminated hquote' hopen' rfl (hline'.newline_not_mem hline) ?_
    intro c hc
    obtain ⟨d, hd, hlower⟩ := hrest'.exists_of_head? hc
    exact (eq_iff_of_toLower_eq hlower rfl).2 (hrest d hd)
  | @malformed m c rest hm htext hc =>
    -- a number holds no letters, so the same numbers stand in front of both texts
    have hnumber : ∀ m : Spelling, m.group = .number → ∀ c ∈ m.text, c.isAlpha = false := by
      intro m hm c
      exact Spelling.isAlpha_of_mem_text (by simp [hm]) (by simp [hm])
    have hlongest : ∀ m' : Spelling, m'.group = .number → m'.text <+: text' →
        m'.text.length ≤ m.text.length := by
      intro m' hm' hfront
      obtain ⟨front, hfront, hletters'⟩ := hletters.exists_prefix hfront
      obtain rfl := hletters'.eq_of_not_isAlpha (hnumber m' hm')
      exact hm.longest m' hm' hfront
    rw [htext] at hletters
    obtain ⟨number', after', rfl, hletters', hafter⟩ := hletters.exists_append
    obtain rfl := hletters'.eq_of_not_isAlpha (hnumber m hm.number)
    obtain ⟨c', rest', rfl, hlower, -⟩ := hafter.exists_cons
    refine Fault.malformed ⟨hm.number, List.prefix_append _ _, hlongest⟩ rfl ?_
    rcases eq_or_isAlpha_of_toLower_eq hlower with rfl | ⟨-, hc'⟩
    · exact hc
    · exact Or.inl hc'

/-! ## Tokens -/

/-- The kinds that a token has in other case.  Literals may stand for other texts; and unless the
options ignore case, a keyword may be an identifier and an identifier a keyword. -/
inductive TokenKind.SameButCase (o : Options) : TokenKind → TokenKind → Prop
  | refl (kind : TokenKind) : SameButCase o kind kind
  | literal (value value' : String) : SameButCase o (.stringLiteral value) (.stringLiteral value')
  | identifier (h : o.ignoreCase = false) (k : Keyword) : SameButCase o (.keyword k) .identifier
  | keyword (h : o.ignoreCase = false) (k : Keyword) : SameButCase o .identifier (.keyword k)

/-- The token that the same stretch of two sources is, where they differ in the case of letters. -/
structure Token.SameButCase (o : Options) (t t' : Token) : Prop where
  span_eq : t'.span = t.span
  lexeme_eq : EqIgnoringCase t.lexeme t'.lexeme
  kind : t.kind.SameButCase o t'.kind
  /-- A word is the same keyword or identifier where case is ignored. -/
  word_kind_eq : o.ignoreCase = true → IsWord t.written → t'.kind = t.kind

/-- The error that two sources have where they differ in the case of letters. -/
structure SyntaxError.SameButCase (e e' : SyntaxError) : Prop where
  kind_eq : e'.kind = e.kind
  span_eq : e'.span = e.span
  remainder_eq : EqIgnoringCase e.remainder e'.remainder

section Tokens

variable {o : Options} {word word' : String}

lemma Options.wordKind_eq_of_ignoreCase (hcase : o.ignoreCase = true)
    (h : EqIgnoringCase word word') : o.wordKind word' = o.wordKind word := by
  have hfold : ∀ word : String, (o.fold word).toList = word.toList.map Char.toLower := by
    intro word
    rw [fold, if_pos hcase]
    exact String.toList_map
  have hword : o.fold word' = o.fold word := by
    rw [← String.toList_inj, hfold, hfold, h]
  rw [wordKind, wordKind, keyword?, keyword?, hword]

/-- Where it is not, no word is one keyword in one case and another keyword in the other. -/
lemma Options.wordKind_sameButCase (o : Options) (h : EqIgnoringCase word word') :
    (o.wordKind word).SameButCase o (o.wordKind word') := by
  by_cases hcase : o.ignoreCase = true
  · rw [wordKind_eq_of_ignoreCase hcase h]
    exact .refl _
  · have hspelled : ∀ {word k}, o.wordKind word = .keyword k → word = k.spelling := by
      intro word k hk
      simpa only [if_neg hcase] using (wordKind_eq_keyword_iff.1 hk).spelled
    rw [Bool.not_eq_true] at hcase
    rcases o.wordKind_cases word with hk | ⟨k, hk⟩ <;>
      rcases o.wordKind_cases word' with hl | ⟨l, hl⟩
    · rw [hk, hl]
      exact .refl _
    · rw [hk, hl]
      exact .keyword hcase l
    · rw [hk, hl]
      exact .identifier hcase k
    · rw [EqIgnoringCase, hspelled hk, hspelled hl, Keyword.map_toLower_spelling,
        Keyword.map_toLower_spelling, String.toList_inj] at h
      rw [hk, hl, Keyword.spelling_injective h]
      exact .refl _

lemma eqIgnoringCase_ofList {text text' : List Char} (h : SameLetters text text') :
    EqIgnoringCase (String.ofList text) (String.ofList text') := by
  rwa [EqIgnoringCase, String.toList_ofList, String.toList_ofList]

lemma Token.SameButCase.refl (t : Token) : t.SameButCase o t :=
  ⟨rfl, rfl, .refl _, fun _ _ => rfl⟩

lemma Spelling.SameButCase.token {s s' : Spelling} (h : s.SameButCase s') (o : Options)
    (place : Position) : (s.token o place).SameButCase o (s'.token o place) := by
  have hspan : Span.of place s'.text = Span.of place s.text := by
    rw [Span.of, Span.of, h.text.byteLength_eq]
  have hlexeme := eqIgnoringCase_ofList h.lexeme
  cases h with
  | word hletters =>
    exact ⟨hspan, hlexeme, o.wordKind_sameButCase hlexeme,
      fun hcase _ => Options.wordKind_eq_of_ignoreCase hcase hlexeme⟩
  | @string body body' hbody hbody' hletters =>
    refine ⟨hspan, hlexeme, .literal _ _, fun _ hword => ?_⟩
    rw [Spelling.written_token] at hword
    cases Spelling.eq_word_of_isWord hword
  | refl => exact .refl _

end Tokens

/-! ## Runs -/

/-- Two passes end alike: at the same end of the input, or with the same error up to case. -/
inductive EndsAlike : Except SyntaxError Token → Except SyntaxError Token → Prop
  | ok (last : Token) : EndsAlike (.ok last) (.ok last)
  | error {e e' : SyntaxError} (h : e.SameButCase e') : EndsAlike (.error e) (.error e')

/-- The passes over two texts that differ in the case of letters. -/
structure Pass.SameButCase (o : Options) (p p' : Pass) : Prop where
  read : List.Forall₂ (Token.SameButCase o) p.read p'.read
  ending : EndsAlike p.ending p'.ending

variable {o : Options} {file : String}

/-- **A run over a text in other case reads the same tokens up to case**, and ends alike. -/
theorem Run.exists_of_sameLetters {c : Cursor} {pass : Pass} (h : Run o file c pass)
    {text' : List Char} (hletters : SameLetters c.rest text') (file' : String) :
    ∃ pass', Run o file' ⟨c.place, text'⟩ pass' ∧ pass.SameButCase o pass' := by
  induction h generalizing text' with
  | @finished place gap hgap =>
    have hrun : Run o file' ⟨place, text'⟩ _ := Run.finished (hgap.of_sameLetters hletters)
    rw [hletters.after_eq] at hrun
    exact ⟨_, hrun, .nil, EndsAlike.ok _⟩
  | @read place gap rest s pass hgap hstops _ ih =>
    obtain ⟨gap', behind, rfl, hgap', hbehind⟩ := hletters.exists_append
    obtain ⟨front, rest', rfl, hfront, hrest'⟩ := hbehind.exists_append
    obtain ⟨s', rfl, hs⟩ := s.exists_of_sameLetters hfront
    obtain ⟨pass', hpass', hsame⟩ := ih hrest'
    simp only at hpass'
    rw [← hs.text.after_eq, ← hgap'.after_eq] at hpass'
    have hrun := Run.read (hgap.of_sameLetters hgap') (hs.stops hstops hrest') hpass'
    rw [hgap'.after_eq] at hrun
    exact ⟨_, hrun, .cons (hs.token o _) hsame.read, hsame.ending⟩
  | @failed place gap text kind n hgap hfault =>
    obtain ⟨gap', rest', rfl, hgap', hrest'⟩ := hletters.exists_append
    have hrun : Run o file' ⟨place, gap' ++ rest'⟩ _ :=
      Run.failed (hgap.of_sameLetters hgap') (hfault.of_sameLetters hrest')
    rw [hgap'.after_eq] at hrun
    exact ⟨_, hrun, .nil, EndsAlike.error ⟨rfl, rfl, eqIgnoringCase_ofList hrest'⟩⟩

lemma Pass.SameButCase.tokens {p p' : Pass} (h : p.SameButCase o p') :
    (∃ ts ts', p.tokens = .ok ts ∧ p'.tokens = .ok ts' ∧
        List.Forall₂ (Token.SameButCase o) ts ts') ∨
      ∃ e e', p.tokens = .error e ∧ p'.tokens = .error e' ∧ e.SameButCase e' := by
  obtain ⟨read, ending⟩ := p
  obtain ⟨read', ending'⟩ := p'
  obtain ⟨hread, hending⟩ := h
  cases hending with
  | ok last =>
    exact Or.inl ⟨_, _, rfl, rfl, List.rel_append hread (.cons (.refl last) .nil)⟩
  | error herror => exact Or.inr ⟨_, _, rfl, rfl, herror⟩

/-! ## Sources -/

lemma isAlpha_of_mem_mark {mark : List Char} (hmark : mark ∈ marks) :
    ∀ c ∈ mark, c.isAlpha = false := by
  revert mark
  simp [marks]

lemma Source.pass_sameButCase {text text' : String} (h : EqIgnoringCase text text')
    (file file' : String) (o : Options) :
    ((Source.mk file text).pass o).SameButCase o ((Source.mk file' text').pass o) := by
  obtain ⟨mark, hmark, rest, htext, hrest, hrun⟩ := (Source.mk file text).exists_marked_run o
  have hletters : SameLetters (mark ++ rest) text'.toList := htext ▸ h
  obtain ⟨mark', rest', htext', hmark', hrest'⟩ := hletters.exists_append
  obtain rfl := hmark'.eq_of_not_isAlpha (isAlpha_of_mem_mark hmark)
  obtain ⟨pass', hrun', hsame⟩ := hrun.exists_of_sameLetters hrest' file'
  have hmarked : mark' = [] → rest'.head? ≠ some '\uFEFF' := fun hnil hhead =>
    hrest hnil (hrest'.symm.head?_eq_of_not_isAlpha rfl hhead)
  have hpass' : (Source.mk file' text').pass o = pass' :=
    Source.pass_eq_of_run hmark hmarked htext' hrun'
  rwa [hpass']

/-- **The case of letters does not decide where a text is split.**  Two sources that differ in it
have the same tokens up to case, or the same error. -/
theorem lex_letter_case {text text' : String} (h : EqIgnoringCase text text')
    (file file' : String) (o : Options) :
    (∃ ts ts', (Source.mk file text).lex o = .ok ts ∧ (Source.mk file' text').lex o = .ok ts' ∧
        List.Forall₂ (Token.SameButCase o) ts ts') ∨
      ∃ e e', (Source.mk file text).lex o = .error e ∧ (Source.mk file' text').lex o = .error e' ∧
        e.SameButCase e' :=
  (Source.pass_sameButCase h file file' o).tokens

/-- In upper case a keyword is an identifier and an escape is none, and the tokens stand where they
stood.  A number is spoilt by a letter in either case. -/
theorem letter_case_keyword_escape :
    EqIgnoringCase "if\"\\n\"" "IF\"\\N\"" ∧
      (∃ ts ts', (Source.mk "text" "if\"\\n\"").lex {} = .ok ts ∧
        (Source.mk "text" "IF\"\\N\"").lex {} = .ok ts' ∧
        ts.map (·.kind) = [.keyword .«if», .stringLiteral "\n", .endOfInput] ∧
        ts'.map (·.kind) = [.identifier, .stringLiteral "\\N", .endOfInput] ∧
        List.Forall₂ (Token.SameButCase {}) ts ts') ∧
      EqIgnoringCase "1e" "1E" ∧
      ∃ e', (Source.mk "text" "1E").lex {} = .error e' ∧
        SyntaxError.SameButCase ⟨.malformedNumber, ⟨⟨1, 1, 0⟩, 2⟩, "text", "1e"⟩ e' := by
  have hkeyword : (Cursor.start "if\"\\n\"".toList).step {} "text" =
      .read ⟨.keyword .«if», "if", ⟨⟨1, 1, 0⟩, 2⟩⟩ ⟨⟨1, 3, 2⟩, ['"', '\\', 'n', '"']⟩ := by
    decide +kernel
  have hliteral : (Cursor.mk ⟨1, 3, 2⟩ ['"', '\\', 'n', '"']).step {} "text" =
      .read ⟨.stringLiteral "\n", "\\n", ⟨⟨1, 3, 2⟩, 6⟩⟩ ⟨⟨1, 7, 6⟩, []⟩ := by
    rfl
  have hidentifier : (Cursor.start "IF\"\\N\"".toList).step {} "text" =
      .read ⟨.identifier, "IF", ⟨⟨1, 1, 0⟩, 2⟩⟩ ⟨⟨1, 3, 2⟩, ['"', '\\', 'N', '"']⟩ := by
    decide +kernel
  have hliteral' : (Cursor.mk ⟨1, 3, 2⟩ ['"', '\\', 'N', '"']).step {} "text" =
      .read ⟨.stringLiteral "\\N", "\\N", ⟨⟨1, 3, 2⟩, 6⟩⟩ ⟨⟨1, 7, 6⟩, []⟩ := by
    rfl
  have hend : (Cursor.mk ⟨1, 7, 6⟩ []).step {} "text" = .finished (Token.atEnd ⟨1, 7, 6⟩) := by
    rfl
  have hnumber : (Cursor.start "1e".toList).step {} "text" =
      .failed ⟨.malformedNumber, ⟨⟨1, 1, 0⟩, 2⟩, "text", "1e"⟩ := by
    rfl
  have hlex : (Source.mk "text" "if\"\\n\"").lex {} =
      .ok [⟨.keyword .«if», "if", ⟨⟨1, 1, 0⟩, 2⟩⟩, ⟨.stringLiteral "\n", "\\n", ⟨⟨1, 3, 2⟩, 6⟩⟩,
        Token.atEnd ⟨1, 7, 6⟩] := by
    rw [Source.lex, Source.pass, Cursor.walk_read hkeyword, Cursor.walk_read hliteral,
      Cursor.walk_finished hend]
    rfl
  have hlex' : (Source.mk "text" "IF\"\\N\"").lex {} =
      .ok [⟨.identifier, "IF", ⟨⟨1, 1, 0⟩, 2⟩⟩, ⟨.stringLiteral "\\N", "\\N", ⟨⟨1, 3, 2⟩, 6⟩⟩,
        Token.atEnd ⟨1, 7, 6⟩] := by
    rw [Source.lex, Source.pass, Cursor.walk_read hidentifier, Cursor.walk_read hliteral',
      Cursor.walk_finished hend]
    rfl
  have herror : (Source.mk "text" "1e").lex {} =
      .error ⟨.malformedNumber, ⟨⟨1, 1, 0⟩, 2⟩, "text", "1e"⟩ := by
    rw [Source.lex, Source.pass, Cursor.walk_failed hnumber]
    rfl
  have hletters : EqIgnoringCase "if\"\\n\"" "IF\"\\N\"" := by rfl
  have hletters' : EqIgnoringCase "1e" "1E" := by rfl
  refine ⟨hletters, ?_, hletters', ?_⟩
  · rcases lex_letter_case hletters "text" "text" {} with
      ⟨ts, ts', hts, hts', hsame⟩ | ⟨e, -, he, -⟩
    · obtain rfl := Except.ok.inj (hlex.symm.trans hts)
      obtain rfl := Except.ok.inj (hlex'.symm.trans hts')
      exact ⟨_, _, hlex, hlex', rfl, rfl, hsame⟩
    · cases hlex.symm.trans he
  · rcases lex_letter_case hletters' "text" "text" {} with
      ⟨ts, -, hts, -⟩ | ⟨e, e', he, he', hsame⟩
    · cases herror.symm.trans hts
    · obtain rfl := Except.error.inj (herror.symm.trans he)
      exact ⟨e', he', hsame⟩

end QueryLexer
