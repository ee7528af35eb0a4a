/-
# Words under different options

Options decide which words are keywords, and nothing else.  Where the tokens of a text begin and
end, which of them are words, and which error comes first is the same under all options.  The main
statements are

* `Options.keyword?_eq_some_iff_names`: which words are keywords, by the spelling of these alone;
* `Source.lex_reclassify`: the tokens under other options are the same tokens with their words
  classified anew;
* `lex_options`: what two choices of options have in common.
-/
import QueryLexer.Proofs.Places
import QueryLexer.Proofs.Tiling

namespace QueryLexer

/-! ## Keywords -/

/-- Two texts are the same up to the case of ASCII letters. -/
def EqIgnoringCase (text text' : String) : Prop :=
  text.toList.map Char.toLower = text'.toList.map Char.toLower

/-- Under the options a word names a keyword: it is spelled like the keyword, and the keyword is
reserved. -/
structure Options.Names (o : Options) (word : String) (k : Keyword) : Prop where
  spelled : if o.ignoreCase then EqIgnoringCase word k.spelling else word = k.spelling
  reserved : k ≠ .«then» ∨ o.reserveThen = true

/-- Whatever some options switch on, others switch on too. -/
structure Options.Below (o o' : Options) : Prop where
  reserveThen : o.reserveThen = true → o'.reserveThen = true
  ignoreCase : o.ignoreCase = true → o'.ignoreCase = true

lemma Keyword.map_toLower_spelling (k : Keyword) :
    k.spelling.toList.map Char.toLower = k.spelling.toList := by
  cases k <;> decide +kernel

namespace Options

variable {o o' : Options} {word : String} {k : Keyword}

lemma spelling_eq_fold_iff :
    k.spelling = o.fold word ↔
      if o.ignoreCase then EqIgnoringCase word k.spelling else word = k.spelling := by
  unfold fold
  split
  · have hlower : word.toLower.toList = word.toList.map Char.toLower := String.toList_map
    rw [EqIgnoringCase, k.map_toLower_spelling, ← String.toList_inj, hlower, eq_comm]
  · exact eq_comm

/-- **A word is a keyword exactly if it names one.** -/
theorem keyword?_eq_some_iff_names : o.keyword? word = some k ↔ o.Names word k := by
  rw [keyword?_eq_some_iff, spelling_eq_fold_iff]
  constructor
  · rintro ⟨hspelled, hreserved⟩
    exact ⟨hspelled, by simpa [reserves] using hreserved⟩
  · rintro ⟨hspelled, hreserved⟩
    exact ⟨hspelled, by simpa [reserves] using hreserved⟩

lemma wordKind_eq_keyword_iff : o.wordKind word = .keyword k ↔ o.Names word k := by
  rw [← keyword?_eq_some_iff_names, wordKind]
  cases o.keyword? word <;> simp

lemma wordKind_eq_identifier_iff : o.wordKind word = .identifier ↔ ∀ k, ¬ o.Names word k := by
  simp only [← keyword?_eq_some_iff_names, ← Option.eq_none_iff_forall_ne_some, wordKind]
  cases o.keyword? word <;> simp

lemma wordKind_cases (o : Options) (word : String) :
    o.wordKind word = .identifier ∨ ∃ k, o.wordKind word = .keyword k := by
  unfold wordKind
  cases o.keyword? word with
  | none => exact Or.inl rfl
  | some k => exact Or.inr ⟨k, rfl⟩

/-- A word that names a keyword still does when options are switched on. -/
lemma Names.mono (h : o.Names word k) (hle : o.Below o') : o'.Names word k := by
  refine ⟨?_, h.reserved.imp_right hle.reserveThen⟩
  have hspelled := h.spelled
  by_cases hcase : o.ignoreCase = true
  · rw [if_pos hcase] at hspelled
    rwa [if_pos (hle.ignoreCase hcase)]
  · rw [if_neg hcase] at hspelled
    rw [hspelled]
    split <;> rfl

end Options

/-! ## Tokens of a source -/

/-- The tokens that can stand in a source under the options: those of the spellings, and the end of
the input. -/
inductive Token.IsLexed (o : Options) : Token → Prop
  | spelled (s : Spelling) (place : Position) : IsLexed o (s.token o place)
  | closing (place : Position) : IsLexed o (atEnd place)

lemma Source.isLexed_of_mem {src : Source} {o : Options} {ts : List Token}
    (h : src.lex o = .ok ts) {t : Token} (ht : t ∈ ts) : t.IsLexed o := by
  obtain ⟨mark, -, rest, -, hrun⟩ := src.exists_run o
  obtain ⟨last, hlast, rfl⟩ := Pass.tokens_eq_ok_iff.1 h
  rcases List.mem_append.1 ht with ht | ht
  · obtain ⟨before, s, after, -, -, rfl⟩ := hrun.exists_of_mem ht
    exact .spelled s _
  · obtain rfl := List.mem_singleton.1 ht
    rw [hrun.ending_eq hlast]
    exact .closing _

/-- A token is classified by the options.  It is a word exactly if it is an identifier or a keyword,
and the options decide which of them. -/
structure Options.Classifies (o : Options) (t : Token) : Prop where
  isWord_iff : IsWord t.written ↔ t.kind = .identifier ∨ ∃ k, t.kind = .keyword k
  keyword_iff : IsWord t.written → ∀ k, t.kind = .keyword k ↔ o.Names t.lexeme k
  identifier_iff : IsWord t.written → (t.kind = .identifier ↔ ∀ k, ¬ o.Names t.lexeme k)

lemma Spelling.eq_word_of_isWord {s : Spelling} (h : IsWord s.text) : s = .word s.text h :=
  text_injective rfl

/-- **The tokens of a source are classified by its options.** -/
theorem Token.IsLexed.classifies {o : Options} {t : Token} (h : t.IsLexed o) : o.Classifies t := by
  cases h with
  | spelled s place =>
    by_cases hword : ∃ text h, s = .word text h
    · obtain ⟨text, htext, rfl⟩ := hword
      refine ⟨?_, fun _ k => Options.wordKind_eq_keyword_iff,
        fun _ => Options.wordKind_eq_identifier_iff⟩
      rw [Spelling.written_token]
      exact iff_of_true htext (o.wordKind_cases _)
    · have hnot : ¬ IsWord (s.token o place).written := by
        rw [s.written_token]
        exact fun h => hword ⟨_, h, Spelling.eq_word_of_isWord h⟩
      refine ⟨iff_of_false hnot ?_, fun h => absurd h hnot, fun h => absurd h hnot⟩
      show ¬ (s.kind o = .identifier ∨ ∃ k, s.kind o = .keyword k)
      cases s with
      | word text h => exact absurd ⟨text, h, rfl⟩ hword
      | _ => simp [Spelling.kind]
  | closing place =>
    have hnot : ¬ IsWord (atEnd place).written := by
      rintro ⟨c, tail, htext, -⟩
      cases htext
    exact ⟨iff_of_false hnot (by simp [atEnd]), fun h => absurd h hnot, fun h => absurd h hnot⟩

/-! ## Words classified anew -/

/-- The kind that a token has under other options. -/
def TokenKind.reclassify (o : Options) (lexeme : String) : TokenKind → TokenKind
  | keyword _ | identifier => o.wordKind lexeme
  | kind => kind

/-- The token under other options.  It keeps its text and its span. -/
def Token.reclassify (o : Options) (t : Token) : Token :=
  { t with kind := t.kind.reclassify o t.lexeme }

/-- The pass under other options, over a source of another name. -/
def Pass.reclassify (o : Options) (file : String) (p : Pass) : Pass :=
  ⟨p.read.map (Token.reclassify o),
    (p.ending.mapError fun e => { e with file := file }).map (Token.reclassify o)⟩

lemma Spelling.kind_reclassify (s : Spelling) (o o' : Options) :
    (s.kind o).reclassify o' (String.ofList s.lexeme) = s.kind o' := by
  cases s with
  | word text h =>
    show (o.wordKind (String.ofList text)).reclassify o' (String.ofList text) =
      o'.wordKind (String.ofList text)
    rcases o.wordKind_cases (String.ofList text) with hk | ⟨k, hk⟩ <;> rw [hk] <;> rfl
  | _ => rfl

lemma Spelling.token_reclassify (s : Spelling) (o o' : Options) (place : Position) :
    (s.token o place).reclassify o' = s.token o' place := by
  simp only [token, Token.reclassify, kind_reclassify]

/-- **The run under other options is the same run with its words classified anew.** -/
theorem Run.reclassify {o : Options} {file : String} {c : Cursor} {pass : Pass}
    (h : Run o file c pass) (o' : Options) (file' : String) :
    Run o' file' c (pass.reclassify o' file') := by
  induction h with
  | finished hgap => exact Run.finished hgap
  | @read place gap rest s pass hgap hstops _ ih =>
    have hrun := Run.read hgap hstops ih
    rw [← s.token_reclassify o o'] at hrun
    exact hrun
  | failed hgap hfault => exact Run.failed hgap hfault

section Sources

variable {file text : String} {o : Options}

lemma Source.pass_reclassify (file file' text : String) (o o' : Options) :
    (Source.mk file' text).pass o' = ((Source.mk file text).pass o).reclassify o' file' := by
  obtain ⟨mark, hmark, rest, htext, hrest, hrun⟩ := (Source.mk file text).exists_marked_run o
  exact Source.pass_eq_of_run hmark hrest htext (hrun.reclassify o' file')

/-- The tokens under other options are the same tokens with their words classified anew. -/
theorem Source.lex_reclassify {ts : List Token} (h : (Source.mk file text).lex o = .ok ts)
    (file' : String) (o' : Options) :
    (Source.mk file' text).lex o' = .ok (ts.map (Token.reclassify o')) := by
  obtain ⟨last, hlast, rfl⟩ := Pass.tokens_eq_ok_iff.1 h
  rw [Source.lex, Source.pass_reclassify file file' text o o', Pass.tokens_eq_ok_iff]
  refine ⟨last.reclassify o', ?_, by simp [Pass.reclassify]⟩
  simp only [Pass.reclassify, hlast]
  rfl

theorem Source.lex_reclassify_of_error {e : SyntaxError}
    (h : (Source.mk file text).lex o = .error e) (file' : String) (o' : Options) :
    (Source.mk file' text).lex o' = .error { e with file := file' } := by
  rw [Source.lex, Source.pass_reclassify file file' text o o', Pass.tokens_eq_error_iff]
  simp only [Pass.reclassify, Pass.tokens_eq_error_iff.1 h]
  rfl

end Sources

/-! ## Two choices of options -/

/-- Two tokens cover the same text, and they are of the same kind unless it is a word. -/
structure SameButWords (t t' : Token) : Prop where
  span_eq : t'.span = t.span
  lexeme_eq : t'.lexeme = t.lexeme
  kind_eq : ¬ IsWord t.written → t'.kind = t.kind

namespace Options.Classifies

variable {o o' : Options} {t : Token}

lemma sameButWords (h : o.Classifies t) (o' : Options) : SameButWords t (t.reclassify o') := by
  refine ⟨rfl, rfl, fun hword => ?_⟩
  have hkind := mt h.isWord_iff.2 hword
  show t.kind.reclassify o' t.lexeme = t.kind
  cases hk : t.kind with
  | keyword k => exact absurd (Or.inr ⟨k, hk⟩) hkind
  | identifier => exact absurd (Or.inl hk) hkind
  | _ => rfl

lemma kind_reclassify_of_keyword (h : o.Classifies t) (hle : o.Below o') {k : Keyword}
    (hk : t.kind = .keyword k) : (t.reclassify o').kind = .keyword k := by
  have hword := h.isWord_iff.2 (Or.inr ⟨k, hk⟩)
  have hnames := ((h.keyword_iff hword k).1 hk).mono hle
  show t.kind.reclassify o' t.lexeme = .keyword k
  rw [hk]
  exact Options.wordKind_eq_keyword_iff.2 hnames

end Options.Classifies

/-- **Options touch only the classification of words.**  Under two choices of options, and under two
names, a text gives the same tokens but for the kinds of words, or the same error but for the name.
The words are classified as the options say, and switching options on leaves the keywords what they
are. -/
theorem lex_options (file file' text : String) (o o' : Options) :
    (∃ ts ts', (Source.mk file text).lex o = .ok ts ∧ (Source.mk file' text).lex o' = .ok ts' ∧
        List.Forall₂ SameButWords ts ts' ∧ (∀ t ∈ ts, o.Classifies t) ∧
        (∀ t ∈ ts', o'.Classifies t) ∧
        (o.Below o' →
          List.Forall₂ (fun t t' => ∀ k, t.kind = .keyword k → t'.kind = .keyword k) ts ts')) ∨
      ∃ e, (Source.mk file text).lex o = .error e ∧
        (Source.mk file' text).lex o' = .error { e with file := file' } := by
  cases h : (Source.mk file text).lex o with
  | error e => exact Or.inr ⟨e, rfl, Source.lex_reclassify_of_error h file' o'⟩
  | ok ts =>
    have h' := Source.lex_reclassify h file' o'
    have hts : ∀ t ∈ ts, o.Classifies t := fun t ht => (Source.isLexed_of_mem h ht).classifies
    refine Or.inl ⟨ts, _, rfl, h', ?_, hts, fun t ht => (Source.isLexed_of_mem h' ht).classifies,
      fun hle => ?_⟩
    · rw [List.forall₂_map_right_iff, List.forall₂_same]
      exact fun t ht => (hts t ht).sameButWords o'
    · rw [List.forall₂_map_right_iff, List.forall₂_same]
      exact fun t ht k hk => (hts t ht).kind_reclassify_of_keyword hle hk

/-- Where letter case is ignored, a word that is spelled like `then` is reserved on request only.
The same letters between quotes are no word. -/
theorem options_reserved_then :
    (Source.mk "text" "Then\"IF\"IF").lex ⟨false, true⟩ =
        .ok [⟨.identifier, "Then", ⟨⟨1, 1, 0⟩, 4⟩⟩, ⟨.stringLiteral "IF", "IF", ⟨⟨1, 5, 4⟩, 8⟩⟩,
          ⟨.keyword .«if», "IF", ⟨⟨1, 9, 8⟩, 10⟩⟩, Token.atEnd ⟨1, 11, 10⟩] ∧
      Options.Below ⟨false, true⟩ ⟨true, true⟩ ∧
      ∃ ts, (Source.mk "copy" "Then\"IF\"IF").lex ⟨true, true⟩ = .ok ts ∧
        List.Forall₂ (fun t t' => ∀ k, t.kind = .keyword k → t'.kind = .keyword k)
          [⟨.identifier, "Then", ⟨⟨1, 1, 0⟩, 4⟩⟩, ⟨.stringLiteral "IF", "IF", ⟨⟨1, 5, 4⟩, 8⟩⟩,
            ⟨.keyword .«if», "IF", ⟨⟨1, 9, 8⟩, 10⟩⟩, Token.atEnd ⟨1, 11, 10⟩] ts ∧
        ∀ t ∈ ts, Options.Classifies ⟨true, true⟩ t := by
  have hword : (Cursor.start "Then\"IF\"IF".toList).step ⟨false, true⟩ "text" =
      .read ⟨.identifier, "Then", ⟨⟨1, 1, 0⟩, 4⟩⟩ ⟨⟨1, 5, 4⟩, ['"', 'I', 'F', '"', 'I', 'F']⟩ := by
    decide +kernel
  have hliteral : (Cursor.mk ⟨1, 5, 4⟩ ['"', 'I', 'F', '"', 'I', 'F']).step ⟨false, true⟩ "text" =
      .read ⟨.stringLiteral "IF", "IF", ⟨⟨1, 5, 4⟩, 8⟩⟩ ⟨⟨1, 9, 8⟩, ['I', 'F']⟩ := by
    rfl
  have hkeyword : (Cursor.mk ⟨1, 9, 8⟩ ['I', 'F']).step ⟨false, true⟩ "text" =
      .read ⟨.keyword .«if», "IF", ⟨⟨1, 9, 8⟩, 10⟩⟩ ⟨⟨1, 11, 10⟩, []⟩ := by
    decide +kernel
  have hend : (Cursor.mk ⟨1, 11, 10⟩ []).step ⟨false, true⟩ "text" =
      .finished (Token.atEnd ⟨1, 11, 10⟩) := by
    rfl
  have hlex : (Source.mk "text" "Then\"IF\"IF").lex ⟨false, true⟩ =
      .ok [⟨.identifier, "Then", ⟨⟨1, 1, 0⟩, 4⟩⟩, ⟨.stringLiteral "IF", "IF", ⟨⟨1, 5, 4⟩, 8⟩⟩,
        ⟨.keyword .«if», "IF", ⟨⟨1, 9, 8⟩, 10⟩⟩, Token.atEnd ⟨1, 11, 10⟩] := by
    rw [Source.lex, Source.pass, Cursor.walk_read hword, Cursor.walk_read hliteral,
      Cursor.walk_read hkeyword, Cursor.walk_finished hend]
    rfl
  have hle : Options.Below ⟨false, true⟩ ⟨true, true⟩ := ⟨fun _ => rfl, fun _ => rfl⟩
  refine ⟨hlex, hle, ?_⟩
  rcases lex_options "text" "copy" "Then\"IF\"IF" ⟨false, true⟩ ⟨true, true⟩ with
    ⟨ts, ts', hts, hts', -, -, hclassified, hkept⟩ | ⟨e, he, -⟩
  · obtain rfl := Except.ok.inj (hlex.symm.trans hts)
    exact ⟨ts', hts', hkept hle, hclassified⟩
  · cases hlex.symm.trans he

end QueryLexer
