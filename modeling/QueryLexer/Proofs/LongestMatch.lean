/-
# Longest matches

Where several tokens stand at the front of a text, the longest of them is read.  What is longest is
said by the grammar of tokens alone, and so is what the kind of a token tells about its text
(`Labels`).  The main statements are

* `Spelling.Stops.isLongest`: a spelling that stops is longer than every other one at the front;
* `longest_of_emitted`: every token of a source is the longest one where it stands, also if an error
  comes behind it.
-/
import QueryLexer.Proofs.Run

namespace QueryLexer

/-! ## The longest token -/

/-- A spelling stands at the front of a text, and every other one that does is shorter. -/
structure IsLongest (s : Spelling) (text : List Char) : Prop where
  front : s.text <+: text
  longest : ∀ s' : Spelling, s'.text <+: text → s' = s ∨ s'.text.length < s.text.length

/-- **A spelling that stops is the longest one.** -/
theorem Spelling.Stops.isLongest {s : Spelling} {rest : List Char} (h : s.Stops rest) :
    IsLongest s (s.text ++ rest) := by
  refine ⟨List.prefix_append _ _, ?_⟩
  intro s' hfront
  have hle := length_le_of_prefix h hfront
  rcases Nat.eq_or_lt_of_le hle with heq | hlt
  · -- two prefixes of the same length are the same text
    have hshort : s'.text <+: s.text :=
      List.prefix_of_prefix_length_le hfront (List.prefix_append _ _) hle
    exact Or.inl (text_injective (hshort.eq_of_length heq))
  · exact Or.inr hlt

/-! ## Kinds -/

/-- A kind and a lexeme name the spelling that they belong to: its language, and its member where
the language has a table of them. -/
inductive Labels (o : Options) : TokenKind → String → Spelling → Prop
  | keyword {text : List Char} {h : IsWord text} {k : Keyword}
      (hk : o.keyword? (String.ofList text) = some k) :
      Labels o (.keyword k) (String.ofList text) (.word text h)
  | identifier {text : List Char} {h : IsWord text}
      (hk : o.keyword? (String.ofList text) = none) :
      Labels o .identifier (String.ofList text) (.word text h)
  | int {digits : List Char} {h : IsDigits digits} :
      Labels o .intLiteral (String.ofList digits) (.int digits h)
  | float {whole fraction : List Char} {hwhole : IsDigits whole} {hfraction : IsDigits fraction} :
      Labels o .floatLiteral (String.ofList (whole ++ '.' :: fraction))
        (.float whole fraction hwhole hfraction)
  | string {body : List Char} {h : StringLiteral.IsBody body} :
      Labels o (.stringLiteral (String.ofList (StringLiteral.decode body))) (String.ofList body)
        (.string body h)
  | operator {op : Operator} : Labels o (.operator op) op.spelling (.operator op)
  | punctuation {p : Punctuation} : Labels o (.punctuation p) p.spelling (.punctuation p)

variable {o : Options}

lemma Spelling.labels (s : Spelling) (o : Options) :
    Labels o (s.kind o) (String.ofList s.lexeme) s := by
  cases s with
  | word text h =>
    cases hk : o.keyword? (String.ofList text) with
    | some k =>
      have hkind : (word text h).kind o = .keyword k := by
        show o.wordKind (String.ofList text) = _
        rw [Options.wordKind, hk]
      rw [hkind]
      exact Labels.keyword hk
    | none =>
      have hkind : (word text h).kind o = .identifier := by
        show o.wordKind (String.ofList text) = _
        rw [Options.wordKind, hk]
      rw [hkind]
      exact Labels.identifier hk
  | int digits h => exact Labels.int
  | float whole fraction hwhole hfraction => exact Labels.float
  | string body h => exact Labels.string
  | operator op => exact Labels.operator
  | punctuation p => exact Labels.punctuation

namespace Labels

variable {kind : TokenKind} {lexeme : String} {s : Spelling}

lemma exists_int (h : Labels o kind lexeme s) (hkind : kind = .intLiteral) :
    ∃ digits hdigits, s = .int digits hdigits := by
  cases h with
  | int => exact ⟨_, _, rfl⟩
  | _ => cases hkind

lemma exists_string (h : Labels o kind lexeme s) {value : String}
    (hkind : kind = .stringLiteral value) :
    ∃ body hbody, s = .string body hbody ∧ value = String.ofList (StringLiteral.decode body) := by
  cases h with
  | string =>
    obtain rfl := TokenKind.stringLiteral.inj hkind
    exact ⟨_, _, rfl, rfl⟩
  | _ => cases hkind

lemma group_eq (h : Labels o kind lexeme s)
    (hkind : kind = .intLiteral ∨ kind = .floatLiteral) : s.group = .number := by
  cases h with
  | int | float => rfl
  | _ => rcases hkind with hkind | hkind <;> cases hkind

end Labels

/-! ## Emitted tokens -/

/-- The tokens that a source gives: those that are returned, but for the end of the input, and those
that are recorded on the way, also if the way ends with an error. -/
inductive Emitted (src : Source) (o : Options) (t : Token) : Prop
  | returned {ts : List Token} (hts : src.lex o = .ok ts) (ht : t ∈ ts)
      (hkind : t.kind ≠ .endOfInput)
  | recorded (ht : t ∈ (src.pass o).read)

lemma Emitted.mem_read {src : Source} {t : Token} (h : Emitted src o t) :
    t ∈ (src.pass o).read := by
  cases h with
  | recorded ht => exact ht
  | returned hts ht hkind =>
    obtain ⟨_, _, _, _, hrun⟩ := src.exists_run o
    obtain ⟨last, hlast, rfl⟩ := Pass.tokens_eq_ok_iff.1 hts
    rcases List.mem_append.1 ht with ht | ht
    · exact ht
    · obtain rfl := List.mem_singleton.1 ht
      exact absurd (hrun.kind_of_ending hlast) hkind

/-- A token covers the longest spelling where it stands in a text.  `front` is the text from there
on, and `after` what comes behind the token. -/
structure LongestMatch (o : Options) (text : String) (t : Token) (s : Spelling)
    (front after : String) : Prop where
  front_eq : slice? text t.span.start.offset text.utf8ByteSize = some front
  slice_eq : slice? text t.span.start.offset t.span.stop = some (String.ofList s.text)
  after_eq : slice? text t.span.stop text.utf8ByteSize = some after
  longest : IsLongest s front.toList
  /-- The kind names the spelling. -/
  labels : Labels o t.kind t.lexeme s
  /-- No word touches a number. -/
  not_wordStart : t.kind = .intLiteral ∨ t.kind = .floatLiteral →
    ∀ c ∈ after.toList.head?, c.isAlpha = false ∧ c ≠ '_'
  /-- No point touches a whole number. -/
  ne_point : t.kind = .intLiteral → ∀ c ∈ after.toList.head?, c ≠ '.'

/-- **Every emitted token is the longest one where it stands.** -/
theorem longest_of_emitted {src : Source} {t : Token} (h : Emitted src o t) :
    ∃ s front after, LongestMatch o src.text t s front after := by
  obtain ⟨mark, -, rest, htext, hrun⟩ := src.exists_run o
  obtain ⟨before, s, after, hrest, hstops, rfl⟩ := hrun.exists_of_mem h.mem_read
  obtain rfl : rest = before ++ (s.text ++ after) := hrest
  have hfront := (goesOn_firstLine htext).after
  have hafter := hfront.after.slice_rest
  rw [Position.offset_after] at hafter
  have hlabels := s.labels o
  refine ⟨s, String.ofList (s.text ++ after), String.ofList after, hfront.slice_rest,
    hfront.slice, hafter, ?_, hlabels, ?_, ?_⟩
  · rw [String.toList_ofList]
    exact hstops.isLongest
  · intro hkind c hc
    rw [String.toList_ofList] at hc
    obtain ⟨hword, -⟩ := hstops.not_wordChar (hlabels.group_eq hkind) c hc
    simpa [isWordStart] using hword
  · intro hkind
    obtain ⟨digits, hdigits, rfl⟩ := hlabels.exists_int hkind
    rw [String.toList_ofList]
    exact hstops.ne_point

/-- An arrow in front of an error.  The minus sign that it begins with is an operator too, but a
shorter one. -/
theorem longest_arrow :
    Emitted ⟨"text", "->\""⟩ {} ⟨.operator .arrow, "->", ⟨⟨1, 1, 0⟩, 2⟩⟩ ∧
      ∃ s front after,
        LongestMatch {} "->\"" ⟨.operator .arrow, "->", ⟨⟨1, 1, 0⟩, 2⟩⟩ s front after := by
  have harrow : (Cursor.start "->\"".toList).step {} "text" =
      .read ⟨.operator .arrow, "->", ⟨⟨1, 1, 0⟩, 2⟩⟩ ⟨⟨1, 3, 2⟩, ['"']⟩ := by
    rfl
  have hemitted : Emitted ⟨"text", "->\""⟩ {} ⟨.operator .arrow, "->", ⟨⟨1, 1, 0⟩, 2⟩⟩ := by
    refine Emitted.recorded ?_
    rw [Source.pass, Cursor.walk_read harrow]
    exact List.mem_cons_self
  exact ⟨hemitted, longest_of_emitted hemitted⟩

end QueryLexer
