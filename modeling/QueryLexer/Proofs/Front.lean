/-
# The front of a text, by the grammar

A text that is past its trivia begins with a spelling that stops or with a fault, and never with
both.  Faults are described without the scanner: a character with which no token begins, a string
literal that is not closed on its line, and a number that something is attached to.  The main
statements are

* `Operator.atFront?_cons`: a look at two characters finds the longest operator at the front of a
  text;
* `scan_of_stops` and `scan_of_fault`: the scanner accepts a spelling that stops and rejects a
  fault;
* `spelling_or_fault`: a text past its trivia begins with one of them;
* `Fault.unique`: it begins with one fault at most.
-/
import QueryLexer.Proofs.Gap
import QueryLexer.Proofs.Spelling

namespace QueryLexer

open Trivia (BeginsToken blankChars)

/-! ## Faults -/

/-- A whole number or a number with a point that is the longest one at the front of a text. -/
structure IsLongestNumber (m : Spelling) (text : List Char) : Prop where
  number : m.group = .number
  front : m.text <+: text
  longest : ∀ m' : Spelling, m'.group = .number → m'.text <+: text →
    m'.text.length ≤ m.text.length

/-- A text begins with an error of the given kind that covers the given number of bytes. -/
inductive Fault (text : List Char) : SyntaxErrorKind → Nat → Prop
  /-- The first character separates nothing and begins no token. -/
  | unexpected {c : Char} {rest : List Char} (htext : text = c :: rest)
      (hblank : c ∉ blankChars) (hhash : c ≠ '#')
      (hletter : c.isAlpha = false) (hunderscore : c ≠ '_') (hdigit : c.isDigit = false)
      (hquote : c ≠ '"') (hoperator : ∀ op : Operator, op.chars.head? ≠ some c)
      (hmark : ∀ p : Punctuation, p.char ≠ c) :
      Fault text (.unexpectedCharacter c) c.utf8Size
  /-- A quote opens a literal that is never closed.  The error covers the rest of the line. -/
  | unterminated {line rest : List Char} (hquote : text.head? = some '"')
      (hopen : ∀ body h, ¬ (Spelling.string body h).text <+: text) (htext : text = line ++ rest)
      (hline : '\n' ∉ line) (hrest : ∀ c ∈ rest.head?, c = '\n') :
      Fault text .unterminatedString (byteLength line)
  /-- A number touches a letter, an underscore or, if it has no point yet, a point.  The error
  covers the number and that character. -/
  | malformed {m : Spelling} {c : Char} {rest : List Char} (hm : IsLongestNumber m text)
      (htext : text = m.text ++ c :: rest)
      (hc : c.isAlpha = true ∨ c = '_' ∨ (∃ digits h, m = .int digits h) ∧ c = '.') :
      Fault text .malformedNumber (byteLength m.text + 1)

lemma Fault.pos {text : List Char} {kind : SyntaxErrorKind} {n : Nat} (h : Fault text kind n) :
    0 < n := by
  cases h with
  | @unexpected c => exact c.utf8Size_pos
  | @unterminated line rest hquote _ htext _ hrest =>
    -- the line holds at least the quote, since a newline or nothing follows it
    cases line with
    | nil =>
      obtain rfl : text = rest := htext
      exact absurd (hrest _ hquote) (by decide)
    | cons c line => exact Nat.add_pos_left c.utf8Size_pos _
  | malformed => exact Nat.succ_pos _

lemma fault_mark (rest : List Char) :
    Fault ('\uFEFF' :: rest) (.unexpectedCharacter '\uFEFF') 3 := by
  refine Fault.unexpected rfl (by decide) (by decide) rfl (by decide) rfl (by decide) ?_ ?_
  · intro op
    cases op <;> decide
  · intro p
    cases p <;> decide

lemma isLongestNumber_of_numberEnds {m : Spelling} {rest : List Char} (hm : m.group = .number)
    (h : m.NumberEnds rest) : IsLongestNumber m (m.text ++ rest) :=
  ⟨hm, List.prefix_append _ _, fun _ hm' hfront => h.length_le hm hm' hfront⟩

/-! ## Beginnings of tokens -/

lemma Spelling.group?_eq_none {c : Char} (h : c ∈ '#' :: blankChars) : group? c = none := by
  simp only [blankChars, List.mem_cons, List.not_mem_nil, or_false] at h
  rcases h with rfl | rfl | rfl | rfl | rfl | rfl <;> rfl

lemma Spelling.beginsToken (s : Spelling) (rest : List Char) : BeginsToken (s.text ++ rest) := by
  obtain ⟨c, tail, htext, hc⟩ := s.exists_begins
  have hnot : c ∉ '#' :: blankChars := fun h => ne_of_begins hc (group?_eq_none h) rfl
  rw [List.mem_cons, not_or] at hnot
  exact ⟨c, tail ++ rest, by rw [htext, List.cons_append], hnot.1, hnot.2⟩

lemma Fault.beginsToken {text : List Char} {kind : SyntaxErrorKind} {n : Nat}
    (h : Fault text kind n) : BeginsToken text := by
  cases h with
  | unexpected htext hblank hhash => exact ⟨_, _, htext, hhash, hblank⟩
  | unterminated hquote =>
    obtain ⟨tail, rfl⟩ := List.head?_eq_some_iff.1 hquote
    exact ⟨'"', tail, rfl, by decide, by decide⟩
  | @malformed m c rest _ htext =>
    rw [htext]
    exact m.beginsToken (c :: rest)

/-! ## Operators -/

namespace Operator

lemma head?_of_prefix {op : Operator} {c : Char} {rest : List Char} (h : op.chars <+: c :: rest) :
    op.chars.head? = some c := by
  obtain ⟨d, tail, hchars⟩ := List.exists_cons_of_ne_nil op.chars_ne_nil
  rw [hchars] at h ⊢
  rw [(List.cons_prefix_cons.1 h).1]
  rfl

/-- The search tries longer operators first, so nothing joins the operator that it finds. -/
lemma stops_of_atFront? {text : List Char} {op : Operator} (h : atFront? text = some op) :
    ∃ rest, text = op.chars ++ rest ∧ ∀ c ∈ rest.head?, op.joins c = false := by
  obtain ⟨rest, rfl⟩ := chars_prefix_of_atFront? h
  refine ⟨rest, rfl, fun c hc => joins_eq_false_iff.2 fun op' hop' => ?_⟩
  have hlt : op.chars.length < op'.chars.length := by
    rw [hop', List.length_append]
    exact Nat.lt_succ_self _
  have hfront : op'.chars <+: op.chars ++ rest := by
    obtain ⟨tail, rfl⟩ := List.head?_eq_some_iff.1 hc
    exact ⟨tail, by rw [hop', List.append_assoc, List.singleton_append]⟩
  obtain ⟨-, before, after, hall, hbefore⟩ := List.find?_eq_some_iff_append.1 h
  have hmem : op' ∈ before ++ op :: after := hall ▸ mem_all op'
  rcases List.mem_append.1 hmem with hmem | hmem
  · -- a longer operator that is named before would have been found
    have hnot := hbefore op' hmem
    rw [Bool.not_eq_true', ← Bool.not_eq_true, List.isPrefixOf_iff_prefix] at hnot
    exact hnot hfront
  · have hsorted : all.Pairwise fun a b => b.chars.length ≤ a.chars.length := by decide
    rw [hall, List.pairwise_append, List.pairwise_cons] at hsorted
    rcases List.mem_cons.1 hmem with rfl | hmem
    · exact Nat.lt_irrefl _ hlt
    · have := hsorted.2.1.1 op' hmem
      omega

/-- **The operator at the front of a text is the one that nothing joins.** -/
theorem atFront?_eq_some_iff {text : List Char} {op : Operator} :
    atFront? text = some op ↔
      ∃ rest, text = op.chars ++ rest ∧ ∀ c ∈ rest.head?, op.joins c = false := by
  refine ⟨stops_of_atFront?, ?_⟩
  rintro ⟨rest, rfl, hrest⟩
  cases h : atFront? (op.chars ++ rest) with
  | none => exact absurd (List.prefix_append _ _) (atFront?_eq_none_iff.1 h op)
  | some op' =>
    obtain ⟨rest', htext, hrest'⟩ := stops_of_atFront? h
    have hle : op'.chars.length ≤ op.chars.length :=
      length_le_of_prefix hrest ⟨rest', htext.symm⟩
    have hge : op.chars.length ≤ op'.chars.length := length_le_of_prefix hrest' ⟨rest, htext⟩
    rw [chars_injective (List.append_inj_left htext (Nat.le_antisymm hge hle))]

lemma atFront?_of_double? {c : Char} {text : List Char} {op : Operator}
    (h : double? c text.head? = some op) : atFront? (c :: text) = some op := by
  obtain ⟨d, hd, hchars⟩ := double?_eq_some_iff.1 h
  obtain ⟨rest, rfl⟩ := List.head?_eq_some_iff.1 hd
  refine atFront?_eq_some_iff.2 ⟨rest, by rw [hchars]; rfl, ?_⟩
  intro e _
  refine joins_eq_false_iff.2 fun op' hop' => ?_
  -- no operator has three characters
  have hthree : op'.chars.length = 3 := by
    rw [hop', hchars]
    rfl
  have := length_chars op'
  omega

lemma atFront?_of_single {c : Char} {text : List Char} (hstart : isStart c = true)
    (h : double? c text.head? = none) : atFront? (c :: text) = some (single c) := by
  have hchars := chars_single hstart
  refine atFront?_eq_some_iff.2 ⟨text, by rw [hchars]; rfl, ?_⟩
  intro d hd
  refine joins_eq_false_iff.2 fun op' hop' => ?_
  rw [hchars] at hop'
  have hdouble : double? c text.head? = some op' := double?_eq_some_iff.2 ⟨d, hd, hop'⟩
  rw [h] at hdouble
  cases hdouble

lemma atFront?_of_not_isStart {c : Char} (h : ¬ isStart c = true) (text : List Char) :
    atFront? (c :: text) = none :=
  atFront?_eq_none_iff.2 fun op hop => h (isStart_iff.2 ⟨op, head?_of_prefix hop⟩)

/-- **A look at two characters finds the operator that the search finds.** -/
theorem atFront?_cons (c : Char) (text : List Char) :
    atFront? (c :: text) =
      if isStart c then some ((double? c text.head?).getD (single c)) else none := by
  split_ifs with hstart
  · cases hdouble : double? c text.head? with
    | some op => exact atFront?_of_double? hdouble
    | none => exact atFront?_of_single hstart hdouble
  · exact atFront?_of_not_isStart hstart text

end Operator

/-! ## The readers -/

namespace Scan

lemma number_whole {digits rest : List Char} (hdigits : IsDigits digits)
    (hrest : ∀ c ∈ rest.head?, c.isDigit = false) (hpoint : ∀ c ∈ rest.head?, c ≠ '.') :
    number (digits ++ rest) = closeNumber .intLiteral digits rest := by
  rw [number, takeWhile_run hdigits.2 hrest, dropWhile_run hdigits.2 hrest]
  cases rest with
  | nil => rfl
  | cons c rest =>
    have hc : c ≠ '.' := hpoint c rfl
    split
    · next h => exact absurd (List.cons.inj h).1 hc
    · rfl

lemma number_fraction {whole fraction rest : List Char} (hwhole : IsDigits whole)
    (hfraction : IsDigits fraction) (hrest : ∀ c ∈ rest.head?, c.isDigit = false) :
    number (whole ++ '.' :: (fraction ++ rest)) =
      closeNumber .floatLiteral (whole ++ '.' :: fraction) rest := by
  have hpoint := Spelling.point_not_digit (fraction ++ rest)
  rw [number, takeWhile_run hwhole.2 hpoint, dropWhile_run hwhole.2 hpoint]
  simp only [takeWhile_run hfraction.2 hrest, dropWhile_run hfraction.2 hrest]
  rw [if_neg (by simpa using hfraction.1)]

lemma number_point {digits rest : List Char} (hdigits : IsDigits digits)
    (hrest : ∀ c ∈ rest.head?, c.isDigit = false) :
    number (digits ++ '.' :: rest) = reject .malformedNumber (digits ++ ['.']) := by
  have hpoint := Spelling.point_not_digit rest
  have hnone : rest.takeWhile Char.isDigit = [] := by
    show ([] ++ rest).takeWhile Char.isDigit = []
    exact takeWhile_run (by simp) hrest
  rw [number, takeWhile_run hdigits.2 hpoint, dropWhile_run hdigits.2 hpoint]
  simp [hnone]

lemma closeNumber_accept {kind : TokenKind} {lexeme rest : List Char}
    (h : ∀ c ∈ rest.head?, isWordStart c = false) :
    closeNumber kind lexeme rest = accept kind lexeme rest := by
  cases rest with
  | nil => rfl
  | cons c rest => simp [closeNumber, h c rfl]

lemma closeNumber_reject {kind : TokenKind} {lexeme rest : List Char} {c : Char}
    (h : isWordStart c = true) :
    closeNumber kind lexeme (c :: rest) = reject .malformedNumber (lexeme ++ [c]) := by
  simp [closeNumber, h]

lemma operator_double {c d : Char} {op : Operator} (h : Operator.double? c (some d) = some op)
    (rest : List Char) : operator c (d :: rest) = accept (.operator op) [c, d] rest := by
  rw [operator, List.head?_cons, h]
  rfl

lemma operator_single {c : Char} {text : List Char} (h : Operator.double? c text.head? = none) :
    operator c text = accept (.operator (.single c)) [c] text := by
  rw [operator, h]

lemma symbol_operator {c : Char} {text rest : List Char} {op : Operator}
    (htext : c :: text = op.chars ++ rest) (hrest : ∀ c ∈ rest.head?, op.joins c = false) :
    symbol c text = accept (.operator op) op.chars rest := by
  have hstart : Operator.isStart c = true :=
    Operator.isStart_iff.2 ⟨op, Operator.head?_of_prefix ⟨rest, htext.symm⟩⟩
  have hfront := Operator.atFront?_eq_some_iff.2 ⟨rest, htext, hrest⟩
  rw [Operator.atFront?_cons, if_pos hstart, Option.some_inj] at hfront
  rw [symbol, if_pos hstart]
  cases hdouble : Operator.double? c text.head? with
  | some op' =>
    obtain rfl : op' = op := by simpa [hdouble] using hfront
    obtain ⟨d, hd, hchars⟩ := Operator.double?_eq_some_iff.1 hdouble
    obtain ⟨tail, rfl⟩ := List.head?_eq_some_iff.1 hd
    obtain rfl : tail = rest := by simpa [hchars] using htext
    rw [operator_double hdouble, hchars]
  | none =>
    obtain rfl : Operator.single c = op := by simpa [hdouble] using hfront
    have hchars := Operator.chars_single hstart
    obtain rfl : text = rest := by simpa [hchars] using htext
    rw [operator_single hdouble, hchars]

end Scan

/-! ## The scanner -/

variable {o : Options}

lemma scan_isWord {text : List Char} (h : IsWord text) (rest : List Char) :
    scan o (text ++ rest) = Scan.word o (text ++ rest) := by
  obtain ⟨c, tail, rfl, hc, -⟩ := h
  rw [List.cons_append, scan, if_pos (isWordStart_iff.2 hc)]

lemma scan_isDigits {digits : List Char} (h : IsDigits digits) (rest : List Char) :
    scan o (digits ++ rest) = Scan.number (digits ++ rest) := by
  obtain ⟨c, tail, rfl, hc⟩ := h.exists_cons
  have hword : ¬ isWordStart c = true := by
    intro hword
    rw [isDigit_eq_false_of_isWordStart hword] at hc
    cases hc
  rw [List.cons_append, scan, if_neg hword, if_pos hc]

lemma scan_symbol {c : Char} (h : Spelling.group? c ∉ [some .word, some .number, some .string])
    (text : List Char) : scan o (c :: text) = Scan.symbol c text := by
  have hword : ¬ isWordStart c = true := by
    intro hc
    simp [Spelling.group?, hc] at h
  have hdigit : ¬ c.isDigit = true := by
    intro hc
    simp [Spelling.group?, hc, hword] at h
  have hquote : ¬ (c == '"') = true := by
    rw [beq_iff_eq]
    rintro rfl
    exact h (by decide)
  rw [scan, if_neg hword, if_neg hdigit, if_neg hquote]

/-- **A spelling that stops is accepted.** -/
theorem scan_of_stops {s : Spelling} {rest : List Char} (h : s.Stops rest) :
    scan o (s.text ++ rest) = .accept (s.kind o) s.lexeme rest := by
  cases s with
  | word text hword =>
    show scan o (text ++ rest) = _
    rw [scan_isWord hword, Scan.word, takeWhile_run hword.isWordChar h,
      dropWhile_run hword.isWordChar h]
    rfl
  | int digits hdigits =>
    show scan o (digits ++ rest) = _
    have hnext := h.not_wordChar rfl
    rw [scan_isDigits hdigits,
      Scan.number_whole hdigits (fun c hc => (hnext c hc).2) h.ne_point,
      Scan.closeNumber_accept fun c hc => (hnext c hc).1]
    rfl
  | float whole fraction hwhole hfraction =>
    have hnext := h.not_wordChar rfl
    show scan o (whole ++ '.' :: fraction ++ rest) = _
    rw [List.append_assoc, List.cons_append, scan_isDigits hwhole,
      Scan.number_fraction hwhole hfraction fun c hc => (hnext c hc).2,
      Scan.closeNumber_accept fun c hc => (hnext c hc).1]
    rfl
  | string body hbody =>
    have hsplit := StringLiteral.splitBody?_of_isBody hbody rest
    show Scan.string (body ++ ['"'] ++ rest) = _
    rw [List.append_assoc, List.singleton_append, Scan.string, hsplit]
    rfl
  | operator op =>
    obtain ⟨c, tail, htext, hc⟩ := (Spelling.operator op).exists_begins
    have hgroup := Spelling.group?_of_begins hc
    rw [htext, List.cons_append, scan_symbol (by simp [hgroup, Spelling.group])]
    refine Scan.symbol_operator ?_ h
    rw [← List.cons_append, ← htext]
    rfl
  | punctuation p =>
    have hgroup : Spelling.group? p.char = some .punctuation :=
      Spelling.group?_of_begins (s := .punctuation p) rfl
    have hstart : ¬ Operator.isStart p.char = true := by cases p <;> decide
    show scan o (p.char :: rest) = _
    rw [scan_symbol (by simp [hgroup]), Scan.symbol, if_neg hstart, Punctuation.ofChar?_char]
    rfl

lemma scan_unexpected {c : Char} (hword : isWordStart c = false) (hdigit : c.isDigit = false)
    (hquote : c ≠ '"') (hoperator : ∀ op : Operator, op.chars.head? ≠ some c)
    (hmark : ∀ p : Punctuation, p.char ≠ c) (rest : List Char) :
    scan o (c :: rest) = .reject (.unexpectedCharacter c) [c] := by
  have hstart : ¬ Operator.isStart c = true := by
    intro hstart
    obtain ⟨op, hop⟩ := Operator.isStart_iff.1 hstart
    exact hoperator op hop
  have hnone : Punctuation.ofChar? c = none := by
    rw [Option.eq_none_iff_forall_ne_some]
    intro p hp
    exact hmark p (Punctuation.ofChar?_eq_some_iff.1 hp)
  rw [scan, if_neg (by simp [hword]), if_neg (by simp [hdigit]), if_neg (by simp [hquote]),
    Scan.symbol, if_neg hstart, hnone]

lemma scan_unterminated {tail line rest : List Char}
    (hopen : ∀ body h, ¬ (Spelling.string body h).text <+: '"' :: tail)
    (htext : '"' :: tail = line ++ rest) (hline : '\n' ∉ line)
    (hrest : ∀ c ∈ rest.head?, c = '\n') :
    scan o ('"' :: tail) = .reject .unterminatedString line := by
  have hnone : StringLiteral.splitBody? tail = none := by
    rw [StringLiteral.splitBody?_eq_none_iff]
    intro body after hbody htail
    exact hopen body hbody ⟨after, by simp [htail, Spelling.text]⟩
  have htake : ('"' :: tail).takeWhile (· != '\n') = line := by
    rw [htext]
    refine takeWhile_run ?_ ?_
    · intro c hc
      exact bne_iff_ne.2 fun hnewline => hline (hnewline ▸ hc)
    · intro c hc
      simp [hrest c hc]
  show Scan.string tail = _
  rw [Scan.string, hnone, ← htake]
  rfl

lemma scan_number_wordStart {m : Spelling} {c : Char} (hm : m.group = .number)
    (hc : isWordStart c = true) (rest : List Char) :
    scan o (m.text ++ c :: rest) = .reject .malformedNumber (m.text ++ [c]) := by
  have hdigit : ∀ d ∈ (c :: rest).head?, d.isDigit = false := by
    simp [isDigit_eq_false_of_isWordStart hc]
  have hpoint : ∀ d ∈ (c :: rest).head?, d ≠ '.' := by
    rintro d hd rfl
    obtain rfl := Option.some.inj hd
    cases hc
  cases m with
  | int digits hdigits =>
    show scan o (digits ++ c :: rest) = _
    rw [scan_isDigits hdigits, Scan.number_whole hdigits hdigit hpoint, Scan.closeNumber_reject hc]
    rfl
  | float whole fraction hwhole hfraction =>
    show scan o (whole ++ '.' :: fraction ++ c :: rest) = _
    rw [List.append_assoc, List.cons_append, scan_isDigits hwhole,
      Scan.number_fraction hwhole hfraction hdigit, Scan.closeNumber_reject hc]
    rfl
  | _ => cases hm

/-- A whole number that touches a point, and is not made longer by it, is rejected. -/
lemma scan_int_point {digits rest : List Char} {h : IsDigits digits}
    (hm : IsLongestNumber (.int digits h) (digits ++ '.' :: rest)) :
    scan o (digits ++ '.' :: rest) = .reject .malformedNumber (digits ++ ['.']) := by
  have hrest : ∀ d ∈ rest.head?, d.isDigit = false := by
    intro d hd
    -- a digit behind the point would make a longer number
    by_contra hdigit
    rw [Bool.not_eq_false] at hdigit
    obtain ⟨tail, rfl⟩ := List.head?_eq_some_iff.1 hd
    have hlong := hm.longest (.float digits [d] h ⟨by simp, by simpa using hdigit⟩) rfl
      ⟨tail, by simp [Spelling.text, Spelling.lexeme]⟩
    simp only [Spelling.text, Spelling.lexeme, List.length_append, List.length_cons] at hlong
    omega
  rw [scan_isDigits h, Scan.number_point h hrest]

lemma utf8Size_of_spoils {m : Spelling} {c : Char}
    (hc : c.isAlpha = true ∨ c = '_' ∨ (∃ digits h, m = .int digits h) ∧ c = '.') :
    c.utf8Size = 1 := by
  rcases hc with hc | hc | ⟨-, rfl⟩
  · exact utf8Size_of_isWordStart (isWordStart_iff.2 (Or.inl hc))
  · exact utf8Size_of_isWordStart (isWordStart_iff.2 (Or.inr hc))
  · rfl

/-- **A fault is rejected**, and the characters that the scanner covers have its length. -/
theorem scan_of_fault {text : List Char} {kind : SyntaxErrorKind} {n : Nat}
    (h : Fault text kind n) : ∃ taken, scan o text = .reject kind taken ∧ byteLength taken = n := by
  cases h with
  | @unexpected c rest htext _ _ hletter hunderscore hdigit hquote hoperator hmark =>
    subst htext
    have hword : isWordStart c = false := by simp [isWordStart, hletter, hunderscore]
    exact ⟨[c], scan_unexpected hword hdigit hquote hoperator hmark rest, by simp⟩
  | @unterminated line rest hquote hopen htext hline hrest =>
    obtain ⟨tail, rfl⟩ := List.head?_eq_some_iff.1 hquote
    exact ⟨line, scan_unterminated hopen htext hline hrest, rfl⟩
  | @malformed m c rest hm htext hc =>
    subst htext
    refine ⟨m.text ++ [c], ?_, ?_⟩
    · rcases hc with hc | hc | ⟨⟨digits, hdigits, rfl⟩, rfl⟩
      · exact scan_number_wordStart hm.number (isWordStart_iff.2 (Or.inl hc)) rest
      · exact scan_number_wordStart hm.number (isWordStart_iff.2 (Or.inr hc)) rest
      · exact scan_int_point hm
    · simp [utf8Size_of_spoils hc]

/-! ## Nothing else is possible -/

/-- A text that begins with a digit begins with a number that nothing makes longer. -/
lemma exists_number {c : Char} (hc : c.isDigit = true) (tail : List Char) :
    ∃ (m : Spelling) (rest : List Char),
      c :: tail = m.text ++ rest ∧ m.group = .number ∧ m.NumberEnds rest := by
  have htext := List.takeWhile_append_dropWhile (p := Char.isDigit) (l := c :: tail)
  have hends := not_head_dropWhile Char.isDigit (c :: tail)
  have hdigits : IsDigits ((c :: tail).takeWhile Char.isDigit) :=
    ⟨by simp [hc], fun _ => List.mem_takeWhile_imp⟩
  generalize (c :: tail).takeWhile Char.isDigit = digits at htext hdigits
  generalize (c :: tail).dropWhile Char.isDigit = rest at htext hends
  by_cases hpoint : ∃ after d, rest = '.' :: after ∧ d ∈ after.head? ∧ d.isDigit = true
  · obtain ⟨after, d, rfl, hd, hdigit⟩ := hpoint
    obtain ⟨after, rfl⟩ := List.head?_eq_some_iff.1 hd
    have hfraction : IsDigits ((d :: after).takeWhile Char.isDigit) :=
      ⟨by simp [hdigit], fun _ => List.mem_takeWhile_imp⟩
    refine ⟨.float digits _ hdigits hfraction, (d :: after).dropWhile Char.isDigit, ?_, rfl,
      not_head_dropWhile Char.isDigit (d :: after)⟩
    show c :: tail = digits ++ '.' :: _ ++ _
    rw [List.append_assoc, List.cons_append, List.takeWhile_append_dropWhile, htext]
  · refine ⟨.int digits hdigits, rest, htext.symm, rfl, hends, fun after hafter d hd => ?_⟩
    by_contra hdigit
    exact hpoint ⟨after, d, hafter, hd, (Bool.not_eq_false _).mp hdigit⟩

/-- A number that nothing makes longer stops, or something is attached to it. -/
lemma stops_or_fault {m : Spelling} {rest : List Char} (hm : m.group = .number)
    (hends : m.NumberEnds rest) :
    m.Stops rest ∨ Fault (m.text ++ rest) .malformedNumber (byteLength m.text + 1) := by
  by_cases hstops : m.Stops rest
  · exact Or.inl hstops
  · refine Or.inr ?_
    obtain ⟨c, hc, hjoins⟩ : ∃ c ∈ rest.head?, m.joins c = true := by
      simpa [Spelling.Stops] using hstops
    obtain ⟨after, rfl⟩ := List.head?_eq_some_iff.1 hc
    refine Fault.malformed (isLongestNumber_of_numberEnds hm hends) rfl ?_
    cases m with
    | int digits hdigits =>
      have hdigit : c.isDigit = false := hends.1 c rfl
      have hword : isWordStart c = true ∨ c = '.' := by
        simpa [Spelling.joins, isWordChar_eq, hdigit] using hjoins
      rcases hword with hword | hpoint
      · rcases isWordStart_iff.1 hword with h | h
        · exact Or.inl h
        · exact Or.inr (Or.inl h)
      · exact Or.inr (Or.inr ⟨⟨digits, hdigits, rfl⟩, hpoint⟩)
    | float whole fraction _ _ =>
      have hdigit : c.isDigit = false := hends c rfl
      have hword : isWordStart c = true := by
        simpa [Spelling.joins, isWordChar_eq, hdigit] using hjoins
      rcases isWordStart_iff.1 hword with h | h
      · exact Or.inl h
      · exact Or.inr (Or.inl h)
    | _ => cases hm

/-- A text falls into its first line and what begins with a newline. -/
lemma exists_line (text : List Char) :
    ∃ line rest, text = line ++ rest ∧ '\n' ∉ line ∧ ∀ c ∈ rest.head?, c = '\n' := by
  refine ⟨text.takeWhile (· != '\n'), text.dropWhile (· != '\n'),
    List.takeWhile_append_dropWhile.symm, ?_, ?_⟩
  · intro hmem
    have := List.mem_takeWhile_imp hmem
    simp at this
  · intro c hc
    simpa using not_head_dropWhile (· != '\n') text c hc

lemma exists_word {c : Char} (hc : isWordStart c = true) (tail : List Char) :
    ∃ (s : Spelling) (rest : List Char), c :: tail = s.text ++ rest ∧ s.Stops rest := by
  have hword : IsWord (c :: tail.takeWhile isWordChar) := by
    refine ⟨c, _, rfl, isWordStart_iff.1 hc, ?_⟩
    intro d hd
    exact isWordChar_iff.1 (List.mem_takeWhile_imp hd)
  refine ⟨.word _ hword, tail.dropWhile isWordChar, ?_, not_head_dropWhile _ tail⟩
  show c :: tail = c :: (tail.takeWhile isWordChar ++ tail.dropWhile isWordChar)
  rw [List.takeWhile_append_dropWhile]

lemma literal_or_fault (tail : List Char) :
    (∃ (s : Spelling) (rest : List Char), '"' :: tail = s.text ++ rest ∧ s.Stops rest) ∨
      ∃ kind n, Fault ('"' :: tail) kind n := by
  cases hsplit : StringLiteral.splitBody? tail with
  | some split =>
    obtain ⟨body, rest⟩ := split
    obtain ⟨hbody, rfl⟩ := StringLiteral.splitBody?_eq_some_iff.1 hsplit
    exact Or.inl ⟨.string body hbody, rest, by simp [Spelling.text], fun _ _ => rfl⟩
  | none =>
    obtain ⟨line, rest, htext, hline, hrest⟩ := exists_line ('"' :: tail)
    refine Or.inr ⟨_, _, Fault.unterminated rfl ?_ htext hline hrest⟩
    rintro body hbody ⟨after, hafter⟩
    refine StringLiteral.splitBody?_eq_none_iff.1 hsplit body after hbody ?_
    simpa [Spelling.text, eq_comm] using hafter

lemma symbol_or_fault {c : Char} (hhash : c ≠ '#') (hblank : c ∉ blankChars)
    (hword : isWordStart c = false) (hdigit : c.isDigit = false) (hquote : c ≠ '"')
    (tail : List Char) :
    (∃ (s : Spelling) (rest : List Char), c :: tail = s.text ++ rest ∧ s.Stops rest) ∨
      ∃ kind n, Fault (c :: tail) kind n := by
  cases hop : Operator.atFront? (c :: tail) with
  | some op =>
    obtain ⟨rest, htext, hrest⟩ := Operator.stops_of_atFront? hop
    exact Or.inl ⟨.operator op, rest, htext, hrest⟩
  | none =>
    cases hmark : Punctuation.ofChar? c with
    | some p =>
      obtain rfl := Punctuation.ofChar?_eq_some_iff.1 hmark
      exact Or.inl ⟨.punctuation p, tail, rfl, fun _ _ => rfl⟩
    | none =>
      obtain ⟨hletter, hunderscore⟩ : c.isAlpha = false ∧ c ≠ '_' := by
        simpa [isWordStart] using hword
      refine Or.inr ⟨_, _,
        Fault.unexpected rfl hblank hhash hletter hunderscore hdigit hquote ?_ ?_⟩
      · intro op hhead
        have hchars := Operator.chars_single (Operator.isStart_iff.2 ⟨op, hhead⟩)
        exact Operator.atFront?_eq_none_iff.1 hop (.single c) ⟨tail, by rw [hchars]; rfl⟩
      · intro p hp
        rw [Punctuation.ofChar?_eq_some_iff.2 hp] at hmark
        cases hmark

/-- **A text past its trivia begins with a spelling that stops, or with a fault.** -/
theorem spelling_or_fault {text : List Char} (h : BeginsToken text) :
    (∃ (s : Spelling) (rest : List Char), text = s.text ++ rest ∧ s.Stops rest) ∨
      ∃ kind n, Fault text kind n := by
  obtain ⟨c, tail, rfl, hhash, hblank⟩ := h
  -- the first character decides, in the order in which the scanner asks
  by_cases hword : isWordStart c = true
  · exact Or.inl (exists_word hword tail)
  by_cases hdigit : c.isDigit = true
  · obtain ⟨m, rest, htext, hm, hends⟩ := exists_number hdigit tail
    rcases stops_or_fault hm hends with hstops | hfault
    · exact Or.inl ⟨m, rest, htext, hstops⟩
    · exact Or.inr ⟨_, _, htext ▸ hfault⟩
  by_cases hquote : c = '"'
  · subst hquote
    exact literal_or_fault tail
  · rw [Bool.not_eq_true] at hword hdigit
    exact symbol_or_fault hhash hblank hword hdigit hquote tail

/-- A text begins with one fault at most. -/
lemma Fault.unique {text : List Char} {kind kind' : SyntaxErrorKind} {n n' : Nat}
    (h : Fault text kind n) (h' : Fault text kind' n') : kind = kind' ∧ n = n' := by
  obtain ⟨taken, hscan, rfl⟩ := scan_of_fault (o := {}) h
  obtain ⟨taken', hscan', rfl⟩ := scan_of_fault (o := {}) h'
  rw [hscan] at hscan'
  obtain ⟨rfl, rfl⟩ := Scan.reject.inj hscan'
  exact ⟨rfl, rfl⟩

end QueryLexer
