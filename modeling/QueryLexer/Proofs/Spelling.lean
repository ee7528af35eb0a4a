/-
# The grammar of tokens

The texts that are tokens, as a grammar: words, whole numbers, numbers with a point, string
literals, operators and punctuation marks.  A `Spelling` is a text of one of these languages
together with the proof that it belongs there; it knows nothing of how a text is scanned.

A spelling can stand in front of some texts only, because what follows may belong to it or spoil
it.  One character decides (`Spelling.joins`), and `Spelling.Stops` says that the next character is
harmless.  The main statements are

* `Spelling.text_injective`: a text is a token in one way only;
* `Spelling.length_le_of_prefix`: a spelling that stops is the longest token at the front of the
  text.
-/
import QueryLexer.Scan
import QueryLexer.Proofs.Body
import QueryLexer.Proofs.Tables
import Mathlib.Data.List.TakeWhile

namespace QueryLexer

/-! ## Runs of characters -/

section Runs

variable {p : Char → Bool} {run rest : List Char}

lemma takeWhile_run (hrun : ∀ c ∈ run, p c = true) (hrest : ∀ c ∈ rest.head?, p c = false) :
    (run ++ rest).takeWhile p = run := by
  have hnil : rest.takeWhile p = [] := by
    cases rest with
    | nil => rfl
    | cons c rest => simp [hrest c rfl]
  rw [List.takeWhile_append_of_pos hrun, hnil, List.append_nil]

lemma dropWhile_run (hrun : ∀ c ∈ run, p c = true) (hrest : ∀ c ∈ rest.head?, p c = false) :
    (run ++ rest).dropWhile p = rest := by
  rw [List.dropWhile_append_of_pos hrun]
  cases rest with
  | nil => rfl
  | cons c rest => simp [hrest c rfl]

/-- A run at the front of a text is no longer than the run that stops there. -/
lemma length_le_of_run {run' : List Char} (hrun' : ∀ c ∈ run', p c = true)
    (hrun : ∀ c ∈ run, p c = true) (hrest : ∀ c ∈ rest.head?, p c = false)
    (h : run' <+: run ++ rest) : run'.length ≤ run.length := by
  obtain ⟨tail, htail⟩ := h
  have htake : run' ++ tail.takeWhile p = run := by
    rw [← List.takeWhile_append_of_pos hrun', htail, takeWhile_run hrun hrest]
  rw [← htake, List.length_append]
  omega

lemma run_inj {run' rest' : List Char} (hrun : ∀ c ∈ run, p c = true)
    (hrest : ∀ c ∈ rest.head?, p c = false) (hrun' : ∀ c ∈ run', p c = true)
    (hrest' : ∀ c ∈ rest'.head?, p c = false) (h : run ++ rest = run' ++ rest') :
    run = run' ∧ rest = rest' := by
  have heq : run = run' := by
    rw [← takeWhile_run hrun hrest, h, takeWhile_run hrun' hrest']
  subst heq
  exact ⟨rfl, List.append_cancel_left h⟩

lemma not_head_dropWhile (p : Char → Bool) (text : List Char) :
    ∀ c ∈ (text.dropWhile p).head?, p c = false := by
  intro c hc
  have h := List.head?_dropWhile_not p text
  rw [Option.mem_def.1 hc] at h
  exact h

end Runs

/-! ## Classes of characters -/

lemma isWordStart_iff {c : Char} : isWordStart c = true ↔ c.isAlpha = true ∨ c = '_' := by
  simp [isWordStart]

lemma isWordChar_iff {c : Char} : isWordChar c = true ↔ c.isAlphanum = true ∨ c = '_' := by
  simp [isWordChar]

lemma isWordChar_eq (c : Char) : isWordChar c = (isWordStart c || c.isDigit) := by
  simp only [isWordChar, isWordStart, Char.isAlphanum]
  grind

lemma isAlpha_iff {c : Char} : c.isAlpha = true ↔
    65 ≤ c.toNat ∧ c.toNat ≤ 90 ∨ 97 ≤ c.toNat ∧ c.toNat ≤ 122 := by
  unfold Char.isAlpha Char.isUpper Char.isLower Char.toNat
  simp [UInt32.le_iff_toNat_le]

lemma isDigit_eq_false_of_isWordStart {c : Char} (h : isWordStart c = true) :
    c.isDigit = false := by
  rcases isWordStart_iff.1 h with h | rfl
  · rw [← Bool.not_eq_true, Char.isDigit_iff_toNat, show '0'.toNat = 48 from rfl,
      show '9'.toNat = 57 from rfl]
    have := isAlpha_iff.1 h
    omega
  · rfl

lemma utf8Size_of_isWordStart {c : Char} (h : isWordStart c = true) : c.utf8Size = 1 := by
  rcases isWordStart_iff.1 h with h | rfl
  · rw [Char.utf8Size_eq_one_iff, UInt32.le_iff_toNat_le]
    have hcode : 65 ≤ c.val.toNat ∧ c.val.toNat ≤ 90 ∨ 97 ≤ c.val.toNat ∧ c.val.toNat ≤ 122 :=
      isAlpha_iff.1 h
    show c.val.toNat ≤ 127
    omega
  · rfl

namespace Operator

/-- Whether a character makes another operator of one that it stands behind. -/
def joins (op : Operator) (c : Char) : Bool :=
  all.any fun op' => op'.chars == op.chars ++ [c]

lemma joins_eq_false_iff {op : Operator} {c : Char} :
    op.joins c = false ↔ ∀ op' : Operator, op'.chars ≠ op.chars ++ [c] := by
  simp [joins, mem_all]

lemma joins_iff {op : Operator} {c : Char} :
    op.joins c = true ↔ op ∈ [lt, gt, bang] ∧ c = '=' ∨ op = minus ∧ c = '>' := by
  cases op <;> simp [joins, all, chars, eq_comm (b := c)]

lemma length_chars (op : Operator) : op.chars.length = 1 ∨ op.chars.length = 2 := by
  cases op <;> decide

/-- An operator that nothing joins is the longest at the front of the text. -/
lemma length_le_of_prefix {op op' : Operator} {rest : List Char}
    (hrest : ∀ c ∈ rest.head?, op.joins c = false) (h : op'.chars <+: op.chars ++ rest) :
    op'.chars.length ≤ op.chars.length := by
  by_contra hlt
  obtain ⟨hone, htwo⟩ : op.chars.length = 1 ∧ op'.chars.length = 2 := by
    have := length_chars op
    have := length_chars op'
    omega
  have hlong : op.chars.length ≤ op'.chars.length := by omega
  obtain ⟨tail, htail⟩ := List.prefix_of_prefix_length_le (List.prefix_append _ _) h hlong
  -- what is missing in the shorter operator is one character, and it is the next one
  obtain ⟨c, rfl⟩ : ∃ c, tail = [c] := by
    rw [← List.length_eq_one_iff]
    have := congrArg List.length htail
    rw [List.length_append] at this
    omega
  have hhead : c ∈ rest.head? := by
    obtain ⟨after, hafter⟩ := h
    rw [← htail, List.append_assoc] at hafter
    rw [← List.append_cancel_left hafter]
    rfl
  exact joins_eq_false_iff.1 (hrest c hhead) op' htail.symm

end Operator

/-! ## Spellings -/

/-- The words: `[A-Za-z_][A-Za-z0-9_]*`. -/
def IsWord (text : List Char) : Prop :=
  ∃ c tail, text = c :: tail ∧ (c.isAlpha = true ∨ c = '_') ∧
    ∀ d ∈ tail, d.isAlphanum = true ∨ d = '_'

/-- The runs of digits: `[0-9]+`. -/
def IsDigits (text : List Char) : Prop :=
  text ≠ [] ∧ ∀ c ∈ text, c.isDigit = true

/-- The texts that are tokens.  A string literal is given by what stands between its quotes. -/
inductive Spelling where
  | word (text : List Char) (h : IsWord text)
  | int (digits : List Char) (h : IsDigits digits)
  | float (whole fraction : List Char) (hwhole : IsDigits whole) (hfraction : IsDigits fraction)
  | string (body : List Char) (h : StringLiteral.IsBody body)
  | operator (op : Operator)
  | punctuation (p : Punctuation)

lemma IsWord.isWordChar {text : List Char} (h : IsWord text) : ∀ c ∈ text, isWordChar c = true := by
  obtain ⟨c, tail, rfl, hc, htail⟩ := h
  intro d hd
  rcases List.mem_cons.1 hd with rfl | hd
  · exact Scan.isWordChar_of_isWordStart (isWordStart_iff.2 hc)
  · exact isWordChar_iff.2 (htail d hd)

lemma IsDigits.exists_cons {digits : List Char} (h : IsDigits digits) :
    ∃ c tail, digits = c :: tail ∧ c.isDigit = true := by
  obtain ⟨hne, hall⟩ := h
  obtain ⟨c, tail, rfl⟩ := List.exists_cons_of_ne_nil hne
  exact ⟨c, tail, rfl, hall c (List.mem_cons_self ..)⟩

namespace Spelling

/-- The lexeme of a token: what stands between the quotes of a string literal, and the whole text
of any other token. -/
def lexeme : Spelling → List Char
  | word text _ => text
  | int digits _ => digits
  | float whole fraction _ _ => whole ++ '.' :: fraction
  | string body _ => body
  | operator op => op.chars
  | punctuation p => [p.char]

/-- The text of a token as it stands in a source. -/
def text : Spelling → List Char
  | string body _ => '"' :: (body ++ ['"'])
  | s => s.lexeme

lemma byteLength_quoted (body : List Char) :
    byteLength ('"' :: (body ++ ['"'])) = byteLength body + 2 := by
  have hquote : '"'.utf8Size = 1 := rfl
  simp only [byteLength_cons, byteLength_append, byteLength_nil, hquote]
  omega

/-- The kind that a spelling has.  The options decide which words are keywords. -/
def kind (o : Options) : Spelling → TokenKind
  | word text _ => o.wordKind (String.ofList text)
  | int _ _ => .intLiteral
  | float _ _ _ _ => .floatLiteral
  | string body _ => .stringLiteral (String.ofList (StringLiteral.decode body))
  | operator op => .operator op
  | punctuation p => .punctuation p

@[simp] lemma written_kind (o : Options) (s : Spelling) : (s.kind o).written s.lexeme = s.text := by
  cases s with
  | word text h => exact Scan.wordKind_written o _ _
  | _ => rfl

/-! ### The first character -/

/-- The characters that a spelling of this sort may begin with. -/
def Begins (c : Char) : Spelling → Prop
  | word _ _ => isWordStart c = true
  | int _ _ | float _ _ _ _ => c.isDigit = true
  | string _ _ => c = '"'
  | operator op => op.chars.head? = some c
  | punctuation p => p.char = c

lemma exists_begins (s : Spelling) : ∃ c tail, s.text = c :: tail ∧ s.Begins c := by
  cases s with
  | word text h =>
    obtain ⟨c, tail, rfl, hc, -⟩ := h
    exact ⟨c, tail, rfl, isWordStart_iff.2 hc⟩
  | int digits h =>
    obtain ⟨c, tail, rfl, hc⟩ := h.exists_cons
    exact ⟨c, tail, rfl, hc⟩
  | float whole fraction hwhole hfraction =>
    obtain ⟨c, tail, rfl, hc⟩ := hwhole.exists_cons
    exact ⟨c, tail ++ '.' :: fraction, rfl, hc⟩
  | string body h => exact ⟨'"', body ++ ['"'], rfl, rfl⟩
  | operator op =>
    obtain ⟨c, tail, htext⟩ := List.exists_cons_of_ne_nil op.chars_ne_nil
    exact ⟨c, tail, htext, by simp [Begins, htext]⟩
  | punctuation p => exact ⟨p.char, [], rfl, rfl⟩

lemma text_ne_nil (s : Spelling) : s.text ≠ [] := by
  obtain ⟨c, tail, htext, -⟩ := s.exists_begins
  rw [htext]
  exact List.cons_ne_nil c tail

/-- The groups of spellings that the first character tells apart. -/
inductive Group where
  | word | number | string | operator | punctuation
  deriving DecidableEq

/-- The group that a spelling belongs to. -/
def group : Spelling → Group
  | word _ _ => .word
  | int _ _ | float _ _ _ _ => .number
  | string _ _ => .string
  | operator _ => .operator
  | punctuation _ => .punctuation

/-- The group of the spellings that begin with a character, if there are any. -/
def group? (c : Char) : Option Group :=
  if isWordStart c then some .word
  else if c.isDigit then some .number
  else if c = '"' then some .string
  else if Operator.all.any fun op => op.chars.head? == some c then some .operator
  else if (Punctuation.ofChar? c).isSome then some .punctuation
  else none

lemma group?_of_begins {s : Spelling} {c : Char} (h : s.Begins c) : group? c = some s.group := by
  cases s with
  | word text _ => simp [group?, show isWordStart c = true from h, group]
  | int digits _ | float whole fraction _ _ =>
    have hdigit : c.isDigit = true := h
    have hword : isWordStart c = false := by
      by_contra hword
      rw [Bool.not_eq_false] at hword
      rw [isDigit_eq_false_of_isWordStart hword] at hdigit
      cases hdigit
    simp [group?, hword, hdigit, group]
  | string body _ =>
    obtain rfl : c = '"' := h
    rfl
  | operator op =>
    have hhead : op.chars.head? = some c := h
    cases op <;> obtain rfl := Option.some.inj hhead <;> decide
  | punctuation p =>
    obtain rfl : p.char = c := h
    cases p <;> decide

lemma group_eq_of_begins {s s' : Spelling} {c : Char} (h : s.Begins c) (h' : s'.Begins c) :
    s.group = s'.group :=
  Option.some.inj ((group?_of_begins h).symm.trans (group?_of_begins h'))

/-- Spellings at the front of one text belong to the same group. -/
lemma group_eq_of_prefix {s s' : Spelling} {rest : List Char} (h : s'.text <+: s.text ++ rest) :
    s'.group = s.group := by
  obtain ⟨c, tail, htext, hc⟩ := s.exists_begins
  obtain ⟨d, tail', htext', hd⟩ := s'.exists_begins
  rw [htext, htext', List.cons_append, List.cons_prefix_cons] at h
  obtain ⟨rfl, -⟩ := h
  exact group_eq_of_begins hd hc

lemma ne_of_begins {s : Spelling} {c d : Char} (h : s.Begins c) (hd : group? d = none) : c ≠ d := by
  rintro rfl
  rw [group?_of_begins h] at hd
  cases hd

/-! ### What may follow -/

/-- Whether a character that stands behind a spelling belongs to it or spoils it. -/
def joins (c : Char) : Spelling → Bool
  | word _ _ | float _ _ _ _ => isWordChar c
  | int _ _ => isWordChar c || c == '.'
  | string _ _ | punctuation _ => false
  | operator op => op.joins c

/-- The text behind a spelling leaves it as it is. -/
def Stops (s : Spelling) (rest : List Char) : Prop :=
  ∀ c ∈ rest.head?, s.joins c = false

@[simp] lemma stops_nil (s : Spelling) : s.Stops [] := by
  rintro c ⟨⟩

@[simp] lemma stops_cons (s : Spelling) (c : Char) (rest : List Char) :
    s.Stops (c :: rest) ↔ s.joins c = false := by
  simp [Stops]

lemma Stops.of_append {s : Spelling} {rest after : List Char} (h : s.Stops (rest ++ after)) :
    s.Stops rest := by
  cases rest with
  | nil => exact stops_nil s
  | cons c rest => simpa using h

/-- A number that stops touches neither a digit nor a word. -/
lemma Stops.not_wordChar {s : Spelling} {rest : List Char} (hs : s.group = .number)
    (h : s.Stops rest) : ∀ c ∈ rest.head?, isWordStart c = false ∧ c.isDigit = false := by
  intro c hc
  have hjoins := h c hc
  have hword : isWordChar c = false := by
    cases s with
    | int _ _ => exact (Bool.or_eq_false_iff.1 hjoins).1
    | float _ _ _ _ => exact hjoins
    | _ => cases hs
  rwa [isWordChar_eq, Bool.or_eq_false_iff] at hword

lemma Stops.ne_point {digits rest : List Char} {h : IsDigits digits}
    (hstops : (int digits h).Stops rest) : ∀ c ∈ rest.head?, c ≠ '.' := by
  rintro c hc rfl
  have hjoins := hstops '.' hc
  cases hjoins

lemma point_not_digit (text : List Char) : ∀ c ∈ ('.' :: text).head?, c.isDigit = false := by
  simp

/-- The text behind a number does not make it longer: whole digits are followed neither by a digit
nor by a point with a digit behind it, and a fraction not by a digit. -/
def NumberEnds (rest : List Char) : Spelling → Prop
  | int _ _ => (∀ c ∈ rest.head?, c.isDigit = false) ∧
      ∀ tail, rest = '.' :: tail → ∀ c ∈ tail.head?, c.isDigit = false
  | float _ _ _ _ => ∀ c ∈ rest.head?, c.isDigit = false
  | _ => True

lemma Stops.numberEnds {s : Spelling} {rest : List Char} (h : s.Stops rest) :
    s.NumberEnds rest := by
  cases s with
  | int digits hdigits =>
    refine ⟨fun c hc => (h.not_wordChar rfl c hc).2, ?_⟩
    rintro tail rfl
    exact absurd rfl (h.ne_point '.' rfl)
  | float _ _ _ _ => exact fun c hc => (h.not_wordChar rfl c hc).2
  | _ => trivial

/-- A number that is not made longer is the longest at the front of the text. -/
lemma NumberEnds.length_le {m m' : Spelling} {rest : List Char} (hm : m.group = .number)
    (hm' : m'.group = .number) (hends : m.NumberEnds rest) (h : m'.text <+: m.text ++ rest) :
    m'.text.length ≤ m.text.length := by
  cases m with
  | int digits hdigits =>
    cases m' with
    | int digits' hdigits' => exact length_le_of_run hdigits'.2 hdigits.2 hends.1 h
    | float whole' fraction' hwhole' hfraction' =>
      -- a longer number would put a point and a digit behind the digits
      exfalso
      obtain ⟨tail, htail⟩ := h
      simp only [text, lexeme, List.append_assoc, List.cons_append] at htail
      obtain ⟨rfl, hrest⟩ :=
        run_inj hwhole'.2 (point_not_digit _) hdigits.2 hends.1 htail
      obtain ⟨c, after, rfl, hc⟩ := hfraction'.exists_cons
      have := hends.2 _ hrest.symm c rfl
      rw [hc] at this
      cases this
    | _ => cases hm'
  | float whole fraction hwhole hfraction =>
    simp only [text, lexeme, List.append_assoc, List.cons_append] at h
    cases m' with
    | int digits' hdigits' =>
      have := length_le_of_run hdigits'.2 hwhole.2 (point_not_digit _) h
      simp only [text, lexeme, List.length_append]
      omega
    | float whole' fraction' hwhole' hfraction' =>
      obtain ⟨tail, htail⟩ := h
      rw [List.append_assoc, List.cons_append] at htail
      obtain ⟨rfl, hrest⟩ :=
        run_inj hwhole'.2 (point_not_digit _) hwhole.2 (point_not_digit _) htail
      have hprefix : fraction' <+: fraction ++ rest := ⟨tail, List.tail_eq_of_cons_eq hrest⟩
      have := length_le_of_run hfraction'.2 hfraction.2 hends hprefix
      simp only [text, lexeme, List.length_append, List.length_cons]
      omega
    | _ => cases hm'
  | _ => cases hm

/-- **A spelling that stops is the longest token at the front of the text.** -/
theorem length_le_of_prefix {s s' : Spelling} {rest : List Char} (hstop : s.Stops rest)
    (h : s'.text <+: s.text ++ rest) : s'.text.length ≤ s.text.length := by
  -- only spellings of one group have to be compared
  have hgroup := group_eq_of_prefix h
  cases s with
  | word text hword =>
    cases s' with
    | word text' hword' => exact length_le_of_run hword'.isWordChar hword.isWordChar hstop h
    | _ => cases hgroup
  | int digits hdigits => exact hstop.numberEnds.length_le rfl hgroup h
  | float whole fraction hwhole hfraction => exact hstop.numberEnds.length_le rfl hgroup h
  | string body hbody =>
    cases s' with
    | string body' hbody' =>
      obtain ⟨after, hafter⟩ := h
      have hbodies : body' ++ '"' :: after = body ++ '"' :: rest := by
        simpa [text] using hafter
      -- the closing quote is found in one place only
      have hsplit := StringLiteral.splitBody?_of_isBody hbody' after
      rw [hbodies, StringLiteral.splitBody?_of_isBody hbody] at hsplit
      obtain ⟨rfl, -⟩ := Prod.mk.inj (Option.some.inj hsplit)
      exact Nat.le_refl _
    | _ => cases hgroup
  | operator op =>
    cases s' with
    | operator op' => exact Operator.length_le_of_prefix hstop h
    | _ => cases hgroup
  | punctuation p =>
    cases s' with
    | punctuation p' => exact Nat.le_refl _
    | _ => cases hgroup

/-- **A text is a token in one way only.** -/
theorem text_injective {s s' : Spelling} (h : s.text = s'.text) : s = s' := by
  have hgroup : s.group = s'.group := by
    have hfront : s.text <+: s'.text ++ [] := h ▸ List.prefix_append _ _
    exact group_eq_of_prefix hfront
  cases s with
  | word text _ =>
    cases s' with
    | word text' _ =>
      obtain rfl : text = text' := h
      rfl
    | _ => cases hgroup
  | int digits hdigits =>
    cases s' with
    | int digits' _ =>
      obtain rfl : digits = digits' := h
      rfl
    | float whole fraction hwhole _ =>
      have hpoint := run_inj hdigits.2 (by simp) hwhole.2 (point_not_digit fraction)
        ((List.append_nil digits).trans h)
      cases hpoint.2
    | _ => cases hgroup
  | float whole fraction hwhole _ =>
    cases s' with
    | int digits hdigits =>
      have hpoint := run_inj hdigits.2 (by simp) hwhole.2 (point_not_digit fraction)
        ((List.append_nil digits).trans h.symm)
      cases hpoint.2
    | float whole' fraction' hwhole' _ =>
      obtain ⟨rfl, hrest⟩ :=
        run_inj hwhole.2 (point_not_digit fraction) hwhole'.2 (point_not_digit fraction') h
      obtain ⟨-, rfl⟩ := List.cons.inj hrest
      rfl
    | _ => cases hgroup
  | string body _ =>
    cases s' with
    | string body' _ =>
      obtain rfl : body = body' := by simpa [Spelling.text] using h
      rfl
    | _ => cases hgroup
  | operator op =>
    cases s' with
    | operator op' => rw [Operator.chars_injective h]
    | _ => cases hgroup
  | punctuation p =>
    cases s' with
    | punctuation p' => rw [Punctuation.char_injective (List.singleton_inj.1 h)]
    | _ => cases hgroup

end Spelling

end QueryLexer
