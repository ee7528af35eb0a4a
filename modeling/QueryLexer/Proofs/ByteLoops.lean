/-
# Loops over bytes and over characters

The loops of the reader by bytes leave behind what the reader by characters does.  A class of bytes
is a class of characters that does not tell wide characters apart, so all bytes of a character are
in it or none is.  A literal is the one place where a loop goes on in the middle of a character: a
backslash takes a single byte along, and the other bytes of that character are none that a literal
could end at.  The main statements are

* `Bytewise.skipWhile_eq`: the bytes of a class that are skipped are those of its characters;
* `Bytewise.skipTrivia_eq`: the same for blanks and comments;
* `Bytewise.literalEnd_eq`: the bytes of a literal end where its characters do.
-/
import QueryLexer.Proofs.ByteReader
import QueryLexer.Proofs.Lookahead

namespace QueryLexer

/-! ## Classes that bytes tell -/

lemma not_isWide_of_isWordChar {c : Char} (h : isWordChar c = true) : ¬ IsWide c := by
  have hsize := utf8Size_of_isWordChar h
  rw [Char.utf8Size_eq_one_iff, UInt32.le_iff_toNat_le] at hsize
  exact Nat.not_le_of_lt (Nat.lt_succ_of_le hsize)

lemma isWordChar_of_isWide {c : Char} (h : IsWide c) : isWordChar c = false := by
  by_contra hword
  exact not_isWide_of_isWordChar ((Bool.not_eq_false _).mp hword) h

lemma isByteClass_isWordChar : IsByteClass isWordChar :=
  .of_forall_wide fun _ => isWordChar_of_isWide

lemma not_begins_of_isWide {c : Char} (h : IsWide c) :
    isWordStart c = false ∧ c.isDigit = false := by
  have hword := isWordChar_of_isWide h
  rwa [isWordChar_eq, Bool.or_eq_false_iff] at hword

lemma isByteClass_isWordStart : IsByteClass isWordStart :=
  .of_forall_wide fun _ hc => (not_begins_of_isWide hc).1

lemma isByteClass_isDigit : IsByteClass Char.isDigit :=
  .of_forall_wide fun _ hc => (not_begins_of_isWide hc).2

lemma ne_of_isWide {c d : Char} (hc : IsWide c) (hd : ¬ IsWide d) : c ≠ d := by
  rintro rfl
  exact hd hc

lemma isByteClass_ne_newline : IsByteClass (· != '\n') :=
  .of_forall_wide fun _ hc => bne_iff_ne.2 (ne_of_isWide hc (by decide))

lemma not_isWide_of_mem_blankChars {c : Char} (h : c ∈ Trivia.blankChars) : ¬ IsWide c := by
  simp only [Trivia.blankChars, List.mem_cons, List.not_mem_nil, or_false] at h
  rcases h with rfl | rfl | rfl | rfl | rfl <;> decide

lemma isByteClass_isBlank : IsByteClass Trivia.isBlank := by
  have hwide : ∀ c, IsWide c → Trivia.isBlank c = false := by
    intro c hc
    rw [← Bool.not_eq_true, Trivia.isBlank_iff]
    exact fun hmem => not_isWide_of_mem_blankChars hmem hc
  exact .of_forall_wide hwide

lemma Trivia.split_hash_append {line rest : List Char} (hline : '\n' ∉ line)
    (hrest : ∀ c ∈ rest.head?, c = '\n') :
    split .blanks ('#' :: (line ++ rest)) = Prod.map ('#' :: line ++ ·) id (split .blanks rest) := by
  have hend : split .comment rest = split .blanks rest := by
    cases rest with
    | nil => rfl
    | cons c rest =>
      obtain rfl := hrest c rfl
      rw [split_comment_newline, split_blank (by decide)]
  rw [split_hash, split_comment_append hline, hend]
  rfl

namespace Bytewise

variable {text : String} {place : Position} {rest : List Char} {bytes more : List UInt8}

/-! ## Loops -/

lemma skipWhile_overBytes {p : Char → Bool} (h : bytesFrom text place.offset = bytes ++ more)
    (hbytes : ∀ b ∈ bytes, p (Char.ofUInt8 b) = true) :
    skipWhile text p place = skipWhile text p (place.overBytes bytes) := by
  induction bytes generalizing place with
  | nil => rfl
  | cons b bytes ih =>
    obtain ⟨hb, hbytes⟩ := List.forall_mem_cons.1 hbytes
    have hpeek : place.peek text = some (Char.ofUInt8 b) := Position.peek_eq h
    have hmore := bytesFrom_advance h
    rw [skipWhile_of_pos hpeek hb, ih hmore hbytes, Position.advance_eq h, Position.overBytes_cons]

/-- **The bytes of a class that are skipped are those of the characters of the class.** -/
theorem skipWhile_eq {p : Char → Bool} (hp : IsByteClass p) (h : GoesOn text place rest) :
    skipWhile text p place = place.after (rest.takeWhile p) := by
  induction rest generalizing place with
  | nil =>
    refine skipWhile_of_neg ?_
    simp [h.peek_eq]
  | cons c rest ih =>
    by_cases hc : p c = true
    · have hbytes : ∀ b ∈ String.utf8EncodeChar c, p (Char.ofUInt8 b) = true := by
        intro b hb
        rw [hp.unit hb, hc]
      rw [skipWhile_overBytes h.bytesFrom_eq hbytes, Position.overBytes_utf8EncodeChar, ih h.next,
        List.takeWhile_cons_of_pos hc, Position.after_cons]
    · rw [List.takeWhile_cons_of_neg hc, Position.after_nil]
      refine skipWhile_of_neg ?_
      simpa [h.peek_eq, hp.lead c] using hc

lemma skipTrivia_blank {c : Char} (h : place.peek text = some c) (hhash : c ≠ '#')
    (hblank : Trivia.isBlank c = true) :
    skipTrivia text place = skipTrivia text (place.advance text) := by
  rw [skipTrivia]
  split <;> simp_all

lemma skipTrivia_comment (h : place.peek text = some '#') :
    skipTrivia text place = skipTrivia text (skipWhile text (· != '\n') place) := by
  rw [skipTrivia]
  split <;> simp_all

lemma skipTrivia_stay (h : ∀ c ∈ place.peek text, c ≠ '#' ∧ Trivia.isBlank c = false) :
    skipTrivia text place = place := by
  rw [skipTrivia]
  split <;> simp_all

lemma skipTrivia_hash {line after : List Char} (h : GoesOn text place ('#' :: (line ++ after)))
    (hline : '\n' ∉ line) (hafter : ∀ c ∈ after.head?, c = '\n') :
    skipTrivia text place = skipTrivia text (place.after ('#' :: line)) := by
  have hall : ∀ c ∈ '#' :: line, (c != '\n') = true := by
    intro c hc
    rw [bne_iff_ne]
    rintro rfl
    simp [hline] at hc
  have htake : ('#' :: (line ++ after)).takeWhile (· != '\n') = '#' :: line :=
    takeWhile_run hall (by simpa using hafter)
  rw [skipTrivia_comment h.peek_eq, skipWhile_eq isByteClass_ne_newline h, htake]

/-- **The bytes of the trivia that are skipped are those of its characters.** -/
theorem skipTrivia_eq (h : GoesOn text place rest) :
    skipTrivia text place = place.after (Trivia.split .blanks rest).1 := by
  -- by induction on what is left to read, since a comment is left behind at once
  induction hlength : rest.length using Nat.strong_induction_on generalizing place rest with
  | h n ih =>
    cases rest with
    | nil => exact skipTrivia_stay (by simp [h.peek_eq])
    | cons c tail =>
      have hpeek : place.peek text = some (lead c) := h.peek_eq
      by_cases hhash : c = '#'
      · subst hhash
        obtain ⟨line, after, rfl, hline, hafter⟩ := exists_line tail
        have hlt : after.length < n := by
          simp only [← hlength, List.length_cons, List.length_append]
          omega
        rw [skipTrivia_hash h hline hafter, Trivia.split_hash_append hline hafter]
        rw [← List.cons_append] at h
        rw [ih _ hlt h.after rfl, ← Position.after_append]
        rfl
      · have hhash' : lead c ≠ '#' := (lead_eq_iff (by decide)).not.2 hhash
        cases hblank : Trivia.isBlank c with
        | true =>
          have hmem := Trivia.isBlank_iff.1 hblank
          rw [skipTrivia_blank hpeek hhash' (by rw [isByteClass_isBlank.lead, hblank]),
            h.advance_eq (not_isWide_of_mem_blankChars hmem), ih _ (by simp [← hlength]) h.next rfl,
            Trivia.split_blank hmem]
          rfl
        | false =>
          have hstay : ∀ d ∈ place.peek text, d ≠ '#' ∧ Trivia.isBlank d = false := by
            intro d hd
            obtain rfl := Option.some.inj (hpeek.symm.trans hd)
            exact ⟨hhash', by rw [isByteClass_isBlank.lead, hblank]⟩
          rw [skipTrivia_stay hstay,
            Trivia.split_cons_of_none (Trivia.next?_blanks_eq_none_iff.2 ⟨hhash, hblank⟩)]
          rfl

/-! ## Literals -/

/-- The characters that mean something inside of a literal. -/
def IsSpecial (c : Char) : Prop :=
  c = '\n' ∨ c = '"' ∨ c = '\\'

lemma not_isSpecial_of_isWide {c : Char} (h : IsWide c) : ¬ IsSpecial c := by
  rintro (rfl | rfl | rfl) <;> exact absurd h (by decide)

lemma literalEnd_stay (h : ∀ c ∈ place.peek text, c = '\n' ∨ c = '"') :
    literalEnd text place = place := by
  rw [literalEnd]
  split <;> simp_all

lemma literalEnd_plain {c : Char} (h : place.peek text = some c) (hc : ¬ IsSpecial c) :
    literalEnd text place = literalEnd text (place.advance text) := by
  simp only [IsSpecial, not_or] at hc
  rw [literalEnd]
  split <;> simp_all

/-- A backslash takes the byte behind it along. -/
lemma literalEnd_escape (h : place.peek text = some '\\')
    (hnext : ((place.advance text).peek text).any (· != '\n') = true) :
    literalEnd text place = literalEnd text ((place.advance text).advance text) := by
  rw [literalEnd]
  split <;> simp_all

lemma literalEnd_lone (h : place.peek text = some '\\')
    (hnext : ((place.advance text).peek text).any (· != '\n') = false) :
    literalEnd text place = literalEnd text (place.advance text) := by
  rw [literalEnd]
  split <;> simp_all

/-- Bytes without a meaning of their own are left behind.  They may begin in the middle of a
character. -/
lemma literalEnd_overBytes (h : bytesFrom text place.offset = bytes ++ more)
    (hbytes : ∀ b ∈ bytes, ¬ IsSpecial (Char.ofUInt8 b)) :
    literalEnd text place = literalEnd text (place.overBytes bytes) := by
  induction bytes generalizing place with
  | nil => rfl
  | cons b bytes ih =>
    obtain ⟨hb, hbytes⟩ := List.forall_mem_cons.1 hbytes
    have hpeek : place.peek text = some (Char.ofUInt8 b) := Position.peek_eq h
    rw [literalEnd_plain hpeek hb, ih (bytesFrom_advance h) hbytes, Position.advance_eq h,
      Position.overBytes_cons]

lemma literalEnd_next {c : Char} (h : GoesOn text place (c :: rest)) (hc : ¬ IsSpecial c) :
    literalEnd text place = literalEnd text (place.next c) := by
  have hbytes : ∀ b ∈ String.utf8EncodeChar c, ¬ IsSpecial (Char.ofUInt8 b) := by
    intro b hb
    rcases unit_of_mem_utf8EncodeChar hb with ⟨-, hunit⟩ | ⟨-, hunit⟩
    · rwa [hunit]
    · exact not_isSpecial_of_isWide hunit
  rw [literalEnd_overBytes h.bytesFrom_eq hbytes, Position.overBytes_utf8EncodeChar]

/-- A backslash takes along the first byte of the character behind it, and the other bytes of that
character have no meaning of their own. -/
lemma literalEnd_escaped {c : Char} (h : GoesOn text place ('\\' :: c :: rest)) (hc : c ≠ '\n') :
    literalEnd text place = literalEnd text ((place.next '\\').next c) := by
  have hslash : place.advance text = place.next '\\' := h.advance_eq (by decide)
  obtain ⟨b, tail, henc, -, htail⟩ := utf8EncodeChar_eq_cons c
  have hbytes : bytesFrom text (place.next '\\').offset = b :: (tail ++ bytesOf rest) := by
    rw [h.next.bytesFrom_eq, bytesOf_cons, henc, List.cons_append]
  have hnext : ((place.advance text).peek text).any (· != '\n') = true := by
    rw [hslash, h.next.any_peek isByteClass_ne_newline]
    simpa using hc
  have hmore := bytesFrom_advance hbytes
  rw [literalEnd_escape h.peek_eq hnext, hslash,
    literalEnd_overBytes hmore fun d hd => not_isSpecial_of_isWide (htail d hd),
    Position.advance_eq hbytes, ← Position.overBytes_cons, ← henc,
    Position.overBytes_utf8EncodeChar]

end Bytewise

namespace StringLiteral

/-- What is read behind the opening quote of a literal: its body, or all of the line when it is not
closed. -/
def stretch (text : List Char) : List Char :=
  match splitBody? text with
  | some (body, _) => body
  | none => text.takeWhile (· != '\n')

lemma stretch_of_some {text body rest : List Char} (h : splitBody? text = some (body, rest)) :
    stretch text = body := by
  rw [stretch, h]

lemma stretch_of_none {text : List Char} (h : splitBody? text = none) :
    stretch text = text.takeWhile (· != '\n') := by
  rw [stretch, h]

lemma stretch_plain {c : Char} (hquote : c ≠ '"') (hslash : c ≠ '\\') (hline : c ≠ '\n')
    (text : List Char) : stretch (c :: text) = c :: stretch text := by
  have hsplit := splitBody?_plain hquote hslash hline text
  cases h : splitBody? text with
  | none =>
    rw [h] at hsplit
    rw [stretch_of_none hsplit, stretch_of_none h,
      List.takeWhile_cons_of_pos (by simpa using hline)]
  | some split =>
    rw [h] at hsplit
    rw [stretch_of_some hsplit, stretch_of_some h]

lemma stretch_escaped {c : Char} (hline : c ≠ '\n') (text : List Char) :
    stretch ('\\' :: c :: text) = '\\' :: c :: stretch text := by
  have hsplit := splitBody?_escaped hline text
  cases h : splitBody? text with
  | none =>
    rw [h] at hsplit
    rw [stretch_of_none hsplit, stretch_of_none h, List.takeWhile_cons_of_pos (by decide),
      List.takeWhile_cons_of_pos (by simpa using hline)]
  | some split =>
    rw [h] at hsplit
    rw [stretch_of_some hsplit, stretch_of_some h]
    rfl

end StringLiteral

namespace Bytewise

variable {text : String} {place : Position} {rest : List Char}

/-- **The bytes of a literal end where its characters do.** -/
theorem literalEnd_eq (h : GoesOn text place rest) :
    literalEnd text place = place.after (StringLiteral.stretch rest) := by
  fun_induction StringLiteral.splitBody? rest generalizing place with
  | case1 => exact literalEnd_stay (by simp [h.peek_eq])
  | case2 rest =>
    have hpeek : place.peek text = some '\n' := (h.peek_eq_some_iff (by decide)).2 rfl
    exact literalEnd_stay (by simp [hpeek])
  | case3 rest =>
    have hpeek : place.peek text = some '"' := (h.peek_eq_some_iff (by decide)).2 rfl
    exact literalEnd_stay (by simp [hpeek])
  | case4 rest =>
    -- the backslash is left behind, and the newline behind it ends the literal
    have hslash : place.peek text = some '\\' := (h.peek_eq_some_iff (by decide)).2 rfl
    have hpeek : (place.next '\\').peek text = some '\n' :=
      (h.next.peek_eq_some_iff (by decide)).2 rfl
    have hadvance := h.advance_eq (by decide)
    rw [literalEnd_lone hslash (by simp [hadvance, hpeek]), hadvance,
      literalEnd_stay (by simp [hpeek])]
    rfl
  | case5 c rest hline ih =>
    rw [literalEnd_escaped h hline, ih h.next.next, StringLiteral.stretch_escaped hline]
    rfl
  | case6 c rest hline hquote hslash ih =>
    by_cases hc : c = '\\'
    · -- a backslash at the very end of the text
      subst hc
      obtain rfl : rest = [] := by
        cases rest with
        | nil => rfl
        | cons d rest => exact absurd rfl (hslash d rest rfl)
      have hpeek : place.peek text = some '\\' := (h.peek_eq_some_iff (by decide)).2 rfl
      have hend : (place.next '\\').peek text = none := h.next.peek_eq
      have hadvance := h.advance_eq (by decide)
      rw [literalEnd_lone hpeek (by simp [hadvance, hend]), hadvance,
        literalEnd_stay (by simp [hend])]
      rfl
    · have hplain : ¬ IsSpecial c := by
        rintro (rfl | rfl | rfl)
        · exact hline rfl
        · exact hquote rfl
        · exact hc rfl
      rw [literalEnd_next h hplain, ih h.next, StringLiteral.stretch_plain hquote hc hline]
      rfl

end Bytewise
end QueryLexer
