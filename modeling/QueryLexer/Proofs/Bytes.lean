/-
# Places between bytes

A text is stored as the bytes of its UTF-8 form, and a place can be moved over one byte instead of
over one character.  Inside a character of several bytes it then stands where no slice of the text
begins; but over all bytes of a character it is moved like over the character itself.  A byte is
read as the character with its code: the characters up to code 127 are read as they are, and every
byte of another character is read as one above 127.  The main statements are

* `unit_of_mem_utf8EncodeChar`: what the bytes of a character are read as;
* `Position.overBytes_utf8EncodeChar`: a place is moved over a character and over its bytes alike;
* `GoesOn.bytesFrom_eq` and `Position.advance_eq`: which bytes a place comes by.
-/
import QueryLexer.Proofs.Slice

namespace QueryLexer

/-! ## The bytes of a text -/

/-- The bytes of a list of characters. -/
def bytesOf (text : List Char) : List UInt8 :=
  text.flatMap String.utf8EncodeChar

/-- The bytes of a text from an offset on. -/
def bytesFrom (text : String) (offset : Nat) : List UInt8 :=
  text.toUTF8.data.toList.drop offset

@[simp] lemma bytesOf_cons (c : Char) (text : List Char) :
    bytesOf (c :: text) = String.utf8EncodeChar c ++ bytesOf text := rfl

@[simp] lemma bytesOf_append (text text' : List Char) :
    bytesOf (text ++ text') = bytesOf text ++ bytesOf text' := by
  simp [bytesOf]

lemma length_bytesOf (text : List Char) : (bytesOf text).length = byteLength text := by
  induction text with
  | nil => rfl
  | cons c text ih =>
    rw [bytesOf_cons, List.length_append, String.length_utf8EncodeChar, ih, byteLength_cons]

lemma toList_data_toUTF8 (text : String) : text.toUTF8.data.toList = bytesOf text.toList := by
  rw [String.toUTF8_eq_toByteArray, ← String.utf8Encode_toList, List.utf8Encode,
    List.toList_data_toByteArray]
  rfl

lemma GoesOn.bytesFrom_eq {text : String} {place : Position} {rest : List Char}
    (h : GoesOn text place rest) : bytesFrom text place.offset = bytesOf rest := by
  obtain ⟨before, htext, hplace⟩ := h
  rw [bytesFrom, toList_data_toUTF8, htext, bytesOf_append, hplace, ← length_bytesOf,
    List.drop_left]

/-! ## Bytes as characters -/

/-- The characters above code 127, which take several bytes. -/
def IsWide (c : Char) : Prop :=
  128 ≤ c.toNat

instance : DecidablePred IsWide := fun c => inferInstanceAs (Decidable (128 ≤ c.toNat))

lemma utf8Size_of_not_isWide {c : Char} (h : ¬ IsWide c) : c.utf8Size = 1 := by
  have hcode : c.val.toNat ≤ 127 := Nat.le_of_lt_succ (Nat.lt_of_not_le h)
  rwa [Char.utf8Size_eq_one_iff, UInt32.le_iff_toNat_le]

/-- The bytes that go on with a character. -/
lemma and_eq_0x80_iff {b : UInt8} : b &&& 0xC0 = 0x80 ↔ 0x80 ≤ b.toNat ∧ b.toNat < 0xC0 := by
  have hall : ∀ n < 256, n &&& 0xC0 = 0x80 ↔ 0x80 ≤ n ∧ n < 0xC0 := by decide +kernel
  rw [← UInt8.toNat_inj, UInt8.toNat_and]
  exact hall _ b.toNat_lt

/-- The bytes of a character: one that is the character itself, or one from 192 on and others that
go on with it. -/
lemma utf8EncodeChar_cases (c : Char) :
    (¬ IsWide c ∧ ∃ b, String.utf8EncodeChar c = [b] ∧ Char.ofUInt8 b = c) ∨
      (IsWide c ∧ ∃ b tail, String.utf8EncodeChar c = b :: tail ∧ 0xC0 ≤ b.toNat ∧
        ∀ d ∈ tail, 0x80 ≤ d.toNat ∧ d.toNat < 0xC0) := by
  have hbyte : ∀ n < 256, (UInt8.ofNat n).toNat = n := by
    intro n hn
    rw [UInt8.toNat_ofNat', Nat.mod_eq_of_lt hn]
  fun_cases String.utf8EncodeChar with
  | case1 v hv =>
    refine Or.inl ⟨Nat.not_le_of_lt (Nat.lt_succ_of_le hv), _, rfl, ?_⟩
    apply Char.toNat_inj.1
    show (UInt8.ofNat c.val.toNat).toUInt32.toNat = c.val.toNat
    rw [UInt8.toNat_toUInt32, hbyte _ (by omega)]
  | case2 v hv _ =>
    refine Or.inr ⟨Nat.lt_of_not_le hv, _, _, rfl, ?_, ?_⟩
    · rw [hbyte _ (by omega)]
      omega
    · simp only [List.mem_singleton, forall_eq]
      rw [hbyte _ (by omega)]
      omega
  | case3 v hv _ _ =>
    refine Or.inr ⟨Nat.lt_of_not_le hv, _, _, rfl, ?_, ?_⟩
    · rw [hbyte _ (by omega)]
      omega
    · simp only [List.mem_cons, List.not_mem_nil, or_false, forall_eq_or_imp, forall_eq]
      rw [hbyte _ (by omega), hbyte _ (by omega)]
      omega
  | case4 v hv _ _ =>
    refine Or.inr ⟨Nat.lt_of_not_le hv, _, _, rfl, ?_, ?_⟩
    · rw [hbyte _ (by omega)]
      omega
    · simp only [List.mem_cons, List.not_mem_nil, or_false, forall_eq_or_imp, forall_eq]
      rw [hbyte _ (by omega), hbyte _ (by omega), hbyte _ (by omega)]
      omega

/-- **A byte of a character is read as the character itself, or as a wide character of a wide
one.** -/
theorem unit_of_mem_utf8EncodeChar {c : Char} {b : UInt8} (hb : b ∈ String.utf8EncodeChar c) :
    (¬ IsWide c ∧ Char.ofUInt8 b = c) ∨ (IsWide c ∧ IsWide (Char.ofUInt8 b)) := by
  have hcode : ∀ b : UInt8, (Char.ofUInt8 b).toNat = b.toNat := fun b => UInt8.toNat_toUInt32 b
  rcases utf8EncodeChar_cases c with ⟨hc, d, henc, hd⟩ | ⟨hc, d, tail, henc, hd, htail⟩
  · rw [henc, List.mem_singleton] at hb
    exact Or.inl ⟨hc, hb ▸ hd⟩
  · refine Or.inr ⟨hc, ?_⟩
    rw [IsWide, hcode]
    rw [henc] at hb
    rcases List.mem_cons.1 hb with rfl | hb
    · omega
    · exact (htail b hb).1

/-- The byte that a character begins with, read as a character. -/
def lead (c : Char) : Char :=
  Char.ofUInt8 ((String.utf8EncodeChar c).head String.utf8EncodeChar_ne_nil)

/-- The bytes of a character: the first one, and others that are read as wide characters. -/
lemma utf8EncodeChar_eq_cons (c : Char) :
    ∃ b tail, String.utf8EncodeChar c = b :: tail ∧ Char.ofUInt8 b = lead c ∧
      ∀ d ∈ tail, IsWide (Char.ofUInt8 d) := by
  rcases utf8EncodeChar_cases c with ⟨-, b, henc, -⟩ | ⟨-, b, tail, henc, -, htail⟩
  · exact ⟨b, [], henc, by simp [lead, henc], by simp⟩
  · exact ⟨b, tail, henc, by simp [lead, henc], fun d hd => (htail d hd).1⟩

lemma lead_cases (c : Char) : (¬ IsWide c ∧ lead c = c) ∨ (IsWide c ∧ IsWide (lead c)) :=
  unit_of_mem_utf8EncodeChar (List.head_mem _)

/-- One byte tells whether a character is a given one that is not wide. -/
lemma lead_eq_iff {c d : Char} (hd : ¬ IsWide d) : lead c = d ↔ c = d := by
  rcases lead_cases c with ⟨-, hlead⟩ | ⟨hwide, hlead⟩
  · rw [hlead]
  · refine iff_of_false ?_ ?_
    · rintro rfl
      exact hd hlead
    · rintro rfl
      exact hd hwide

lemma map_lead_eq_some_iff {next : Option Char} {d : Char} (hd : ¬ IsWide d) :
    next.map lead = some d ↔ next = some d := by
  cases next <;> simp [lead_eq_iff hd]

/-- A class of characters that does not tell wide characters apart. -/
def IsByteClass (p : Char → Bool) : Prop :=
  ∀ c d, IsWide c → IsWide d → p c = p d

namespace IsByteClass

variable {p : Char → Bool}

lemma of_forall_wide {value : Bool} (h : ∀ c, IsWide c → p c = value) : IsByteClass p := by
  intro c d hc hd
  rw [h c hc, h d hd]

/-- Each byte of a character is in such a class exactly if the character is. -/
lemma unit (h : IsByteClass p) {c : Char} {b : UInt8} (hb : b ∈ String.utf8EncodeChar c) :
    p (Char.ofUInt8 b) = p c := by
  rcases unit_of_mem_utf8EncodeChar hb with ⟨-, hunit⟩ | ⟨hc, hunit⟩
  · rw [hunit]
  · exact h _ _ hunit hc

lemma lead (h : IsByteClass p) (c : Char) : p (lead c) = p c :=
  h.unit (List.head_mem _)

end IsByteClass

/-! ## Places moved over bytes -/

namespace Position

/-- The place behind a byte.  A byte that goes on with a character is not counted as a column. -/
def overByte (p : Position) (b : UInt8) : Position :=
  if Char.ofUInt8 b = '\n' then ⟨p.line + 1, 1, p.offset + 1⟩
  else if b &&& 0xC0 = 0x80 then ⟨p.line, p.column, p.offset + 1⟩
  else ⟨p.line, p.column + 1, p.offset + 1⟩

/-- The place behind a stretch of bytes. -/
def overBytes (p : Position) (bytes : List UInt8) : Position :=
  bytes.foldl overByte p

@[simp] lemma overBytes_nil (p : Position) : p.overBytes [] = p := rfl

@[simp] lemma overBytes_cons (p : Position) (b : UInt8) (bytes : List UInt8) :
    p.overBytes (b :: bytes) = (p.overByte b).overBytes bytes := rfl

@[simp] lemma offset_overByte (p : Position) (b : UInt8) :
    (p.overByte b).offset = p.offset + 1 := by
  unfold overByte
  split_ifs <;> rfl

/-- Bytes that go on with a character leave the line and the column as they are. -/
lemma overBytes_of_continuing {bytes : List UInt8}
    (h : ∀ b ∈ bytes, 0x80 ≤ b.toNat ∧ b.toNat < 0xC0) (p : Position) :
    p.overBytes bytes = ⟨p.line, p.column, p.offset + bytes.length⟩ := by
  induction bytes generalizing p with
  | nil => rfl
  | cons b bytes ih =>
    obtain ⟨hb, hbytes⟩ := List.forall_mem_cons.1 h
    have hnewline : Char.ofUInt8 b ≠ '\n' := by
      rintro hnewline
      have hcode : b.toNat = 10 := congrArg Char.toNat hnewline
      omega
    rw [overBytes_cons, ih hbytes, overByte, if_neg hnewline, if_pos (and_eq_0x80_iff.2 hb)]
    simp [Nat.add_comm, Nat.add_left_comm]

/-- **Over the bytes of a character a place is moved like over the character.** -/
theorem overBytes_utf8EncodeChar (p : Position) (c : Char) :
    p.overBytes (String.utf8EncodeChar c) = p.next c := by
  have hlength := String.length_utf8EncodeChar c
  have hcode : ∀ b : UInt8, (Char.ofUInt8 b).toNat = b.toNat := fun b => UInt8.toNat_toUInt32 b
  rcases utf8EncodeChar_cases c with ⟨hc, b, henc, rfl⟩ | ⟨hc, b, tail, henc, hb, htail⟩
  · have hlead : ¬ b &&& 0xC0 = 0x80 := by
      rw [and_eq_0x80_iff, ← hcode]
      exact fun h => hc h.1
    rw [henc, overBytes_cons, overBytes_nil, overByte, if_neg hlead, next,
      utf8Size_of_not_isWide hc]
  · have hlead : ¬ b &&& 0xC0 = 0x80 := by
      rw [and_eq_0x80_iff]
      omega
    have hnewline : Char.ofUInt8 b ≠ '\n' := by
      rintro hnewline
      have hcode : b.toNat = 10 := congrArg Char.toNat hnewline
      omega
    have hne : c ≠ '\n' := by
      rintro rfl
      exact absurd hc (by decide)
    rw [henc, List.length_cons] at hlength
    rw [henc, overBytes_cons, overBytes_of_continuing htail, overByte, if_neg hnewline,
      if_neg hlead, next_of_ne p hne, ← hlength]
    simp [Nat.add_comm, Nat.add_left_comm]

end Position

/-! ## Reading bytes -/

namespace Position

/-- The byte at a place, as a character.  There is none at the end of the text. -/
def peek (p : Position) (text : String) : Option Char :=
  text.toUTF8[p.offset]?.map Char.ofUInt8

/-- The byte behind the one at a place. -/
def peekNext (p : Position) (text : String) : Option Char :=
  text.toUTF8[p.offset + 1]?.map Char.ofUInt8

/-- The place behind the next byte.  At the end of the text it stays where it is. -/
def advance (p : Position) (text : String) : Position :=
  match text.toUTF8[p.offset]? with
  | some b => p.overByte b
  | none => p

end Position

section Reading

variable {text : String} {place : Position} {b : UInt8} {bytes : List UInt8}

lemma getElem?_toUTF8 (text : String) (n : Nat) : text.toUTF8[n]? = (bytesFrom text n).head? := by
  rw [bytesFrom, List.head?_drop, Array.getElem?_toList]
  by_cases hn : n < text.toUTF8.size
  · rw [getElem?_pos text.toUTF8 n hn, ByteArray.getElem_eq_getElem_data, Array.getElem?_eq_getElem]
  · rw [getElem?_neg text.toUTF8 n hn]
    exact (Array.getElem?_eq_none (Nat.le_of_not_lt hn)).symm

lemma bytesFrom_succ {n : Nat} (h : bytesFrom text n = b :: bytes) :
    bytesFrom text (n + 1) = bytes := by
  rw [bytesFrom, ← List.drop_drop, ← bytesFrom, h, List.drop_one, List.tail_cons]

lemma Position.peek_eq (h : bytesFrom text place.offset = bytes) :
    place.peek text = bytes.head?.map Char.ofUInt8 := by
  rw [peek, getElem?_toUTF8, h]

/-- **A place is advanced over the byte that it stands at.** -/
theorem Position.advance_eq (h : bytesFrom text place.offset = b :: bytes) :
    place.advance text = place.overByte b := by
  rw [advance, getElem?_toUTF8, h]
  rfl

lemma bytesFrom_advance (h : bytesFrom text place.offset = b :: bytes) :
    bytesFrom text (place.advance text).offset = bytes := by
  rw [Position.advance_eq h, Position.offset_overByte, bytesFrom_succ h]

/-- A place where there is a byte to read lies before the end of the text, and the next byte is one
further on. -/
lemma Position.offset_advance {c : Char} (h : place.peek text = some c) :
    (place.advance text).offset = place.offset + 1 ∧ place.offset < text.utf8ByteSize := by
  obtain ⟨b, hb, -⟩ := Option.map_eq_some_iff.1 h
  refine ⟨?_, ?_⟩
  · rw [advance, hb]
    exact place.offset_overByte b
  · rw [← String.size_toByteArray, ← String.toUTF8_eq_toByteArray]
    exact (getElem?_eq_some_iff.1 hb).1

end Reading

/-! ## Bytes of characters -/

namespace GoesOn

variable {text : String} {place : Position} {c : Char} {rest : List Char}

lemma next (h : GoesOn text place (c :: rest)) : GoesOn text (place.next c) rest := by
  rw [← List.singleton_append] at h
  exact h.after

lemma peek_eq (h : GoesOn text place rest) : place.peek text = rest.head?.map lead := by
  rw [Position.peek_eq h.bytesFrom_eq]
  cases rest with
  | nil => rfl
  | cons c rest =>
    obtain ⟨b, tail, henc, hb, -⟩ := utf8EncodeChar_eq_cons c
    simp [henc, hb]

lemma peek_eq_some_iff (h : GoesOn text place rest) (hc : ¬ IsWide c) :
    place.peek text = some c ↔ rest.head? = some c := by
  rw [h.peek_eq, map_lead_eq_some_iff hc]

lemma any_peek (h : GoesOn text place rest) {p : Char → Bool} (hp : IsByteClass p) :
    (place.peek text).any p = rest.head?.any p := by
  rw [h.peek_eq]
  cases rest with
  | nil => rfl
  | cons c rest => exact hp.lead c

lemma bytesFrom_of_not_isWide (h : GoesOn text place (c :: rest)) (hc : ¬ IsWide c) :
    ∃ b, bytesFrom text place.offset = b :: bytesOf rest ∧ String.utf8EncodeChar c = [b] := by
  rcases utf8EncodeChar_cases c with ⟨-, b, henc, -⟩ | ⟨hwide, -⟩
  · exact ⟨b, by rw [h.bytesFrom_eq, bytesOf_cons, henc, List.singleton_append], henc⟩
  · exact absurd hwide hc

lemma peekNext_eq (h : GoesOn text place (c :: rest)) (hc : ¬ IsWide c) :
    place.peekNext text = rest.head?.map lead := by
  obtain ⟨b, hbytes, henc⟩ := h.bytesFrom_of_not_isWide hc
  have hoffset : (place.next c).offset = place.offset + 1 := by
    rw [Position.offset_next, utf8Size_of_not_isWide hc]
  rw [← h.next.peek_eq, Position.peek, Position.peekNext, hoffset]

lemma advance_eq (h : GoesOn text place (c :: rest)) (hc : ¬ IsWide c) :
    place.advance text = place.next c := by
  obtain ⟨b, hbytes, henc⟩ := h.bytesFrom_of_not_isWide hc
  rw [Position.advance_eq hbytes, ← Position.overBytes_utf8EncodeChar, henc]
  rfl

end GoesOn

end QueryLexer
