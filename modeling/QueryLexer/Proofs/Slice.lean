/-
# Slices of a text

Spans give places in a text by byte offsets.  `slice?` takes the text between two offsets out of
the UTF-8 bytes; it has a result only if both offsets lie on the boundary of a character and stand
in order.  The main statement is

* `slice?_eq_some_iff`: a slice is what stands between a prefix and a suffix of the text, and the
  offsets are the byte lengths on the way;
* `GoesOn.slice`: the slice that begins at a place is what the text goes on with from there.
-/
import QueryLexer.Text.Position
import Mathlib.Tactic.Common

namespace QueryLexer

/-- The text between two byte offsets, if both lie on the boundary of a character, in order. -/
def slice? (text : String) (start stop : Nat) : Option String := do
  let first ← text.pos? ⟨start⟩
  let last ← text.pos? ⟨stop⟩
  if first ≤ last then some (text.extract first last) else none

lemma pos?_eq_some_iff {text : String} {n : String.Pos.Raw} {p : text.Pos} :
    text.pos? n = some p ↔ p.offset = n := by
  unfold String.pos? String.Slice.pos?
  constructor
  · intro h
    split at h
    · rw [Option.map_some, Option.some.injEq] at h
      subst h
      rfl
    · simp at h
  · rintro rfl
    have hvalid : p.offset.IsValidForSlice text.toSlice := p.isValid.toSlice
    rw [dif_pos (String.Pos.Raw.isValidForSlice_eq_true_iff.2 hvalid), Option.map_some,
      Option.some.injEq]
    exact String.Pos.ext rfl

lemma extract_append {text : String} {first last : text.Pos} (h : first ≤ last) :
    text = text.extract text.startPos first ++ text.extract first last ++
      text.extract last text.endPos := by
  have hle : first.offset.byteIdx ≤ last.offset.byteIdx := h
  have hlast : last.offset.byteIdx ≤ text.utf8ByteSize := last.isValid.le_rawEndPos
  apply String.toByteArray_inj.1
  simp only [String.toByteArray_append, String.toByteArray_extract, String.offset_startPos,
    String.offset_endPos, String.Pos.Raw.byteIdx_zero, String.byteIdx_rawEndPos]
  rw [← ByteArray.extract_eq_extract_append_extract _ (Nat.zero_le _) hle,
    ← ByteArray.extract_eq_extract_append_extract _ (Nat.zero_le _) hlast]
  simp [← String.size_toByteArray]

lemma utf8ByteSize_extract {text : String} (first last : text.Pos) :
    (text.extract first last).utf8ByteSize = last.offset.byteIdx - first.offset.byteIdx := by
  have hlast : last.offset.byteIdx ≤ text.utf8ByteSize := last.isValid.le_rawEndPos
  simp only [← String.size_toByteArray, String.toByteArray_extract] at hlast ⊢
  rw [ByteArray.size_extract]
  omega

/-- **A slice stands between a prefix and a suffix of the text.**  The offsets are the byte lengths
of what comes before its two ends. -/
theorem slice?_eq_some_iff {text part : String} {start stop : Nat} :
    slice? text start stop = some part ↔
      ∃ pre post, text = pre ++ part ++ post ∧ pre.utf8ByteSize = start ∧
        start + part.utf8ByteSize = stop := by
  simp only [slice?, Option.bind_eq_bind, Option.bind_eq_some_iff, pos?_eq_some_iff]
  constructor
  · rintro ⟨first, hfirst, last, hlast, h⟩
    obtain ⟨hle, rfl⟩ : first ≤ last ∧ text.extract first last = part := by
      simpa using h
    have hstart : first.offset.byteIdx = start := by rw [hfirst]
    have hstop : last.offset.byteIdx = stop := by rw [hlast]
    have hle' : first.offset.byteIdx ≤ last.offset.byteIdx := hle
    refine ⟨_, _, extract_append hle, ?_, ?_⟩
    · rw [utf8ByteSize_extract, hstart]
      rfl
    · rw [utf8ByteSize_extract]
      omega
  · rintro ⟨pre, post, rfl, rfl, rfl⟩
    have hfirst : String.Pos.Raw.IsValid (pre ++ part ++ post) ⟨pre.utf8ByteSize⟩ :=
      String.Pos.Raw.isValid_iff_exists_append.2 ⟨pre, part ++ post, String.append_assoc .., rfl⟩
    have hlast : String.Pos.Raw.IsValid (pre ++ part ++ post)
        ⟨pre.utf8ByteSize + part.utf8ByteSize⟩ :=
      String.Pos.Raw.isValid_iff_exists_append.2
        ⟨pre ++ part, post, rfl, String.Pos.Raw.ext (String.utf8ByteSize_append ..).symm⟩
    refine ⟨String.pos _ _ hfirst, rfl, String.pos _ _ hlast, rfl, ?_⟩
    have hle : String.pos _ _ hfirst ≤ String.pos _ _ hlast := Nat.le_add_right _ _
    rw [if_pos hle, Option.some.injEq]
    apply String.toByteArray_inj.1
    simp only [String.toByteArray_extract, String.toByteArray_append, String.offset_pos,
      ← String.size_toByteArray, ByteArray.append_assoc]
    calc (pre.toByteArray ++ (part.toByteArray ++ post.toByteArray)).extract
          (pre.toByteArray.size + 0) (pre.toByteArray.size + part.toByteArray.size)
        = (part.toByteArray ++ post.toByteArray).extract 0 part.toByteArray.size :=
          ByteArray.extract_append_size_add
      _ = part.toByteArray := ByteArray.extract_append_eq_left rfl

lemma append_inj_of_byteLength {pre pre' post post' : List Char} (h : pre ++ post = pre' ++ post')
    (hlength : byteLength pre = byteLength pre') : pre = pre' ∧ post = post' := by
  induction pre generalizing pre' with
  | nil =>
    cases pre' with
    | nil => exact ⟨rfl, h⟩
    | cons c pre' =>
      have := c.utf8Size_pos
      simp only [byteLength_nil, byteLength_cons] at hlength
      omega
  | cons c pre ih =>
    cases pre' with
    | nil =>
      have := c.utf8Size_pos
      simp only [byteLength_nil, byteLength_cons] at hlength
      omega
    | cons c' pre' =>
      obtain ⟨rfl, htail⟩ := List.cons.inj h
      simp only [byteLength_cons] at hlength
      obtain ⟨rfl, hpost⟩ := ih htail (by omega)
      exact ⟨rfl, hpost⟩

lemma le_of_slice? {text part : String} {start stop : Nat}
    (h : slice? text start stop = some part) : start ≤ stop := by
  obtain ⟨_, _, _, _, rfl⟩ := slice?_eq_some_iff.1 h
  exact Nat.le_add_right _ _

lemma slice?_append {text part part' : String} {start mid stop : Nat}
    (h : slice? text start mid = some part) (h' : slice? text mid stop = some part') :
    slice? text start stop = some (part ++ part') := by
  obtain ⟨pre, post, htext, hstart, hmid⟩ := slice?_eq_some_iff.1 h
  obtain ⟨pre', post', htext', hmid', hstop⟩ := slice?_eq_some_iff.1 h'
  have hchars : (pre.toList ++ part.toList) ++ post.toList =
      pre'.toList ++ (part'.toList ++ post'.toList) := by
    simpa using congrArg String.toList (htext.symm.trans htext')
  have hlength : byteLength (pre.toList ++ part.toList) = byteLength pre'.toList := by
    rw [byteLength_append, byteLength_toList, byteLength_toList, byteLength_toList]
    omega
  obtain ⟨-, hpost⟩ := append_inj_of_byteLength hchars hlength
  refine slice?_eq_some_iff.2 ⟨pre, post', ?_, hstart, ?_⟩
  · rw [htext, ← String.toList_inj]
    simp [hpost]
  · rw [String.utf8ByteSize_append]
    omega

/-! ## Places in a text -/

/-- From a place on, a text goes on with the given characters. -/
def GoesOn (text : String) (place : Position) (rest : List Char) : Prop :=
  ∃ before, text.toList = before ++ rest ∧ place.offset = byteLength before

namespace GoesOn

variable {text : String} {place : Position} {part rest : List Char}

lemma after (h : GoesOn text place (part ++ rest)) : GoesOn text (place.after part) rest := by
  obtain ⟨before, htext, hplace⟩ := h
  refine ⟨before ++ part, ?_, ?_⟩
  · rw [htext, List.append_assoc]
  · rw [Position.offset_after, hplace, byteLength_append]

/-- A text ends where all of the rest is behind. -/
lemma offset_add (h : GoesOn text place rest) :
    place.offset + byteLength rest = text.utf8ByteSize := by
  obtain ⟨before, htext, hplace⟩ := h
  rw [← byteLength_toList, htext, byteLength_append, hplace]

/-- The slice that begins at a place is what the text goes on with. -/
lemma slice (h : GoesOn text place (part ++ rest)) :
    slice? text place.offset (place.offset + byteLength part) = some (String.ofList part) := by
  obtain ⟨before, htext, hplace⟩ := h
  refine slice?_eq_some_iff.2 ⟨String.ofList before, String.ofList rest, ?_, ?_, ?_⟩
  · rw [← String.toList_inj, htext]
    simp
  · rw [utf8ByteSize_ofList, hplace]
  · rw [utf8ByteSize_ofList]

lemma slice_rest (h : GoesOn text place rest) :
    slice? text place.offset text.utf8ByteSize = some (String.ofList rest) := by
  rw [← List.append_nil rest] at h
  rw [← h.offset_add, List.append_nil]
  exact h.slice

end GoesOn

end QueryLexer
