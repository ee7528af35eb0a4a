/-
# Positions and spans

A place in a text is counted in three ways at once: by lines, by characters since the start of
the line, and by bytes of the text's UTF-8 form since its beginning.  Moving over a character
(`Position.next`) updates all three, and moving over a whole text (`Position.after`) is the fold
of that step.  The main statements are

* `Position.after_append`: moving over `s ++ t` is moving over `s` and then over `t`;
* `Position.offset_after`: the byte offset grows by exactly the byte length of the text;
* `byteLength_toList`: the byte length of a list of characters is the size of the string it
  spells.
-/

namespace QueryLexer

/-! ## Byte length -/

/-- The number of bytes that a text occupies in UTF-8. -/
def byteLength : List Char → Nat
  | [] => 0
  | c :: text => c.utf8Size + byteLength text

@[simp] theorem byteLength_nil : byteLength [] = 0 := rfl

@[simp] theorem byteLength_cons (c : Char) (text : List Char) :
    byteLength (c :: text) = c.utf8Size + byteLength text := rfl

@[simp] theorem byteLength_append (s t : List Char) :
    byteLength (s ++ t) = byteLength s + byteLength t := by
  induction s with
  | nil => simp
  | cons c s ih => rw [List.cons_append, byteLength_cons, byteLength_cons, ih, Nat.add_assoc]

theorem length_le_byteLength (text : List Char) : text.length ≤ byteLength text := by
  induction text with
  | nil => simp
  | cons c cs ih =>
    have := c.utf8Size_pos
    simp only [List.length_cons, byteLength_cons]
    omega

theorem utf8ByteSize_ofList (text : List Char) :
    (String.ofList text).utf8ByteSize = byteLength text := by
  induction text with
  | nil => rfl
  | cons c cs ih =>
    rw [← List.singleton_append, String.ofList_append, String.utf8ByteSize_append, ih,
      List.singleton_append, byteLength_cons]
    congr 1
    exact String.utf8ByteSize_singleton

theorem byteLength_toList (s : String) : byteLength s.toList = s.utf8ByteSize := by
  rw [← utf8ByteSize_ofList, String.ofList_toList]

/-! ## Positions -/

/-- A place in a text.  Lines and columns count from one and the byte offset from zero; the
column counts characters, not bytes. -/
structure Position where
  line : Nat
  column : Nat
  offset : Nat
  deriving DecidableEq

namespace Position

/-- The beginning of a text. -/
def origin : Position := ⟨1, 1, 0⟩

/-- The place just after the character `c`.  Only a newline ends a line. -/
def next (p : Position) (c : Char) : Position :=
  if c = '\n' then ⟨p.line + 1, 1, p.offset + 1⟩
  else ⟨p.line, p.column + 1, p.offset + c.utf8Size⟩

/-- The place just after a stretch of text. -/
def after (p : Position) (text : List Char) : Position :=
  text.foldl next p

@[simp] theorem next_newline (p : Position) : p.next '\n' = ⟨p.line + 1, 1, p.offset + 1⟩ := rfl

theorem next_of_ne (p : Position) {c : Char} (h : c ≠ '\n') :
    p.next c = ⟨p.line, p.column + 1, p.offset + c.utf8Size⟩ := by
  simp [next, h]

@[simp] theorem after_nil (p : Position) : p.after [] = p := rfl

@[simp] theorem after_cons (p : Position) (c : Char) (text : List Char) :
    p.after (c :: text) = (p.next c).after text := rfl

@[simp] theorem after_append (p : Position) (s t : List Char) :
    p.after (s ++ t) = (p.after s).after t := by
  simp [after]

@[simp] theorem offset_next (p : Position) (c : Char) :
    (p.next c).offset = p.offset + c.utf8Size := by
  unfold next
  split
  · next h => subst h; rfl
  · rfl

/-- Moving over a text adds its byte length to the offset. -/
@[simp] theorem offset_after (p : Position) (text : List Char) :
    (p.after text).offset = p.offset + byteLength text := by
  induction text generalizing p with
  | nil => rfl
  | cons c cs ih => simp [ih, Nat.add_assoc]

end Position

/-! ## Spans -/

/-- The stretch of a text from `start` up to, and not including, the byte at `stop`. -/
structure Span where
  start : Position
  stop : Nat
  deriving DecidableEq

/-- The span of the text `taken`, when it begins at `start`. -/
def Span.of (start : Position) (taken : List Char) : Span :=
  ⟨start, start.offset + byteLength taken⟩

theorem Span.stop_of (start : Position) (taken : List Char) :
    (Span.of start taken).stop = (start.after taken).offset := by
  simp [Span.of]

end QueryLexer
