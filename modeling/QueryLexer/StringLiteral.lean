/-
# String literals

A string literal stands between two double quotes on one line.  Inside, a backslash belongs
together with the character after it, so an escaped quote does not close the literal; a newline
always ends the line, escaped or not.  `splitBody?` finds the closing quote, and `decode` reads
the escapes of the text between the quotes.  The main statements are

* `splitBody?_eq_some`: what is split off, the quote and the rest make up the text again;
* `decode_cons_of_ne`, `decode_escape` and `decode_unknown`: what each piece of a body stands for.
-/

namespace QueryLexer.StringLiteral

/-! ## Finding the closing quote -/

/-- Splits a text that begins just inside a literal into the body and what follows the closing
quote.  There is no result when the line ends first. -/
def splitBody? : List Char → Option (List Char × List Char)
  | [] => none
  | '\n' :: _ => none
  | '"' :: rest => some ([], rest)
  | '\\' :: c :: rest =>
    if c = '\n' then none else (splitBody? rest).map (Prod.map (['\\', c] ++ ·) id)
  | c :: rest => (splitBody? rest).map (Prod.map (c :: ·) id)

/-- **A split body, the closing quote and the rest make up the text.** -/
theorem splitBody?_eq_some {text body rest : List Char} (h : splitBody? text = some (body, rest)) :
    text = body ++ '"' :: rest := by
  fun_induction splitBody? text generalizing body rest with
  | case1 => simp at h
  | case2 => simp at h
  | case3 => simp_all
  | case4 => simp at h
  | case5 c cs _ ih =>
    obtain ⟨⟨b, r⟩, hb, he⟩ := Option.map_eq_some_iff.1 h
    simp only [Prod.map_apply, id_eq, Prod.mk.injEq] at he
    rw [← he.1, ← he.2, ih hb]
    simp
  | case6 c cs _ _ _ ih =>
    obtain ⟨⟨b, r⟩, hb, he⟩ := Option.map_eq_some_iff.1 h
    simp only [Prod.map_apply, id_eq, Prod.mk.injEq] at he
    rw [← he.1, ← he.2, ih hb]
    simp

/-! ## Reading the escapes -/

/-- What a backslash and the given character stand for, when that is a recognised escape. -/
def meaning? : Char → Option Char
  | 'n' => some '\n'
  | 't' => some '\t'
  | 'r' => some '\r'
  | '"' => some '"'
  | '\\' => some '\\'
  | _ => none

/-- The text that a literal's body stands for.  An escape that is not recognised is kept as it is
written, and so is a backslash at the very end. -/
def decode : List Char → List Char
  | [] => []
  | '\\' :: c :: rest =>
    match meaning? c with
    | some d => d :: decode rest
    | none => '\\' :: c :: decode rest
  | c :: rest => c :: decode rest

theorem decode_cons_of_ne {c : Char} (h : c ≠ '\\') (rest : List Char) :
    decode (c :: rest) = c :: decode rest := by
  rw [decode]
  exact fun _ _ hc => absurd hc h

/-- A recognised escape stands for one character. -/
theorem decode_escape {c d : Char} (h : meaning? c = some d) (rest : List Char) :
    decode ('\\' :: c :: rest) = d :: decode rest := by
  simp [decode, h]

/-- An escape that is not recognised is kept, backslash included. -/
theorem decode_unknown {c : Char} (h : meaning? c = none) (rest : List Char) :
    decode ('\\' :: c :: rest) = '\\' :: c :: decode rest := by
  simp [decode, h]

end QueryLexer.StringLiteral
