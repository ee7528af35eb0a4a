/-
# The pieces of a literal

The body of a string literal falls into pieces: plain characters, and backslashes with the
character that each of them takes along.  The search for the closing quote and the decoding of the
escapes are two readers of the same body, and both of them go through it piece by piece.  So the
decoder never finds a backslash alone at the end, and the value of a literal is its pieces read one
by one.  The main statements are

* `isBody_iff_exists_pieces` and `flatMap_chars_injective`: a body falls into pieces, in one way;
* `decode_flatMap_chars`: what it stands for is what its pieces stand for, in order;
* `literal_pieces`: what this says about the literals of a source.
-/
import QueryLexer.Proofs.LongestMatch
import Mathlib.Data.List.Basic

namespace QueryLexer.StringLiteral

/-! ## Escapes -/

/-- The characters that mean something behind a backslash, and what they mean there. -/
def escapes : List (Char × Char) :=
  [('n', '\n'), ('t', '\t'), ('r', '\r'), ('"', '"'), ('\\', '\\')]

lemma meaning?_eq_lookup (c : Char) : meaning? c = escapes.lookup c := by
  unfold meaning?
  split
  case h_6 =>
    rw [eq_comm, List.lookup_eq_none_iff]
    simp_all [escapes]
  all_goals rfl

lemma meaning?_eq_some_iff {c d : Char} : meaning? c = some d ↔ (c, d) ∈ escapes := by
  unfold meaning?
  split <;> simp_all [escapes, eq_comm]

/-! ## Pieces -/

/-- What a body is made of: plain characters, and backslashes with the next character. -/
inductive Piece where
  | plain (c : Char) (hquote : c ≠ '"') (hslash : c ≠ '\\') (hline : c ≠ '\n')
  | escape (c : Char) (hline : c ≠ '\n')

namespace Piece

/-- How a piece is written. -/
def chars : Piece → List Char
  | plain c _ _ _ => [c]
  | escape c _ => ['\\', c]

/-- What a piece stands for: a recognised escape for one character, any other piece for itself. -/
def meaning : Piece → List Char
  | plain c _ _ _ => [c]
  | escape c _ =>
    match escapes.lookup c with
    | some d => [d]
    | none => ['\\', c]

/-- Whether a piece is a recognised escape. -/
def isRecognised : Piece → Bool
  | plain _ _ _ _ => false
  | escape c _ => (escapes.lookup c).isSome

/-- A recognised escape loses its backslash, and nothing else is lost. -/
lemma length_meaning_add (p : Piece) :
    p.meaning.length + p.isRecognised.toNat = p.chars.length := by
  cases p with
  | plain => rfl
  | escape c _ => cases h : escapes.lookup c <;> simp [meaning, isRecognised, chars, h]

lemma meaning_eq_chars {p : Piece} (h : p.isRecognised = false) : p.meaning = p.chars := by
  cases p with
  | plain => rfl
  | escape c _ =>
    have hnone : escapes.lookup c = none := by simpa [isRecognised] using h
    simp [meaning, chars, hnone]

lemma decode_chars_append (p : Piece) (rest : List Char) :
    decode (p.chars ++ rest) = p.meaning ++ decode rest := by
  cases p with
  | plain c _ hslash _ => exact decode_cons_of_ne hslash rest
  | escape c _ =>
    have hmeaning := meaning?_eq_lookup c
    cases h : escapes.lookup c with
    | some d =>
      rw [h] at hmeaning
      simpa [chars, meaning, h] using decode_escape hmeaning rest
    | none =>
      rw [h] at hmeaning
      simpa [chars, meaning, h] using decode_unknown hmeaning rest

end Piece

/-- What a body stands for is what its pieces stand for, in order. -/
lemma decode_flatMap_chars (pieces : List Piece) :
    decode (pieces.flatMap Piece.chars) = pieces.flatMap Piece.meaning := by
  induction pieces with
  | nil => rfl
  | cons p pieces ih =>
    rw [List.flatMap_cons, Piece.decode_chars_append, ih, List.flatMap_cons]

/-- **The bodies of literals are what pieces make up.** -/
theorem isBody_iff_exists_pieces {body : List Char} :
    IsBody body ↔ ∃ pieces : List Piece, body = pieces.flatMap Piece.chars := by
  constructor
  · intro h
    induction h with
    | nil => exact ⟨[], rfl⟩
    | @plain c _ hquote hslash hline _ ih =>
      obtain ⟨pieces, rfl⟩ := ih
      exact ⟨.plain c hquote hslash hline :: pieces, rfl⟩
    | @escaped c _ hline _ ih =>
      obtain ⟨pieces, rfl⟩ := ih
      exact ⟨.escape c hline :: pieces, rfl⟩
  · rintro ⟨pieces, rfl⟩
    induction pieces with
    | nil => exact IsBody.nil
    | cons p pieces ih =>
      cases p with
      | plain c hquote hslash hline => exact IsBody.plain hquote hslash hline ih
      | escape c hline => exact IsBody.escaped hline ih

/-- **A text falls into pieces in one way only.** -/
theorem flatMap_chars_injective {pieces pieces' : List Piece}
    (h : pieces.flatMap Piece.chars = pieces'.flatMap Piece.chars) : pieces = pieces' := by
  induction pieces generalizing pieces' with
  | nil =>
    cases pieces' with
    | nil => rfl
    | cons p _ => cases p <;> cases h
  | cons p pieces ih =>
    cases pieces' with
    | nil => cases p <;> cases h
    | cons p' pieces' =>
      -- the first character tells a plain one from a backslash
      cases p with
      | plain c _ hslash _ =>
        cases p' with
        | plain c' _ _ _ =>
          obtain ⟨rfl, htail⟩ := List.cons.inj h
          rw [ih htail]
        | escape c' _ => exact absurd (List.cons.inj h).1 hslash
      | escape c _ =>
        cases p' with
        | plain c' _ hslash' _ => exact absurd (List.cons.inj h).1.symm hslash'
        | escape c' _ =>
          obtain ⟨rfl, htail⟩ := List.cons.inj (List.cons.inj h).2
          rw [ih htail]

lemma length_flatMap_meaning (pieces : List Piece) :
    (pieces.flatMap Piece.meaning).length + pieces.countP Piece.isRecognised =
      (pieces.flatMap Piece.chars).length := by
  induction pieces with
  | nil => rfl
  | cons p pieces ih =>
    have hlength := p.length_meaning_add
    rw [List.flatMap_cons, List.flatMap_cons, List.length_append, List.length_append]
    cases hp : p.isRecognised with
    | true =>
      rw [hp, Bool.toNat_true] at hlength
      rw [List.countP_cons_of_pos hp]
      omega
    | false =>
      rw [hp, Bool.toNat_false] at hlength
      rw [List.countP_cons_of_neg (by simp [hp])]
      omega

lemma flatMap_meaning_eq_iff {pieces : List Piece} :
    pieces.flatMap Piece.meaning = pieces.flatMap Piece.chars ↔
      ∀ p ∈ pieces, p.isRecognised = false := by
  constructor
  · intro h
    have hlength := length_flatMap_meaning pieces
    rw [h, Nat.add_eq_left, List.countP_eq_zero] at hlength
    simpa using hlength
  · intro h
    exact List.flatMap_congr fun p hp => Piece.meaning_eq_chars (h p hp)

/-! ## The way of the decoder -/

/-- The texts that are left on the way when a text is decoded. -/
inductive Leaves : List Char → List Char → Prop
  /-- Nothing is decoded yet. -/
  | start (text : List Char) : Leaves text text
  | plain {c : Char} {text rest : List Char} (hslash : c ≠ '\\') (h : Leaves text rest) :
      Leaves (c :: text) rest
  /-- A backslash is decoded together with the character behind it. -/
  | escape {c : Char} {text rest : List Char} (h : Leaves text rest) :
      Leaves ('\\' :: c :: text) rest

/-- What is left on the way is decoded last. -/
theorem Leaves.decode_eq {text rest : List Char} (h : Leaves text rest) :
    ∃ front, decode text = front ++ decode rest := by
  induction h with
  | start => exact ⟨[], rfl⟩
  | @plain c _ _ hslash _ ih =>
    obtain ⟨front, hfront⟩ := ih
    exact ⟨c :: front, by rw [decode_cons_of_ne hslash, hfront, List.cons_append]⟩
  | @escape c _ _ _ ih =>
    obtain ⟨front, hfront⟩ := ih
    cases hc : meaning? c with
    | some d => exact ⟨d :: front, by rw [decode_escape hc, hfront, List.cons_append]⟩
    | none =>
      exact ⟨'\\' :: c :: front, by
        rw [decode_unknown hc, hfront, List.cons_append, List.cons_append]⟩

/-- **On the way through a body only bodies are left.** -/
theorem IsBody.of_leaves {body rest : List Char} (h : IsBody body) (hrest : Leaves body rest) :
    IsBody rest := by
  induction hrest with
  | start => exact h
  | plain hslash _ ih =>
    cases h with
    | plain _ _ _ hbody => exact ih hbody
    | escaped => exact absurd rfl hslash
  | escape _ ih =>
    cases h with
    | plain _ hslash => exact absurd rfl hslash
    | escaped _ hbody => exact ih hbody

lemma not_isBody_backslash : ¬ IsBody ['\\'] := by
  intro h
  cases h with
  | plain _ hslash => exact hslash rfl

end QueryLexer.StringLiteral

namespace QueryLexer

open StringLiteral (Piece Leaves)

/-- How the lexeme and the value of a literal go together, piece by piece. -/
structure Reads (lexeme value : String) (pieces : List Piece) : Prop where
  lexeme_eq : lexeme.toList = pieces.flatMap Piece.chars
  /-- There are no other pieces. -/
  unique : ∀ pieces' : List Piece, lexeme.toList = pieces'.flatMap Piece.chars → pieces' = pieces
  value_eq : value.toList = pieces.flatMap Piece.meaning
  /-- The decoder does not come to a backslash alone. -/
  not_leaves : ¬ Leaves lexeme.toList ['\\']
  length_add : value.length + pieces.countP Piece.isRecognised = lexeme.length
  eq_iff : value = lexeme ↔ ∀ p ∈ pieces, p.isRecognised = false

lemma reads_decode {body : List Char} (h : StringLiteral.IsBody body) :
    ∃ pieces, Reads (String.ofList body) (String.ofList (StringLiteral.decode body)) pieces := by
  obtain ⟨pieces, hpieces⟩ := StringLiteral.isBody_iff_exists_pieces.1 h
  have hdecode : StringLiteral.decode body = pieces.flatMap Piece.meaning := by
    rw [hpieces, StringLiteral.decode_flatMap_chars]
  refine ⟨pieces, ?_, ?_, ?_, ?_, ?_, ?_⟩
  · rw [String.toList_ofList, hpieces]
  · intro pieces' hpieces'
    rw [String.toList_ofList, hpieces] at hpieces'
    exact (StringLiteral.flatMap_chars_injective hpieces').symm
  · rw [String.toList_ofList, hdecode]
  · rw [String.toList_ofList]
    intro hleaves
    exact StringLiteral.not_isBody_backslash (h.of_leaves hleaves)
  · rw [String.length_ofList, String.length_ofList, hdecode, hpieces]
    exact StringLiteral.length_flatMap_meaning pieces
  · rw [String.ofList_inj, hdecode, hpieces]
    exact StringLiteral.flatMap_meaning_eq_iff

/-- **The value of a literal is its pieces read one by one**, for every literal that a source
gives. -/
theorem literal_pieces {src : Source} {o : Options} {t : Token} {value : String}
    (h : Emitted src o t) (hkind : t.kind = .stringLiteral value) :
    ∃ pieces, Reads t.lexeme value pieces := by
  obtain ⟨mark, -, rest, htext, hrun⟩ := src.exists_run o
  obtain ⟨before, s, after, hrest, -, rfl⟩ := hrun.exists_of_mem h.mem_read
  obtain ⟨body, hbody, rfl, rfl⟩ := (s.labels o).exists_string hkind
  exact reads_decode hbody

/-- A literal with an accented letter behind a backslash, and with a recognised escape. -/
theorem pieces_accented_letter :
    Emitted ⟨"text", "\"\\é\\n\""⟩ {} ⟨.stringLiteral "\\é\n", "\\é\\n", ⟨⟨1, 1, 0⟩, 7⟩⟩ ∧
      Reads "\\é\\n" "\\é\n" [.escape 'é' (by decide), .escape 'n' (by decide)] := by
  have hliteral : (Cursor.start "\"\\é\\n\"".toList).step {} "text" =
      .read ⟨.stringLiteral "\\é\n", "\\é\\n", ⟨⟨1, 1, 0⟩, 7⟩⟩ ⟨⟨1, 7, 7⟩, []⟩ := by
    rfl
  have hemitted : Emitted ⟨"text", "\"\\é\\n\""⟩ {}
      ⟨.stringLiteral "\\é\n", "\\é\\n", ⟨⟨1, 1, 0⟩, 7⟩⟩ := by
    refine Emitted.recorded ?_
    rw [Source.pass, Cursor.walk_read hliteral]
    exact List.mem_cons_self
  obtain ⟨pieces, hpieces⟩ := literal_pieces hemitted rfl
  obtain rfl := hpieces.unique [.escape 'é' (by decide), .escape 'n' (by decide)] rfl
  exact ⟨hemitted, hpieces⟩

end QueryLexer
