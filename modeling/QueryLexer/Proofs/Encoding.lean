/-
# Writing a text as a literal

Every text can be written between quotes, although no newline and no bare quote may stand there.
The characters that a body cannot hold are written as escapes, and those that an escape exists for,
but that a body can hold as well, in either way.  The main statements are

* `exists_encodes`: every text has an encoding;
* `Encodes.isBody` and `Encodes.decode_eq`: an encoding is the body of a literal, and the text is
  what it stands for;
* `lex_encoded`: a source that is the literal is read as that text and nothing else.
-/
import QueryLexer.Proofs.Lines
import QueryLexer.Proofs.Pieces

namespace QueryLexer

namespace StringLiteral

/-- How a text is written inside of a literal.  A backslash, a quote and a newline are written as
their escapes; a tab and a carriage return as their escapes or as they are; and any other character
as it is. -/
inductive Encodes : List Char → List Char → Prop
  | nil : Encodes [] []
  | escaped {c d : Char} {text body : List Char} (h : (c, d) ∈ escapes) (hbody : Encodes text body) :
      Encodes (d :: text) ('\\' :: c :: body)
  | kept {c : Char} {text body : List Char} (hquote : c ≠ '"') (hslash : c ≠ '\\')
      (hline : c ≠ '\n') (hbody : Encodes text body) : Encodes (c :: text) (c :: body)

lemma ne_newline_of_mem_escapes {c d : Char} (h : (c, d) ∈ escapes) : c ≠ '\n' := by
  rintro rfl
  simp [escapes] at h

/-- **Every text has an encoding.** -/
theorem exists_encodes (text : List Char) : ∃ body, Encodes text body := by
  induction text with
  | nil => exact ⟨[], Encodes.nil⟩
  | cons c text ih =>
    obtain ⟨body, hbody⟩ := ih
    -- only these three cannot stand in a body as they are
    by_cases hc : c = '"' ∨ c = '\\' ∨ c = '\n'
    · have hescape : ∃ d, (d, c) ∈ escapes := by
        rcases hc with rfl | rfl | rfl
        · exact ⟨'"', by decide⟩
        · exact ⟨'\\', by decide⟩
        · exact ⟨'n', by decide⟩
      obtain ⟨d, hd⟩ := hescape
      exact ⟨'\\' :: d :: body, Encodes.escaped hd hbody⟩
    · simp only [not_or] at hc
      exact ⟨c :: body, Encodes.kept hc.1 hc.2.1 hc.2.2 hbody⟩

namespace Encodes

variable {text body : List Char}

lemma isBody (h : Encodes text body) : IsBody body := by
  induction h with
  | nil => exact IsBody.nil
  | escaped hmem _ ih => exact IsBody.escaped (ne_newline_of_mem_escapes hmem) ih
  | kept hquote hslash hline _ ih => exact IsBody.plain hquote hslash hline ih

lemma decode_eq (h : Encodes text body) : decode body = text := by
  induction h with
  | nil => rfl
  | escaped hmem _ ih => rw [decode_escape (meaning?_eq_some_iff.2 hmem), ih]
  | kept _ hslash _ _ ih => rw [decode_cons_of_ne hslash, ih]

end Encodes

end StringLiteral

open StringLiteral (Encodes)

/-- On one line, the column counts characters and the offset bytes. -/
lemma Position.after_of_newline_not_mem {text : List Char} (h : '\n' ∉ text) (p : Position) :
    p.after text = ⟨p.line, p.column + text.length, p.offset + byteLength text⟩ := by
  induction text generalizing p with
  | nil => rfl
  | cons c text ih =>
    rw [List.mem_cons, not_or] at h
    rw [after_cons, ih h.2, next_of_ne p (Ne.symm h.1)]
    simp only [List.length_cons, byteLength_cons]
    congr 1 <;> omega

lemma Spelling.lex_eq {src : Source} (s : Spelling) (h : src.text.toList = s.text) (o : Options) :
    src.lex o = .ok [s.token o .origin, Token.atEnd (Position.origin.after s.text)] := by
  have hhead : s.text.head? ≠ some '\uFEFF' := by
    obtain ⟨c, tail, htext, hc⟩ := s.exists_begins
    rw [htext]
    exact fun h => Spelling.ne_of_begins hc (by decide) (Option.some.inj h)
  have hend : Run o src.file ⟨Position.origin.after s.text, []⟩
      ⟨[], .ok (Token.atEnd (Position.origin.after s.text))⟩ :=
    Run.finished (.closed .nil)
  have hrun : Run o src.file ⟨.origin, [] ++ (s.text ++ [])⟩ _ :=
    Run.read .nil (s.stops_nil) hend
  rw [List.nil_append, List.append_nil] at hrun
  rw [Source.lex, Source.pass_eq_of_run List.mem_cons_self (fun _ => hhead) h hrun]
  rfl

/-- **Every text can be written as a literal and is read back exactly**, in each of the ways in
which it can be written. -/
theorem lex_encoded (file : String) (o : Options) (value : String) :
    (∃ body : String, Encodes value.toList body.toList) ∧
      ∀ body : String, Encodes value.toList body.toList →
        (Source.mk file ("\"" ++ body ++ "\"")).lex o =
          .ok [⟨.stringLiteral value, body, ⟨⟨1, 1, 0⟩, body.utf8ByteSize + 2⟩⟩,
            Token.atEnd ⟨1, body.length + 3, body.utf8ByteSize + 2⟩] := by
  constructor
  · obtain ⟨body, hbody⟩ := StringLiteral.exists_encodes value.toList
    exact ⟨String.ofList body, by rwa [String.toList_ofList]⟩
  · intro body hbody
    have htext : (Source.mk file ("\"" ++ body ++ "\"")).text.toList =
        (Spelling.string body.toList hbody.isBody).text := by
      simp [Spelling.text]
    have hsize : byteLength (Spelling.string body.toList hbody.isBody).text =
        body.utf8ByteSize + 2 := by
      rw [← byteLength_toList]
      exact Spelling.byteLength_quoted body.toList
    have hlength : (Spelling.string body.toList hbody.isBody).text.length = body.length + 2 := by
      simp [Spelling.text, ← String.length_toList]
    rw [Spelling.lex_eq _ htext, Position.after_of_newline_not_mem (Spelling.newline_not_mem _),
      hsize, hlength]
    simp only [Spelling.token, Spelling.kind, Spelling.lexeme, Span.of, hsize, hbody.decode_eq,
      String.ofList_toList, Position.origin, Nat.zero_add, Nat.add_comm 1]

/-- A backslash in front of a quote, a newline, a tab that is written as it is, and an accented
letter behind a backslash. -/
theorem encoded_backslashes :
    Encodes "\\\"\n\t\\é".toList "\\\\\\\"\\n\t\\\\é".toList ∧
      (Source.mk "text" ("\"" ++ "\\\\\\\"\\n\t\\\\é" ++ "\"")).lex {} =
        .ok [⟨.stringLiteral "\\\"\n\t\\é", "\\\\\\\"\\n\t\\\\é", ⟨⟨1, 1, 0⟩, 13⟩⟩,
          Token.atEnd ⟨1, 13, 13⟩] := by
  have hencodes : Encodes "\\\"\n\t\\é".toList "\\\\\\\"\\n\t\\\\é".toList := by
    refine Encodes.escaped (by decide) (Encodes.escaped (by decide) (Encodes.escaped (by decide) ?_))
    refine Encodes.kept (by decide) (by decide) (by decide) (Encodes.escaped (by decide) ?_)
    exact Encodes.kept (by decide) (by decide) (by decide) Encodes.nil
  exact ⟨hencodes, (lex_encoded "text" {} _).2 _ hencodes⟩

end QueryLexer
