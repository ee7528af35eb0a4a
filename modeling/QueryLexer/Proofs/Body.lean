/-
# The grammar of literal bodies

What may stand between the quotes of a string literal, as a grammar: a body is a sequence of plain
characters and of backslashes that each take the next character along.  The grammar knows nothing
of how a closing quote is searched for; that `splitBody?` finds it is the main statement

* `splitBody?_eq_some_iff`: a text is split exactly into a body of the grammar, the closing quote
  and the rest, so there is at most one way to do it.
-/
import QueryLexer.StringLiteral
import Mathlib.Tactic.Common

namespace QueryLexer.StringLiteral

/-- The bodies of string literals: plain characters, and backslashes with the character that each
of them takes along.  No body holds a newline. -/
inductive IsBody : List Char → Prop
  | nil : IsBody []
  | plain {c : Char} {body : List Char} (hquote : c ≠ '"') (hslash : c ≠ '\\') (hline : c ≠ '\n')
      (hbody : IsBody body) : IsBody (c :: body)
  | escaped {c : Char} {body : List Char} (hline : c ≠ '\n') (hbody : IsBody body) :
      IsBody ('\\' :: c :: body)

/-! ## Searching for the quote -/

lemma splitBody?_plain {c : Char} (hquote : c ≠ '"') (hslash : c ≠ '\\') (hline : c ≠ '\n')
    (text : List Char) :
    splitBody? (c :: text) = (splitBody? text).map (Prod.map (c :: ·) id) := by
  rw [splitBody?]
  · exact hline
  · exact hquote
  · exact fun _ _ h => absurd h hslash

lemma splitBody?_escaped {c : Char} (hline : c ≠ '\n') (text : List Char) :
    splitBody? ('\\' :: c :: text) = (splitBody? text).map (Prod.map (['\\', c] ++ ·) id) := by
  simp [splitBody?, hline]

/-- The quote behind a body closes the literal, whatever follows. -/
lemma splitBody?_of_isBody {body : List Char} (h : IsBody body) (rest : List Char) :
    splitBody? (body ++ '"' :: rest) = some (body, rest) := by
  induction h with
  | nil => rfl
  | plain hquote hslash hline _ ih =>
    rw [List.cons_append, splitBody?_plain hquote hslash hline, ih]
    rfl
  | escaped hline _ ih =>
    rw [List.cons_append, List.cons_append, splitBody?_escaped hline, ih]
    rfl

lemma isBody_of_splitBody? {text body rest : List Char}
    (h : splitBody? text = some (body, rest)) : IsBody body := by
  fun_induction splitBody? text generalizing body rest with
  | case1 => simp at h
  | case2 => simp at h
  | case3 rest' =>
    obtain ⟨rfl, -⟩ : [] = body ∧ rest' = rest := by simpa using h
    exact IsBody.nil
  | case4 => simp at h
  | case5 c text hline ih =>
    obtain ⟨⟨b, r⟩, hb, he⟩ := Option.map_eq_some_iff.1 h
    obtain ⟨rfl, -⟩ := Prod.mk.inj he
    exact IsBody.escaped hline (ih hb)
  | case6 c text hline hquote hslash ih =>
    obtain ⟨⟨b, r⟩, hb, he⟩ := Option.map_eq_some_iff.1 h
    obtain ⟨rfl, -⟩ := Prod.mk.inj he
    refine IsBody.plain hquote ?_ hline (ih hb)
    -- a backslash at the very end would leave no quote to split at
    rintro rfl
    cases text with
    | nil => simp [splitBody?] at hb
    | cons d text => exact hslash d text rfl rfl

/-- **A literal is closed exactly behind a body of the grammar.** -/
theorem splitBody?_eq_some_iff {text body rest : List Char} :
    splitBody? text = some (body, rest) ↔ IsBody body ∧ text = body ++ '"' :: rest := by
  constructor
  · intro h
    exact ⟨isBody_of_splitBody? h, splitBody?_eq_some h⟩
  · rintro ⟨hbody, rfl⟩
    exact splitBody?_of_isBody hbody rest

theorem splitBody?_eq_none_iff {text : List Char} :
    splitBody? text = none ↔ ∀ body rest, IsBody body → text ≠ body ++ '"' :: rest := by
  rw [Option.eq_none_iff_forall_ne_some]
  constructor
  · intro h body rest hbody htext
    exact h (body, rest) (splitBody?_eq_some_iff.2 ⟨hbody, htext⟩)
  · rintro h ⟨body, rest⟩ hsplit
    obtain ⟨hbody, htext⟩ := splitBody?_eq_some_iff.1 hsplit
    exact h body rest hbody htext

end QueryLexer.StringLiteral
