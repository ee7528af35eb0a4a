/-
# Tables in both directions

Keywords and punctuation marks have two tables each: one says how they are written, and the other
one which of them something written is.  The tables agree (`Function.IsPartialInv`), so no two
keywords or marks are written alike, and to look something up is to search the first table for it.
The main statements are

* `Keyword.ofSpelling?_eq_find?` and `Punctuation.ofChar?_eq_find?`: the second table is a search of
  the first one.
-/
import QueryLexer.Keyword
import QueryLexer.Punctuation
import Mathlib.Logic.Function.Basic

namespace QueryLexer

/-- What a table finds is the first member of a complete list that is written like that. -/
lemma eq_find?_of_isPartialInv {α β : Type} [BEq β] [LawfulBEq β] {written : α → β}
    {look : β → Option α} (h : Function.IsPartialInv written look) {all : List α}
    (hall : ∀ a, a ∈ all) (b : β) : look b = all.find? fun a => written a == b := by
  cases hfind : all.find? fun a => written a == b with
  | some a =>
    have hwritten : written a = b := by simpa using List.find?_some hfind
    exact (h a b).2 hwritten
  | none =>
    rw [Option.eq_none_iff_forall_ne_some]
    intro a ha
    exact List.find?_eq_none.1 hfind a (hall a) (beq_iff_eq.2 ((h a b).1 ha))

namespace Keyword

lemma mem_all (k : Keyword) : k ∈ all := by
  cases k <;> decide

lemma isPartialInv_ofSpelling? : Function.IsPartialInv spelling ofSpelling? :=
  fun _ _ => ofSpelling?_eq_some_iff

lemma spelling_injective : Function.Injective spelling :=
  isPartialInv_ofSpelling?.injective

/-- **To look a word up is to search the spellings.** -/
theorem ofSpelling?_eq_find? (word : String) :
    ofSpelling? word = all.find? fun k => k.spelling == word :=
  eq_find?_of_isPartialInv isPartialInv_ofSpelling? mem_all word

end Keyword

namespace Punctuation

lemma mem_all (p : Punctuation) : p ∈ all := by
  cases p <;> decide

lemma isPartialInv_ofChar? : Function.IsPartialInv char ofChar? :=
  fun _ _ => ofChar?_eq_some_iff

lemma char_injective : Function.Injective char :=
  isPartialInv_ofChar?.injective

/-- **To look a character up is to search the characters of the marks.** -/
theorem ofChar?_eq_find? (c : Char) : ofChar? c = all.find? fun p => p.char == c :=
  eq_find?_of_isPartialInv isPartialInv_ofChar? mem_all c

end Punctuation

end QueryLexer
