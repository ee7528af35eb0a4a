/-
# Trivia

Between tokens a text may hold blanks and comments.  A comment runs from `#` up to the end of its
line; the newline that ends it is a blank again.  So a gap between tokens is read by a machine
with two states (`Trivia.Region`), and `Trivia.split` cuts a text where the machine has no next
state.  The main statements are

* `Trivia.split_append`: the gap and the rest make up the text again;
* `Trivia.rest_starts_token`: after a gap the text is over or goes on with a character that is
  neither blank nor the beginning of a comment.
-/

namespace QueryLexer.Trivia

/-- The characters that only separate tokens: space, tab, carriage return, newline and form
feed. -/
def isBlank (c : Char) : Bool :=
  c == ' ' || c == '\t' || c == '\r' || c == '\n' || c == '\x0c'

/-- Where the reader of a gap stands: among blanks, or inside a comment. -/
inductive Region where
  | blanks
  | comment
  deriving DecidableEq

/-- Where the reader of a gap stands after one more character; none when the character does not
belong to the gap. -/
def Region.next? : Region → Char → Option Region
  | blanks, c => if c == '#' then some comment else if isBlank c then some blanks else none
  | comment, c => if c == '\n' then some blanks else some comment

/-- Splits a text into the gap that it begins with and the rest. -/
def split (region : Region) : List Char → List Char × List Char
  | [] => ([], [])
  | c :: text =>
    match region.next? c with
    | some region' => Prod.map (c :: ·) id (split region' text)
    | none => ([], c :: text)

@[simp] theorem split_nil (region : Region) : split region [] = ([], []) := rfl

theorem split_cons_of_some {region region' : Region} {c : Char} (h : region.next? c = some region')
    (text : List Char) : split region (c :: text) = Prod.map (c :: ·) id (split region' text) := by
  simp [split, h]

theorem split_cons_of_none {region : Region} {c : Char} (h : region.next? c = none)
    (text : List Char) : split region (c :: text) = ([], c :: text) := by
  simp [split, h]

/-- Inside a comment every character belongs to the gap. -/
theorem next?_comment_ne_none (c : Char) : Region.comment.next? c ≠ none := by
  by_cases h : c = '\n' <;> simp [Region.next?, h]

theorem next?_blanks_eq_none_iff {c : Char} :
    Region.blanks.next? c = none ↔ c ≠ '#' ∧ isBlank c = false := by
  by_cases h : c = '#' <;> simp [Region.next?, h]

/-- **The gap and the rest make up the text.** -/
theorem split_append (region : Region) (text : List Char) :
    (split region text).1 ++ (split region text).2 = text := by
  induction text generalizing region with
  | nil => rfl
  | cons c cs ih =>
    cases h : region.next? c with
    | none => simp [split_cons_of_none h]
    | some region' => simp [split_cons_of_some h, ih]

theorem length_rest_le (region : Region) (text : List Char) :
    (split region text).2.length ≤ text.length := by
  have h := congrArg List.length (split_append region text)
  rw [List.length_append] at h
  omega

/-- **After a gap the text is over or goes on with a character that is neither blank nor `#`.** -/
theorem rest_starts_token {region : Region} {text : List Char} {c : Char} {rest : List Char}
    (h : (split region text).2 = c :: rest) : c ≠ '#' ∧ isBlank c = false := by
  induction text generalizing region with
  | nil => simp at h
  | cons d ds ih =>
    cases hd : region.next? d with
    | some region' =>
      rw [split_cons_of_some hd] at h
      exact ih h
    | none =>
      rw [split_cons_of_none hd] at h
      obtain ⟨rfl, -⟩ := List.cons.inj h
      cases region with
      | blanks => exact next?_blanks_eq_none_iff.1 hd
      | comment => exact absurd hd (next?_comment_ne_none _)

end QueryLexer.Trivia
