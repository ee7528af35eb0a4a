/-
# The grammar of gaps

What may stand between two tokens, as a grammar: blanks, and comments that are closed by a newline.
Only the gap behind the last token may end inside a comment.  The main statements are

* `split_eq_iff`: the reader of trivia splits a text exactly into such a gap and a rest that begins
  with neither a blank nor `#`, or into a last gap and nothing;
* `split_append_of_isGap`: a gap in front of a text is skipped as a whole.
-/
import QueryLexer.Trivia
import Mathlib.Tactic.Common

namespace QueryLexer.Trivia

/-- The blanks: space, tab, carriage return, newline and form feed. -/
def blankChars : List Char := [' ', '\t', '\r', '\n', '\x0c']

/-- The gaps before a token: blanks, and comments with the newlines that close them. -/
inductive IsGap : List Char → Prop
  | nil : IsGap []
  | blank {c : Char} {gap : List Char} (hc : c ∈ blankChars) (hgap : IsGap gap) :
      IsGap (c :: gap)
  | comment {text gap : List Char} (htext : '\n' ∉ text) (hgap : IsGap gap) :
      IsGap ('#' :: (text ++ '\n' :: gap))

/-- The gaps before the end of a text, where a comment may be left unclosed. -/
inductive IsLastGap : List Char → Prop
  | closed {gap : List Char} (hgap : IsGap gap) : IsLastGap gap
  | unclosed {gap text : List Char} (hgap : IsGap gap) (htext : '\n' ∉ text) :
      IsLastGap (gap ++ '#' :: text)

/-- A text that begins with neither a blank nor a comment, and is not over. -/
def BeginsToken (text : List Char) : Prop :=
  ∃ c rest, text = c :: rest ∧ c ≠ '#' ∧ c ∉ blankChars

lemma isBlank_iff {c : Char} : isBlank c = true ↔ c ∈ blankChars := by
  simp [isBlank, blankChars, or_assoc]

lemma IsGap.append {gap gap' : List Char} (h : IsGap gap) (h' : IsGap gap') :
    IsGap (gap ++ gap') := by
  induction h with
  | nil => exact h'
  | blank hc _ ih => exact IsGap.blank hc ih
  | comment htext _ ih => simpa using IsGap.comment htext ih

lemma IsGap.append_last {gap gap' : List Char} (h : IsGap gap) (h' : IsLastGap gap') :
    IsLastGap (gap ++ gap') := by
  cases h' with
  | closed hgap => exact IsLastGap.closed (h.append hgap)
  | unclosed hgap htext => simpa using IsLastGap.unclosed (h.append hgap) htext

lemma IsGap.head_mem {gap : List Char} (h : IsGap gap) :
    ∀ c ∈ gap.head?, c ∈ '#' :: blankChars := by
  intro c hc
  cases h with
  | nil => cases hc
  | blank hblank _ =>
    obtain rfl := Option.some.inj hc
    exact List.mem_cons_of_mem '#' hblank
  | comment _ _ =>
    obtain rfl := Option.some.inj hc
    exact List.mem_cons_self

lemma IsLastGap.head_mem {gap : List Char} (h : IsLastGap gap) :
    ∀ c ∈ gap.head?, c ∈ '#' :: blankChars := by
  intro c hc
  cases h with
  | closed hgap => exact hgap.head_mem c hc
  | @unclosed gap text hgap _ =>
    cases gap with
    | nil =>
      obtain rfl := Option.some.inj hc
      exact List.mem_cons_self
    | cons d gap => exact hgap.head_mem c hc

/-! ## Skipping a gap -/

lemma split_blank {c : Char} (hc : c ∈ blankChars) (text : List Char) :
    split .blanks (c :: text) = Prod.map (c :: ·) id (split .blanks text) := by
  refine split_cons_of_some ?_ text
  have hhash : c ≠ '#' := by
    rintro rfl
    revert hc
    decide
  simp [Region.next?, hhash, isBlank_iff.2 hc]

lemma split_hash (text : List Char) :
    split .blanks ('#' :: text) = Prod.map ('#' :: ·) id (split .comment text) :=
  split_cons_of_some (by rfl) text

lemma split_comment_append {line : List Char} (h : '\n' ∉ line) (text : List Char) :
    split .comment (line ++ text) = Prod.map (line ++ ·) id (split .comment text) := by
  induction line with
  | nil => rfl
  | cons c line ih =>
    obtain ⟨hc, hline⟩ : c ≠ '\n' ∧ '\n' ∉ line := by
      simpa [eq_comm] using h
    have hnext : Region.comment.next? c = some .comment := by simp [Region.next?, hc]
    rw [List.cons_append, split_cons_of_some hnext, ih hline]
    rfl

lemma split_comment_newline (text : List Char) :
    split .comment ('\n' :: text) = Prod.map ('\n' :: ·) id (split .blanks text) :=
  split_cons_of_some (by rfl) text

/-- **A gap in front of a text is skipped as a whole.** -/
theorem split_append_of_isGap {gap : List Char} (h : IsGap gap) (text : List Char) :
    split .blanks (gap ++ text) = Prod.map (gap ++ ·) id (split .blanks text) := by
  induction h with
  | nil => rfl
  | blank hc _ ih =>
    rw [List.cons_append, split_blank hc, ih]
    rfl
  | comment htext _ ih =>
    rw [List.cons_append, List.append_assoc, split_hash, split_comment_append htext,
      List.cons_append, split_comment_newline, ih]
    simp [Prod.map]

lemma split_of_beginsToken {text : List Char} (h : BeginsToken text) :
    split .blanks text = ([], text) := by
  obtain ⟨c, rest, rfl, hhash, hblank⟩ := h
  refine split_cons_of_none (next?_blanks_eq_none_iff.2 ⟨hhash, ?_⟩) rest
  rw [← Bool.not_eq_true, isBlank_iff]
  exact hblank

lemma split_of_isLastGap {gap : List Char} (h : IsLastGap gap) : split .blanks gap = (gap, []) := by
  cases h with
  | closed hgap => simpa [Prod.map] using split_append_of_isGap hgap []
  | @unclosed gap text hgap htext =>
    have hline := split_comment_append htext []
    rw [List.append_nil] at hline
    rw [split_append_of_isGap hgap, split_hash, hline]
    simp [Prod.map]

/-! ## What is skipped is a gap -/

/-- What the reader skips from a region on, before it comes to a token. -/
def Region.IsGap : Region → List Char → Prop
  | blanks, gap => Trivia.IsGap gap
  | comment, gap => ∃ line gap', '\n' ∉ line ∧ Trivia.IsGap gap' ∧ gap = line ++ '\n' :: gap'

/-- What the reader skips from a region on, before it comes to the end of the text. -/
def Region.IsLastGap : Region → List Char → Prop
  | blanks, gap => Trivia.IsLastGap gap
  | comment, gap => '\n' ∉ gap ∨
      ∃ line gap', '\n' ∉ line ∧ Trivia.IsLastGap gap' ∧ gap = line ++ '\n' :: gap'

lemma Region.IsGap.cons {region region' : Region} {c : Char} (h : region.next? c = some region')
    {gap : List Char} (hgap : region'.IsGap gap) : region.IsGap (c :: gap) := by
  cases region with
  | blanks =>
    by_cases hhash : c = '#'
    · subst hhash
      obtain rfl : comment = region' := by simpa [next?] using h
      obtain ⟨line, gap', hline, hgap', rfl⟩ := hgap
      exact Trivia.IsGap.comment hline hgap'
    · obtain ⟨hblank, rfl⟩ : isBlank c = true ∧ blanks = region' := by
        simpa [next?, hhash] using h
      exact Trivia.IsGap.blank (isBlank_iff.1 hblank) hgap
  | comment =>
    by_cases hline : c = '\n'
    · subst hline
      obtain rfl : blanks = region' := by simpa [next?] using h
      exact ⟨[], gap, by simp, hgap, rfl⟩
    · obtain rfl : comment = region' := by simpa [next?, hline] using h
      obtain ⟨line, gap', hmem, hgap', rfl⟩ := hgap
      exact ⟨c :: line, gap', by simp [hmem, Ne.symm hline], hgap', rfl⟩

lemma Region.IsLastGap.cons {region region' : Region} {c : Char}
    (h : region.next? c = some region') {gap : List Char} (hgap : region'.IsLastGap gap) :
    region.IsLastGap (c :: gap) := by
  cases region with
  | blanks =>
    by_cases hhash : c = '#'
    · subst hhash
      obtain rfl : comment = region' := by simpa [next?] using h
      rcases hgap with hline | ⟨line, gap', hline, hgap', rfl⟩
      · exact Trivia.IsLastGap.unclosed Trivia.IsGap.nil hline
      · show Trivia.IsLastGap ('#' :: (line ++ '\n' :: gap'))
        simpa using (Trivia.IsGap.comment hline Trivia.IsGap.nil).append_last hgap'
    · obtain ⟨hblank, rfl⟩ : isBlank c = true ∧ blanks = region' := by
        simpa [next?, hhash] using h
      have hgap' := Trivia.IsGap.blank (isBlank_iff.1 hblank) Trivia.IsGap.nil
      exact hgap'.append_last hgap
  | comment =>
    by_cases hline : c = '\n'
    · subst hline
      obtain rfl : blanks = region' := by simpa [next?] using h
      exact Or.inr ⟨[], gap, by simp, hgap, rfl⟩
    · obtain rfl : comment = region' := by simpa [next?, hline] using h
      rcases hgap with hmem | ⟨line, gap', hmem, hgap', rfl⟩
      · exact Or.inl (by simp [hmem, Ne.symm hline])
      · exact Or.inr ⟨c :: line, gap', by simp [hmem, Ne.symm hline], hgap', rfl⟩

/-- Whatever stands before a token was skipped as a gap, and whatever stands before the end as a
last gap. -/
lemma isGap_of_split (region : Region) (text : List Char) :
    ((split region text).2 ≠ [] → region.IsGap (split region text).1) ∧
      ((split region text).2 = [] → region.IsLastGap (split region text).1) := by
  induction text generalizing region with
  | nil =>
    refine ⟨fun h => absurd rfl h, fun _ => ?_⟩
    cases region with
    | blanks => exact IsLastGap.closed IsGap.nil
    | comment => exact Or.inl (by simp)
  | cons c text ih =>
    cases hc : region.next? c with
    | some region' =>
      rw [split_cons_of_some hc]
      exact ⟨fun h => ((ih region').1 h).cons hc, fun h => ((ih region').2 h).cons hc⟩
    | none =>
      rw [split_cons_of_none hc]
      refine ⟨fun _ => ?_, fun h => absurd h (List.cons_ne_nil _ _)⟩
      cases region with
      | blanks => exact IsGap.nil
      | comment => exact absurd hc (next?_comment_ne_none c)

/-- **Trivia is split off exactly by the grammar.** -/
theorem split_eq_iff {text gap rest : List Char} :
    split .blanks text = (gap, rest) ↔
      text = gap ++ rest ∧ (IsGap gap ∧ BeginsToken rest ∨ IsLastGap gap ∧ rest = []) := by
  constructor
  · intro h
    have happend := split_append .blanks text
    have hgap := isGap_of_split .blanks text
    rw [h] at happend hgap
    refine ⟨happend.symm, ?_⟩
    cases hrest : rest with
    | nil => exact Or.inr ⟨hgap.2 hrest, rfl⟩
    | cons c tail =>
      obtain ⟨hhash, hblank⟩ := rest_starts_token (h ▸ hrest : (split .blanks text).2 = c :: tail)
      refine Or.inl ⟨hgap.1 (by simp [hrest]), c, tail, rfl, hhash, ?_⟩
      rw [← isBlank_iff, hblank]
      exact Bool.false_ne_true
  · rintro ⟨rfl, ⟨hgap, hrest⟩ | ⟨hgap, rfl⟩⟩
    · rw [split_append_of_isGap hgap, split_of_beginsToken hrest]
      simp [Prod.map]
    · rw [List.append_nil]
      exact split_of_isLastGap hgap

end QueryLexer.Trivia
