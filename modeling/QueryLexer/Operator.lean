/-
# Operators

The symbolic operators.  Some are written like others with one more character (`<=` begins like
`<`), so an operator is read with a look at two characters: whether the first one begins an operator
at all, and which one it makes, together with the second one or alone.  The main statements are

* `Operator.isStart_iff`, `Operator.double?_eq_some_iff` and `Operator.chars_single`: what the two
  characters tell agrees with how the operators are written.
-/

namespace QueryLexer

/-- The symbolic operators. -/
inductive Operator where
  | eq | lt | gt | ltEq | gtEq | notEq | plus | minus | star | slash | percent | bang | arrow
  deriving DecidableEq

namespace Operator

/-- The characters of an operator. -/
def chars : Operator → List Char
  | .eq => ['=']
  | .lt => ['<']
  | .gt => ['>']
  | .ltEq => ['<', '=']
  | .gtEq => ['>', '=']
  | .notEq => ['!', '=']
  | .plus => ['+']
  | .minus => ['-']
  | .star => ['*']
  | .slash => ['/']
  | .percent => ['%']
  | .bang => ['!']
  | .arrow => ['-', '>']

/-- How an operator is written. -/
def spelling (op : Operator) : String :=
  String.ofList op.chars

/-- Every operator, those of two characters first. -/
def all : List Operator :=
  [.ltEq, .gtEq, .notEq, .arrow, .eq, .lt, .gt, .plus, .minus, .star, .slash, .percent, .bang]

theorem mem_all (op : Operator) : op ∈ all := by
  cases op <;> decide

theorem chars_ne_nil (op : Operator) : op.chars ≠ [] := by
  cases op <;> decide

theorem chars_injective {op op' : Operator} (h : op.chars = op'.chars) : op = op' := by
  revert h
  cases op <;> cases op' <;> decide

/-! ## Two characters -/

/-- Whether a character begins an operator. -/
def isStart (c : Char) : Bool :=
  match c with
  | '=' | '<' | '>' | '!' | '+' | '-' | '*' | '/' | '%' => true
  | _ => false

/-- The operator that a character makes together with the one behind it, if they make one. -/
def double? (first : Char) (second : Option Char) : Option Operator :=
  match first, second with
  | '<', some '=' => some .ltEq
  | '>', some '=' => some .gtEq
  | '!', some '=' => some .notEq
  | '-', some '>' => some .arrow
  | _, _ => none

/-- The operator that a character makes alone, when it begins one. -/
def single (first : Char) : Operator :=
  match first with
  | '=' => .eq
  | '<' => .lt
  | '>' => .gt
  | '!' => .bang
  | '+' => .plus
  | '-' => .minus
  | '*' => .star
  | '/' => .slash
  | _ => .percent

/-- **A character that begins an operator is one.** -/
theorem chars_single {c : Char} (h : isStart c = true) : (single c).chars = [c] := by
  unfold isStart at h
  split at h <;> first | rfl | cases h

theorem isStart_iff {c : Char} : isStart c = true ↔ ∃ op : Operator, op.chars.head? = some c := by
  constructor
  · intro h
    exact ⟨single c, by rw [chars_single h, List.head?_cons]⟩
  · rintro ⟨op, hop⟩
    cases op <;> cases hop <;> rfl

/-- **Two characters make the operator that is written with them.** -/
theorem double?_eq_some_iff {c : Char} {second : Option Char} {op : Operator} :
    double? c second = some op ↔ ∃ d, second = some d ∧ op.chars = [c, d] := by
  constructor
  · intro h
    unfold double? at h
    split at h <;> cases h <;> exact ⟨_, rfl, rfl⟩
  · rintro ⟨d, rfl, hop⟩
    cases op <;> cases hop <;> rfl

/-! ## The front of a text -/

/-- The longest operator that the text begins with. -/
def atFront? (text : List Char) : Option Operator :=
  all.find? fun op => op.chars.isPrefixOf text

theorem chars_prefix_of_atFront? {text : List Char} {op : Operator} (h : atFront? text = some op) :
    op.chars <+: text := by
  simpa using List.find?_some h

theorem atFront?_eq_none_iff {text : List Char} :
    atFront? text = none ↔ ∀ op : Operator, ¬ op.chars <+: text := by
  simp [atFront?, mem_all]

end Operator

end QueryLexer
