/-
# Options

Two questions about words are left to the user of the library: whether `then` is reserved, and
whether keywords are recognised in any letter case.  The main statement is

* `Options.keyword?_eq_some_iff`: a word is the keyword `k` under the options exactly when it is
  spelled like `k`, up to letter case if the options say so, and `k` is reserved.
-/
import QueryLexer.Keyword

namespace QueryLexer

/-- The choices that the set of keywords leaves open. -/
structure Options where
  /-- Whether `then` is a keyword. -/
  reserveThen : Bool := false
  /-- Whether keywords are recognised in any mixture of upper and lower case ASCII letters. -/
  ignoreCase : Bool := false
  deriving DecidableEq

namespace Options

/-- Whether a keyword is reserved.  All are, but for `then`, which is so on request only. -/
def reserves (o : Options) (k : Keyword) : Bool :=
  k != .«then» || o.reserveThen

/-- The spelling under which a word is looked up among the keywords. -/
def fold (o : Options) (word : String) : String :=
  if o.ignoreCase then word.toLower else word

/-- The keyword that a word is under the given options. -/
def keyword? (o : Options) (word : String) : Option Keyword :=
  (Keyword.ofSpelling? (o.fold word)).filter o.reserves

/-- **A word is a keyword exactly when it is spelled like it and the keyword is reserved.** -/
theorem keyword?_eq_some_iff {o : Options} {word : String} {k : Keyword} :
    o.keyword? word = some k ↔ k.spelling = o.fold word ∧ o.reserves k = true := by
  simp [keyword?, Option.filter_eq_some_iff, Keyword.ofSpelling?_eq_some_iff]

end Options

end QueryLexer
