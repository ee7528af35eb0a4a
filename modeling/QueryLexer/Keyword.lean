/-
# Keywords

The reserved words of the query language, each with its spelling and the role it plays.  Two tables
hold the spellings: one says how each keyword is written, and the other one which keyword a word is.
The main statement is

* `Keyword.ofSpelling?_eq_some_iff`: the tables agree, so a word is looked up as a keyword exactly
  when it is spelled like that keyword.
-/

namespace QueryLexer

/-- What a keyword is used for. -/
inductive KeywordCategory where
  | statement
  | datatype
  | function
  | wordOperator
  deriving DecidableEq

/-- The reserved words.  The word operators `and` and `or` are keywords, not operators. -/
inductive Keyword where
  | «if» | elsif | «else» | «while» | «for» | «do» | stop | pass | «return» | quit | generate
  | append | delete | change | help | regexp | «then»
  | int | float | string | boolean | date | time | datetime | timestamp | blob | empty | array
  | object | table | database | func | proc | «class» | enum | union
  | count | total | avrg | min | max | group | sort | asc | desc | limit
  | and | or
  deriving DecidableEq

namespace Keyword

/-- Every keyword: statements, datatypes, functions and word operators. -/
def all : List Keyword := [
  .«if», .elsif, .«else», .«while», .«for», .«do», .stop, .pass, .«return», .quit, .generate,
  .append, .delete, .change, .help, .regexp, .«then»,
  .int, .float, .string, .boolean, .date, .time, .datetime, .timestamp, .blob, .empty, .array,
  .object, .table, .database, .func, .proc, .«class», .enum, .union,
  .count, .total, .avrg, .min, .max, .group, .sort, .asc, .desc, .limit,
  .and, .or]

/-- How a keyword is written. -/
def spelling : Keyword → String
  | .«if» => "if"
  | .elsif => "elsif"
  | .«else» => "else"
  | .«while» => "while"
  | .«for» => "for"
  | .«do» => "do"
  | .stop => "stop"
  | .pass => "pass"
  | .«return» => "return"
  | .quit => "quit"
  | .generate => "generate"
  | .append => "append"
  | .delete => "delete"
  | .change => "change"
  | .help => "help"
  | .regexp => "regexp"
  | .«then» => "then"
  | .int => "int"
  | .float => "float"
  | .string => "string"
  | .boolean => "boolean"
  | .date => "date"
  | .time => "time"
  | .datetime => "datetime"
  | .timestamp => "timestamp"
  | .blob => "blob"
  | .empty => "empty"
  | .array => "array"
  | .object => "object"
  | .table => "table"
  | .database => "database"
  | .func => "func"
  | .proc => "proc"
  | .«class» => "class"
  | .enum => "enum"
  | .union => "union"
  | .count => "count"
  | .total => "total"
  | .avrg => "avrg"
  | .min => "min"
  | .max => "max"
  | .group => "group"
  | .sort => "sort"
  | .asc => "asc"
  | .desc => "desc"
  | .limit => "limit"
  | .and => "and"
  | .or => "or"

/-- What a keyword is used for. -/
def category : Keyword → KeywordCategory
  | .«if» | .elsif | .«else» | .«while» | .«for» | .«do» | .stop | .pass | .«return»
  | .quit | .generate | .append | .delete | .change | .help | .regexp | .«then» => .statement
  | .int | .float | .string | .boolean | .date | .time | .datetime | .timestamp | .blob
  | .empty | .array | .object | .table | .database | .func | .proc | .«class» | .enum
  | .union => .datatype
  | .count | .total | .avrg | .min | .max | .group | .sort | .asc | .desc | .limit => .function
  | .and | .or => .wordOperator

/-- The name of a keyword: its spelling with a capital first letter. -/
def name (k : Keyword) : String :=
  k.spelling.capitalize

/-- The keyword that a word is, if it is one.  Letter case matters. -/
def ofSpelling? (word : String) : Option Keyword :=
  match word with
  | "if" => some .«if»
  | "elsif" => some .elsif
  | "else" => some .«else»
  | "while" => some .«while»
  | "for" => some .«for»
  | "do" => some .«do»
  | "stop" => some .stop
  | "pass" => some .pass
  | "return" => some .«return»
  | "quit" => some .quit
  | "generate" => some .generate
  | "append" => some .append
  | "delete" => some .delete
  | "change" => some .change
  | "help" => some .help
  | "regexp" => some .regexp
  | "then" => some .«then»
  | "int" => some .int
  | "float" => some .float
  | "string" => some .string
  | "boolean" => some .boolean
  | "date" => some .date
  | "time" => some .time
  | "datetime" => some .datetime
  | "timestamp" => some .timestamp
  | "blob" => some .blob
  | "empty" => some .empty
  | "array" => some .array
  | "object" => some .object
  | "table" => some .table
  | "database" => some .database
  | "func" => some .func
  | "proc" => some .proc
  | "class" => some .«class»
  | "enum" => some .enum
  | "union" => some .union
  | "count" => some .count
  | "total" => some .total
  | "avrg" => some .avrg
  | "min" => some .min
  | "max" => some .max
  | "group" => some .group
  | "sort" => some .sort
  | "asc" => some .asc
  | "desc" => some .desc
  | "limit" => some .limit
  | "and" => some .and
  | "or" => some .or
  | _ => none

/-! ## The two tables agree -/

theorem ofSpelling?_spelling (k : Keyword) : ofSpelling? k.spelling = some k := by
  cases k <;> rfl

theorem spelling_of_ofSpelling? {word : String} {k : Keyword} (h : ofSpelling? word = some k) :
    k.spelling = word := by
  unfold ofSpelling? at h
  split at h <;> cases h <;> rfl

/-- **A word is looked up as a keyword exactly when it is spelled like that keyword.** -/
theorem ofSpelling?_eq_some_iff {word : String} {k : Keyword} :
    ofSpelling? word = some k ↔ k.spelling = word := by
  constructor
  · exact spelling_of_ofSpelling?
  · rintro rfl
    exact ofSpelling?_spelling k

end Keyword

end QueryLexer
