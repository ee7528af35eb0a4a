/-
# Reading source files

What a path leads to, and how a source is read from it: the path has to lead somewhere, to a
regular file, and the contents have to be text.  The main statements are

* `FileSystem.source_eq_ok_iff`: a source is read exactly from a regular file with valid contents;
* `FileSystem.lex_of_source`: what is read is then split like any other source.
-/
import QueryLexer.CommandError
import QueryLexer.Pass

namespace QueryLexer

/-- What a path leads to. -/
inductive Entry where
  /-- Nothing is there, or the way there is blocked. -/
  | missing
  /-- Something that is no regular file, such as a directory or a device. -/
  | special
  /-- A regular file whose contents the system does not hand out. -/
  | locked
  /-- A regular file with its contents. -/
  | regular (bytes : ByteArray)

/-- The files of a machine: what each path leads to. -/
abbrev FileSystem := String → Entry

namespace FileSystem

/-- Reads the source that a path leads to. -/
def source (files : FileSystem) (path : String) : Except CommandError Source :=
  match files path with
  | .missing => .error (.fileNotFound path)
  | .special => .error (.notAFile path)
  | .locked => .error (.unreadable path .accessRefused)
  | .regular bytes =>
    match String.fromUTF8? bytes with
    | some text => .ok ⟨path, text⟩
    | none => .error (.unreadable path .invalidText)

/-- Reads a file and splits it into tokens. -/
def lex (files : FileSystem) (path : String) (o : Options) : Except Failure (List Token) :=
  match files.source path with
  | .ok s => (s.lex o).mapError .inText
  | .error e => .error (.inCommand e)

/-- The records that are kept when a file is read and split.  A file that cannot be read leaves
none. -/
def log (files : FileSystem) (path : String) (o : Options) : List Record :=
  match files.source path with
  | .ok s => s.log o
  | .error _ => []

variable {files : FileSystem} {path : String}

/-- **A source is read exactly from a regular file whose contents are UTF-8.** -/
theorem source_eq_ok_iff {s : Source} :
    files.source path = .ok s ↔
      ∃ bytes, files path = .regular bytes ∧ String.fromUTF8? bytes = some s.text ∧
        s.file = path := by
  obtain ⟨file, text⟩ := s
  unfold source
  cases files path with
  | regular bytes => cases h : String.fromUTF8? bytes <;> simp [h, and_comm, eq_comm]
  | _ => simp

theorem lex_of_source {s : Source} (h : files.source path = .ok s) (o : Options) :
    files.lex path o = (s.lex o).mapError .inText := by
  simp [lex, h]

end FileSystem

end QueryLexer
