/-
# Sinks

A sink takes the bytes that a program writes, in order.  It may have room for a bounded number of
them only: a write that does not fit is taken as far as the room goes, and fails.  Lines are
written one after the other until one of them fails.  The main statements are

* `Sink.printLines_cons_of_fits` and `Sink.printLines_cons_of_not_fits`: a line that fits is
  followed by the next ones, and one that does not fit is the last.
-/

namespace QueryLexer

/-- What was written, and how many more bytes are taken; without a bound any number is. -/
structure Sink where
  room : Option Nat
  content : ByteArray

namespace Sink

/-- An empty sink that takes everything. -/
def unlimited : Sink := ⟨none, .empty⟩

/-- An empty sink that takes a number of bytes. -/
def limited (room : Nat) : Sink := ⟨some room, .empty⟩

/-- What is said about a write to a sink without room. -/
def refusal : String := "closed"

/-- Whether a text fits into the room that is left. -/
def fits (s : Sink) (text : String) : Bool :=
  match s.room with
  | none => true
  | some room => text.utf8ByteSize ≤ room

/-- Takes a text as far as the room goes. -/
def write (s : Sink) (text : String) : Sink :=
  match s.room with
  | none => ⟨none, s.content ++ text.toUTF8⟩
  | some room => ⟨some (room - text.utf8ByteSize), s.content ++ text.toUTF8.extract 0 room⟩

/-- Writes lines until one does not fit, and says whether all did. -/
def printLines (s : Sink) : List String → Sink × Bool
  | [] => (s, true)
  | line :: lines =>
    let text := line ++ "\n"
    if s.fits text then (s.write text).printLines lines else (s.write text, false)

@[simp] theorem fits_unlimited (content : ByteArray) (text : String) :
    fits ⟨none, content⟩ text = true := rfl

theorem fits_limited_iff {room : Nat} {content : ByteArray} {text : String} :
    fits ⟨some room, content⟩ text = true ↔ text.utf8ByteSize ≤ room := by
  simp [fits]

@[simp] theorem printLines_nil (s : Sink) : s.printLines [] = (s, true) := rfl

theorem printLines_cons_of_fits {s : Sink} {line : String} (h : s.fits (line ++ "\n") = true)
    (lines : List String) :
    s.printLines (line :: lines) = (s.write (line ++ "\n")).printLines lines := by
  simp [printLines, h]

theorem printLines_cons_of_not_fits {s : Sink} {line : String}
    (h : s.fits (line ++ "\n") = false) (lines : List String) :
    s.printLines (line :: lines) = (s.write (line ++ "\n"), false) := by
  simp [printLines, h]

end Sink

end QueryLexer
