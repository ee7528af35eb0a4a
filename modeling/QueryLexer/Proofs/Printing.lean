/-
# Printing lines

Lines that are printed one after the other leave a sink like their text in one piece: the bytes are
taken as far as the room goes, and all lines are printed exactly if the text fits as a whole.  The
main statements are

* `Sink.write_append` and `Sink.fits_append`: what is written in two pieces is written in one;
* `Sink.printLines_eq`: the same for any number of lines;
* `Report.answer_eq`, `Report.complain_eq` and `runUnknownFlag_eq`: what answers and complaints
  come to.
-/
import QueryLexer.Command
import Mathlib.Tactic.Common

namespace QueryLexer

/-- The text of lines that are each closed by a newline. -/
def unlines : List String → String
  | [] => ""
  | line :: lines => line ++ "\n" ++ unlines lines

/-! ## Writing in pieces -/

namespace Sink

@[simp] lemma write_empty (s : Sink) : s.write "" = s := by
  obtain ⟨_ | room, content⟩ := s
  · exact congrArg (Sink.mk none) ByteArray.append_empty
  · have hbytes : ByteArray.empty.extract 0 room = ByteArray.empty :=
      ByteArray.extract_eq_empty_iff.2 (Nat.min_le_right room 0)
    simp [write, hbytes]

@[simp] lemma fits_empty (s : Sink) : s.fits "" = true := by
  obtain ⟨_ | room, content⟩ := s
  · rfl
  · exact decide_eq_true (Nat.zero_le room)

/-- **A text in two pieces is written like the whole text.** -/
theorem write_append (s : Sink) (text text' : String) :
    s.write (text ++ text') = (s.write text).write text' := by
  obtain ⟨_ | room, content⟩ := s
  · simp only [write, String.toUTF8_eq_toByteArray, String.toByteArray_append,
      ByteArray.append_assoc]
  · simp only [write, String.toUTF8_eq_toByteArray, String.toByteArray_append,
      String.utf8ByteSize_append, Nat.sub_add_eq, ByteArray.extract_append,
      String.size_toByteArray, Nat.zero_sub, ByteArray.append_assoc]

/-- A text fits if its first piece does, and the second one into what is then left. -/
theorem fits_append (s : Sink) (text text' : String) :
    s.fits (text ++ text') = (s.fits text && (s.write text).fits text') := by
  obtain ⟨_ | room, content⟩ := s
  · rfl
  · rw [Bool.eq_iff_iff, Bool.and_eq_true, write, fits_limited_iff, fits_limited_iff,
      fits_limited_iff, String.utf8ByteSize_append]
    omega

/-- Behind a text that does not fit nothing is taken any more. -/
lemma write_write_of_not_fits {s : Sink} {text : String} (h : s.fits text = false)
    (text' : String) : (s.write text).write text' = s.write text := by
  obtain ⟨_ | room, content⟩ := s
  · cases h
  · have hfull : room - text.utf8ByteSize = 0 := by
      rw [← Bool.not_eq_true, fits_limited_iff] at h
      omega
    simp only [write, hfull, Nat.zero_sub, ByteArray.extract_same, ByteArray.append_empty]

/-- Once a text is written, another one fits exactly if both together fitted at first.  This holds
even if the first one did not fit, because then no room is left. -/
lemma fits_write {s : Sink} {text text' : String} (h : 0 < text'.utf8ByteSize) :
    (s.write text).fits text' = s.fits (text ++ text') := by
  obtain ⟨_ | room, content⟩ := s
  · rfl
  · rw [Bool.eq_iff_iff, write, fits_limited_iff, fits_limited_iff, String.utf8ByteSize_append]
    omega

/-- **Lines are printed like their text in one piece.** -/
theorem printLines_eq (s : Sink) (lines : List String) :
    s.printLines lines = (s.write (unlines lines), s.fits (unlines lines)) := by
  induction lines generalizing s with
  | nil => rw [unlines, printLines_nil, write_empty, fits_empty]
  | cons line lines ih =>
    rw [unlines, write_append, fits_append]
    cases h : s.fits (line ++ "\n") with
    | true => rw [printLines_cons_of_fits h, ih, Bool.true_and]
    | false => rw [printLines_cons_of_not_fits h, write_write_of_not_fits h, Bool.false_and]

end Sink

/-! ## Answers and complaints -/

namespace Report

/-- An answer writes its text and fails if it does not fit. -/
lemma answer_eq (lines : List String) (out err : Sink) :
    answer lines out err =
      ⟨if out.fits (unlines lines) then .succeeded else .failed, out.write (unlines lines), err,
        if out.fits (unlines lines) then [] else [writeFailure "output"]⟩ := by
  rw [answer, Sink.printLines_eq]
  cases out.fits (unlines lines) <;> rfl

/-- A complaint writes its text and keeps its status even if it does not fit. -/
lemma complain_eq (status : ExitStatus) (what : String) (lines : List String) (out err : Sink) :
    complain status what lines out err =
      ⟨status, out, err.write (unlines lines),
        if err.fits (unlines lines) then [] else [writeFailure what]⟩ := by
  rw [complain, Sink.printLines_eq]
  cases err.fits (unlines lines) <;> rfl

end Report

lemma unlines_singleton_pos (line : String) : 0 < (unlines [line]).utf8ByteSize := by
  have hnewline : "\n".utf8ByteSize = 1 := rfl
  simp only [unlines, String.utf8ByteSize_append, hnewline]
  omega

/-- The usage and the line behind it are written like one text.  The line is tried even if the usage
did not fit. -/
lemma runUnknownFlag_eq (program flag : String) (out err : Sink) :
    runUnknownFlag program flag out err =
      let usage := unlines (usageLines program)
      let text := usage ++ unlines [(CommandError.unknownCommand flag).render]
      ⟨.failed, out, err.write text,
        (if err.fits usage then [] else [Report.writeFailure "usage"]) ++
          (.debug ("command error: " ++ (CommandError.unknownCommand flag).describe) ::
            if err.fits text then [] else [Report.writeFailure "diagnostic"])⟩ := by
  simp only [runUnknownFlag, Report.refuse, Report.complain_eq, Report.logAfter,
    Sink.fits_write (unlines_singleton_pos _), Sink.write_append, List.singleton_append]

end QueryLexer
