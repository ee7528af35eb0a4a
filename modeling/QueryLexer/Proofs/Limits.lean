/-
# Runs with limited sinks

A run whose sinks take a limited number of bytes is told by the same run on sinks that take
everything.  Each sink holds the first bytes of what it would hold; the status is a failure if the
output was cut short, and else it is the same; and the log names each kind of text that was cut
short, once.  The main statements are

* `Report.answer_curtailed` and `Report.complain_curtailed`: this holds of answers and complaints;
* `runUnknownFlag_curtailed`: it holds where a second text is written behind one that failed;
* `run_curtailed`: it holds of every run.
-/
import QueryLexer.Proofs.Printing

namespace QueryLexer

/-! ## Limits -/

/-- A limit is below a number of bytes.  A missing limit never is. -/
def IsBelow (limit : Option Nat) (size : Nat) : Prop :=
  ∃ n ∈ limit, n < size

instance (limit : Option Nat) (size : Nat) : Decidable (IsBelow limit size) :=
  inferInstanceAs (Decidable (∃ n ∈ limit, n < size))

/-- The first bytes of an output, as many as a limit allows. -/
def firstBytes (limit : Option Nat) (bytes : ByteArray) : ByteArray :=
  match limit with
  | none => bytes
  | some n => bytes.extract 0 (min n bytes.size)

/-- An empty sink that takes as many bytes as a limit allows. -/
def Sink.upTo (limit : Option Nat) : Sink :=
  ⟨limit, .empty⟩

/-- The record of a text that was cut short, if the limit is below its size. -/
def failures (limit : Option Nat) (size : Nat) (what : String) : List Record :=
  if IsBelow limit size then [Report.writeFailure what] else []

section Limits

variable (limit : Option Nat) (text : String)

@[simp] lemma not_isBelow_none (size : Nat) : ¬ IsBelow none size := by
  simp [IsBelow]

@[simp] lemma not_isBelow_zero : ¬ IsBelow limit 0 := by
  simp [IsBelow]

@[simp] lemma firstBytes_empty : firstBytes limit .empty = .empty := by
  cases limit with
  | none => rfl
  | some n => exact ByteArray.extract_eq_empty_iff.2 (Nat.min_le_right _ 0)

lemma extract_min_size (bytes : ByteArray) (n : Nat) :
    bytes.extract 0 (min n bytes.size) = bytes.extract 0 n := by
  have h := ByteArray.extract_extract (a := bytes) (i := 0) (j := bytes.size) (k := 0) (l := n)
  rw [ByteArray.extract_zero_size, Nat.zero_add, Nat.zero_add] at h
  exact h.symm

/-- A limited sink holds the first bytes of what is written to it. -/
lemma content_write_upTo :
    ((Sink.upTo limit).write text).content = firstBytes limit text.toByteArray := by
  cases limit with
  | none => exact ByteArray.empty_append
  | some n =>
    rw [firstBytes, extract_min_size]
    exact ByteArray.empty_append

lemma fits_upTo_iff :
    (Sink.upTo limit).fits text = true ↔ ¬ IsBelow limit text.utf8ByteSize := by
  cases limit with
  | none => simp [Sink.upTo]
  | some n => simp [Sink.upTo, Sink.fits_limited_iff, IsBelow]

lemma failures_of_fits (what : String) :
    (if (Sink.upTo limit).fits text then [] else [Report.writeFailure what]) =
      failures limit text.utf8ByteSize what := by
  simp only [fits_upTo_iff, ite_not, failures]

end Limits

/-! ## Curtailed reports -/

/-- The records of failures in the log of a report. -/
def Report.errors (r : Report) : List Record :=
  r.log.filter (·.level = .error)

/-- A report is what limits leave of a full one.  The failures that it records are told by the
limits, up to the given first ones. -/
structure Curtailed (outLimit errLimit : Option Nat) (first : List Record) (full r : Report) :
    Prop where
  out_eq : r.out.content = firstBytes outLimit full.out.content
  err_eq : r.err.content = firstBytes errLimit full.err.content
  /-- Only an output that is cut short changes the status. -/
  code_eq : r.status.code =
    if IsBelow outLimit full.out.content.size then 2 else full.status.code
  /-- When the output is cut short, nothing is complained about. -/
  silent : IsBelow outLimit full.out.content.size → r.err.content = .empty
  errors_eq : r.errors = first ++ failures errLimit full.err.content.size "diagnostic" ++
    failures outLimit full.out.content.size "output"

/-- Records that name no failure change nothing. -/
lemma Curtailed.logAfter {outLimit errLimit : Option Nat} {first : List Record} {full r : Report}
    (h : Curtailed outLimit errLimit first full r) (records : List Record)
    (hrecords : ∀ record ∈ records, record.level ≠ .error) :
    Curtailed outLimit errLimit first (full.logAfter records) (r.logAfter records) := by
  refine ⟨h.out_eq, h.err_eq, h.code_eq, h.silent, ?_⟩
  have hnone : records.filter (·.level = .error) = [] := by
    simpa [List.filter_eq_nil_iff] using hrecords
  have herrors : (r.logAfter records).errors = r.errors := by
    simp [Report.errors, Report.logAfter, hnone]
  rw [herrors]
  exact h.errors_eq

lemma filter_failures (limit : Option Nat) (size : Nat) (what : String) :
    (failures limit size what).filter (·.level = .error) = failures limit size what := by
  unfold failures
  split <;> rfl

section Runs

variable (outLimit errLimit : Option Nat)

/-- A report with nothing on the output is curtailed by the limit of the error sink. -/
lemma curtailed_of_silent_output {first log log' : List Record} (status : ExitStatus)
    (text : String) (hlog : log'.filter (·.level = .error) =
      first ++ failures errLimit text.utf8ByteSize "diagnostic") :
    Curtailed outLimit errLimit first ⟨status, .unlimited, Sink.unlimited.write text, log⟩
      ⟨status, .upTo outLimit, (Sink.upTo errLimit).write text, log'⟩ := by
  have hnever : ¬ IsBelow outLimit Sink.unlimited.content.size := not_isBelow_zero outLimit
  have herr : (Sink.unlimited.write text).content = text.toByteArray := content_write_upTo none text
  refine ⟨?_, ?_, ?_, fun h => absurd h hnever, ?_⟩
  · exact (firstBytes_empty outLimit).symm
  · rw [content_write_upTo, herr]
  · exact (if_neg hnever).symm
  · have hout : failures outLimit Sink.unlimited.content.size "output" = [] := if_neg hnever
    rw [herr, String.size_toByteArray, hout, List.append_nil]
    exact hlog

namespace Report

/-- **An answer is curtailed by the limit of the output.** -/
theorem answer_curtailed (lines : List String) :
    Curtailed outLimit errLimit [] (answer lines .unlimited .unlimited)
      (answer lines (.upTo outLimit) (.upTo errLimit)) := by
  set text := unlines lines
  have hfull : answer lines .unlimited .unlimited =
      ⟨.succeeded, Sink.unlimited.write text, .unlimited, []⟩ := by
    rw [answer_eq]
    rfl
  have hout : (Sink.unlimited.write text).content = text.toByteArray := content_write_upTo none text
  rw [hfull, answer_eq, failures_of_fits]
  refine ⟨?_, ?_, ?_, fun _ => rfl, ?_⟩
  · rw [content_write_upTo, hout]
  · exact (firstBytes_empty errLimit).symm
  · simp only [hout, String.size_toByteArray, fits_upTo_iff, ite_not]
    split <;> rfl
  · have herr : failures errLimit Sink.unlimited.content.size "diagnostic" = [] :=
      if_neg (not_isBelow_zero errLimit)
    rw [hout, String.size_toByteArray, herr]
    exact filter_failures outLimit _ _

/-- **A complaint is curtailed by the limit of the error sink.** -/
theorem complain_curtailed (status : ExitStatus) (lines : List String) :
    Curtailed outLimit errLimit [] (complain status "diagnostic" lines .unlimited .unlimited)
      (complain status "diagnostic" lines (.upTo outLimit) (.upTo errLimit)) := by
  rw [complain_eq, complain_eq, failures_of_fits]
  exact curtailed_of_silent_output outLimit errLimit status _ (filter_failures errLimit _ _)

lemma refuse_curtailed (e : CommandError) :
    Curtailed outLimit errLimit [] (refuse e .unlimited .unlimited)
      (refuse e (.upTo outLimit) (.upTo errLimit)) :=
  (complain_curtailed outLimit errLimit .failed [e.render]).logAfter [_] (by simp [Record.debug])

end Report

/-! ## Curtailed runs -/

/-- **The usage in front of a complaint is curtailed with it.** -/
theorem runUnknownFlag_curtailed (program flag : String) :
    Curtailed outLimit errLimit
      (failures errLimit (unlines (usageLines program)).utf8ByteSize "usage")
      (runUnknownFlag program flag .unlimited .unlimited)
      (runUnknownFlag program flag (.upTo outLimit) (.upTo errLimit)) := by
  rw [runUnknownFlag_eq, runUnknownFlag_eq]
  refine curtailed_of_silent_output outLimit errLimit .failed _ ?_
  -- the note about the flag stands between the two failures
  rw [failures_of_fits, failures_of_fits, List.filter_append, filter_failures,
    List.filter_cons_of_neg (by simp [Record.debug]), filter_failures]

lemma Pass.level_ne_error (p : Pass) (file : String) (size : Nat) :
    ∀ record ∈ p.log file size, record.level ≠ .error := by
  simp +contextual [Pass.log, Record.debug, Record.trace, or_imp]

/-- **The tokens of a source, or the error in it, are curtailed.** -/
theorem runSource_curtailed (s : Source) :
    Curtailed outLimit errLimit [] (runSource s .unlimited .unlimited)
      (runSource s (.upTo outLimit) (.upTo errLimit)) := by
  unfold runSource
  split
  · exact (Report.answer_curtailed outLimit errLimit []).logAfter [_] (by simp [Record.debug])
  · refine Curtailed.logAfter ?_ _ (Pass.level_ne_error _ _ _)
    cases (s.pass {}).tokens with
    | ok tokens => exact Report.answer_curtailed outLimit errLimit _
    | error e => exact Report.complain_curtailed outLimit errLimit .rejected _

theorem runFile_curtailed (files : FileSystem) (path : String) :
    Curtailed outLimit errLimit [] (runFile files path .unlimited .unlimited)
      (runFile files path (.upTo outLimit) (.upTo errLimit)) := by
  unfold runFile
  cases files.source path with
  | ok s => exact runSource_curtailed outLimit errLimit s
  | error e => exact Report.refuse_curtailed outLimit errLimit e

end Runs

/-! ## All runs -/

/-- The argument that decides is written like a flag, but is none that the program knows. -/
def HasUnknownFlag (arguments : List String) : Prop :=
  ∃ argument ∈ arguments[1]?, isFlag argument ∧
    argument ∉ ["-h", "--help", "-v", "--version"]

instance (arguments : List String) : Decidable (HasUnknownFlag arguments) :=
  inferInstanceAs (Decidable (∃ argument ∈ arguments[1]?, isFlag argument ∧
    argument ∉ ["-h", "--help", "-v", "--version"]))

lemma Request.ofArgument_eq_unknownFlag_iff {argument flag : String} :
    Request.ofArgument argument = .unknownFlag flag ↔
      (isFlag argument ∧ argument ∉ ["-h", "--help", "-v", "--version"]) ∧ argument = flag := by
  unfold Request.ofArgument
  grind

/-- An unknown flag is what the arguments ask for exactly if they have one. -/
lemma hasUnknownFlag_iff {arguments : List String} :
    HasUnknownFlag arguments ↔ ∃ flag, Request.ofArguments arguments = .unknownFlag flag := by
  match arguments with
  | [] | [_] => simp [HasUnknownFlag, Request.ofArguments]
  | _ :: argument :: _ =>
    simp [HasUnknownFlag, Request.ofArguments, Request.ofArgument_eq_unknownFlag_iff]

/-- **Limits curtail every run.**  For every file system, every list of arguments and all limits,
the run leaves what the limits leave of the same run without them, and names each text that was cut
short. -/
theorem run_curtailed (files : FileSystem) (arguments : List String)
    (outLimit errLimit : Option Nat) :
    Curtailed outLimit errLimit
      (if HasUnknownFlag arguments then
        failures errLimit (unlines (usageLines (arguments.head?.getD defaultProgram))).utf8ByteSize
          "usage"
      else [])
      (run files arguments .unlimited .unlimited)
      (run files arguments (.upTo outLimit) (.upTo errLimit)) := by
  by_cases hflag : HasUnknownFlag arguments
  · obtain ⟨flag, hrequest⟩ := hasUnknownFlag_iff.1 hflag
    simp only [run, hrequest, if_pos hflag]
    exact runUnknownFlag_curtailed outLimit errLimit _ flag
  · rw [if_neg hflag]
    unfold run
    cases hrequest : Request.ofArguments arguments with
    | unknownFlag flag => exact absurd (hasUnknownFlag_iff.2 ⟨flag, hrequest⟩) hflag
    | lexFile path => exact runFile_curtailed outLimit errLimit files path
    | banner => exact Report.answer_curtailed outLimit errLimit _
    | help => exact Report.answer_curtailed outLimit errLimit _
    | version => exact Report.answer_curtailed outLimit errLimit _

/-- Where the usage is cut short, the line behind it is tried all the same. -/
example : (run (fun _ => .missing) ["qql", "-x"] .unlimited (.upTo (some 3))).errors =
    [Report.writeFailure "usage", Report.writeFailure "diagnostic"] := by
  decide +kernel

end QueryLexer
