/-
# The command line

The arguments of the program ask for one thing: the banner, the usage, the version, or the tokens
of a file.  An answer goes to the output sink and a complaint to the error sink, and a run ends with
a status.  A complaint that cannot be written leaves the status alone, but an answer that cannot be
written makes the run fail.  The main statements are

* `Request.ofArgument_path`: an argument without a hyphen in front is a path;
* `run_path`, `runFile_of_error` and `runFile_of_ok`: what is done with a path.
-/
import QueryLexer.Files
import QueryLexer.Sink

namespace QueryLexer

/-! ## Requests -/

/-- What the arguments of the program ask for. -/
inductive Request where
  | banner
  | help
  | version
  | unknownFlag (flag : String)
  | lexFile (path : String)
  deriving DecidableEq

/-- Whether an argument is written like a flag. -/
def isFlag (argument : String) : Bool :=
  argument.toList.head? == some '-'

namespace Request

/-- Reads an argument: a known flag, an unknown flag or a path. -/
def ofArgument (argument : String) : Request :=
  if argument == "-h" || argument == "--help" then help
  else if argument == "-v" || argument == "--version" then version
  else if isFlag argument then unknownFlag argument
  else lexFile argument

/-- Reads the arguments of the program.  The first is the program's own name, the second decides,
and the others are ignored. -/
def ofArguments : List String → Request
  | _ :: argument :: _ => ofArgument argument
  | _ => banner

theorem ofArgument_path {argument : String} (h : isFlag argument = false) :
    ofArgument argument = lexFile argument := by
  have hne : ∀ flag : String, isFlag flag = true → (argument == flag) = false := by
    intro flag hflag
    rw [beq_eq_false_iff_ne]
    rintro rfl
    rw [h] at hflag
    cases hflag
  simp [ofArgument, h, hne "-h" (by decide +kernel), hne "--help" (by decide +kernel),
    hne "-v" (by decide +kernel), hne "--version" (by decide +kernel)]

end Request

/-! ## Texts -/

/-- The name that stands for the program when it is not given its own. -/
def defaultProgram : String := "qql"

/-- The line that names the version. -/
def versionLine : String := "QQL - Version 1.0.0"

/-- The lines that introduce the program. -/
def bannerLines : List String :=
  [versionLine, "A quick query language for databases, similar to SQL."]

/-- The lines that explain how the program is called. -/
def usageLines (program : String) : List String :=
  ["Usage:",
    program ++ " [commands] <filename> [args]",
    "Commands:",
    "-h | --help: Show this help message",
    "-v | --version: Show the version of the compiler"]

/-! ## Runs -/

/-- How a run ended: well, with a text that is no sequence of tokens, or without doing what was
asked. -/
inductive ExitStatus where
  | succeeded
  | rejected
  | failed
  deriving DecidableEq

/-- The number that stands for a status. -/
def ExitStatus.code : ExitStatus → Nat
  | succeeded => 0
  | rejected => 1
  | failed => 2

/-- What a run leaves behind. -/
structure Report where
  status : ExitStatus
  out : Sink
  err : Sink
  log : List Record

namespace Report

/-- The report with records that were kept before it. -/
def logAfter (r : Report) (records : List Record) : Report :=
  { r with log := records ++ r.log }

/-- The record of a write that failed. -/
def writeFailure (what : String) : Record :=
  .error ("failed to write " ++ what ++ ": " ++ Sink.refusal)

/-- Answers with lines on the output. -/
def answer (lines : List String) (out err : Sink) : Report :=
  match out.printLines lines with
  | (out, true) => ⟨.succeeded, out, err, []⟩
  | (out, false) => ⟨.failed, out, err, [writeFailure "output"]⟩

/-- Complains with lines on the error sink.  `what` names the complaint, should it fail to be
written. -/
def complain (status : ExitStatus) (what : String) (lines : List String) (out err : Sink) :
    Report :=
  match err.printLines lines with
  | (err, true) => ⟨status, out, err, []⟩
  | (err, false) => ⟨status, out, err, [writeFailure what]⟩

/-- Reports a problem with what was asked for. -/
def refuse (e : CommandError) (out err : Sink) : Report :=
  (complain .failed "diagnostic" [e.render] out err).logAfter
    [.debug ("command error: " ++ e.describe)]

end Report

/-- Explains the usage and then refuses the flag. -/
def runUnknownFlag (program flag : String) (out err : Sink) : Report :=
  let explained := Report.complain .failed "usage" (usageLines program) out err
  (Report.refuse (.unknownCommand flag) out explained.err).logAfter explained.log

/-- Prints the tokens of a source, one on a line, or the error in it.  An empty source has nothing
to print. -/
def runSource (s : Source) (out err : Sink) : Report :=
  if s.text.isEmpty then
    ⟨.succeeded, out, err, [.debug ("'" ++ s.file ++ "' is empty, nothing to lex")]⟩
  else
    let pass := s.pass {}
    let report :=
      match pass.tokens with
      | .ok tokens => Report.answer (tokens.map Token.render) out err
      | .error e => Report.complain .rejected "diagnostic" [e.render] out err
    report.logAfter (pass.log s.file s.text.utf8ByteSize)

/-- Reads a file and prints its tokens. -/
def runFile (files : FileSystem) (path : String) (out err : Sink) : Report :=
  match files.source path with
  | .ok s => runSource s out err
  | .error e => Report.refuse e out err

/-- A run of the program with the given arguments, its own name first. -/
def run (files : FileSystem) (arguments : List String) (out err : Sink) : Report :=
  let program := arguments.head?.getD defaultProgram
  match Request.ofArguments arguments with
  | .banner => Report.answer (bannerLines ++ usageLines program) out err
  | .help => Report.answer (usageLines program) out err
  | .version => Report.answer [versionLine] out err
  | .unknownFlag flag => runUnknownFlag program flag out err
  | .lexFile path => runFile files path out err

/-- An argument that is no flag is read as a path, whatever stands around it. -/
theorem run_path {path : String} (h : isFlag path = false) (files : FileSystem) (program : String)
    (others : List String) (out err : Sink) :
    run files (program :: path :: others) out err = runFile files path out err := by
  simp [run, Request.ofArguments, Request.ofArgument_path h]

theorem runFile_of_error {files : FileSystem} {path : String} {e : CommandError}
    (h : files.source path = .error e) (out err : Sink) :
    runFile files path out err = Report.refuse e out err := by
  simp [runFile, h]

theorem runFile_of_ok {files : FileSystem} {path : String} {s : Source}
    (h : files.source path = .ok s) (out err : Sink) :
    runFile files path out err = runSource s out err := by
  simp [runFile, h]

end QueryLexer
