/-
# The program

Runs the command line on the files, the output and the error stream of the machine.  All decisions
are taken by `QueryLexer.run`; what happens here is only reading and writing.
-/
import QueryLexer.Command

namespace QueryLexer

/-- Finds out what a path leads to on this machine. -/
def entryAt (path : String) : IO Entry := do
  try
    let info ← (← IO.FS.realPath path).metadata
    match info.type with
    | .file =>
      try
        return .regular (← IO.FS.readBinFile path)
      catch _ =>
        return .locked
    | _ => return .special
  catch _ =>
    return .missing

/-- The entry that a request needs to see. -/
def entryFor : Request → IO Entry
  | .lexFile path => entryAt path
  | _ => return .missing

/-- Writes the report of a run and gives the number of its status.  An output that cannot be written
makes the run fail. -/
def Report.deliver (r : Report) : IO UInt32 := do
  try
    (← IO.getStderr).write r.err.content
  catch _ => pure ()
  try
    (← IO.getStdout).write r.out.content
    return r.status.code.toUInt32
  catch _ =>
    return ExitStatus.failed.code.toUInt32

/-- Runs the program with the arguments that follow its name. -/
def runProgram (arguments : List String) : IO UInt32 := do
  let arguments := defaultProgram :: arguments
  let entry ← entryFor (Request.ofArguments arguments)
  (run (fun _ => entry) arguments .unlimited .unlimited).deliver

end QueryLexer

/-- The entry of the program. -/
def main (arguments : List String) : IO UInt32 :=
  QueryLexer.runProgram arguments
