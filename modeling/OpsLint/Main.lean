import OpsLint.CommandLine.Answer
import OpsLint.Files.Archive

/-!
# The program

Answers a command line. The files that the command looks at are those of an archive on standard
input.
-/

namespace OpsLint

/-- Reads a stream to its end. -/
partial def readAll (stream : IO.FS.Stream) (read : ByteArray) : IO ByteArray := do
  let more ← stream.read 65536
  if more.isEmpty then return read else readAll stream (read ++ more)

/-- Writes an answer and gives the exit code. -/
def writeAnswer (a : Answer) : IO UInt32 := do
  match a.body with
  | .lines lines => for line in lines do IO.println (String.ofList line)
  | .json value => IO.println (String.ofList value.toText)
  if let some line := a.failure then IO.eprintln (String.ofList line)
  return UInt32.ofNat a.exitCode

/-- Writes the reason for which there is no answer and gives the exit code. -/
def writeError (e : AnswerError) : IO UInt32 := do
  match e with
  | .command (.usage error) =>
    IO.eprintln (String.ofList ("Error: " ++ error.message))
    return 2
  | .command (.badScalar error) =>
    IO.eprintln (String.ofList error.message)
    return 1
  | .settings error =>
    IO.eprintln (String.ofList error.message)
    return 1
  | .run error =>
    IO.eprintln (String.ofList error.message)
    return 1

end OpsLint

open OpsLint in
/-- Answers a command line. -/
def main (args : List String) : IO UInt32 := do
  match Command.ofArgs (args.map String.toList) with
  | .error e => writeError (.command e)
  | .ok command =>
    let bytes ← if command.readsFiles then readAll (← IO.getStdin) ByteArray.empty
      else pure ByteArray.empty
    match command.answer (Archive.toTree bytes.toList) with
    | .ok a => writeAnswer a
    | .error e => writeError e
