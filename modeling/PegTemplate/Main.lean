import PegTemplate.Command.Run

/-!
# The command line

* `main` : reads the files that a command line names, runs its request and prints the outcome.
-/

namespace PegTemplate.CommandLine
open PegTemplate

/-- The paths that a request reads. -/
def requestPaths : Request → List String
  | .check path _ => [path]
  | .parse path source _ _ => match source with
    | .given _ => [path]
    | .file text => [path, text]

/-- What there is under a path. -/
def openPath (path : String) : IO Opened := do
  try
    match decode (← IO.FS.readBinFile path).toList with
    | .ok cs => return .text (String.ofList cs)
    | .error fault => return .undecodable fault
  catch
    | .noFileOrDirectory .. => return .refused .missing
    | .inappropriateType _ n _ => return .refused (if n = 20 then .throughFile else .directory)
    | .permissionDenied _ n reason => return .refused ⟨n.toNat, reason⟩
    | _ => return .refused .missing

/-- All of standard input. -/
partial def readAll (input : IO.FS.Stream) (text : String) : IO String := do
  let line ← input.getLine
  if line.isEmpty then return text else readAll input (text ++ line)

/-- Opens the paths that a request reads. -/
def filesOf (request : Request) : IO Files := do
  let paths := requestPaths request
  let opened ← (paths.filter (· != inputPath)).mapM fun p => return (normalPath p, ← openPath (normalPath p))
  let text ← if paths.contains inputPath then readAll (← IO.getStdin) "" else pure ""
  return ⟨fun p => (opened.lookup p).getD (.refused .missing), text⟩

/-- Prints an outcome; the exit code. -/
def printOutcome : Outcome → IO UInt32
  | .ended code output errors => do
    IO.eprint errors
    IO.print output
    return code.toUInt32
  | .escaped kind message output errors => do
    IO.eprint errors
    IO.print output
    IO.eprintln (kind ++ ": " ++ message)
    return 1

end PegTemplate.CommandLine

open PegTemplate PegTemplate.CommandLine in
/-- Runs a command line. -/
def main (args : List String) : IO UInt32 := do
  match readCommandLine false args with
  | .error usage => do
    IO.eprintln "usage: pegc [-h] \x7bcheck,parse\x7d ..."
    return usage.exitCode.toUInt32
  | .ok request => do printOutcome (runRequest (← filesOf request) request)
