import Headset.Simulator.Summary

/-!
# Simulator

Runs one session on simulated time and prints its summary.  Only the files, the environment and the
streams are handled here.
-/

open Headset Headset.Simulator

/-- The reason that the system gives for a file it does not read. -/
def fileFault : IO.Error → FileFault
  | .noFileOrDirectory .. => .notFound
  | .inappropriateType (some _) .. => .notDirectory
  | .inappropriateType none .. => .isDirectory
  | .invalidArgument _ 22 _ => .zeroInName
  | .invalidArgument .. => .nameTooLong
  | _ => .notFound

/-- The file at the path that the arguments name, if they name one. -/
def readConfigFile (environment : Option String) (arguments : List String) :
    IO (Except FileFault (List UInt8)) := do
  match Request.read environment arguments with
  | .ok (.run { config := some path, .. }) =>
    try
      let bytes ← IO.FS.readBinFile path
      return .ok bytes.toList
    catch e => return .error (fileFault e)
  | _ => return .error .notFound

/-- Runs the command; the code is zero for a summary or help. -/
def main (arguments : List String) : IO UInt32 := do
  let environment ← IO.getEnv configVariable
  let file ← readConfigFile environment arguments
  match Report.ofArguments (fun _ => file) environment arguments with
  | .summary s => IO.println s.toJson.pretty; return 0
  | .help => IO.println helpText; return 0
  | .misuse m => IO.eprintln m.message; return 2
  | .overflow => IO.eprintln "time out of range"; return 101
  | r => IO.eprintln (r.error?.getD ""); return 1
