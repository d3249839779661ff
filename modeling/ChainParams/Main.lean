import ChainParams.Inspect.Report

/-!
# The program

Tells the parameters of networks. The variable `LOG_LEVEL` of the environment chooses which events
are told.
-/

open ChainParams

/-- The content of the file that the arguments name, if they name one. -/
def readNetworksFile (arguments : List String) : IO (Except FileFault ByteArray) := do
  match Inspect.Arguments.parse arguments with
  | .ok ⟨some path, _⟩ =>
    try
      return .ok (← IO.FS.readBinFile path)
    catch
      | .noFileOrDirectory _ _ _ => return .error .notFound
      | error => return .error (.unreadable (toString error))
  | _ => return .error .notFound

def main (arguments : List String) : IO UInt32 := do
  let level ← IO.getEnv "LOG_LEVEL"
  let file ← readNetworksFile arguments
  let report := Inspect.run arguments ((level.bind LogFilter.ofName?).getD .default) fun _ ↦ file
  IO.print report.output
  IO.eprint report.errors
  return report.exitCode
