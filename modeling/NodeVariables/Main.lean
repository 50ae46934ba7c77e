import NodeVariables.Report

open NodeVariables

def readFile (path : String) : IO File := do
  try return .ok (← IO.FS.readBinFile path)
  catch
    | .noFileOrDirectory .. => return .error .missing
    | .permissionDenied _ code details => return .error (.system details code.toNat)
    | .inappropriateType _ code details => return .error (.system details code.toNat)
    | fault => return .error (.system (toString fault) 5)

def main (args : List String) : IO UInt32 := do
  let files ← if args.length ∈ [1, 2] then args.mapM readFile else pure []
  let outcome := Report.run files (some (← IO.appPath).toString)
  (← IO.getStdout).putStr outcome.out
  (← IO.getStderr).putStr outcome.err
  return outcome.code.toUInt32
