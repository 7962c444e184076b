import SwiftConnections.Plugin.CommandLine

namespace SwiftConnections

/-- The bytes of a stream up to its end. -/
partial def readStream (stream : IO.FS.Stream) (found : ByteArray) : IO ByteArray := do
  let more ← stream.read 65536
  if more.isEmpty then pure found else readStream stream (found ++ more)

/-- The contents of a file, if it can be read. -/
def readFile? (path : Text) : IO (Option Bytes) := do
  match ← (IO.FS.readBinFile (String.ofList path)).toBaseIO with
  | .ok bytes => pure (some bytes.toList)
  | .error _ => pure none

/-- What the process is given beside its arguments. -/
def readEnvironment : IO Environment := do
  let input := (← readStream (← IO.getStdin) .empty).toList
  let contents ← match configFileOf? input with
    | some path => readFile? path
    | none => pure none
  pure { input, files := fun _ => contents, filter := (← IO.getEnv "ZAP_LOG").map String.toList }

end SwiftConnections

open SwiftConnections in
def main (args : List String) : IO UInt32 := do
  let args := args.map String.toList
  let env ←
    if asksForHelp args then pure { input := [], files := fun _ => none, filter := none }
    else readEnvironment
  let report := commandLine args env
  let output ← IO.getStdout
  output.write report.output.toByteArray
  output.flush
  (← IO.getStderr).putStr (String.ofList report.log)
  pure report.exitCode.toUInt32
