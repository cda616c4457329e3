import FleetIssues.Cli.Run
import FleetIssues.Text.Basic
import Std.Time.DateTime.Timestamp
/-! The program's entry point: reads the files the command line names, runs it stamped with the
current time, and prints what the run wrote. -/

open FleetIssues FleetIssues.Cli

/-- Reads a file whole, telling apart a path that does not exist, a directory, and a path
through a file. -/
def readPath (path : String) : IO FileRead := do
  try
    let bytes ← IO.FS.readBinFile path
    return .contents bytes.toList
  catch e =>
    return match e with
      | .noFileOrDirectory _ _ _ => .missing
      | .inappropriateType _ code _ => if code == 21 then .directory else .notDirectory
      | _ => .missing

/-- Runs the program on its arguments. -/
def main (args : List String) : IO UInt32 := do
  let instant ← Std.Time.Timestamp.now
  let now := Text.rfc3339 instant.toNanosecondsSinceUnixEpoch.val
  let files ← (pathsRead args).mapM fun path => return (path, ← readPath path)
  let outcome := run args (fun path => (files.lookup path).getD .missing) now
  IO.print outcome.stdout
  IO.eprint outcome.stderr
  return outcome.exit.toUInt32
