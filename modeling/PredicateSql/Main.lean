import PredicateSql.Cli.Command

/-! The `predql` program: runs the command line on the process arguments with files read from
disk, writes the output, and exits with the run's status. An error that the run did not report
on standard output goes to standard error. -/
namespace PredicateSql.Cli

/-- Reads a file from disk, telling apart the ways opening or reading it fails. -/
def readPath (path : String) : IO FileRead := do
  try
    let content ← IO.FS.readFile path
    return .text content
  catch e =>
    match e with
    | .noFileOrDirectory .. => return .missing
    | .inappropriateType _ code _ => return if code == 21 then .directory else .notDirectory
    | .permissionDenied .. => return .denied
    | _ => return .missing

end PredicateSql.Cli

/-- Runs the command line. -/
def main (args : List String) : IO UInt32 := do
  let out ← PredicateSql.Cli.run PredicateSql.Cli.readPath args
  let stdout ← IO.getStdout
  stdout.putStr out.stdout
  stdout.flush
  if let some e := out.err then
    if !out.reported then
      let stderr ← IO.getStderr
      stderr.putStrLn ("Error: " ++ e)
  return out.exit.toUInt32
