import EscTelemetry.Command.Report

/-!
# The sensor program

Reads the command line and the `RUST_LOG` filter, reads the settings file and makes the log
directory when they are asked for, and then writes what the run leaves behind: the help
text or the log records on standard output, the failure on standard error, and the exit
code.
-/

open EscTelemetry

/-- The file error an input-output failure stands for. -/
def fileErrorOf (e : IO.Error) : FileError :=
  match e with
  | .noFileOrDirectory .. => .notFound
  | .alreadyExists .. => .alreadyExists
  | .inappropriateType _ 20 _ => .notADirectory
  | .inappropriateType _ 21 _ => .isADirectory
  | _ => .other (toString e)

def main (args : List String) : IO UInt32 := do
  let logFilter ← IO.getEnv "RUST_LOG"
  let options := RunOptions.ofArgs ("esc-sensor" :: args)
  let settings : String → Except FileError String ← match options.configPath with
    | some path =>
      try
        let text ← IO.FS.readFile path
        pure (fun p => if p = path then .ok text else .error .notFound)
      catch e => pure fun _ => .error (fileErrorOf e)
    | none => pure fun _ => .error .notFound
  let logDir : String → Except FileError Unit ← match options.logDir with
    | some dir =>
      try
        IO.FS.createDirAll dir
        pure fun _ => .ok ()
      catch e => pure fun _ => .error (fileErrorOf e)
    | none => pure fun _ => .ok ()
  let outcome := runProgram ("esc-sensor" :: args)
    { logFilter, readText := settings, createDirAll := logDir }
  let stdout ← IO.getStdout
  stdout.putStr outcome.stdout
  for e in outcome.events do
    stdout.putStrLn (e.line options.jsonLogs)
  (← IO.getStderr).putStr outcome.stderr
  pure outcome.exitCode.toUInt32
