import EscTelemetry.Config.Read
import EscTelemetry.Numeric.Decimal

/-!
# Command-line options

The sensor program takes its options from its arguments, read left to right:

* an option that takes a value consumes the next argument; as the last argument it is
  ignored without a word;
* `--run-seconds` and `--update-hz` keep the value only if it reads as a number of their
  range (an unreadable one clears an earlier value); `--motors` and `--seed` keep the
  previous value when the new one is unreadable; a rate (`--drop-rate`, `--corrupt-rate`)
  is kept only if it reads as a single-precision number from 0 to 1;
* an unknown protocol name, and every argument that is no option, become warnings, in
  order;
* `-h` or `--help` asks for the help text and ends the reading.

Numbers are unsigned decimals with an optional `+`.

`RunOptions.sensorConfig` builds the sensor's settings: those of the settings file if one
is named (read through the given reader), with the protocol, half-duplex flag and update
rate of the command line put over them, then validated.
-/

namespace EscTelemetry

/-- Why a file could not be read. -/
inductive FileError where
  | notFound
  | notADirectory
  | isADirectory
  | alreadyExists
  /-- Any other failure, with the system's text. -/
  | other (message : String)
deriving DecidableEq, Repr

/-- The system's text for a file error. -/
def FileError.message : FileError → String
  | .notFound => "No such file or directory (os error 2)"
  | .notADirectory => "Not a directory (os error 20)"
  | .isADirectory => "Is a directory (os error 21)"
  | .alreadyExists => "File exists (os error 17)"
  | .other message => message

/-- Why the program stops with an error. -/
inductive RunError where
  | configRead (path : String) (reason : FileError)
  | config (e : ConfigError)
  | logDir (path : String) (reason : FileError)
  | acquisitionPanicked

/-- The text of a run error. -/
def RunError.message : RunError → String
  | .configRead path reason => "failed to read config " ++ path ++ ": " ++ reason.message
  | .config e => e.message
  | .logDir path reason =>
    "failed to prepare log directory " ++ path ++ ": " ++ reason.message
  | .acquisitionPanicked => "telemetry thread panicked"

/-- The kind of a run error, as reports name it. -/
def RunError.kind : RunError → String
  | .configRead .. => "ConfigRead"
  | .config e => e.kind
  | .logDir .. => "LogDir"
  | .acquisitionPanicked => "AcquisitionPanicked"

/-- What the command line asks for. -/
structure RunOptions where
  showHelp : Bool := false
  runSeconds : Option Nat := none
  protocol : Option Protocol := none
  motors : Nat := 4
  configPath : Option String := none
  halfDuplex : Bool := false
  updateHz : Option UInt16 := none
  jsonLogs : Bool := false
  logDir : Option String := none
  metricsAddr : Option String := none
  dropRate : Float32 := 0.0
  corruptRate : Float32 := 0.0
  seed : UInt32 := 0x5EED
  /-- Problems found while reading, reported once logging is up. -/
  warnings : Array String := #[]

namespace RunOptions

/-- The largest 64-bit word. -/
def wordMax : Nat := UInt64.size - 1

/-- A rate: a single-precision number from 0 to 1. -/
def parseRate (s : String) : Option Float32 :=
  (parseFloat32 s).filter fun r => 0.0 ≤ r && r ≤ 1.0

/-- Apply the option `flag` with its value `value`; `none` when `flag` takes no value. -/
def withValue (o : RunOptions) (flag value : String) : Option RunOptions :=
  match flag with
  | "--run-seconds" => some { o with runSeconds := Text.parseUnsigned wordMax value }
  | "--protocol" => some <| match Protocol.ofText value with
    | .ok p => { o with protocol := some p }
    | .error w => { o with warnings := o.warnings.push w }
  | "--motors" => some { o with motors := (Text.parseUnsigned wordMax value).getD o.motors }
  | "--config" => some { o with configPath := some value }
  | "--update-hz" =>
    some { o with updateHz := (Text.parseUnsigned 65535 value).map Nat.toUInt16 }
  | "--log-dir" => some { o with logDir := some value }
  | "--metrics-addr" => some { o with metricsAddr := some value }
  | "--drop-rate" => some { o with dropRate := (parseRate value).getD o.dropRate }
  | "--corrupt-rate" => some { o with corruptRate := (parseRate value).getD o.corruptRate }
  | "--seed" =>
    some { o with seed := ((Text.parseUnsigned (UInt32.size - 1) value).map Nat.toUInt32).getD o.seed }
  | _ => none

/-- The options that take a value. -/
def valueFlags : List String :=
  ["--run-seconds", "--protocol", "--motors", "--config", "--update-hz", "--log-dir",
    "--metrics-addr", "--drop-rate", "--corrupt-rate", "--seed"]

/-- Read arguments (without the program name) into options. -/
def readArgs (o : RunOptions) : List String → RunOptions
  | [] => o
  | arg :: rest =>
    if arg = "--help" ∨ arg = "-h" then { o with showHelp := true }
    else if arg = "--half-duplex" then readArgs { o with halfDuplex := true } rest
    else if arg = "--json-logs" then readArgs { o with jsonLogs := true } rest
    else if valueFlags.contains arg then
      match rest with
      | value :: rest' => readArgs ((o.withValue arg value).getD o) rest'
      | [] => o
    else readArgs { o with warnings := o.warnings.push ("ignoring unknown argument '" ++ arg ++ "'") } rest

@[simp]
theorem readArgs_nil (o : RunOptions) : o.readArgs [] = o := rfl

/-- `--help` ends the reading, whatever follows. -/
theorem readArgs_help (o : RunOptions) (rest : List String) :
    o.readArgs ("--help" :: rest) = { o with showHelp := true } := by
  rw [readArgs.eq_def]
  simp

/-- `-h` ends the reading, whatever follows. -/
theorem readArgs_short_help (o : RunOptions) (rest : List String) :
    o.readArgs ("-h" :: rest) = { o with showHelp := true } := by
  rw [readArgs.eq_def]
  simp

/-- An option that takes a value is ignored as the last argument. -/
theorem readArgs_last_flag (o : RunOptions) {flag : String} (h : flag ∈ valueFlags) :
    o.readArgs [flag] = o := by
  have hh : flag ≠ "--help" ∧ flag ≠ "-h" ∧ flag ≠ "--half-duplex" ∧ flag ≠ "--json-logs" := by
    simp only [valueFlags, List.mem_cons, List.not_mem_nil, or_false] at h
    rcases h with rfl | rfl | rfl | rfl | rfl | rfl | rfl | rfl | rfl | rfl <;> decide
  rw [readArgs.eq_def]
  simp [hh, h]

/-- The options of a command line whose first word is the program name. -/
def ofArgs (args : List String) : RunOptions := readArgs {} args.tail

/-- The sensor settings: the settings file if one is named, then the command line's
protocol, half-duplex flag and update rate, then validation. -/
def sensorConfig (o : RunOptions) (read : String → Except FileError String) :
    Except RunError SensorConfig := do
  let base ← match o.configPath with
    | some path => match read path with
      | .error e => throw (.configRead path e)
      | .ok text => match SensorConfig.ofJsonText text with
        | .ok c => pure c
        | .error e => throw (.config e)
    | none => pure {}
  let c := { base with
    protocol := o.protocol.getD base.protocol,
    halfDuplex := o.halfDuplex || base.halfDuplex,
    updateHz := o.updateHz.getD base.updateHz }
  match c.validate with
  | .ok () => pure c
  | .error e => throw (.config e)

/-- The help text. -/
def helpText : String :=
  "esc-sensor - ESC telemetry acquisition over KISS or Hobbywing V4

USAGE:
    esc-sensor [OPTIONS]

OPTIONS:
    --protocol <NAME>       Telemetry protocol (kiss|hw4) [default: kiss]
    --motors <N>            Number of simulated motors (1-8) [default: 4]
    --config <PATH>         Load sensor configuration from a JSON file
    --half-duplex           Share one wire for TX and RX
    --update-hz <HZ>        Telemetry tick rate [default: 100]
    --run-seconds <SECS>    Run for a fixed duration then exit
    --json-logs             Output logs in JSON format (for log aggregation)
    --log-dir <PATH>        Also write logs to a daily rolling file in PATH
    --metrics-addr <ADDR>   Enable Prometheus metrics server on address (e.g., 0.0.0.0:9090)
    --drop-rate <0-1>       Fraction of simulated replies/packets lost
    --corrupt-rate <0-1>    Fraction of simulated replies/packets damaged
    --seed <N>              Seed for the simulated fault generator
    -h, --help              Print this help message

ENVIRONMENT VARIABLES:
    RUST_LOG                Set log filter (e.g., RUST_LOG=debug,esc_core=trace)

EXAMPLES:
    # Four KISS ESCs with metrics
    esc-sensor --motors 4 --metrics-addr 0.0.0.0:9090

    # Hobbywing V4 on a noisy link
    esc-sensor --protocol hw4 --corrupt-rate 0.05 --run-seconds 10

"

end RunOptions

end EscTelemetry
