import EscTelemetry.Command.Options
import EscTelemetry.Command.LogFilter
import EscTelemetry.Metrics.Publisher
import EscTelemetry.Bench.Run

/-!
# A run of the sensor program

What the program does with its command line, as far as it can be told without a clock:

* asked for help, it prints the help text and succeeds;
* otherwise it sets up logging (failing if the log directory cannot be made), reports the
  warnings of the command line, builds the sensor settings, announces the metrics server
  if an address is given, opens the simulated link, starts the acquisition loop, and, for
  a limited run, says for how long; at the end it reports the final snapshot in a
  "Run complete" record;
* a failure is logged as "esc-sensor failed" with the error, written to standard error
  after the program's name, and the exit code is 1.

The acquisition loop runs on the wall clock; `runProgram` describes a run in which its
ticks do not change what is reported (a KISS run stops within the 5 s boot window, when
no request has gone out yet). Records pass through the log filter of the environment;
they are kept with typed fields, in the order they are made.
-/

namespace EscTelemetry

/-- The value of a field of a log record. -/
inductive FieldValue where
  | text (s : String)
  | number (n : Int)
  | flag (b : Bool)

/-- A structured log record. -/
structure Event where
  level : Level
  target : String
  fields : List (String × FieldValue)
  /-- Names of further fields the record carries, which reports leave out. -/
  carried : List String := []

/-- The names of all fields of a record, as field filters see them. -/
def Event.fieldNames (e : Event) : List String :=
  e.fields.map (·.1) ++ e.carried

/-- The fields a record from the library's log facade carries besides its message: where
it was made. -/
def facadeFields : List String := ["log.target", "log.module_path", "log.file", "log.line"]

/-- The target of the program's own records. -/
def appTarget : String := "esc_sensor::runtime::app"

/-- The target of the metrics set-up records. -/
def telemetryTarget : String := "esc_sensor::runtime::telemetry"

/-- The target of the program's failure record. -/
def programTarget : String := "esc_sensor"

/-- A record with just a message. -/
def Event.note (level : Level) (target message : String) : Event :=
  ⟨level, target, [("message", .text message)], []⟩

/-- The outside world a run sees. -/
structure Environment where
  /-- The log filter text, if the environment sets one. -/
  logFilter : Option String := none
  /-- Read a settings file. -/
  readText : String → Except FileError String
  /-- Make a directory and its parents. -/
  createDirAll : String → Except FileError Unit

/-- What a run leaves behind. -/
structure Outcome where
  exitCode : Nat
  /-- What was printed on standard output other than log records. -/
  stdout : String
  stderr : String
  /-- The log records that passed the filter, in order. -/
  events : List Event

/-- The records of a run that starts, up to and including its final report. -/
def startedRecords (o : RunOptions) (c : SensorConfig) : List Event :=
  let opts := portOptions c
  let metrics := match o.metricsAddr with
    | some addr => [⟨.info, telemetryTarget, [("message", .text "Starting metrics server"),
        ("addr", .text addr)], []⟩]
    | none => []
  let opening : Event := ⟨.info, appTarget, [("message", .text "Opening simulated ESC telemetry link"),
    ("protocol", .text c.protocol.title), ("baud_rate", .number opts.baudRate),
    ("bidirectional", .flag opts.bidirectional), ("rx_callback", .flag opts.rxCallback),
    ("update_hz", .number c.updateHz.toNat)], []⟩
  let faults : FaultProfile := ⟨o.dropRate, o.corruptRate⟩
  let toEvent (r : LogRecord) : Event :=
    { Event.note r.level r.target r.message with carried := facadeFields }
  let (link, final) : List Event × Snapshot := match c.protocol with
    | .kiss =>
      let bus := (KissBus.new (max 1 (min o.motors maxMotors))).withFaults faults o.seed
      let (b, record) := KissBench.new c bus true true 0
      let (_, snap) := Snapshot.capture b.sensor
      ([toEvent record], snap)
    | .hw4 =>
      let warn : List Event := if o.motors > 1 then
          [⟨.warn, appTarget, [("message",
            .text "Hobbywing V4 reports a single ESC; extra motors are ignored"),
            ("motors", .number o.motors)], []⟩]
        else []
      let esc := (Hw4Esc.cruising.withFaults faults o.seed).withSignatureEvery 50
      let (b, record) := Hw4Bench.new c { count := 1 } esc true 0
      let (_, snap) := Snapshot.capture b.sensor
      (warn ++ [toEvent record], snap)
  let limited := match o.runSeconds with
    | some s => [⟨.info, appTarget, [("message", .text "Running for limited duration"),
        ("seconds", .number s)], []⟩]
    | none => []
  let complete : Event := ⟨.info, appTarget, [("message", .text "Run complete"),
    ("ticks_executed", .number 0), ("ticks_missed", .number 0),
    ("frames_decoded", .number final.stats.framesDecoded.toNat),
    ("timeouts", .number final.stats.timeouts.toNat),
    ("crc_errors", .number final.stats.crcErrors.toNat),
    ("data_age", .number final.combined.dataAge.toNat),
    ("voltage", .number final.combined.voltage.toInt),
    ("current", .number final.combined.current.toInt),
    ("consumption", .number final.combined.consumption.toInt),
    ("rpm", .number final.combined.rpm.toInt)], []⟩
  metrics ++ [opening] ++ link ++ [.note .info appTarget "esc-sensor running"] ++ limited ++
    [complete]

/-- Run the program with its arguments (the first being its name). -/
def runProgram (args : List String) (env : Environment) : Outcome :=
  let o := RunOptions.ofArgs args
  if o.showHelp then ⟨0, RunOptions.helpText, "", []⟩
  else
    let filter := LogFilter.ofEnv env.logFilter
    let pass (es : List Event) := es.filter fun e => filter.allows e.level e.target e.fieldNames
    let fail (logged : Bool) (prior : List Event) (e : RunError) : Outcome :=
      let failure : Event := ⟨.error, programTarget, [("message", .text "esc-sensor failed"),
        ("error", .text e.message)], []⟩
      ⟨1, "", "esc-sensor: " ++ e.message ++ "\n",
        if logged then pass (prior ++ [failure]) else []⟩
    let logDirReady := match o.logDir with
      | some dir => (env.createDirAll dir).mapError (RunError.logDir dir)
      | none => .ok ()
    match logDirReady with
    | .error e => fail false [] e
    | .ok () =>
      let warnings := o.warnings.toList.map (Event.note .warn appTarget)
      match o.sensorConfig env.readText with
      | .error e => fail true warnings e
      | .ok c => ⟨0, "", "", pass (warnings ++ startedRecords o c)⟩

end EscTelemetry
