/-!
# Log records

The engines report what they do as log records: a severity, the module that speaks
(`esc_core::kiss` and the like) and a message. Records are values here, returned next to
the state they describe; the command line decides which of them to print.
-/

namespace EscTelemetry

/-- Severity of a log record, most severe first. -/
inductive Level where
  | error
  | warn
  | info
  | debug
  | trace
deriving DecidableEq, Repr

namespace Level

/-- The upper-case name of a level. -/
def name : Level → String
  | .error => "ERROR"
  | .warn => "WARN"
  | .info => "INFO"
  | .debug => "DEBUG"
  | .trace => "TRACE"

/-- Verbosity rank: 1 for errors up to 5 for trace. -/
def rank : Level → Nat
  | .error => 1
  | .warn => 2
  | .info => 3
  | .debug => 4
  | .trace => 5

end Level

/-- One log record. -/
structure LogRecord where
  level : Level
  target : String
  message : String
deriving DecidableEq, Repr

/-- The module names that speak in the core's log records. -/
def kissTarget : String := "esc_core::kiss"
def hw4Target : String := "esc_core::hw4"
def sensorTarget : String := "esc_core::sensor"

end EscTelemetry
