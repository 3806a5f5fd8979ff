import EscTelemetry.Store
import EscTelemetry.Debug
import EscTelemetry.Link

/-!
# What a tick touches besides its engine

A protocol engine's tick changes its own state and also the motor driver (requests), the
record store, the debug channels and the log. `Effects` bundles those four so that an
engine step is a function from an engine state and an `Effects` to new ones.
-/

namespace EscTelemetry

/-- The driver, records, debug channels and log records a tick writes to. -/
structure Effects (δ : Type) where
  driver : δ
  store : Store
  debug : DebugChannels
  log : Array LogRecord := #[]

namespace Effects

variable {δ : Type}

/-- Append a log record. -/
def emit (e : Effects δ) (level : Level) (target message : String) : Effects δ :=
  { e with log := e.log.push ⟨level, target, message⟩ }

/-- Change the record store. -/
def withStore (e : Effects δ) (f : Store → Store) : Effects δ :=
  { e with store := f e.store }

/-- Change the debug channels. -/
def withDebug (e : Effects δ) (f : DebugChannels → DebugChannels) : Effects δ :=
  { e with debug := f e.debug }

end Effects

end EscTelemetry
