import EscTelemetry.JsonText.Error

/-!
# Sensor settings

The sensor is set up once: which protocol it speaks, whether one wire carries both
directions, the tick rate, and the Hobbywing current and voltage calibration (in tenths,
as the flight controller stores them). Settings are refused when the current gain or the
tick rate is zero, the gain being checked first.

`portOptions` says how the serial port has to be opened for the chosen protocol, and
`Protocol.ofText` reads a protocol name in any ASCII case.
-/

namespace EscTelemetry

/-- The telemetry protocols. -/
inductive Protocol where
  /-- Request and response, 10-byte frames with a CRC. -/
  | kiss
  /-- Hobbywing V4: a free-running stream of 19-byte packets. -/
  | hw4
deriving DecidableEq, Repr, Inhabited

namespace Protocol

/-- The lower-case name, as in settings files. -/
def name : Protocol → String
  | .kiss => "kiss"
  | .hw4 => "hw4"

/-- The capitalised name used in log messages. -/
def title : Protocol → String
  | .kiss => "Kiss"
  | .hw4 => "Hw4"

/-- Read a protocol name, ignoring ASCII case; an unknown name is refused with its
lower-cased spelling. -/
def ofText (s : String) : Except String Protocol :=
  let lower := String.ofList (s.toList.map Char.toLower)
  if lower = "kiss" then .ok .kiss
  else if lower = "hw4" then .ok .hw4
  else .error ("unknown esc sensor protocol '" ++ lower ++ "'")

end Protocol

/-- The tick rate when none is given, in hertz. -/
def defaultUpdateHz : UInt16 := 100

/-- Static telemetry settings. -/
structure SensorConfig where
  protocol : Protocol := .kiss
  halfDuplex : Bool := false
  updateHz : UInt16 := defaultUpdateHz
  hw4CurrentOffset : UInt16 := 15
  hw4CurrentGain : UInt16 := 100
  hw4VoltageGain : UInt16 := 110
deriving DecidableEq, Repr, Inhabited

/-- Why settings were refused. -/
inductive ConfigError where
  | zeroCurrentGain
  | zeroUpdateRate
  /-- The settings text could not be read. -/
  | parse (e : JsonText.Error)
deriving DecidableEq, Repr

namespace ConfigError

/-- The text of a refusal. -/
def message : ConfigError → String
  | .zeroCurrentGain => "hw4 current gain must be non-zero"
  | .zeroUpdateRate => "update rate must be non-zero"
  | .parse e => "invalid esc sensor config: " ++ e.render

/-- The name of the kind of refusal. -/
def kind : ConfigError → String
  | .zeroCurrentGain => "ZeroCurrentGain"
  | .zeroUpdateRate => "ZeroUpdateRate"
  | .parse _ => "Parse"

end ConfigError

/-- Refuse settings with a zero current gain, then settings with a zero tick rate. -/
def SensorConfig.validate (c : SensorConfig) : Except ConfigError Unit :=
  if c.hw4CurrentGain = 0 then .error .zeroCurrentGain
  else if c.updateHz = 0 then .error .zeroUpdateRate
  else .ok ()

/-- How the transport opens the serial port. -/
structure PortOptions where
  baudRate : Nat
  stopBits : Nat
  parity : Bool
  inverted : Bool
  bidirectional : Bool
  /-- KISS bytes are pushed from the receive interrupt; Hobbywing is polled. -/
  rxCallback : Bool
deriving DecidableEq, Repr

/-- The port settings a protocol needs: 115200 baud for KISS, 19200 for Hobbywing, one
stop bit, no parity, not inverted, one wire for both directions when half duplex. -/
def portOptions (c : SensorConfig) : PortOptions :=
  match c.protocol with
  | .kiss => ⟨115200, 1, false, false, c.halfDuplex, true⟩
  | .hw4 => ⟨19200, 1, false, false, c.halfDuplex, false⟩

end EscTelemetry
