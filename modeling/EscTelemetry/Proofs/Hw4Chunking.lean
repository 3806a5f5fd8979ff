import EscTelemetry.Proofs.Hw4Freshness
import Mathlib

/-!
# Hobbywing packets do not depend on how the stream is cut

A tick of the decoder reads what the port has, up to the count it reported, and feeds every
byte through the synchroniser, handling each packet as soon as it is complete. Handling a
packet never looks at the synchroniser, so the same tick is: read the bytes
(`SerialPort.readUpTo`), feed them all, then hand the packets they complete, in order, to
`Hw4Decoder.handleAll` (`Hw4Decoder.drain_eq`).

The synchroniser stays in the decoder from one tick to the next, so a packet that a tick
boundary cuts is completed by the next tick. Over every run on a tapped port
(`packets_independent_of_chunking`), with `S` every byte read so far: the decoder's
synchroniser is one fed `S` from the start, its counters are those of handing the packets that
synchroniser emits, in order, to a new decoder, so the packets decoded and refused add up to
the packets emitted, and record 0 shows the measurements of the last plausible one. None of it
depends on the tick times or on how `S` was cut into ticks.
-/

set_option linter.unusedSectionVars false

namespace EscTelemetry

/-! ## Reading the port -/

/-- The bytes a drain of at most `budget` bytes reads, stopping at the first read that finds
none, and the port after. -/
def SerialPort.readUpTo {π : Type} [SerialPort π] : Nat → π → List UInt8 × π
  | 0, port => ([], port)
  | budget + 1, port =>
    match SerialPort.readByte port with
    | (none, port) => ([], port)
    | (some b, port) => (b :: (readUpTo budget port).1, (readUpTo budget port).2)

/-- A tapped port keeps what a drain reads from it. -/
theorem Tapped.read_readUpTo {π : Type} [SerialPort π] (budget : Nat) (t : Tapped π) :
    (SerialPort.readUpTo budget t).2.read = t.read ++ (SerialPort.readUpTo budget t).1 := by
  induction budget generalizing t with
  | zero => simp [SerialPort.readUpTo]
  | succ budget ih =>
    rw [SerialPort.readUpTo, Tapped.readByte_eq]
    rcases SerialPort.readByte t.port with ⟨_ | b, p⟩
    · rfl
    · simp [ih]

/-! ## The packets a byte sequence completes -/

namespace Synchronizer

/-- The packets that feeding `bytes` from `s` completes, in order. -/
def emitted (s : Synchronizer) (bytes : List UInt8) : List (Vector UInt8 19) :=
  (s.feed bytes).2.packets.toList.map Prod.snd

@[simp]
theorem emitted_nil (s : Synchronizer) : s.emitted [] = [] := rfl

theorem emitted_cons (s : Synchronizer) (b : UInt8) (bytes : List UInt8) :
    s.emitted (b :: bytes) = (s.push b).2.toList ++ (s.push b).1.emitted bytes := by
  simp only [emitted, packets_feed_cons]
  cases (s.push b).2 <;> simp [Function.comp_def]

/-- Feeding a sequence in two parts emits the packets of the first part, then those the second
part completes from where the first left the synchroniser. -/
theorem emitted_append (s : Synchronizer) (xs ys : List UInt8) :
    s.emitted (xs ++ ys) = s.emitted xs ++ (s.feed xs).1.emitted ys := by
  simp [emitted, packets_feed_append, Function.comp_def]

end Synchronizer

/-! ## What a packet leaves behind -/

/-- Whether a packet passes the plausibility check. -/
def Hw4Packet.passes (raw : Vector UInt8 19) : Bool := (Hw4Packet.parse raw).isOk

/-- The measurements a record shows: temperature, voltage, current and eRPM, leaving out its
age and the consumption. -/
def EscSample.measured (r : EscSample) : Int16 × Int32 × Int32 × Int32 :=
  (r.temperature, r.voltage, r.current, r.rpm)

/-- The measurements of the last plausible packet of a list, converted with the calibration
`cal`, or `before` if none is plausible. -/
def lastMeasured (cal : Hw4Calibration) (before : Int16 × Int32 × Int32 × Int32)
    (packets : List (Vector UInt8 19)) : Int16 × Int32 × Int32 × Int32 :=
  (((packets.filterMap fun raw => (Hw4Packet.parse raw).toOption).getLast?).map
    fun q => ((Hw4Telemetry.convert q cal).reading 0).toSample.measured).getD before

/-- The last plausible packet of two lists is the second's, if it has one. -/
theorem lastMeasured_append (cal : Hw4Calibration) (before : Int16 × Int32 × Int32 × Int32)
    (xs ys : List (Vector UInt8 19)) :
    lastMeasured cal before (xs ++ ys) = lastMeasured cal (lastMeasured cal before xs) ys := by
  simp only [lastMeasured, List.filterMap_append, List.getLast?_append]
  cases (ys.filterMap fun raw => (Hw4Packet.parse raw).toOption).getLast? <;> rfl

/-- Ageing a record leaves its measurements. -/
@[simp]
theorem EscSample.measured_aged (r : EscSample) : r.aged.measured = r.measured := rfl

namespace Store

/-- A new consumption leaves record 0's measurements. -/
@[simp]
theorem measured_primary_setConsumption (s : Store) (c : Int32) :
    (s.setConsumption 0 c).primary.measured = s.primary.measured := by
  unfold setConsumption
  rw [dif_pos (by decide)]
  dsimp only
  split
  · rfl
  · unfold primary
    rw [Vector.getElem_set_self]
    rfl

end Store

/-! ## A tick, packet by packet -/

namespace Hw4Decoder

variable {δ : Type}

/-- Hand packets to `handlePacket`, in order, at one time. -/
def handleAll (d : Hw4Decoder) (nowUs : Nat) :
    List (Vector UInt8 19) → Effects δ → Hw4Decoder × Effects δ
  | [], e => (d, e)
  | raw :: rest, e =>
    (d.handlePacket raw nowUs e).1.handleAll nowUs rest (d.handlePacket raw nowUs e).2

/-- Handling a packet does not look at the synchroniser. -/
theorem handlePacket_withSync (d : Hw4Decoder) (s : Synchronizer) (raw : Vector UInt8 19)
    (nowUs : Nat) (e : Effects δ) :
    { d with sync := s }.handlePacket raw nowUs e =
      ({ (d.handlePacket raw nowUs e).1 with sync := s }, (d.handlePacket raw nowUs e).2) := by
  unfold handlePacket
  split <;> rfl

@[simp]
theorem sync_handleAll (d : Hw4Decoder) (nowUs : Nat) (packets : List (Vector UInt8 19))
    (e : Effects δ) : (d.handleAll nowUs packets e).1.sync = d.sync := by
  induction packets generalizing d e with
  | nil => rfl
  | cons raw rest ih => rw [handleAll, ih, (handlePacket_spec d raw nowUs e).1]

theorem calibration_handlePacket (d : Hw4Decoder) (raw : Vector UInt8 19) (nowUs : Nat)
    (e : Effects δ) : (d.handlePacket raw nowUs e).1.calibration = d.calibration := by
  unfold handlePacket
  split <;> rfl

/-- A plausible packet counts as decoded, any other as a CRC error. -/
theorem stats_handlePacket (d : Hw4Decoder) (raw : Vector UInt8 19) (nowUs : Nat)
    (e : Effects δ) :
    (d.handlePacket raw nowUs e).1.stats = if Hw4Packet.passes raw then
      { d.stats with framesDecoded := d.stats.framesDecoded + 1 }
      else { d.stats with crcErrors := d.stats.crcErrors + 1 } := by
  unfold handlePacket Hw4Packet.passes
  cases Hw4Packet.parse raw <;> rfl

/-- A plausible packet shows its measurements in record 0; any other leaves it. -/
theorem measured_handlePacket (d : Hw4Decoder) (raw : Vector UInt8 19) (nowUs : Nat)
    (e : Effects δ) :
    (d.handlePacket raw nowUs e).2.store.primary.measured =
      lastMeasured d.calibration e.store.primary.measured [raw] := by
  unfold handlePacket lastMeasured
  cases hp : Hw4Packet.parse raw with
  | error err => simp [hp, Except.toOption, Effects.withDebug, Effects.emit]
  | ok q =>
    simp only [Effects.withStore, Effects.withDebug, Effects.emit, Store.primary_update_zero,
      List.filterMap_cons, List.filterMap_nil, hp, Except.toOption, List.getLast?_singleton,
      Option.map_some, Option.getD_some]
    rfl

@[simp]
theorem calibration_handleAll (d : Hw4Decoder) (nowUs : Nat) (packets : List (Vector UInt8 19))
    (e : Effects δ) : (d.handleAll nowUs packets e).1.calibration = d.calibration := by
  induction packets generalizing d e with
  | nil => rfl
  | cons raw rest ih => rw [handleAll, ih, calibration_handlePacket]

/-- Handling packets counts the plausible ones as decoded and the others as CRC errors. -/
theorem stats_handleAll (d : Hw4Decoder) (nowUs : Nat) (packets : List (Vector UInt8 19))
    (e : Effects δ) :
    (d.handleAll nowUs packets e).1.stats = { d.stats with
      framesDecoded := d.stats.framesDecoded + UInt32.ofNat (packets.countP Hw4Packet.passes)
      crcErrors := d.stats.crcErrors +
        UInt32.ofNat (packets.countP fun raw => !Hw4Packet.passes raw) } := by
  induction packets generalizing d e with
  | nil => simp [handleAll]
  | cons raw rest ih =>
    rw [handleAll, ih, stats_handlePacket, List.countP_cons, List.countP_cons]
    cases Hw4Packet.passes raw <;> simp [UInt32.add_assoc, UInt32.add_comm 1]

/-- After handling packets, record 0 shows the measurements of the last plausible one. -/
theorem measured_handleAll (d : Hw4Decoder) (nowUs : Nat) (packets : List (Vector UInt8 19))
    (e : Effects δ) :
    (d.handleAll nowUs packets e).2.store.primary.measured =
      lastMeasured d.calibration e.store.primary.measured packets := by
  induction packets generalizing d e with
  | nil => rfl
  | cons raw rest ih =>
    rw [handleAll, ih, calibration_handlePacket, measured_handlePacket, ← lastMeasured_append]
    rfl

/-- A drain reads the bytes, feeds them all through the synchroniser, and hands the packets
they complete, in order, to `handlePacket`. -/
theorem drain_eq {π : Type} [SerialPort π] (d : Hw4Decoder) (nowUs budget : Nat) (port : π)
    (e : Effects δ) :
    d.drain nowUs budget port e =
      let bytes := (SerialPort.readUpTo budget port).1
      let r := { d with sync := (d.sync.feed bytes).1 }.handleAll nowUs (d.sync.emitted bytes) e
      (r.1, (SerialPort.readUpTo budget port).2, r.2) := by
  induction budget generalizing d port e with
  | zero => rfl
  | succ budget ih =>
    rw [drain, SerialPort.readUpTo]
    rcases SerialPort.readByte port with ⟨_ | b, p⟩
    · rfl
    dsimp only
    rw [Synchronizer.fst_feed_cons, Synchronizer.emitted_cons]
    cases hout : (d.sync.push b).2 with
    | none => simp only [ih, Option.toList_none, List.nil_append]
    | some raw =>
      simp only [ih, Option.toList_some, List.singleton_append, handleAll, handlePacket_withSync]

variable {ρ : Type} [SerialPort ρ]

/-- A tick reads some bytes from the port. Whatever its time, it leaves the synchroniser as if
they were fed to it, and the counters and record 0's measurements as handing the packets they
complete to the decoder, in order, leaves them. -/
theorem process_packets (d : Hw4Decoder) (nowUs : Nat) (port : ρ) (e : Effects δ) :
    let bytes := (SerialPort.readUpTo (SerialPort.bytesWaiting port) port).1
    let packets := d.sync.emitted bytes
    (d.process nowUs port e).2.1 = (SerialPort.readUpTo (SerialPort.bytesWaiting port) port).2 ∧
    (d.process nowUs port e).1.sync = (d.sync.feed bytes).1 ∧
    (d.process nowUs port e).1.calibration = d.calibration ∧
    (d.process nowUs port e).1.stats = (d.handleAll nowUs packets e).1.stats ∧
    (d.process nowUs port e).2.2.store.primary.measured =
      (d.handleAll nowUs packets e).2.store.primary.measured := by
  intro bytes packets
  unfold process
  by_cases hage : hw4DataAgeWindowUs < nowUs - d.dataUpdateUs
  · simp only [gt_iff_lt, if_pos hage, drain_eq]
    simp [stats_handleAll, measured_handleAll, Effects.withStore, Effects.withDebug, bytes,
      packets]
  · simp only [gt_iff_lt, if_neg hage, drain_eq]
    simp [stats_handleAll, measured_handleAll, Effects.withStore, Effects.withDebug, bytes,
      packets]

end Hw4Decoder

/-! ## Runs -/

namespace Sensor

variable {δ π : Type} [MotorDriver δ] [SerialPort π]

/-- A change to the port below the tap keeps what was read. -/
theorem readLog_tapCall_port (s : Sensor δ (Tapped π)) (f : π → π) :
    (s.tapCall (.port f)).readLog = s.readLog := by
  cases hp : s.port <;> simp [tapCall, withPort, readLog, hp]

/-- The Hobbywing decoder `d` of a sensor on a tapped port is accounted for by one synchroniser
fed every byte read so far, from the start: the decoder's synchroniser is that one, its
counters count the packets that one emits, plausible and not, and record 0 shows the
measurements of the last plausible one, converted with the calibration `cal`. -/
structure Reassembled (cal : Hw4Calibration) (s : Sensor δ (Tapped π)) (d : Hw4Decoder) :
    Prop where
  engine : s.engine = .hw4 d
  calibration : d.calibration = cal
  sync : d.sync = (Synchronizer.idle.feed s.readLog).1
  stats : d.stats =
    { framesDecoded := UInt32.ofNat ((Synchronizer.idle.emitted s.readLog).countP Hw4Packet.passes)
      crcErrors := UInt32.ofNat
        ((Synchronizer.idle.emitted s.readLog).countP fun raw => !Hw4Packet.passes raw) }
  measured : s.store.primary.measured =
    lastMeasured cal EscSample.invalid.measured (Synchronizer.idle.emitted s.readLog)

/-- A new Hobbywing sensor on a port nothing was read from has seen no packet. -/
theorem reassembled_new (c : SensorConfig) (hc : c.protocol = .hw4) (d : δ) (port : π) :
    Reassembled ⟨c.hw4CurrentOffset, c.hw4CurrentGain, c.hw4VoltageGain⟩
      (Sensor.new c d (some ({ port } : Tapped π))).1
      { calibration := ⟨c.hw4CurrentOffset, c.hw4CurrentGain, c.hw4VoltageGain⟩ } where
  engine := by simp [new, Engine.ofConfig, hc]
  calibration := rfl
  sync := rfl
  stats := rfl
  measured := rfl

/-- Every call keeps the decoder accounted for: a tick appends what it read to the bytes read
and the packets they complete to those emitted, and every other call changes neither the
decoder, nor record 0, nor the bytes read. -/
theorem Reassembled.call {cal : Hw4Calibration} {s : Sensor δ (Tapped π)} {d : Hw4Decoder}
    (h : Reassembled cal s d) (c : Call δ π) : ∃ d', Reassembled cal (s.tapCall c) d' := by
  cases c with
  | process t =>
    by_cases hrun : s.Processed
    · obtain ⟨hport, hon⟩ := hrun
      obtain ⟨port, hp⟩ := Option.isSome_iff_exists.mp hport
      obtain ⟨hport', hsync, hcal, hstats, hmeasured⟩ := d.process_packets t port s.effects
      have hcall := process_of_hw4 h.engine hp hon t
      set bytes := (SerialPort.readUpTo (SerialPort.bytesWaiting port) port).1
      have hlog : (s.tapCall (.process t)).readLog = s.readLog ++ bytes := by
        simp [tapCall, hcall, readLog, hp, hport', Tapped.read_readUpTo, bytes]
      have hemit : Synchronizer.idle.emitted (s.tapCall (.process t)).readLog =
          Synchronizer.idle.emitted s.readLog ++ d.sync.emitted bytes := by
        rw [hlog, Synchronizer.emitted_append, ← h.sync]
      refine ⟨_, ⟨by simp [tapCall, hcall], hcal.trans h.calibration, ?_, ?_, ?_⟩⟩
      · rw [hsync, hlog, Synchronizer.fst_feed_append, h.sync]
      · rw [hstats, hemit, Hw4Decoder.stats_handleAll, h.stats]
        simp [List.countP_append]
      · have hstore : (s.tapCall (.process t)).store = (d.process t port s.effects).2.2.store := by
          simp [tapCall, hcall, absorb]
        rw [hstore, hmeasured, hemit, Hw4Decoder.measured_handleAll, lastMeasured_append,
          h.calibration]
        exact congrArg (lastMeasured cal · _) h.measured
    · rw [show s.tapCall (.process t) = s from process_of_not_processed hrun t]
      exact ⟨d, h⟩
  | receive b => exact ⟨d, by simpa [tapCall, receive, h.engine] using h⟩
  | sample i => exact ⟨d, by simpa [tapCall, sample, h.engine] using h⟩
  | driver f => exact ⟨d, h.engine, h.calibration, h.sync, h.stats, h.measured⟩
  | port f =>
    have hlog := readLog_tapCall_port s f
    exact ⟨d, h.engine, h.calibration, hlog ▸ h.sync, hlog ▸ h.stats, hlog ▸ h.measured⟩

theorem Reassembled.run {cal : Hw4Calibration} {s : Sensor δ (Tapped π)} {d : Hw4Decoder}
    (h : Reassembled cal s d) (calls : List (Call δ π)) :
    ∃ d', Reassembled cal (s.tapRun calls) d' := by
  induction calls generalizing s d with
  | nil => exact ⟨d, h⟩
  | cons c calls ih =>
    obtain ⟨d', h'⟩ := h.call c
    exact ih h'

/-- Over every run of a Hobbywing sensor on a tapped port, whatever the tick times and however
the bytes read so far, `S`, were cut into ticks: the decoder's synchroniser is one fed `S` from
the start; its counters are those a new decoder reaches when handed, in order, the packets
that synchroniser emits, so the packets decoded and the CRC errors add up, modulo 2³², to the
packets emitted, and the packets decoded are the plausible ones; and record 0 shows the
temperature, voltage, current and eRPM of the last plausible packet, or the invalid record's
if there is none. -/
theorem packets_independent_of_chunking (c : SensorConfig) (hc : c.protocol = .hw4) (d : δ)
    (port : π) (calls : List (Call δ π)) :
    let s₀ := (Sensor.new c d (some ({ port } : Tapped π))).1
    let s := s₀.tapRun calls
    let cal : Hw4Calibration := ⟨c.hw4CurrentOffset, c.hw4CurrentGain, c.hw4VoltageGain⟩
    let packets := Synchronizer.idle.emitted s.readLog
    ∃ dec, s.engine = .hw4 dec ∧ dec.sync = (Synchronizer.idle.feed s.readLog).1 ∧
      dec.stats = (({ calibration := cal } : Hw4Decoder).handleAll 0 packets s₀.effects).1.stats ∧
      (dec.stats.framesDecoded + dec.stats.crcErrors).toNat = packets.length % 2 ^ 32 ∧
      dec.stats.framesDecoded.toNat = packets.countP Hw4Packet.passes % 2 ^ 32 ∧
      s.store.primary.measured =
        (((packets.filterMap fun raw => (Hw4Packet.parse raw).toOption).getLast?).map
          fun q => ((Hw4Telemetry.convert q cal).reading 0).toSample.measured).getD
          EscSample.invalid.measured := by
  intro s₀ s cal packets
  obtain ⟨dec, h⟩ := (reassembled_new c hc d port).run calls
  have hsplit : packets.countP Hw4Packet.passes +
      packets.countP (fun raw => !Hw4Packet.passes raw) = packets.length := by
    rw [List.length_eq_countP_add_countP Hw4Packet.passes]
    simp
  refine ⟨dec, h.engine, h.sync, ?_, ?_, ?_, h.measured⟩
  · rw [h.stats, Hw4Decoder.stats_handleAll]
    simp [packets, s, s₀]
  · rw [h.stats, ← UInt32.ofNat_add, hsplit, UInt32.toNat_ofNat']
  · rw [h.stats, UInt32.toNat_ofNat']

/-- A packet cut in two by a tick boundary: its second half reaches the port between the
ticks. -/
theorem packets_independent_of_chunking_split_packet :
    ({ protocol := .hw4 } : SensorConfig).protocol = .hw4 ∧
    let s₀ := (Sensor.new ({ protocol := .hw4 } : SensorConfig) ({ count := 1 } : SimulatedMotors)
      (some ({ port := { bytes := [0x9B, 0x00, 0x01, 0x02, 0x01, 0x00, 0x01, 0x00, 0x00, 0x27] } } :
        Tapped QueuePort))).1
    let s := s₀.tapRun [.process 1000,
      .port fun q => { q with bytes := q.bytes ++ [0x10, 0x07, 0xD0, 0x01, 0x20, 0x0D, 0x31, 0x0B, 0xB8] },
      .process 2000]
    let cal : Hw4Calibration := ⟨15, 100, 110⟩
    let packets := Synchronizer.idle.emitted s.readLog
    ∃ dec, s.engine = .hw4 dec ∧ dec.sync = (Synchronizer.idle.feed s.readLog).1 ∧
      dec.stats = (({ calibration := cal } : Hw4Decoder).handleAll 0 packets s₀.effects).1.stats ∧
      (dec.stats.framesDecoded + dec.stats.crcErrors).toNat = packets.length % 2 ^ 32 ∧
      dec.stats.framesDecoded.toNat = packets.countP Hw4Packet.passes % 2 ^ 32 ∧
      s.store.primary.measured =
        (((packets.filterMap fun raw => (Hw4Packet.parse raw).toOption).getLast?).map
          fun q => ((Hw4Telemetry.convert q cal).reading 0).toSample.measured).getD
          EscSample.invalid.measured :=
  ⟨rfl, packets_independent_of_chunking { protocol := .hw4 } rfl _ _ _⟩

-- the first tick reads half a packet and decodes nothing; the second completes it
example :
    let s₀ := (Sensor.new ({ protocol := .hw4 } : SensorConfig) ({ count := 1 } : SimulatedMotors)
      (some ({ port := { bytes := [0x9B, 0x00, 0x01, 0x02, 0x01, 0x00, 0x01, 0x00, 0x00, 0x27] } } :
        Tapped QueuePort))).1
    let calls : List (Call SimulatedMotors QueuePort) := [.process 1000,
      .port fun q => { q with bytes := q.bytes ++ [0x10, 0x07, 0xD0, 0x01, 0x20, 0x0D, 0x31, 0x0B, 0xB8] },
      .process 2000]
    (s₀.tapRun (calls.take 1)).stats.framesDecoded = 0 ∧ (s₀.tapRun calls).readLog.length = 19 ∧
      (s₀.tapRun calls).stats.framesDecoded = 1 ∧ (s₀.tapRun calls).store.primary.rpm = 100 := by
  decide +kernel

end Sensor

end EscTelemetry
