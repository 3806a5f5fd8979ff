import EscTelemetry.Metrics.Publisher
import EscTelemetry.Proofs.Hw4Chunking
import EscTelemetry.Proofs.StoreRebuilds

/-!
# The debug channels mirror the engines

The debug channels are written from many places and only when something changes: a request
writes the motor in flight, a stored frame the motor's eRPM and temperature slots, each failure
branch the counter it bumps, a rebuild of the combined record its age, and the end of every
Hobbywing tick the synchroniser's fill level and record 0's age. `debug_channels_mirror` shows
that over every run they always show the state they stand for.

* Under KISS, after every call, the timeout and refused-frame channels show the link counters,
  clamped to the 32-bit signed range; the motor-index channel shows the motor in flight,
  one-based, once a request was made, and zero before; each of the eight eRPM and temperature
  slots shows the record of the same motor. With a motor, after every read of the combined
  record (and so in every snapshot) the data-age channel shows that record's age. The invariant
  is `KissPoller.Mirrors`, kept by every kind of tick through `KissPoller.debug_process`, which
  says once what a tick writes.
* Under Hobbywing, the refused-packet channel always shows its counter, and after every tick
  that ran the timeout channel shows the synchroniser's fill level and the data-age channel
  record 0's age (`Hw4Decoder.debug_process`).
-/

set_option linter.unusedSectionVars false

namespace EscTelemetry

/-! ## Reading the channels back -/

/-- Distinct channels occupy distinct slots. -/
theorem Tag.channel_injective {t t' : Tag} (h : t.channel = t'.channel) : t = t' := by
  revert h
  cases t <;> cases t' <;> decide

namespace DebugChannels

/-- A channel reads back the value last written to it; a write to another channel leaves it. -/
@[simp]
theorem get_set (d : DebugChannels) (t t' : Tag) (v : Int32) :
    (d.set t v).get t' = if t = t' then v else d.get t' := by
  have key : (t.channel : Nat) = t'.channel ↔ t = t' :=
    ⟨fun h => Tag.channel_injective (Fin.ext h), fun h => h ▸ rfl⟩
  simp only [set, get, Fin.getElem_fin, Vector.getElem_set, key]

@[simp] theorem rpm_set (d : DebugChannels) (t : Tag) (v : Int32) : (d.set t v).rpm = d.rpm := rfl

@[simp] theorem temperature_set (d : DebugChannels) (t : Tag) (v : Int32) :
    (d.set t v).temperature = d.temperature := rfl

@[simp]
theorem get_setRpm (d : DebugChannels) (m : Nat) (v : Int32) (t : Tag) :
    (d.setRpm m v).get t = d.get t := by
  unfold setRpm; split <;> rfl

@[simp]
theorem temperature_setRpm (d : DebugChannels) (m : Nat) (v : Int32) :
    (d.setRpm m v).temperature = d.temperature := by
  unfold setRpm; split <;> rfl

@[simp]
theorem get_setTemperature (d : DebugChannels) (m : Nat) (v : Int32) (t : Tag) :
    (d.setTemperature m v).get t = d.get t := by
  unfold setTemperature; split <;> rfl

@[simp]
theorem rpm_setTemperature (d : DebugChannels) (m : Nat) (v : Int32) :
    (d.setTemperature m v).rpm = d.rpm := by
  unfold setTemperature; split <;> rfl

theorem getElem?_rpm_setRpm (d : DebugChannels) (m : Nat) (v : Int32) (i : Nat) :
    (d.setRpm m v).rpm[i]? = if m = i ∧ m < 8 then some v else d.rpm[i]? := by
  unfold setRpm
  split
  · rename_i hm
    simp [Vector.getElem?_set, hm]
  · rename_i hm
    simp [hm]

theorem getElem?_temperature_setTemperature (d : DebugChannels) (m : Nat) (v : Int32) (i : Nat) :
    (d.setTemperature m v).temperature[i]? = if m = i ∧ m < 8 then some v else d.temperature[i]? := by
  unfold setTemperature
  split
  · rename_i hm
    simp [Vector.getElem?_set, hm]
  · rename_i hm
    simp [hm]

end DebugChannels

/-- A count that fits the 32-bit signed range shows as itself. -/
theorem toInt_slotValue {n : Nat} (h : n ≤ 2147483647) : (slotValue n).toInt = n := by
  rw [slotValue, if_pos h, Int32.toInt_ofNat_of_lt (by omega)]

/-! ## The records a tick writes -/

namespace Store

theorem getElem?_records_update (st : Store) (m : Nat) (r : Reading) (i : Nat) :
    (st.update m r).records[i]? = if m = i ∧ m < maxMotors then some r.toSample else st.records[i]? := by
  unfold update
  split
  · rename_i hm
    simp [Vector.getElem?_set, hm]
  · rename_i hm
    simp [hm]

theorem getElem?_records_age (st : Store) (m i : Nat) :
    (st.age m).records[i]? = st.records[i]?.map fun r => if m = i then r.aged else r := by
  unfold age
  split
  · rename_i hm
    by_cases hi : m = i
    · subst hi
      simp [hm]
    · simp [hi]
  · rename_i hm
    by_cases hi : m = i
    · subst hi
      simp [hm]
    · simp [hi]

/-- Ageing a record changes only its age: a reading that does not look at the age reads the
same. -/
theorem map_records_age {α : Type} (st : Store) (m i : Nat) (f : EscSample → α)
    (hf : ∀ r, f r.aged = f r) : (st.age m).records[i]?.map f = st.records[i]?.map f := by
  rw [getElem?_records_age, Option.map_map]
  congr 1
  funext r
  by_cases hi : m = i <;> simp [hi, hf]

/-- A write leaves the store clean only if it already was. -/
theorem needsRecompute_update_of_false {st : Store} {m : Nat} {r : Reading}
    (h : (st.update m r).needsRecompute = false) : st.needsRecompute = false := by
  unfold update at h
  split at h
  · cases h
  · exact h

theorem needsRecompute_age_of_false {st : Store} {m : Nat} (h : (st.age m).needsRecompute = false) :
    st.needsRecompute = false := by
  unfold age at h
  split at h
  · cases h
  · exact h

end Store

/-! ## What a KISS tick writes -/

namespace KissPoller

/-- What a tick of kind `t` writes to the channels `d`, `m` being the motor in flight before it
and `p'` the poller after it: a request shows the motor it asks, one-based; a stored frame its
eRPM and temperature in the motor's slots; a refused or missing reply the new count of its kind. -/
def Tick.debug (m : Nat) (p' : KissPoller) (d : DebugChannels) : Tick → DebugChannels
  | .wait => d
  | .boot => d.set .motorIndex (slotValue (p'.motor + 1))
  | .settle (.accept f) =>
    ((d.setRpm m (Int32.ofNat f.rpm.toNat)).setTemperature m (Int32.ofNat f.temperature.toNat)).set
      .motorIndex (slotValue (p'.motor + 1))
  | .settle .refuse =>
    (d.set .motorIndex (slotValue (p'.motor + 1))).set .numCrcErrors
      (slotValue p'.stats.crcErrors.toNat)
  | .settle .timeout =>
    (d.set .motorIndex (slotValue (p'.motor + 1))).set .numTimeouts
      (slotValue p'.stats.timeouts.toNat)

variable {δ : Type} [MotorDriver δ]

/-- Everything a tick writes to the debug channels. -/
theorem debug_process (p : KissPoller) (nowUs : Nat) (e : Effects δ) :
    (p.process nowUs e).2.debug =
      (p.tick (nowUs / 1000)).debug p.motor (p.process nowUs e).1 e.debug := by
  rcases p with ⟨frame, trigger, motor, requestMs, stats⟩
  cases trigger with
  | startup =>
    by_cases hb : escBootTimeMs ≤ nowUs / 1000
    · simp [process, tick, hb, request, Tick.debug]
    · simp [process, tick, hb, Tick.debug]
  | pending =>
    by_cases ht : nowUs / 1000 < requestMs + escRequestTimeoutMs
    · by_cases hc : frame.isComplete = true
      · cases hf : KissFrame.parse frame.frame with
        | ok f =>
          simp [process, tick, decode, ht, hc, hf, request, selectNext, Tick.debug,
            Effects.withStore, Effects.withDebug, Effects.emit]
        | error err =>
          simp [process, tick, decode, ht, hc, hf, request, selectNext, Tick.debug,
            Effects.withStore, Effects.withDebug, Effects.emit]
      · simp [process, tick, decode, ht, hc, Tick.debug]
    · simp [process, tick, ht, request, selectNext, Tick.debug, Effects.withStore,
        Effects.withDebug, Effects.emit]

/-- The channels `d` mirror the poller `p` and the store `st`: the counter channels show the
counters, clamped; the motor-index channel the motor in flight, one-based, and zero before the
first request; each eRPM and temperature slot the record of its motor; and once the combined
record has been rebuilt, the data-age channel shows its age. A clean store has been rebuilt. -/
structure Mirrors (p : KissPoller) (st : Store) (d : DebugChannels) : Prop where
  timeouts : d.get .numTimeouts = slotValue p.stats.timeouts.toNat
  crcErrors : d.get .numCrcErrors = slotValue p.stats.crcErrors.toNat
  motorIndex : d.get .motorIndex = if p.trigger = .pending then slotValue (p.motor + 1) else 0
  rpm : ∀ i : Nat, d.rpm[i]? = st.records[i]?.map EscSample.rpm
  temperature : ∀ i : Nat, d.temperature[i]?.map Int32.toInt =
    st.records[i]?.map fun r => r.temperature.toInt
  dataAge : 0 < st.recomputations → d.get .dataAge = Int32.ofNat st.combinedRecord.dataAge.toNat
  rebuilt : st.needsRecompute = false → 0 < st.recomputations

/-- A frame's temperature, widened for its record or for its debug slot, is the same number. -/
theorem toInt_temperature (f : KissFrame) :
    (Int32.ofNat f.temperature.toNat).toInt = f.reading.temperature.toInt := by
  have h := f.temperature.toNat_lt
  rw [Int32.toInt_ofNat_of_lt (by omega), KissFrame.reading, Int16.toInt_ofNat_of_lt (by omega)]

/-- Every kind of tick keeps the channels mirroring the poller and the store. -/
theorem Mirrors.process {p : KissPoller} {e : Effects δ} (h : Mirrors p e.store e.debug)
    (nowUs : Nat) :
    Mirrors (p.process nowUs e).1 (p.process nowUs e).2.store (p.process nowUs e).2.debug := by
  obtain ⟨hp, -, hstore⟩ := p.process_spec nowUs e
  rw [debug_process, hstore, hp]
  cases ht : p.tick (nowUs / 1000) with
  | wait => simpa [advance, Tick.record, Tick.debug] using h
  | boot =>
    refine ⟨?_, ?_, ?_, h.rpm, h.temperature, ?_, h.rebuilt⟩
    · simp [advance, Tick.debug, h.timeouts]
    · simp [advance, Tick.debug, h.crcErrors]
    · simp [advance, Tick.debug]
    · simpa [Tick.record, Tick.debug] using h.dataAge
  | settle o =>
    cases o with
    | accept f =>
      refine ⟨?_, ?_, ?_, fun i => ?_, fun i => ?_, ?_, fun hclean => ?_⟩
      · simp [advance, Tick.debug, Settled.count, h.timeouts]
      · simp [advance, Tick.debug, Settled.count, h.crcErrors]
      · simp [advance, Tick.debug]
      · simp only [Tick.debug, Tick.record, DebugChannels.rpm_set, DebugChannels.rpm_setTemperature,
          DebugChannels.getElem?_rpm_setRpm, Store.getElem?_records_update]
        by_cases hm : p.motor = i ∧ p.motor < 8
        · rw [if_pos hm, if_pos (show p.motor = i ∧ p.motor < maxMotors from hm)]
          rfl
        · rw [if_neg hm, if_neg (show ¬(p.motor = i ∧ p.motor < maxMotors) from hm)]
          exact h.rpm i
      · simp only [Tick.debug, Tick.record, DebugChannels.temperature_set,
          DebugChannels.getElem?_temperature_setTemperature, DebugChannels.temperature_setRpm,
          Store.getElem?_records_update]
        by_cases hm : p.motor = i ∧ p.motor < 8
        · rw [if_pos hm, if_pos (show p.motor = i ∧ p.motor < maxMotors from hm), Option.map_some,
            Option.map_some, toInt_temperature]
          rfl
        · rw [if_neg hm, if_neg (show ¬(p.motor = i ∧ p.motor < maxMotors) from hm)]
          exact h.temperature i
      · simpa [Tick.debug, Tick.record] using h.dataAge
      · simpa [Tick.record] using h.rebuilt (Store.needsRecompute_update_of_false hclean)
    | refuse | timeout =>
      refine ⟨?_, ?_, ?_, fun i => ?_, fun i => ?_, ?_, fun hclean => ?_⟩
      · simp [advance, Tick.debug, Settled.count, h.timeouts]
      · simp [advance, Tick.debug, Settled.count, h.crcErrors]
      · simp [advance, Tick.debug]
      · rw [Tick.record, Store.map_records_age _ _ _ _ fun _ => rfl]
        simpa [Tick.debug] using h.rpm i
      · rw [Tick.record, Store.map_records_age _ _ _ _ fun _ => rfl]
        simpa [Tick.debug] using h.temperature i
      · simpa [Tick.debug, Tick.record] using h.dataAge
      · simpa [Tick.record] using h.rebuilt (Store.needsRecompute_age_of_false hclean)

/-- A received byte only fills the capture buffer. -/
theorem Mirrors.receive {p : KissPoller} {st : Store} {d : DebugChannels} (h : Mirrors p st d)
    (b : UInt8) : Mirrors (p.receive b) st d :=
  ⟨h.timeouts, h.crcErrors, h.motorIndex, h.rpm, h.temperature, h.dataAge, h.rebuilt⟩

/-- A read of the combined record keeps the channels mirroring: a rebuild shows the new
record's age. -/
theorem Mirrors.combined {p : KissPoller} {st : Store} {d : DebugChannels} (h : Mirrors p st d) :
    Mirrors p st.combined.1 (if st.combined.1.recomputations ≠ st.recomputations then
      d.set .dataAge (Int32.ofNat st.combined.2.dataAge.toNat) else d) := by
  rw [Store.combined_eq]
  split
  · simp only [ne_eq, Nat.succ_ne_self, not_false_eq_true, if_true]
    exact ⟨by simp [h.timeouts], by simp [h.crcErrors], by simp [h.motorIndex], h.rpm,
      h.temperature, fun _ => by simp, fun _ => by simp⟩
  · simpa using h

/-- With a motor, right after a read of the combined record the data-age channel shows the
age of the record read: a rebuild writes it, and a clean store was rebuilt before, with the
same record. -/
theorem Mirrors.dataAge_combined {p : KissPoller} {st : Store} {d : DebugChannels}
    (h : Mirrors p st d) (hpos : 0 < st.motorCount) :
    ((if st.combined.1.recomputations ≠ st.recomputations then
      d.set .dataAge (Int32.ofNat st.combined.2.dataAge.toNat) else d).get .dataAge).toInt =
      st.combined.2.dataAge.toNat := by
  have hage : ∀ c : EscSample, (Int32.ofNat c.dataAge.toNat).toInt = c.dataAge.toNat := fun c =>
    Int32.toInt_ofNat_of_lt (by have := c.dataAge.toNat_lt; omega)
  rw [Store.combined_eq]
  split
  · simp [hage]
  · rename_i hclean
    have hflag : st.needsRecompute = false := by simpa [hpos] using hclean
    simp [h.dataAge (h.rebuilt hflag), hage]

/-- On schedule over at most eight motors, the motor-index channel shows the motor in flight,
one-based, once a request was made, and zero before. -/
theorem Mirrors.toInt_motorIndex {p : KissPoller} {st : Store} {d : DebugChannels} {n : Nat}
    {asked : List Nat} (h : Mirrors p st d) (hs : OnSchedule n asked p) (hn : n ≤ maxMotors) :
    (d.get .motorIndex).toInt = if asked = [] then 0 else (p.motor + 1 : Int) := by
  rw [h.motorIndex]
  by_cases hasked : asked = []
  · simp [hasked, hs.startup.mp hasked]
  · have hpending : p.trigger = .pending := by
      cases ht : p.trigger with
      | startup => exact absurd (hs.startup.mpr ht) hasked
      | pending => rfl
    have hlt : p.motor < max n 1 := by
      rw [hs.motor]
      exact Nat.mod_lt _ (by omega)
    have hle : p.motor + 1 ≤ 2147483647 := by simp only [maxMotors] at hn; omega
    rw [if_pos hpending, if_neg hasked, toInt_slotValue hle]
    push_cast
    rfl

end KissPoller

/-! ## What a Hobbywing tick writes -/

namespace Hw4Decoder

variable {δ : Type}

/-- Handling a packet keeps the refused-packet channel showing the count of CRC errors: a
refused packet writes the new count, and a stored one writes other channels. -/
theorem crcErrors_handlePacket {d : Hw4Decoder} {e : Effects δ}
    (h : e.debug.get .numCrcErrors = slotValue d.stats.crcErrors.toNat) (raw : Vector UInt8 19)
    (nowUs : Nat) :
    (d.handlePacket raw nowUs e).2.debug.get .numCrcErrors =
      slotValue (d.handlePacket raw nowUs e).1.stats.crcErrors.toNat := by
  unfold handlePacket
  cases Hw4Packet.parse raw with
  | error err => simp [Effects.withDebug, Effects.emit]
  | ok q => simpa [Effects.withDebug, Effects.withStore, Effects.emit] using h

theorem crcErrors_handleAll {d : Hw4Decoder} {e : Effects δ}
    (h : e.debug.get .numCrcErrors = slotValue d.stats.crcErrors.toNat) (nowUs : Nat)
    (packets : List (Vector UInt8 19)) :
    (d.handleAll nowUs packets e).2.debug.get .numCrcErrors =
      slotValue (d.handleAll nowUs packets e).1.stats.crcErrors.toNat := by
  induction packets generalizing d e with
  | nil => exact h
  | cons raw rest ih => exact ih (crcErrors_handlePacket h raw nowUs)

variable {ρ : Type} [SerialPort ρ]

/-- What a tick leaves on the channels: the synchroniser's fill level on the timeout channel,
record 0's age on the data-age channel, and the count of CRC errors on its channel if it was
there before. -/
theorem debug_process (d : Hw4Decoder) (nowUs : Nat) (port : ρ) (e : Effects δ) :
    ((d.process nowUs port e).2.2.debug.get .numTimeouts).toInt =
      (d.process nowUs port e).1.bytesRead ∧
    ((d.process nowUs port e).2.2.debug.get .dataAge).toInt =
      (d.process nowUs port e).2.2.store.primary.dataAge.toNat ∧
    (e.debug.get .numCrcErrors = slotValue d.stats.crcErrors.toNat →
      (d.process nowUs port e).2.2.debug.get .numCrcErrors =
        slotValue (d.process nowUs port e).1.stats.crcErrors.toNat) := by
  have hfill : ∀ s : Synchronizer, (slotValue s.bytesRead).toInt = s.bytesRead := fun s =>
    toInt_slotValue (by have := s.fill.isLt; simp only [Synchronizer.bytesRead]; omega)
  have hage : ∀ a : UInt8, (Int32.ofNat a.toNat).toInt = a.toNat := fun a =>
    Int32.toInt_ofNat_of_lt (by have := a.toNat_lt; omega)
  unfold process
  -- whether or not the record ages first, the drain and the writes after it are the same
  by_cases hold : hw4DataAgeWindowUs < nowUs - d.dataUpdateUs
  all_goals
    simp only [gt_iff_lt, hold, ↓reduceIte, drain_eq]
    refine ⟨by simp [Effects.withDebug, Effects.withStore, bytesRead, hfill],
      by simp [Effects.withDebug, Effects.withStore, hage], fun h => ?_⟩
    simp only [Effects.withDebug, Effects.withStore, DebugChannels.get_set, reduceCtorEq,
      if_false]
    refine crcErrors_handleAll ?_ nowUs _
    exact h

end Hw4Decoder

namespace Sensor

variable {δ π : Type} [MotorDriver δ] [SerialPort π]

/-- A KISS sensor whose debug channels mirror its poller and its records. -/
def Mirrored (s : Sensor δ π) : Prop :=
  ∃ p, s.engine = .kiss p ∧ KissPoller.Mirrors p s.store s.debug

theorem mirrored_new (c : SensorConfig) (hc : c.protocol = .kiss) (d : δ) (port : Option π) :
    Mirrored (Sensor.new c d port).1 := by
  refine ⟨{}, by simp [Sensor.new, Engine.ofConfig, hc], ⟨?_, ?_, ?_, fun i => ?_, fun i => ?_,
    fun h => ?_, fun h => ?_⟩⟩
  · rfl
  · rfl
  · rfl
  · show (Vector.replicate 8 (0 : Int32))[i]? =
      (Vector.replicate maxMotors EscSample.invalid)[i]?.map EscSample.rpm
    rw [Vector.getElem?_replicate, Vector.getElem?_replicate]
    by_cases hi : i < 8 <;> simp [hi, maxMotors, EscSample.invalid]
  · show (Vector.replicate 8 (0 : Int32))[i]?.map Int32.toInt =
      (Vector.replicate maxMotors EscSample.invalid)[i]?.map fun r => r.temperature.toInt
    rw [Vector.getElem?_replicate, Vector.getElem?_replicate]
    by_cases hi : i < 8 <;> simp [hi, maxMotors, EscSample.invalid]
  · simp [Sensor.new, Store.new] at h
  · simp [Sensor.new, Store.new] at h

/-- Every call keeps a KISS sensor's channels mirroring its poller and its records. -/
theorem Mirrored.call {s : Sensor (Recorded δ) π} (h : Mirrored s) (c : Call δ π) :
    Mirrored (s.call c) := by
  obtain ⟨p, hp, hm⟩ := h
  cases c with
  | process nowUs =>
    simp only [Sensor.call, process_of_kiss hp]
    split
    · exact ⟨_, rfl, hm.process nowUs⟩
    · exact ⟨p, hp, hm⟩
  | receive b =>
    simp only [Sensor.call, receive_of_kiss hp]
    exact ⟨p.receive b, rfl, hm.receive b⟩
  | sample i =>
    cases i with
    | motor m =>
      exact ⟨p, by simp [Sensor.call, sample, hp], by simpa [Sensor.call, sample, hp] using hm⟩
    | combined =>
      exact ⟨p, by simp [Sensor.call, sample, hp],
        by simpa [Sensor.call, sample, hp] using hm.combined⟩
  | driver f => exact ⟨p, hp, hm⟩
  | port f => exact ⟨p, hp, hm⟩

/-- A Hobbywing sensor whose refused-packet channel shows the decoder's count of CRC errors. -/
def CrcShown (s : Sensor δ π) : Prop :=
  ∃ dec, s.engine = .hw4 dec ∧ s.debug.get .numCrcErrors = slotValue dec.stats.crcErrors.toNat

theorem crcShown_new (c : SensorConfig) (hc : c.protocol = .hw4) (d : δ) (port : Option π) :
    CrcShown (Sensor.new c d port).1 :=
  ⟨{ calibration := ⟨c.hw4CurrentOffset, c.hw4CurrentGain, c.hw4VoltageGain⟩ },
    by simp [Sensor.new, Engine.ofConfig, hc], rfl⟩

/-- Every call keeps a Hobbywing sensor's refused-packet channel showing the count: only a tick
that runs the decoder changes either. -/
theorem CrcShown.call {s : Sensor (Recorded δ) π} (h : CrcShown s) (c : Call δ π) :
    CrcShown (s.call c) := by
  obtain ⟨dec, hd, hcrc⟩ := h
  cases c with
  | process nowUs =>
    by_cases hrun : s.Processed
    · obtain ⟨hport, hon⟩ := hrun
      obtain ⟨port, hp⟩ := Option.isSome_iff_exists.mp hport
      simp only [Sensor.call, process_of_hw4 hd hp hon]
      exact ⟨_, rfl, (dec.debug_process nowUs port s.effects).2.2 hcrc⟩
    · simp only [Sensor.call, process_of_not_processed hrun]
      exact ⟨dec, hd, hcrc⟩
  | receive b => exact ⟨dec, by simp [Sensor.call, receive, hd], by simpa [Sensor.call, receive, hd]⟩
  | sample i => exact ⟨dec, by simp [Sensor.call, sample, hd], by simpa [Sensor.call, sample, hd]⟩
  | driver f => exact ⟨dec, hd, hcrc⟩
  | port f => exact ⟨dec, hd, hcrc⟩

/-- After a tick that ran the Hobbywing decoder, the timeout channel shows the synchroniser's
fill level and the data-age channel record 0's age. -/
theorem debug_call_process_of_hw4 {s : Sensor (Recorded δ) π} {dec : Hw4Decoder}
    (hd : s.engine = .hw4 dec) (hrun : s.Processed) (nowUs : Nat) :
    ((s.call (.process nowUs)).debug.get .numTimeouts).toInt = (s.call (.process nowUs)).bytesRead ∧
    ((s.call (.process nowUs)).debug.get .dataAge).toInt =
      (s.call (.process nowUs)).store.primary.dataAge.toNat := by
  obtain ⟨hport, hon⟩ := hrun
  obtain ⟨port, hp⟩ := Option.isSome_iff_exists.mp hport
  obtain ⟨hfill, hage, -⟩ := dec.debug_process nowUs port s.effects
  simp only [Sensor.call, process_of_hw4 hd hp hon]
  exact ⟨hfill, hage⟩

/-! ## Snapshots -/

/-- Reading one motor's record changes nothing. -/
theorem sample_motor (s : Sensor δ π) (m : Nat) : (s.sample (.motor m)).1 = s := by
  rcases s with ⟨engine, driver, port, store, debug⟩
  cases engine <;> rfl

/-- A loop whose every step keeps the first component of its state ends with it. -/
theorem fst_foldl_eq {α β γ : Type} (f : α × β → γ → α × β) (hf : ∀ x c, (f x c).1 = x.1)
    (l : List γ) (x : α × β) : (l.foldl f x).1 = x.1 := by
  induction l generalizing x with
  | nil => rfl
  | cons c l ih => rw [List.foldl_cons, ih, hf]

/-- A snapshot reads every motor's record, which changes nothing, and then the combined record:
it shows the channels and the combined record that read leaves. -/
theorem capture_eq (s : Sensor δ π) :
    (Snapshot.capture s).2.debug = (s.sample .combined).1.debug ∧
    (Snapshot.capture s).2.combined = (s.sample .combined).2.getD .invalid := by
  dsimp only [Snapshot.capture]
  rw [fst_foldl_eq]
  · exact ⟨rfl, rfl⟩
  · intro x m
    split
    · exact sample_motor x.1 m
    · rfl

/-- With a motor, a read of a mirroring KISS sensor's combined record returns a record and leaves
the data-age channel showing its age; so does a snapshot. -/
theorem dataAge_sample_combined {s : Sensor δ π} {p : KissPoller} (hp : s.engine = .kiss p)
    (hm : KissPoller.Mirrors p s.store s.debug) (hpos : 0 < s.store.motorCount) :
    ∃ r, (s.sample .combined).2 = some r ∧
      ((s.sample .combined).1.debug.get .dataAge).toInt = r.dataAge.toNat ∧
      (Snapshot.capture s).2.combined = r ∧
      ((Snapshot.capture s).2.debug.get .dataAge).toInt = r.dataAge.toNat := by
  have hread : ((s.sample .combined).1.debug.get .dataAge).toInt =
      s.store.combined.2.dataAge.toNat := by
    simpa [sample, hp] using hm.dataAge_combined hpos
  refine ⟨s.store.combined.2, by simp [sample, hp], hread, ?_, ?_⟩
  · rw [(capture_eq s).2]
    simp [sample, hp]
  · rw [(capture_eq s).1, hread]

/-! ## Over every run -/

/-- Over every run of a sensor (ticks, received bytes, reads, and changes to the driver and the
port, in any order) the debug channels show the state they stand for.

Under KISS, after every call: the timeout and refused-frame channels show the link counters,
clamped to the 32-bit signed range; the motor-index channel shows the motor in flight,
one-based, once a request was made, and zero before; each eRPM and temperature slot shows the
record of its motor. With a motor, a read of the combined record, and so a snapshot, leaves the
data-age channel showing the age of the record it returns.

Under Hobbywing, the refused-packet channel shows its counter, clamped; and after every tick
that runs the decoder, the timeout channel shows the synchroniser's fill level and the data-age
channel record 0's age. -/
theorem debug_channels_mirror (c : SensorConfig) (d : δ) (port : Option π)
    (calls : List (Call δ π)) :
    let s := (Sensor.new c ({ driver := d } : Recorded δ) port).1.run calls
    (c.protocol = .kiss → ∃ p, s.engine = .kiss p ∧
      s.debug.get .numTimeouts = slotValue s.stats.timeouts.toNat ∧
      s.debug.get .numCrcErrors = slotValue s.stats.crcErrors.toNat ∧
      (s.debug.get .motorIndex).toInt = (if s.driver.asked = [] then 0 else p.motor + 1 : Int) ∧
      (∀ m : Nat, s.debug.rpm[m]? = s.store.records[m]?.map EscSample.rpm) ∧
      (∀ m : Nat, s.debug.temperature[m]?.map Int32.toInt =
        s.store.records[m]?.map fun r : EscSample => r.temperature.toInt) ∧
      (0 < MotorDriver.motorCount d → ∃ r, (s.sample .combined).2 = some r ∧
        ((s.sample .combined).1.debug.get .dataAge).toInt = r.dataAge.toNat ∧
        (Snapshot.capture s).2.combined = r ∧
        ((Snapshot.capture s).2.debug.get .dataAge).toInt = r.dataAge.toNat)) ∧
    (c.protocol = .hw4 → s.debug.get .numCrcErrors = slotValue s.stats.crcErrors.toNat ∧
      ∀ nowUs, s.Processed →
        ((s.call (.process nowUs)).debug.get .numTimeouts).toInt =
          (s.call (.process nowUs)).bytesRead ∧
        ((s.call (.process nowUs)).debug.get .dataAge).toInt =
          (s.call (.process nowUs)).store.primary.dataAge.toNat ∧
        (s.call (.process nowUs)).debug.get .numCrcErrors =
          slotValue (s.call (.process nowUs)).stats.crcErrors.toNat) := by
  intro s
  refine ⟨fun hc => ?_, fun hc => ?_⟩
  · obtain ⟨p, hp, hm⟩ : Mirrored s :=
      run_induction Mirrored (mirrored_new c hc _ port) (fun _ c h => h.call c) calls
    obtain ⟨p', hp', hn, hsched⟩ : Scheduled (min (MotorDriver.motorCount d) maxMotors) s :=
      run_induction _ (scheduled_new c hc d port) (fun _ c h => h.call c) calls
    obtain rfl : p' = p := Engine.kiss.inj (hp'.symm.trans hp)
    have hstats : s.stats = p'.stats := by simp [stats, Engine.stats, hp]
    refine ⟨p', hp, by rw [hstats, hm.timeouts], by rw [hstats, hm.crcErrors],
      hm.toInt_motorIndex hsched (Nat.min_le_right _ _), hm.rpm, hm.temperature,
      fun hpos => dataAge_sample_combined hp hm ?_⟩
    rw [hn]
    simp only [maxMotors]
    omega
  · obtain ⟨dec, hd, hcrc⟩ : CrcShown s :=
      run_induction CrcShown (crcShown_new c hc _ port) (fun _ c h => h.call c) calls
    refine ⟨by simpa [stats, Engine.stats, hd] using hcrc, fun nowUs hrun => ?_⟩
    obtain ⟨hfill, hage⟩ := debug_call_process_of_hw4 hd hrun nowUs
    obtain ⟨dec', hd', hcrc'⟩ := CrcShown.call ⟨dec, hd, hcrc⟩ (.process nowUs)
    exact ⟨hfill, hage, by simpa [stats, Engine.stats, hd'] using hcrc'⟩

end Sensor

end EscTelemetry
