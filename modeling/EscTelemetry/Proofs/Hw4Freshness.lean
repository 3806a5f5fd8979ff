import EscTelemetry.Proofs.KissRecords
import EscTelemetry.Proofs.SyncRecovery

/-!
# How old the Hobbywing record is

A Hobbywing ESC streams on its own, so the sensor cannot time a request out; instead record 0
ages by one whenever a tick finds that a quarter second has passed since the decoder last
stored a packet or aged the record. The age check runs before the tick's bytes are read, and
one timestamp serves for both.

An observer who sees each tick's time and the bytes it read from the port can follow this
without looking inside the decoder (`Sighting`): it feeds the bytes through its own
synchroniser and notes the latest tick at which one of the packets it completes passes the
plausibility check. Over every run with non-decreasing tick times
(`data_age_follows_last_packet`), after each processed tick at `t`: while no tick has stored a
packet, record 0 is invalid (age 255); afterwards, with `tp` the latest tick that stored one,
the record has aged exactly when `t - tp` is over the quarter second, and by at most one for
every full window of 250001 µs since `tp`. Implausible packets, partial packets and signature
runs change nothing.

To see the bytes, the port is `Tapped`: it keeps what was read from it. The decoder's side is
`Hw4Decoder.process_spec`; the arithmetic is `Paced`, kept by each of the three things a tick
can do to the age (`Paced.of_store`, `Paced.of_age`, `Paced.of_wait`).
-/

set_option linter.unusedSectionVars false

namespace EscTelemetry

/-! ## A tapped port -/

/-- A serial port that also keeps the bytes read from it, oldest first. -/
structure Tapped (π : Type) where
  port : π
  read : List UInt8 := []

instance {π : Type} [SerialPort π] : SerialPort (Tapped π) where
  bytesWaiting t := SerialPort.bytesWaiting t.port
  readByte t := match SerialPort.readByte t.port with
    | (some b, p) => (some b, { port := p, read := t.read ++ [b] })
    | (none, p) => (none, { t with port := p })

/-- A read from a tapped port adds the byte it returns to the bytes read. -/
theorem Tapped.readByte_eq {π : Type} [SerialPort π] (t : Tapped π) :
    SerialPort.readByte t = ((SerialPort.readByte t.port).1,
      { port := (SerialPort.readByte t.port).2,
        read := t.read ++ (SerialPort.readByte t.port).1.toList }) := by
  rcases h : SerialPort.readByte t.port with ⟨_ | b, p⟩ <;> simp [SerialPort.readByte, h]

/-! ## Record 0 -/

namespace Store

@[simp]
theorem primary_update_zero (s : Store) (r : Reading) : (s.update 0 r).primary = r.toSample := by
  unfold update primary
  rw [dif_pos (by decide)]
  exact Vector.getElem_set_self _

@[simp]
theorem primary_age_zero (s : Store) : (s.age 0).primary = s.primary.aged := by
  unfold age primary
  rw [dif_pos (by decide)]
  exact Vector.getElem_set_self _

/-- A new consumption leaves record 0's age alone. -/
@[simp]
theorem dataAge_primary_setConsumption (s : Store) (c : Int32) :
    (s.setConsumption 0 c).primary.dataAge = s.primary.dataAge := by
  unfold setConsumption
  rw [dif_pos (by decide)]
  dsimp only
  split
  · rfl
  · unfold primary
    rw [Vector.getElem_set_self]

end Store

/-! ## What a tick does to the age -/

/-- Whether one of the packets passes the plausibility check. -/
def storesAny (packets : List (Nat × Vector UInt8 19)) : Bool :=
  packets.any fun e => (Hw4Packet.parse e.2).isOk

@[simp]
theorem storesAny_feed_nil (s : Synchronizer) : storesAny (s.feed []).2.packets.toList = false :=
  rfl

/-- Bytes fed after a first one complete a plausible packet when the packet the first one
completes is plausible, or a later one is. -/
theorem storesAny_feed_cons (s : Synchronizer) (b : UInt8) (bs : List UInt8) :
    storesAny (s.feed (b :: bs)).2.packets.toList =
      (((s.push b).2.map fun raw => (Hw4Packet.parse raw).isOk).getD false ||
        storesAny ((s.push b).1.feed bs).2.packets.toList) := by
  rw [Synchronizer.packets_feed_cons]
  cases (s.push b).2 <;> simp [storesAny, List.any_map, Function.comp_def]

namespace Hw4Decoder

variable {δ ρ : Type} [SerialPort ρ]

/-- A plausible packet is stored in record 0 with age zero and restarts the quarter second; an
implausible one leaves both alone. Neither touches the synchroniser. -/
theorem handlePacket_spec (d : Hw4Decoder) (raw : Vector UInt8 19) (nowUs : Nat) (e : Effects δ) :
    (d.handlePacket raw nowUs e).1.sync = d.sync ∧
    ((Hw4Packet.parse raw).isOk = true →
      (d.handlePacket raw nowUs e).1.dataUpdateUs = nowUs ∧
      (d.handlePacket raw nowUs e).2.store.primary.dataAge = 0) ∧
    ((Hw4Packet.parse raw).isOk = false →
      (d.handlePacket raw nowUs e).1.dataUpdateUs = d.dataUpdateUs ∧
      (d.handlePacket raw nowUs e).2.store.primary.dataAge = e.store.primary.dataAge) := by
  unfold handlePacket
  cases hp : Hw4Packet.parse raw with
  | error err => simp [Except.isOk, Except.toBool, Effects.withDebug, Effects.emit]
  | ok q => simp [Except.isOk, Except.toBool, Effects.withDebug, Effects.withStore, Effects.emit,
      Store.primary_update_zero, Reading.toSample]
/-- Draining the port reads some bytes `bs` and feeds them through the synchroniser; if a packet
they complete is plausible, record 0 has age zero and the quarter second restarts now,
otherwise both are as they were. -/
theorem drain_spec (d : Hw4Decoder) (nowUs budget : Nat) (port : Tapped ρ) (e : Effects δ) :
    ∃ bs, (d.drain nowUs budget port e).2.1.read = port.read ++ bs ∧
      (d.drain nowUs budget port e).1.sync = (d.sync.feed bs).1 ∧
      (storesAny (d.sync.feed bs).2.packets.toList = true →
        (d.drain nowUs budget port e).1.dataUpdateUs = nowUs ∧
        (d.drain nowUs budget port e).2.2.store.primary.dataAge = 0) ∧
      (storesAny (d.sync.feed bs).2.packets.toList = false →
        (d.drain nowUs budget port e).1.dataUpdateUs = d.dataUpdateUs ∧
        (d.drain nowUs budget port e).2.2.store.primary.dataAge = e.store.primary.dataAge) := by
  induction budget generalizing d port e with
  | zero => exact ⟨[], by simp [drain], rfl, fun h => absurd h (by simp), fun _ => by simp [drain]⟩
  | succ budget ih =>
    rw [drain, Tapped.readByte_eq]
    rcases hread : SerialPort.readByte port.port with ⟨_ | b, p⟩
    · exact ⟨[], rfl, rfl, fun h => absurd h (by simp), fun _ => ⟨rfl, rfl⟩⟩
    simp only [Option.toList_some]
    cases hout : (d.sync.push b).2 with
    | none =>
      obtain ⟨bs, hbs, hsync, hyes, hno⟩ := ih { d with sync := (d.sync.push b).1 }
        { port := p, read := port.read ++ [b] } e
      refine ⟨b :: bs, by simp [hbs], by rw [hsync, Synchronizer.fst_feed_cons], fun h => ?_,
        fun h => ?_⟩
      · rw [storesAny_feed_cons, hout] at h
        exact hyes (by simpa using h)
      · rw [storesAny_feed_cons, hout] at h
        exact hno (by simpa using h)
    | some raw =>
      dsimp only
      obtain ⟨hsame, hok, hbad⟩ := handlePacket_spec { d with sync := (d.sync.push b).1 } raw nowUs e
      obtain ⟨bs, hbs, hsync, hyes, hno⟩ := ih
        ({ d with sync := (d.sync.push b).1 }.handlePacket raw nowUs e).1
        { port := p, read := port.read ++ [b] }
        ({ d with sync := (d.sync.push b).1 }.handlePacket raw nowUs e).2
      rw [hsame] at hsync hyes hno
      refine ⟨b :: bs, by simp [hbs], by rw [hsync, Synchronizer.fst_feed_cons], fun h => ?_,
        fun h => ?_⟩
      · rw [storesAny_feed_cons, hout] at h
        by_cases hrest : storesAny (((d.sync.push b).1).feed bs).2.packets.toList = true
        · exact hyes hrest
        · have hraw : (Hw4Packet.parse raw).isOk = true := by simpa [hrest] using h
          obtain ⟨hdup, hage⟩ := hok hraw
          obtain ⟨hdup', hage'⟩ := hno (by simpa using hrest)
          exact ⟨hdup'.trans hdup, hage'.trans hage⟩
      · rw [storesAny_feed_cons, hout] at h
        simp only [Option.map_some, Option.getD_some, Bool.or_eq_false_iff] at h
        obtain ⟨hdup, hage⟩ := hbad h.1
        obtain ⟨hdup', hage'⟩ := hno h.2
        exact ⟨hdup'.trans hdup, hage'.trans hage⟩

/-- After the age check and the drain, a tick only integrates the charge, which leaves the
synchroniser, the timestamp, the port and record 0's age as the drain left them. -/
theorem process_eq_drain (d : Hw4Decoder) (nowUs : Nat) (port : Tapped ρ) (e : Effects δ)
    (d₀ : Hw4Decoder) (e₀ : Effects δ)
    (h₀ : (if hw4DataAgeWindowUs < nowUs - d.dataUpdateUs then
      (({ d with dataUpdateUs := nowUs } : Hw4Decoder), e.withStore (·.age 0)) else (d, e)) = (d₀, e₀)) :
    (d.process nowUs port e).1.sync = (d₀.drain nowUs (SerialPort.bytesWaiting port) port e₀).1.sync ∧
    (d.process nowUs port e).1.dataUpdateUs =
      (d₀.drain nowUs (SerialPort.bytesWaiting port) port e₀).1.dataUpdateUs ∧
    (d.process nowUs port e).2.1 = (d₀.drain nowUs (SerialPort.bytesWaiting port) port e₀).2.1 ∧
    (d.process nowUs port e).2.2.store.primary.dataAge =
      (d₀.drain nowUs (SerialPort.bytesWaiting port) port e₀).2.2.store.primary.dataAge := by
  unfold process
  simp only [gt_iff_lt, h₀]
  rcases d₀.drain nowUs (SerialPort.bytesWaiting port) port e₀ with ⟨d', port', e'⟩
  simp [Effects.withStore, Effects.withDebug, Store.dataAge_primary_setConsumption]

/-- Everything a tick does to the age of record 0: it reads some bytes `bs`, feeds them through
the synchroniser, and if a packet they complete is plausible the record has age zero and the
quarter second restarts now; otherwise the record ages, and the quarter second restarts, only if
a quarter second had passed. -/
theorem process_spec (d : Hw4Decoder) (nowUs : Nat) (port : Tapped ρ) (e : Effects δ) :
    ∃ bs, (d.process nowUs port e).2.1.read = port.read ++ bs ∧
      (d.process nowUs port e).1.sync = (d.sync.feed bs).1 ∧
      (storesAny (d.sync.feed bs).2.packets.toList = true →
        (d.process nowUs port e).1.dataUpdateUs = nowUs ∧
        (d.process nowUs port e).2.2.store.primary.dataAge = 0) ∧
      (storesAny (d.sync.feed bs).2.packets.toList = false →
        (d.process nowUs port e).1.dataUpdateUs =
          (if hw4DataAgeWindowUs < nowUs - d.dataUpdateUs then nowUs else d.dataUpdateUs) ∧
        (d.process nowUs port e).2.2.store.primary.dataAge =
          (if hw4DataAgeWindowUs < nowUs - d.dataUpdateUs then e.store.primary.aged.dataAge
            else e.store.primary.dataAge)) := by
  by_cases hage : hw4DataAgeWindowUs < nowUs - d.dataUpdateUs
  · obtain ⟨hsync, hdup, hport, hrec⟩ := process_eq_drain d nowUs port e _ _ (if_pos hage)
    obtain ⟨bs, hbs, hsync', hyes, hno⟩ := drain_spec { d with dataUpdateUs := nowUs } nowUs
      (SerialPort.bytesWaiting port) port (e.withStore (·.age 0))
    refine ⟨bs, by rw [hport, hbs], by rw [hsync, hsync'], fun h => ?_, fun h => ?_⟩
    · rw [hdup, hrec]
      exact hyes h
    · rw [hdup, hrec, if_pos hage, if_pos hage]
      obtain ⟨hdup', hage'⟩ := hno h
      exact ⟨hdup', by rw [hage']; simp [Effects.withStore, Store.primary_age_zero]⟩
  · obtain ⟨hsync, hdup, hport, hrec⟩ := process_eq_drain d nowUs port e _ _ (if_neg hage)
    obtain ⟨bs, hbs, hsync', hyes, hno⟩ := drain_spec d nowUs (SerialPort.bytesWaiting port) port e
    refine ⟨bs, by rw [hport, hbs], by rw [hsync, hsync'], fun h => ?_, fun h => ?_⟩
    · rw [hdup, hrec]
      exact hyes h
    · rw [hdup, hrec, if_neg hage, if_neg hage]
      exact hno h

end Hw4Decoder

/-! ## The age arithmetic -/

/-- What the decoder's timestamp `dup` and record 0's age owe to the ticks so far, the latest
at `last`, and to the latest tick that stored a packet, at `stored`: before one the record
is invalid; after one, each step of age took a full quarter second past the previous reset,
and an age of zero means the timestamp is still that tick's. -/
structure Paced (dup age last : Nat) (stored : Option Nat) : Prop where
  dup_le : dup ≤ last
  invalid : stored = none → age = 255
  since : ∀ tp, stored = some tp →
    tp + age * (hw4DataAgeWindowUs + 1) ≤ dup ∧ (age = 0 → dup = tp)

namespace Paced

variable {dup age last t : Nat} {stored : Option Nat}

/-- A tick at `t` that stores a packet. -/
theorem of_store (t : Nat) : Paced t 0 t (some t) where
  dup_le := Nat.le_refl t
  invalid := nofun
  since tp htp := by
    cases htp
    simp

/-- A tick at `t` that finds the quarter second over and stores nothing. -/
theorem of_age (h : Paced dup age last stored) (hw : hw4DataAgeWindowUs < t - dup) :
    Paced t (min 255 (age + 1)) t stored where
  dup_le := Nat.le_refl t
  invalid hn := by
    rw [h.invalid hn]
    rfl
  since tp htp := by
    have hle := (h.since tp htp).1
    unfold hw4DataAgeWindowUs at *
    omega

/-- A tick at `t` that neither stores a packet nor ages the record. -/
theorem of_wait (h : Paced dup age last stored) (ht : last ≤ t) : Paced dup age t stored where
  dup_le := Nat.le_trans h.dup_le ht
  invalid := h.invalid
  since := h.since

/-- Right after a tick at `t`, which leaves the timestamp within the window of `t`, the age
says how long ago the latest packet was stored: it is invalid if none was, at least one
exactly when that was over a quarter second ago, and never more than the full windows since. -/
theorem fresh (h : Paced dup age t stored) (hnear : t ≤ dup + hw4DataAgeWindowUs) :
    (stored = none → age = 255) ∧ ∀ tp, stored = some tp →
      (1 ≤ age ↔ hw4DataAgeWindowUs < t - tp) ∧ age ≤ (t - tp) / (hw4DataAgeWindowUs + 1) := by
  refine ⟨h.invalid, fun tp htp => ?_⟩
  obtain ⟨hsince, hzero⟩ := h.since tp htp
  have hdup := h.dup_le
  unfold hw4DataAgeWindowUs at *
  refine ⟨⟨fun hage => by omega, fun hlate => ?_⟩, ?_⟩
  · refine Nat.pos_of_ne_zero fun hage => ?_
    have := hzero hage
    omega
  · rw [Nat.le_div_iff_mul_le (by decide)]
    omega

end Paced

/-! ## An observer of the ticks -/

/-- What an observer sees of the ticks: their times, and the bytes each one read, which it
feeds through a synchroniser of its own. -/
structure Sighting where
  sync : Synchronizer := {}
  /-- The time of the latest tick. -/
  lastTick : Nat := 0
  /-- The time of the latest tick whose bytes completed a plausible packet. -/
  lastStored : Option Nat := none

/-- The observer after a tick at `nowUs` that read `bytes`. -/
def Sighting.tick (o : Sighting) (nowUs : Nat) (bytes : List UInt8) : Sighting where
  sync := (o.sync.feed bytes).1
  lastTick := nowUs
  lastStored := if storesAny (o.sync.feed bytes).2.packets.toList then some nowUs else o.lastStored

namespace Hw4Decoder

variable {δ ρ : Type} [SerialPort ρ]

/-- A tick at `t`, not before the previous one, keeps the decoder paced by what an observer
with the same synchroniser sees of it, and leaves the timestamp within the window of `t`. -/
theorem process_paced (d : Hw4Decoder) (t : Nat) (port : Tapped ρ) (e : Effects δ)
    (o : Sighting) (hsync : d.sync = o.sync)
    (h : Paced d.dataUpdateUs e.store.primary.dataAge.toNat o.lastTick o.lastStored)
    (ht : o.lastTick ≤ t) :
    let o' := o.tick t ((d.process t port e).2.1.read.drop port.read.length)
    (d.process t port e).1.sync = o'.sync ∧
      Paced (d.process t port e).1.dataUpdateUs (d.process t port e).2.2.store.primary.dataAge.toNat
        o'.lastTick o'.lastStored ∧
      t ≤ (d.process t port e).1.dataUpdateUs + hw4DataAgeWindowUs := by
  obtain ⟨bs, hread, hsync', hyes, hno⟩ := d.process_spec t port e
  simp only [hread, List.drop_left, Sighting.tick, hsync', ← hsync, true_and]
  cases hst : storesAny (d.sync.feed bs).2.packets.toList
  · obtain ⟨hdup, hage⟩ := hno hst
    rw [hdup, hage]
    by_cases hw : hw4DataAgeWindowUs < t - d.dataUpdateUs
    · simp only [if_pos hw, EscSample.toNat_dataAge_aged]
      exact ⟨h.of_age hw, Nat.le_add_right t _⟩
    · simp only [if_neg hw, Bool.false_eq_true, if_false]
      exact ⟨h.of_wait ht, by omega⟩
  · obtain ⟨hdup, hage⟩ := hyes hst
    rw [hdup, hage]
    exact ⟨Paced.of_store t, Nat.le_add_right t _⟩

end Hw4Decoder

/-! ## Runs of the sensor -/

/-- The time of a tick; other calls have none. -/
def Call.tickTime {δ π : Type} : Call δ π → Option Nat
  | .process nowUs => some nowUs
  | _ => none

namespace Sensor

variable {δ π : Type} [MotorDriver δ] [SerialPort π]

/-- A tick that a closed port or disabled motors stop changes nothing. -/
theorem process_of_not_processed {s : Sensor δ π} (h : ¬ s.Processed) (nowUs : Nat) :
    (s.process nowUs).1 = s := by
  unfold process
  cases hp : s.port with
  | none => rfl
  | some port =>
    have hoff : MotorDriver.motorsEnabled s.driver = false := by
      simpa [Processed, hp] using h
    simp [hoff]

/-- A tick of a Hobbywing sensor with the port open and the motors enabled runs the decoder
on the port. -/
theorem process_of_hw4 {s : Sensor δ π} {d : Hw4Decoder} {port : π} (hd : s.engine = .hw4 d)
    (hp : s.port = some port) (hon : MotorDriver.motorsEnabled s.driver = true) (nowUs : Nat) :
    (s.process nowUs).1 = { s.absorb (d.process nowUs port s.effects).2.2 with
      engine := .hw4 (d.process nowUs port s.effects).1,
      port := some (d.process nowUs port s.effects).2.1 } := by
  simp [process, hp, hon, hd]

/-- The bytes read from the tapped port so far. -/
def readLog (s : Sensor δ (Tapped π)) : List UInt8 := (s.port.map Tapped.read).getD []

/-- The sensor on a tapped port after a call; a change to the port keeps what was read. -/
def tapCall (s : Sensor δ (Tapped π)) : Call δ π → Sensor δ (Tapped π)
  | .process nowUs => (s.process nowUs).1
  | .receive b => s.receive b
  | .sample i => (s.sample i).1
  | .driver f => s.withDriver f
  | .port f => s.withPort fun t => { t with port := f t.port }

/-- The sensor on a tapped port after a list of calls, made in order. -/
def tapRun (s : Sensor δ (Tapped π)) (calls : List (Call δ π)) : Sensor δ (Tapped π) :=
  calls.foldl tapCall s

/-- The observer after a call: it sees a tick's time and the bytes the tick read. -/
def sight (s : Sensor δ (Tapped π)) (o : Sighting) : Call δ π → Sighting
  | .process nowUs => o.tick nowUs ((s.tapCall (.process nowUs)).readLog.drop s.readLog.length)
  | _ => o

/-- The observer after a list of calls. -/
def sightings (s : Sensor δ (Tapped π)) (o : Sighting) : List (Call δ π) → Sighting
  | [] => o
  | c :: calls => (s.tapCall c).sightings (s.sight o c) calls

theorem sightings_append (s : Sensor δ (Tapped π)) (o : Sighting) (xs ys : List (Call δ π)) :
    s.sightings o (xs ++ ys) = (s.tapRun xs).sightings (s.sightings o xs) ys := by
  induction xs generalizing s o with
  | nil => rfl
  | cons c xs ih => exact ih (s.tapCall c) (s.sight o c)

/-- The observer's latest tick is one of the ticks it saw, or the one it started with. -/
theorem lastTick_sightings_le (s : Sensor δ (Tapped π)) (o : Sighting) (calls : List (Call δ π))
    {b : Nat} (ho : o.lastTick ≤ b) (hb : ∀ t ∈ calls.filterMap Call.tickTime, t ≤ b) :
    (s.sightings o calls).lastTick ≤ b := by
  induction calls generalizing s o with
  | nil => exact ho
  | cons c calls ih =>
    cases c with
    | process t =>
      simp only [List.filterMap_cons, Call.tickTime, List.mem_cons, forall_eq_or_imp] at hb
      exact ih _ _ hb.1 hb.2
    | receive | sample | driver | port => exact ih _ _ ho (by simpa [Call.tickTime] using hb)

/-- The observer follows the sensor: the sensor runs the Hobbywing decoder `d`, whose
synchroniser is the observer's, and the decoder's timestamp and record 0's age are paced by
the ticks the observer saw. -/
structure Follows (s : Sensor δ (Tapped π)) (d : Hw4Decoder) (o : Sighting) : Prop where
  engine : s.engine = .hw4 d
  sync : d.sync = o.sync
  paced : Paced d.dataUpdateUs s.store.primary.dataAge.toNat o.lastTick o.lastStored

/-- A new Hobbywing sensor is followed by an observer that has seen nothing. -/
theorem follows_new (c : SensorConfig) (hc : c.protocol = .hw4) (d : δ) (port : Option (Tapped π)) :
    Follows (Sensor.new c d port).1
      { calibration := ⟨c.hw4CurrentOffset, c.hw4CurrentGain, c.hw4VoltageGain⟩ } {} where
  engine := by simp [new, Engine.ofConfig, hc]
  sync := rfl
  paced :=
    { dup_le := Nat.le_refl 0
      invalid := fun _ => by
        simp [new, Store.new, Store.primary, EscSample.invalid, dataAgeInvalid]
      since := nofun }

/-- A tick at `t`, not before the previous one, keeps the observer following; if it ran the
decoder, the timestamp is within the window of `t`. -/
theorem Follows.process {s : Sensor δ (Tapped π)} {d : Hw4Decoder} {o : Sighting}
    (h : Follows s d o) {t : Nat} (ht : o.lastTick ≤ t) :
    ∃ d', Follows (s.tapCall (.process t)) d' (s.sight o (.process t)) ∧
      (s.Processed → t ≤ d'.dataUpdateUs + hw4DataAgeWindowUs) := by
  by_cases hrun : s.Processed
  · obtain ⟨hport, hon⟩ := hrun
    obtain ⟨port, hp⟩ := Option.isSome_iff_exists.mp hport
    obtain ⟨hsync, hpaced, hnear⟩ := d.process_paced t port s.effects o h.sync h.paced ht
    have hcall := process_of_hw4 h.engine hp hon t
    refine ⟨_, ⟨by simp [tapCall, hcall], ?_, ?_⟩, fun _ => hnear⟩
    · simpa [sight, tapCall, hcall, readLog, hp] using hsync
    · simpa [sight, tapCall, hcall, readLog, hp, absorb, effects] using hpaced
  · have hcall : s.tapCall (.process t) = s := process_of_not_processed hrun t
    refine ⟨d, ⟨by rw [hcall, h.engine], ?_, ?_⟩, fun h => absurd h hrun⟩
    · simp [sight, hcall, Sighting.tick, Synchronizer.feed, Synchronizer.feedFrom, h.sync]
    · simpa [sight, hcall, Sighting.tick] using h.paced.of_wait ht

/-- Every call keeps the observer following, provided a tick is not before the previous one:
calls other than ticks change neither the decoder nor record 0. -/
theorem Follows.call {s : Sensor δ (Tapped π)} {d : Hw4Decoder} {o : Sighting}
    (h : Follows s d o) (c : Call δ π) (ht : ∀ t ∈ c.tickTime, o.lastTick ≤ t) :
    ∃ d', Follows (s.tapCall c) d' (s.sight o c) := by
  cases c with
  | process t =>
    obtain ⟨d', h', -⟩ := h.process (ht t rfl)
    exact ⟨d', h'⟩
  | receive b => exact ⟨d, by simpa [tapCall, receive, h.engine, sight] using h⟩
  | sample i => exact ⟨d, by simpa [tapCall, sample, h.engine, sight] using h⟩
  | driver f => exact ⟨d, h.engine, h.sync, h.paced⟩
  | port f => exact ⟨d, h.engine, h.sync, h.paced⟩

/-- Over a run whose ticks come in order, not before the observer's latest, the observer keeps
following the sensor. -/
theorem Follows.run {s : Sensor δ (Tapped π)} {d : Hw4Decoder} {o : Sighting}
    (h : Follows s d o) (calls : List (Call δ π))
    (hmono : (o.lastTick :: calls.filterMap Call.tickTime).Pairwise (· ≤ ·)) :
    ∃ d', Follows (s.tapRun calls) d' (s.sightings o calls) := by
  induction calls generalizing s d o with
  | nil => exact ⟨d, h⟩
  | cons c calls ih =>
    have hnext : ((s.sight o c).lastTick :: calls.filterMap Call.tickTime).Pairwise (· ≤ ·) := by
      cases c with
      | process t => exact (List.pairwise_cons.mp hmono).2
      | receive | sample | driver | port => exact hmono
    obtain ⟨d', h'⟩ := h.call c fun t ht =>
      List.rel_of_pairwise_cons hmono (List.mem_filterMap.mpr ⟨c, List.mem_cons_self, ht⟩)
    exact ih h' hnext

/-- After every processed tick of a Hobbywing sensor whose ticks come in order, record 0's age
says how long ago the latest tick that read a plausible packet was: while there was none the
record is invalid; otherwise, with `tp` that tick's time, the record has aged exactly when
`t - tp` is over the quarter second, and by at most one for each full window since. -/
theorem data_age_follows_last_packet (c : SensorConfig) (hc : c.protocol = .hw4) (d : δ)
    (port : π) (calls : List (Call δ π)) (t : Nat)
    (hmono : ((calls ++ [Call.process t]).filterMap Call.tickTime).Pairwise (· ≤ ·)) :
    let s := (Sensor.new c d (some ({ port } : Tapped π))).1
    let age := (s.tapRun (calls ++ [.process t])).store.primary.dataAge.toNat
    let stored := (s.sightings {} (calls ++ [.process t])).lastStored
    (s.tapRun calls).Processed →
      (stored = none → age = 255) ∧
      ∀ tp, stored = some tp → (1 ≤ age ↔ hw4DataAgeWindowUs < t - tp) ∧
        age ≤ (t - tp) / (hw4DataAgeWindowUs + 1) := by
  intro s age stored hrun
  have hticks : (calls.filterMap Call.tickTime ++ [t]).Pairwise (· ≤ ·) := by
    simpa [List.filterMap_append, Call.tickTime] using hmono
  obtain ⟨hbefore, -, hlate⟩ := List.pairwise_append.mp hticks
  obtain ⟨d₁, h₁⟩ := (follows_new c hc d (some { port })).run calls
    (List.pairwise_cons.mpr ⟨fun _ _ => Nat.zero_le _, hbefore⟩)
  have hlast : (s.sightings {} calls).lastTick ≤ t :=
    lastTick_sightings_le s {} calls (Nat.zero_le t) fun x hx => hlate x hx t List.mem_cons_self
  obtain ⟨d₂, h₂, hnear⟩ := h₁.process hlast
  have hage : age = ((s.tapRun calls).tapCall (.process t)).store.primary.dataAge.toNat := by
    simp [age, tapRun]
  have hstored :
      stored = ((s.tapRun calls).sight (s.sightings {} calls) (.process t)).lastStored := by
    simp [stored, sightings_append, sightings]
  rw [hage, hstored]
  exact h₂.paced.fresh (hnear hrun)

/-- A plausible packet waiting on the port is read by a tick at 1 ms; the tick at 300 ms finds
the quarter second over. -/
theorem data_age_follows_last_packet_after_one_packet :
    ({ protocol := .hw4 } : SensorConfig).protocol = .hw4 ∧
    (([.process 1000, .process 300000] : List (Call SimulatedMotors QueuePort)).filterMap
      Call.tickTime).Pairwise (· ≤ ·) ∧
    let s := (Sensor.new ({ protocol := .hw4 } : SensorConfig) ({ count := 1 } : SimulatedMotors)
      (some ({ port := { bytes := [0x9B, 0x00, 0x01, 0x02, 0x01, 0x00, 0x01, 0x00, 0x00, 0x27,
        0x10, 0x07, 0xD0, 0x01, 0x20, 0x0D, 0x31, 0x0B, 0xB8] } } : Tapped QueuePort))).1
    let age := (s.tapRun [.process 1000, .process 300000]).store.primary.dataAge.toNat
    let stored := (s.sightings {} [.process 1000, .process 300000]).lastStored
    (s.tapRun [.process 1000]).Processed ∧
      ((s.tapRun [.process 1000]).Processed →
        (stored = none → age = 255) ∧
        ∀ tp, stored = some tp → (1 ≤ age ↔ hw4DataAgeWindowUs < 300000 - tp) ∧
          age ≤ (300000 - tp) / (hw4DataAgeWindowUs + 1)) :=
  ⟨rfl, by decide, by decide +kernel,
    data_age_follows_last_packet _ rfl _ _ [.process 1000] 300000 (by decide)⟩

example :
    let s := (Sensor.new ({ protocol := .hw4 } : SensorConfig) ({ count := 1 } : SimulatedMotors)
      (some ({ port := { bytes := [0x9B, 0x00, 0x01, 0x02, 0x01, 0x00, 0x01, 0x00, 0x00, 0x27,
        0x10, 0x07, 0xD0, 0x01, 0x20, 0x0D, 0x31, 0x0B, 0xB8] } } : Tapped QueuePort))).1
    (s.sightings {} [.process 1000, .process 300000]).lastStored = some 1000 ∧
      (s.tapRun [.process 1000]).store.primary.dataAge = 0 ∧
      (s.tapRun [.process 1000, .process 300000]).store.primary.dataAge = 1 ∧
      (s.tapRun [.process 1000, .process 300000, .process 400000]).store.primary.dataAge = 1 := by
  decide +kernel

end Sensor

end EscTelemetry
