import EscTelemetry.Proofs.CaptureLaws
import EscTelemetry.Proofs.KissSchedule

/-!
# The records of a KISS sensor follow from what was seen

An observer of a KISS sensor sees the ticks with their times, the motors each tick asked for,
and the bytes received in between (`Sensor.transcript`). From that alone it keeps a ledger
(`Ledger`): a request is open from the tick that makes it until the tick that makes the next
one, collecting the bytes received meanwhile, and ends there, judged by `Ending.judge`:

* timed out, if the ending tick is 100 ms or more after the request;
* accepted, if not, and the first ten bytes of the reply pass their check;
* refused, if not, and they fail it.

Each motor's record is then what its ended requests make of it (`recordOf`): an accepted
request stores its frame with age zero, a refused or timed-out one ages the record.
`records_follow_history` says that the sensor's records are exactly these over every run:
a motor whose requests were never accepted still has the invalid record, and any other has
the fields of its latest accepted frame and, as its age, the number of its later requests that
timed out or were refused, capped at 255. A tick changes at most the record of the motor in
flight.

The invariant is `Tracks`: the records are the ledger's, and the ledger's open request is the
poller's request in flight, whose reply so far the capture buffer holds (`CaptureBuffer.Holds`).
-/

set_option linter.unusedSectionVars false

namespace EscTelemetry

/-! ## What the capture buffer holds -/

/-- The first ten bytes of a reply of at least ten. -/
def firstFrame (reply : List UInt8) (h : kissFrameSize ≤ reply.length) : Vector UInt8 10 :=
  Vector.ofFn fun i => reply.get ⟨i.val, by have := i.isLt; unfold kissFrameSize at h; omega⟩

namespace CaptureBuffer

/-- The buffer is armed for a KISS frame and holds the first bytes of `reply`, up to ten. -/
structure Holds (b : CaptureBuffer) (reply : List UInt8) : Prop where
  length_eq : b.length = kissFrameSize
  position_eq : b.position = min reply.length kissFrameSize
  slots_eq : ∀ i < b.position, b.slots[i]? = reply[i]?

/-- A buffer armed for a new request holds an empty reply. -/
theorem holds_startCapture (b : CaptureBuffer) : (b.startCapture kissFrameSize).Holds [] :=
  ⟨by simp [startCapture, kissFrameSize, captureCapacity], by simp [startCapture],
    fun i hi => by simp [startCapture] at hi⟩

/-- Holding a reply is having captured it, armed for a KISS frame. -/
theorem holds_iff_captured {b : CaptureBuffer} {reply : List UInt8} :
    b.Holds reply ↔ b.Captured kissFrameSize reply :=
  ⟨fun h => ⟨h.length_eq, h.position_eq, h.slots_eq⟩,
    fun h => ⟨h.length_eq, h.position_eq, h.slots_eq⟩⟩

/-- A received byte extends the reply the buffer holds; past ten bytes it is dropped. -/
theorem Holds.push {b : CaptureBuffer} {reply : List UInt8} (h : b.Holds reply) (x : UInt8) :
    (b.push x).Holds (reply ++ [x]) :=
  holds_iff_captured.mpr ((holds_iff_captured.mp h).push x)

/-- The buffer is complete exactly when ten bytes have come. -/
theorem Holds.isComplete_iff {b : CaptureBuffer} {reply : List UInt8} (h : b.Holds reply) :
    b.isComplete = true ↔ kissFrameSize ≤ reply.length :=
  (holds_iff_captured.mp h).isComplete_iff

/-- A complete buffer's frame is the first ten bytes of the reply. -/
theorem Holds.frame_eq {b : CaptureBuffer} {reply : List UInt8} (h : b.Holds reply)
    (hten : kissFrameSize ≤ reply.length) : b.frame = firstFrame reply hten := by
  apply Vector.ext
  intro i hi
  have hpos : i < b.position := by
    rw [h.position_eq]
    unfold kissFrameSize at hten ⊢
    omega
  have hslot := h.slots_eq i hpos
  rw [Vector.getElem?_eq_getElem (by have := b.length_le; have := b.position_le; omega),
    List.getElem?_eq_getElem (by unfold kissFrameSize at hten; omega)] at hslot
  simpa [frame, firstFrame] using hslot

end CaptureBuffer

/-! ## The observer's ledger -/

/-- What an observer sees of one call: a tick with its time and the motors it asked for, a
received byte, or nothing. -/
inductive Seen where
  | tick (nowUs : Nat) (asked : List Nat)
  | byte (b : UInt8)
  | quiet

/-- How a request ended. -/
inductive Ending where
  /-- On time, with these ten bytes, which passed their check. -/
  | accepted (raw : Vector UInt8 10)
  /-- On time, with ten bytes that failed their check. -/
  | refused
  /-- Late. -/
  | timedOut
  /-- On time, with fewer than ten bytes. -/
  | unanswered
deriving DecidableEq

namespace Ending

/-- How a request made at `requestMs` ended at a tick at `nowMs`, after the bytes `reply`. -/
def judge (requestMs nowMs : Nat) (reply : List UInt8) : Ending :=
  if requestMs + escRequestTimeoutMs ≤ nowMs then .timedOut
  else if h : kissFrameSize ≤ reply.length then
    match KissFrame.parse (firstFrame reply h) with
    | .ok _ => .accepted (firstFrame reply h)
    | .error _ => .refused
  else .unanswered

/-- Whether the request ended in a timeout or a refused frame. -/
def missed : Ending → Bool
  | .refused | .timedOut => true
  | _ => false

/-- What an ended request makes of its motor's record. -/
def apply : Ending → EscSample → EscSample
  | .accepted raw, _ => (KissFrame.fields raw).reading.toSample
  | .refused, r | .timedOut, r => r.aged
  | .unanswered, r => r

end Ending

/-- A request not yet ended: the motor asked, the millisecond of the tick that asked, and the
bytes received since. -/
structure Open where
  motor : Nat
  ms : Nat
  reply : List UInt8

/-- What an observer knows of the requests: those that ended, with their motors and ends,
oldest first, and the one still open. -/
structure Ledger where
  ended : List (Nat × Ending) := []
  current : Option Open := none

namespace Ledger

/-- A request to motor `m` at `nowMs`: the open request ends, judged at `nowMs`, and the new
one opens. -/
def ask (l : Ledger) (nowMs m : Nat) : Ledger where
  ended := l.ended ++ (l.current.map fun r => (r.motor, Ending.judge r.ms nowMs r.reply)).toList
  current := some ⟨m, nowMs, []⟩

/-- The ledger after one more thing seen. -/
def step (l : Ledger) : Seen → Ledger
  | .tick nowUs asked => asked.foldl (fun l m => l.ask (nowUs / 1000) m) l
  | .byte b => { l with current := l.current.map fun r => { r with reply := r.reply ++ [b] } }
  | .quiet => l

end Ledger

/-- The record that the ended requests `ended` give motor `m`, from the record `r`. -/
def replay (r : EscSample) (ended : List (Nat × Ending)) (m : Nat) : EscSample :=
  ended.foldl (fun r e => if e.1 = m then e.2.apply r else r) r

/-- The record that the ended requests give motor `m`, from the invalid record. -/
def recordOf (ended : List (Nat × Ending)) (m : Nat) : EscSample :=
  replay .invalid ended m

theorem recordOf_append_singleton (ended : List (Nat × Ending)) (m m' : Nat) (e : Ending) :
    recordOf (ended ++ [(m', e)]) m = if m' = m then e.apply (recordOf ended m) else recordOf ended m := by
  simp [recordOf, replay, List.foldl_append]

/-! ## From the ledger to the record -/

/-- One missed update adds one to a record's age, up to 255. -/
theorem EscSample.toNat_dataAge_aged (r : EscSample) :
    r.aged.dataAge.toNat = min 255 (r.dataAge.toNat + 1) := by
  have hle := r.dataAge.toNat_lt
  unfold EscSample.aged
  split
  · rename_i h255
    simp [h255, dataAgeInvalid]
  · rename_i h255
    have hne : r.dataAge.toNat ≠ 255 := fun h => h255 (UInt8.toNat_inj.mp (by simp [h, dataAgeInvalid]))
    simp only [UInt8.toNat_add, UInt8.reduceToNat]
    omega

/-- Without an accepted request, a motor's record only ages: its age grows by one for every
request that timed out or was refused, up to 255, and nothing else changes. -/
theorem replay_of_no_accepted {ended : List (Nat × Ending)} {m : Nat}
    (h : ∀ raw, (m, Ending.accepted raw) ∉ ended) (r : EscSample) :
    replay r ended m = { r with
      dataAge := UInt8.ofNat (min 255 (r.dataAge.toNat + ended.countP fun e => e.1 == m && e.2.missed)) } := by
  induction ended generalizing r with
  | nil =>
    have hle := r.dataAge.toNat_lt
    have hage : UInt8.ofNat (min 255 r.dataAge.toNat) = r.dataAge :=
      UInt8.toNat_inj.mp (by simp; omega)
    simp only [replay, List.foldl_nil, List.countP_nil, Nat.add_zero, hage]
  | cons e ended ih =>
    obtain ⟨m', o⟩ := e
    have hrest : ∀ raw, (m, Ending.accepted raw) ∉ ended := fun raw hmem =>
      h raw (List.mem_cons_of_mem _ hmem)
    have hfold : replay r ((m', o) :: ended) m =
        replay (if m' = m then o.apply r else r) ended m := rfl
    rw [hfold, List.countP_cons]
    by_cases hm : m' = m
    · subst hm
      cases o with
      | accepted raw => exact absurd List.mem_cons_self (h raw)
      | refused | timedOut =>
        rw [if_pos rfl, ih hrest]
        simp only [Ending.apply, Ending.missed, beq_self_eq_true, Bool.and_self, if_true]
        rw [EscSample.toNat_dataAge_aged]
        simp only [EscSample.aged]
        congr 2
        omega
      | unanswered => simp [ih hrest, Ending.apply, Ending.missed]
    · simp [hm, ih hrest]

/-- A motor none of whose requests was accepted has the invalid record. -/
theorem recordOf_of_no_accepted {ended : List (Nat × Ending)} {m : Nat}
    (h : ∀ raw, (m, Ending.accepted raw) ∉ ended) : recordOf ended m = .invalid := by
  rw [recordOf, replay_of_no_accepted h]
  simp [EscSample.invalid, dataAgeInvalid]

/-- A motor has the fields of its latest accepted frame, aged once for every later request
that timed out or was refused, up to 255. -/
theorem recordOf_of_accepted {pre post : List (Nat × Ending)} {m : Nat} {raw : Vector UInt8 10}
    (h : ∀ raw', (m, Ending.accepted raw') ∉ post) :
    recordOf (pre ++ (m, .accepted raw) :: post) m =
      { (KissFrame.fields raw).reading.toSample with
        dataAge := UInt8.ofNat (min 255 (post.countP fun e => e.1 == m && e.2.missed)) } := by
  have hsplit : recordOf (pre ++ (m, .accepted raw) :: post) m =
      replay (KissFrame.fields raw).reading.toSample post m := by
    simp [recordOf, replay, List.foldl_append, Ending.apply]
  rw [hsplit, replay_of_no_accepted h]
  simp [Reading.toSample]

/-- The fields of a frame that passed its check are the fields of its bytes. -/
theorem KissFrame.eq_fields_of_parse {raw : Vector UInt8 10} {f : KissFrame}
    (h : KissFrame.parse raw = .ok f) : f = KissFrame.fields raw := by
  unfold KissFrame.parse at h
  split at h
  · cases h
    rfl
  · cases h

/-- Every request the ledger accepts had a frame that passed its check. -/
theorem Ending.parse_of_judge {requestMs nowMs : Nat} {reply : List UInt8} {raw : Vector UInt8 10}
    (h : Ending.judge requestMs nowMs reply = .accepted raw) : ∃ f, KissFrame.parse raw = .ok f := by
  revert h
  fun_cases Ending.judge requestMs nowMs reply with
  | case2 _ hten f hf => intro h; cases h; exact ⟨f, hf⟩
  | _ => intro h; cases h

namespace Ledger

/-- Every request the ledger accepted had a frame that passed its check. -/
def Checked (l : Ledger) : Prop :=
  ∀ m raw, (m, Ending.accepted raw) ∈ l.ended → ∃ f, KissFrame.parse raw = .ok f

theorem checked_empty : ({} : Ledger).Checked := by
  intro m raw h
  simp at h

theorem Checked.ask {l : Ledger} (h : l.Checked) (nowMs m : Nat) : (l.ask nowMs m).Checked := by
  intro m' raw hmem
  simp only [Ledger.ask, List.mem_append] at hmem
  rcases hmem with hmem | hmem
  · exact h m' raw hmem
  · cases hcur : l.current with
    | none => simp [hcur] at hmem
    | some r =>
      simp only [hcur, Option.map_some, Option.toList_some, List.mem_singleton,
        Prod.mk.injEq] at hmem
      exact Ending.parse_of_judge hmem.2.symm

theorem Checked.step {l : Ledger} (h : l.Checked) : ∀ x, (l.step x).Checked
  | .tick nowUs asked => by
    induction asked generalizing l with
    | nil => exact h
    | cons m asked ih => exact ih (h.ask _ m)
  | .byte _ => h
  | .quiet => h

theorem Checked.steps {l : Ledger} (h : l.Checked) (xs : List Seen) :
    (xs.foldl Ledger.step l).Checked := by
  induction xs generalizing l with
  | nil => exact h
  | cons x xs ih => exact ih (h.step x)

end Ledger

/-! ## The sensor tracks the ledger -/

namespace KissPoller

/-- The poller's request in flight is the ledger's open request, and the capture buffer holds
its reply so far; before the first request neither has one. -/
def InFlight (p : KissPoller) : Option Open → Prop
  | none => p.trigger = .startup
  | some r => p.trigger = .pending ∧ p.motor = r.motor ∧ p.requestMs = r.ms ∧ p.frame.Holds r.reply

/-- A tick changes no record but that of the motor in flight. -/
theorem get?_record_of_ne (t : Tick) {m m' : Nat} (h : m ≠ m') (s : Store) :
    (t.record m s).get? m' = s.get? m' := by
  cases t with
  | wait | boot => rfl
  | settle o =>
    cases o with
    | accept f => exact Store.get?_update_of_ne h _
    | refuse | timeout => exact Store.get?_age_of_ne h

/-- The tick that settles the request in flight does to its motor's record what the ledger's
judgement of that request does. -/
theorem get?_record_settle {p : KissPoller} {nowMs : Nat} {o : Settled} {r : Open}
    (ht : p.tick nowMs = .settle o) (hms : p.requestMs = r.ms) (hholds : p.frame.Holds r.reply)
    {s : Store} (hm : p.motor < s.motorCount) :
    ((Tick.settle o).record p.motor s).get? p.motor =
      (s.get? p.motor).map (Ending.judge r.ms nowMs r.reply).apply := by
  cases o with
  | accept f =>
    obtain ⟨hlt, hc, hf⟩ := tick_accept ht
    have hten := hholds.isComplete_iff.1 hc
    rw [hholds.frame_eq hten] at hf
    have hjudge : Ending.judge r.ms nowMs r.reply = .accepted (firstFrame r.reply hten) := by
      rw [← hms]
      simp [Ending.judge, Nat.not_le.mpr hlt, hten, hf]
    rw [hjudge, Tick.record, Store.get?_update_self hm, KissFrame.eq_fields_of_parse hf]
    simp [Store.get?, hm, Ending.apply]
  | refuse =>
    obtain ⟨hlt, hc, err, hf⟩ := tick_refuse ht
    have hten := hholds.isComplete_iff.1 hc
    rw [hholds.frame_eq hten] at hf
    have hjudge : Ending.judge r.ms nowMs r.reply = .refused := by
      rw [← hms]
      simp [Ending.judge, Nat.not_le.mpr hlt, hten, hf]
    rw [hjudge, Tick.record, Store.get?_age_self hm]
    rfl
  | timeout =>
    have hlate := tick_timeout ht
    have hjudge : Ending.judge r.ms nowMs r.reply = .timedOut := by
      rw [← hms]
      simp [Ending.judge, hlate]
    rw [hjudge, Tick.record, Store.get?_age_self hm]
    rfl

variable {δ : Type} [MotorDriver δ]

/-- A tick keeps the records and the request in flight in step with the ledger, which sees the
tick together with the motors it asked for. -/
theorem tracks_process {p : KissPoller} {e : Effects (Recorded δ)} {l : Ledger}
    (hrec : ∀ m < e.store.motorCount, e.store.get? m = some (recordOf l.ended m))
    (hp : p.InFlight l.current) (nowUs : Nat) :
    (∀ m < (p.process nowUs e).2.store.motorCount, (p.process nowUs e).2.store.get? m =
        some (recordOf (l.step (.tick nowUs
          ((p.process nowUs e).2.driver.asked.drop e.driver.asked.length))).ended m)) ∧
      (p.process nowUs e).1.InFlight (l.step (.tick nowUs
        ((p.process nowUs e).2.driver.asked.drop e.driver.asked.length))).current := by
  obtain ⟨hq, hd, hs⟩ := p.process_spec nowUs e
  rw [hd, hs, hq]
  cases ht : p.tick (nowUs / 1000) with
  | wait =>
    simp only [if_true, List.drop_length, Ledger.step, List.foldl_nil, Tick.record, advance]
    exact ⟨hrec, hp⟩
  | boot =>
    cases hcur : l.current with
    | some r =>
      rw [hcur] at hp
      have hstart := trigger_of_tick_boot ht
      rw [hp.1] at hstart
      cases hstart
    | none =>
      refine ⟨?_, ?_⟩
      · simpa [Ledger.step, Ledger.ask, hcur, Tick.record] using hrec
      · simp only [reduceCtorEq, if_false, Recorded.asked_requestTelemetry, List.drop_left',
          Ledger.step, List.foldl_cons, List.foldl_nil, Ledger.ask, InFlight, advance]
        refine ⟨?_, ?_, ?_, CaptureBuffer.holds_startCapture _⟩ <;> simp
  | settle o =>
    cases hcur : l.current with
    | none =>
      rw [hcur] at hp
      have hpending := trigger_of_tick_settle ht
      rw [hp] at hpending
      cases hpending
    | some r =>
      rw [hcur] at hp
      obtain ⟨-, hmotor, hms, hholds⟩ := hp
      simp only [reduceCtorEq, if_false, Recorded.asked_requestTelemetry, List.drop_left',
        Ledger.step, List.foldl_cons, List.foldl_nil, Ledger.ask, hcur, Option.map_some,
        Option.toList_some, motorCount_record]
      refine ⟨fun m hm => ?_, ?_⟩
      · rw [recordOf_append_singleton]
        by_cases hmm : r.motor = m
        · subst hmm
          rw [if_pos rfl, ← hmotor, get?_record_settle ht hms hholds (hmotor ▸ hm), hmotor,
            hrec r.motor hm]
          rfl
        · rw [if_neg hmm, get?_record_of_ne _ (hmotor ▸ hmm), hrec m hm]
      · exact ⟨by simp [advance], rfl, by simp [advance], CaptureBuffer.holds_startCapture _⟩

end KissPoller

namespace Sensor

variable {δ π : Type} [MotorDriver δ] [SerialPort π]

/-- What an observer sees of a call. -/
def seen (s : Sensor (Recorded δ) π) : Call δ π → Seen
  | .process nowUs =>
    .tick nowUs ((s.call (.process nowUs)).driver.asked.drop s.driver.asked.length)
  | .receive b => .byte b
  | .sample _ | .driver _ | .port _ => .quiet

/-- What an observer sees of a list of calls. -/
def transcript (s : Sensor (Recorded δ) π) : List (Call δ π) → List Seen
  | [] => []
  | c :: calls => s.seen c :: (s.call c).transcript calls

/-- The ledger of a run. -/
def ledger (s : Sensor (Recorded δ) π) (calls : List (Call δ π)) : Ledger :=
  (s.transcript calls).foldl Ledger.step {}

/-- The sensor `s` is what the ledger `l` says: each counted motor's record is the one its
ended requests give, and the ledger's open request is the poller's request in flight. -/
structure Tracks (s : Sensor (Recorded δ) π) (l : Ledger) : Prop where
  records : ∀ m < s.store.motorCount, s.store.get? m = some (recordOf l.ended m)
  poller : ∃ p, s.engine = .kiss p ∧ p.InFlight l.current

/-- A new KISS sensor is what the empty ledger says. -/
theorem tracks_new (c : SensorConfig) (hc : c.protocol = .kiss) (d : δ) (port : Option π) :
    Tracks (Sensor.new c ({ driver := d } : Recorded δ) port).1 {} where
  records m hm := by
    simp only [Sensor.new, Store.motorCount_new] at hm
    simp [Sensor.new, Store.new, Store.get?, hm, recordOf, replay]
  poller := ⟨{}, by simp [Sensor.new, Engine.ofConfig, hc], rfl⟩

/-- Every call keeps the sensor what the ledger says, once the ledger has seen the call. -/
theorem Tracks.call {s : Sensor (Recorded δ) π} {l : Ledger} (h : Tracks s l) (c : Call δ π) :
    Tracks (s.call c) (l.step (s.seen c)) := by
  obtain ⟨hrec, p, hp, hfl⟩ := h
  cases c with
  | process nowUs =>
    show Tracks (s.call (.process nowUs))
      (l.step (.tick nowUs ((s.call (.process nowUs)).driver.asked.drop s.driver.asked.length)))
    simp only [Sensor.call, process_of_kiss hp]
    split
    · obtain ⟨hrec', hfl'⟩ := KissPoller.tracks_process (e := s.effects) hrec hfl nowUs
      exact ⟨hrec', _, rfl, hfl'⟩
    · simpa [Ledger.step] using (⟨hrec, p, hp, hfl⟩ : Tracks s l)
  | receive b =>
    simp only [Sensor.call, receive_of_kiss hp]
    refine ⟨hrec, p.receive b, rfl, ?_⟩
    simp only [seen, Ledger.step]
    cases hcur : l.current with
    | none =>
      rw [hcur] at hfl
      simpa [KissPoller.InFlight] using hfl
    | some r =>
      rw [hcur] at hfl
      obtain ⟨htrig, hmotor, hms, hholds⟩ := hfl
      exact ⟨htrig, hmotor, hms, hholds.push b⟩
  | sample i =>
    rcases sample_eq s i with he | ⟨dbg, he⟩
    · simp only [Sensor.call, he]
      exact ⟨hrec, p, hp, hfl⟩
    · simp only [Sensor.call, he]
      exact ⟨by simpa [seen, Ledger.step] using hrec, p, hp, hfl⟩
  | driver f => exact ⟨hrec, p, hp, hfl⟩
  | port f => exact ⟨hrec, p, hp, hfl⟩

/-- Over a run, the sensor stays what the ledger of its transcript says. -/
theorem Tracks.run {s : Sensor (Recorded δ) π} {l : Ledger} (h : Tracks s l)
    (calls : List (Call δ π)) : Tracks (s.run calls) ((s.transcript calls).foldl Ledger.step l) := by
  induction calls generalizing s l with
  | nil => exact h
  | cons c calls ih => exact ih (h.call c)

/-- A tick changes at most the record of the motor in flight when it starts. -/
theorem get?_call_process {s : Sensor (Recorded δ) π} {p : KissPoller} (hp : s.engine = .kiss p)
    {nowUs m : Nat} (h : (s.call (.process nowUs)).store.get? m ≠ s.store.get? m) :
    p.trigger = .pending ∧ p.motor = m := by
  simp only [Sensor.call, process_of_kiss hp] at h
  split at h
  · obtain ⟨-, -, hs⟩ := p.process_spec nowUs s.effects
    change (p.process nowUs s.effects).2.store.get? m ≠ s.store.get? m at h
    rw [hs] at h
    cases ht : p.tick (nowUs / 1000) with
    | wait | boot => simp [ht, KissPoller.Tick.record, Sensor.effects] at h
    | settle o =>
      refine ⟨KissPoller.trigger_of_tick_settle ht, ?_⟩
      by_cases hmotor : p.motor = m
      · exact hmotor
      · rw [ht, KissPoller.get?_record_of_ne _ hmotor] at h
        exact absurd rfl h
  · exact absurd rfl h

/-- Over every run of a KISS sensor, each counted motor's record is what the requests seen so
far make of it: the invalid record if none of its requests was accepted, and otherwise the
fields of the first ten bytes received after its latest accepted request, with, as its age, the
number of its later requests that timed out or were refused, capped at 255. A tick changes at
most the record of the motor in flight when it starts. -/
theorem records_follow_history (c : SensorConfig) (hc : c.protocol = .kiss) (d : δ)
    (port : Option π) (calls : List (Call δ π)) (m : Nat)
    (hm : m < min (MotorDriver.motorCount d) maxMotors) :
    let s₀ := (Sensor.new c ({ driver := d } : Recorded δ) port).1
    let s := s₀.run calls
    let ended := (s₀.ledger calls).ended
    ((∀ raw, (m, Ending.accepted raw) ∉ ended) → s.store.get? m = some .invalid) ∧
    (∀ pre raw post, ended = pre ++ (m, .accepted raw) :: post →
      (∀ raw', (m, Ending.accepted raw') ∉ post) →
      ∃ f, KissFrame.parse raw = .ok f ∧
        s.store.get? m = some { f.reading.toSample with
          dataAge := UInt8.ofNat (min 255 (post.countP fun e => e.1 == m && e.2.missed)) }) ∧
    ∀ nowUs, (s.call (.process nowUs)).store.get? m ≠ s.store.get? m →
      ∃ p, s.engine = .kiss p ∧ p.trigger = .pending ∧ p.motor = m := by
  intro s₀ s ended
  have htracks : Tracks s (s₀.ledger calls) := (tracks_new c hc d port).run calls
  have hchecked : (s₀.ledger calls).Checked := Ledger.checked_empty.steps _
  obtain ⟨p, hp, hcount, -⟩ : Scheduled (min (MotorDriver.motorCount d) maxMotors) s :=
    run_induction _ (scheduled_new c hc d port) (fun _ c h => h.call c) calls
  have hrecord : s.store.get? m = some (recordOf ended m) := htracks.records m (hcount ▸ hm)
  refine ⟨fun hnone => ?_, fun pre raw post hsplit hpost => ?_,
    fun nowUs hchange => ⟨p, hp, get?_call_process hp hchange⟩⟩
  · rw [hrecord, recordOf_of_no_accepted hnone]
  · have hmem : (m, Ending.accepted raw) ∈ ended := by
      rw [hsplit]
      simp
    obtain ⟨f, hf⟩ := hchecked m raw hmem
    refine ⟨f, hf, ?_⟩
    rw [hrecord, hsplit, recordOf_of_accepted hpost, ← KissFrame.eq_fields_of_parse hf]

/-- Two motors: motor 0 answers its request with a good frame, and motor 1 stays silent past
its timeout. -/
theorem records_follow_history_answered_then_silent :
    ({} : SensorConfig).protocol = .kiss ∧
    let d : SimulatedMotors := { count := 2 }
    0 < min (MotorDriver.motorCount d) maxMotors ∧
    let s₀ := (Sensor.new {} ({ driver := d } : Recorded SimulatedMotors)
      (some CallbackOnlyPort.mk)).1
    let calls : List (Call SimulatedMotors CallbackOnlyPort) :=
      [.process 5000000] ++ (KissFrame.toBytes ⟨50, 150, 50, 10, 300⟩).toList.map .receive ++
        [.process 5001000, .process 5200000]
    let s := s₀.run calls
    let ended := (s₀.ledger calls).ended
    ((∀ raw, (0, Ending.accepted raw) ∉ ended) → s.store.get? 0 = some .invalid) ∧
    (∀ pre raw post, ended = pre ++ (0, .accepted raw) :: post →
      (∀ raw', (0, Ending.accepted raw') ∉ post) →
      ∃ f, KissFrame.parse raw = .ok f ∧
        s.store.get? 0 = some { f.reading.toSample with
          dataAge := UInt8.ofNat (min 255 (post.countP fun e => e.1 == 0 && e.2.missed)) }) ∧
    ∀ nowUs, (s.call (.process nowUs)).store.get? 0 ≠ s.store.get? 0 →
      ∃ p, s.engine = .kiss p ∧ p.trigger = .pending ∧ p.motor = 0 :=
  ⟨rfl, by decide, records_follow_history {} rfl _ _ _ 0 (by decide)⟩

example :
    let s₀ := (Sensor.new {} ({ driver := { count := 2 } } : Recorded SimulatedMotors)
      (some CallbackOnlyPort.mk)).1
    let calls : List (Call SimulatedMotors CallbackOnlyPort) :=
      [.process 5000000] ++ (KissFrame.toBytes ⟨50, 150, 50, 10, 300⟩).toList.map .receive ++
        [.process 5001000, .process 5200000]
    (s₀.ledger calls).ended.map Prod.fst = [0, 1] ∧
      ((s₀.run calls).store.get? 0).map EscSample.rpm = some 300 ∧
      (s₀.run calls).store.get? 1 = some .invalid := by
  decide +kernel

end Sensor

end EscTelemetry
