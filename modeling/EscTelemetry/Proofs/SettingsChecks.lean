import EscTelemetry.Command.Options

/-!
# The order of the settings checks

The sensor's settings come from four checks in a fixed order, and the first that fails decides
the error (`RunOptions.sensorConfig_checks_in_order`):

1. the settings file, when one is named, is read;
2. its text is decoded (`SensorConfig.decode`);
3. the settings it describes are validated on their own, the current gain before the update
   rate;
4. the command line's protocol, half-duplex flag and update rate are put over them
   (`RunOptions.overlay`) and the result is validated again.

Settings are accepted exactly when all four pass, and they are then the overlaid file; so
accepted settings never have a zero current gain or a zero update rate. Since the file is
validated before the command line is put over it, an update rate on the command line never
rescues a file whose own rate is zero.
-/

namespace EscTelemetry

namespace SensorConfig

/-- The settings a document describes, before they are validated. -/
def decode (text : String) : Except JsonText.Error SensorConfig :=
  (readDocument.run ⟨text.toUTF8, 0⟩).map Prod.fst

theorem validate_eq_ok_iff (c : SensorConfig) :
    c.validate = .ok () ↔ c.hw4CurrentGain ≠ 0 ∧ c.updateHz ≠ 0 := by
  unfold validate
  split
  · simp_all
  · split <;> simp_all

theorem validate_of_zero_gain {c : SensorConfig} (h : c.hw4CurrentGain = 0) :
    c.validate = .error .zeroCurrentGain := by
  simp [validate, h]

theorem validate_of_zero_rate {c : SensorConfig} (hgain : c.hw4CurrentGain ≠ 0)
    (hrate : c.updateHz = 0) : c.validate = .error .zeroUpdateRate := by
  simp [validate, hgain, hrate]

/-- Reading settings text is decoding it, then validating what it describes. -/
theorem ofJsonText_eq (text : String) :
    ofJsonText text = match decode text with
      | .error e => .error (.parse e)
      | .ok c => (fun _ => c) <$> c.validate := by
  unfold ofJsonText decode
  rcases readDocument.run ⟨text.toUTF8, 0⟩ with e | ⟨c, cur⟩ <;> rfl

end SensorConfig

namespace RunOptions

variable (o : RunOptions) (read : String → Except FileError String)

/-- The settings the command line puts over `base`: its protocol and update rate where it gives
them, and half duplex where it asks for it. -/
def overlay (base : SensorConfig) : SensorConfig :=
  { base with
    protocol := o.protocol.getD base.protocol,
    halfDuplex := o.halfDuplex || base.halfDuplex,
    updateHz := o.updateHz.getD base.updateHz }

/-- The settings file yields `base`: none is named and `base` are the defaults, or the named
file reads, decodes to `base`, and `base` passes validation on its own. -/
def FileAccepted (base : SensorConfig) : Prop :=
  o.configPath = none ∧ base = {} ∨
    ∃ path text, o.configPath = some path ∧ read path = .ok text ∧
      SensorConfig.decode text = .ok base ∧ base.validate = .ok ()

/-! ## One lemma per check -/

theorem sensorConfig_of_read_error {path : String} {e : FileError}
    (hp : o.configPath = some path) (hr : read path = .error e) :
    o.sensorConfig read = .error (.configRead path e) := by
  simp only [sensorConfig, hp, hr]
  rfl

theorem sensorConfig_of_decode_error {path text : String} {e : JsonText.Error}
    (hp : o.configPath = some path) (hr : read path = .ok text)
    (hd : SensorConfig.decode text = .error e) :
    o.sensorConfig read = .error (.config (.parse e)) := by
  simp only [sensorConfig, hp, hr, SensorConfig.ofJsonText_eq, hd]
  rfl

theorem sensorConfig_of_file_invalid {path text : String} {base : SensorConfig}
    {e : ConfigError} (hp : o.configPath = some path) (hr : read path = .ok text)
    (hd : SensorConfig.decode text = .ok base) (hv : base.validate = .error e) :
    o.sensorConfig read = .error (.config e) := by
  simp only [sensorConfig, hp, hr, SensorConfig.ofJsonText_eq, hd, hv]
  rfl

/-- Once the file is accepted, only the validation of the overlaid settings is left. -/
theorem sensorConfig_of_fileAccepted {base : SensorConfig} (h : o.FileAccepted read base) :
    o.sensorConfig read = match (o.overlay base).validate with
      | .ok () => .ok (o.overlay base)
      | .error e => .error (.config e) := by
  rcases h with ⟨hp, rfl⟩ | ⟨path, text, hp, hr, hd, hv⟩
  · simp only [sensorConfig, hp]
    rfl
  · simp only [sensorConfig, hp, hr, SensorConfig.ofJsonText_eq, hd, hv]
    rfl

theorem sensorConfig_of_overlay_invalid {base : SensorConfig} {e : ConfigError}
    (h : o.FileAccepted read base) (hv : (o.overlay base).validate = .error e) :
    o.sensorConfig read = .error (.config e) := by
  rw [sensorConfig_of_fileAccepted o read h, hv]

/-- Settings that are accepted got past the first three checks. -/
theorem exists_fileAccepted_of_ok {c : SensorConfig} (h : o.sensorConfig read = .ok c) :
    ∃ base, o.FileAccepted read base := by
  cases hp : o.configPath with
  | none => exact ⟨{}, .inl ⟨hp, rfl⟩⟩
  | some path =>
    cases hr : read path with
    | error e => rw [sensorConfig_of_read_error o read hp hr] at h; cases h
    | ok text =>
      cases hd : SensorConfig.decode text with
      | error e => rw [sensorConfig_of_decode_error o read hp hr hd] at h; cases h
      | ok base =>
        cases hv : base.validate with
        | error e => rw [sensorConfig_of_file_invalid o read hp hr hd hv] at h; cases h
        | ok u => exact ⟨base, .inr ⟨path, text, hp, hr, hd, hv⟩⟩

/-! ## The whole reading -/

theorem sensorConfig_eq_ok_iff (c : SensorConfig) :
    o.sensorConfig read = .ok c ↔
      ∃ base, o.FileAccepted read base ∧ (o.overlay base).validate = .ok () ∧
        c = o.overlay base := by
  constructor
  · intro hok
    obtain ⟨base, hbase⟩ := o.exists_fileAccepted_of_ok read hok
    rw [sensorConfig_of_fileAccepted o read hbase] at hok
    cases hv : (o.overlay base).validate with
    | error e => rw [hv] at hok; cases hok
    | ok u =>
      rw [hv] at hok
      exact ⟨base, hbase, hv, (Except.ok.inj hok).symm⟩
  · rintro ⟨base, hbase, hv, rfl⟩
    rw [sensorConfig_of_fileAccepted o read hbase, hv]

/-- Accepted settings have a current gain and an update rate, so the tick period
`1000000 / updateHz` is defined. -/
theorem valid_of_sensorConfig_eq_ok {c : SensorConfig} (h : o.sensorConfig read = .ok c) :
    c.hw4CurrentGain ≠ 0 ∧ c.updateHz ≠ 0 := by
  obtain ⟨base, -, hv, rfl⟩ := (o.sensorConfig_eq_ok_iff read c).mp h
  exact (SensorConfig.validate_eq_ok_iff _).mp hv

/-- Settings are read in four checks and the first that fails decides the error: the file is
read, its text decoded, its settings validated on their own (the current gain first), and
the command line's settings put over them validated again. Settings are accepted exactly when
every check passes, they are then the overlaid file, and their current gain and update rate
are not zero. -/
theorem sensorConfig_checks_in_order :
    (∀ c, o.sensorConfig read = .ok c ↔
      ∃ base, o.FileAccepted read base ∧ (o.overlay base).validate = .ok () ∧
        c = o.overlay base) ∧
    (∀ c, o.sensorConfig read = .ok c → c.hw4CurrentGain ≠ 0 ∧ c.updateHz ≠ 0) ∧
    (∀ path, o.configPath = some path →
      (∀ e, read path = .error e → o.sensorConfig read = .error (.configRead path e)) ∧
      ∀ text, read path = .ok text →
        (∀ e, SensorConfig.decode text = .error e →
          o.sensorConfig read = .error (.config (.parse e))) ∧
        ∀ base, SensorConfig.decode text = .ok base →
          (base.hw4CurrentGain = 0 → o.sensorConfig read = .error (.config .zeroCurrentGain)) ∧
          (base.hw4CurrentGain ≠ 0 → base.updateHz = 0 →
            o.sensorConfig read = .error (.config .zeroUpdateRate))) ∧
    (∀ base e, o.FileAccepted read base → (o.overlay base).validate = .error e →
      o.sensorConfig read = .error (.config e)) := by
  refine ⟨o.sensorConfig_eq_ok_iff read, fun _ => o.valid_of_sensorConfig_eq_ok read, ?_,
    fun _ _ => o.sensorConfig_of_overlay_invalid read⟩
  intro path hp
  refine ⟨fun _ => o.sensorConfig_of_read_error read hp, fun text hr => ?_⟩
  refine ⟨fun _ => o.sensorConfig_of_decode_error read hp hr, fun base hd => ⟨?_, ?_⟩⟩
  · -- a zero gain is refused before the rate is looked at
    intro hgain
    exact o.sensorConfig_of_file_invalid read hp hr hd (SensorConfig.validate_of_zero_gain hgain)
  · -- the file's own rate is checked before the command line's is put over it
    intro hgain hrate
    exact o.sensorConfig_of_file_invalid read hp hr hd
      (SensorConfig.validate_of_zero_rate hgain hrate)

end RunOptions

end EscTelemetry
