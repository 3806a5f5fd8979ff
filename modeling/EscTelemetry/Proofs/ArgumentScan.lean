import EscTelemetry.Command.Options
import Mathlib

/-!
# How the command line is read

`RunOptions.readArgs` reads the arguments in one pass, and whether a token is an option or
the value of the option before it depends on every token before it. This module says the
same thing in two separate steps and proves that the pass computes exactly that
(`ofArgs_eq_scanned`).

1. `words` cuts the arguments into the words that stand in option position: an option that
   takes a value swallows the next token whatever it is (so `--config -h` names the file
   `-h`), and is dropped as the last token; `--help` or `-h` ends the words.
2. Each field is read off the words by its own rule (`scannedFrom`): a field set by a
   value option is decided by the last occurrence of that option, where `--motors`, `--seed`
   and the two rates pass over values they cannot read and `--protocol` over names it does
   not know, while `--run-seconds` and `--update-hz` take their last value even when it does
   not read; the two switches are set by any occurrence; the warnings are those of the words,
   one for each unknown token and each unknown protocol name, in order.
-/

namespace EscTelemetry

namespace RunOptions

/-! ## Words in option position -/

/-- What stands in option position on a command line. -/
inductive Word where
  /-- `--help` or `-h`. -/
  | help
  /-- `--half-duplex` or `--json-logs`. -/
  | switch (flag : String)
  /-- An option that takes a value, with the token after it. -/
  | setting (flag value : String)
  /-- Any other token. -/
  | unknown (token : String)
deriving DecidableEq

/-- Cut arguments into the words in option position. -/
def words : List String → List Word
  | [] => []
  | arg :: rest =>
    if arg = "--help" ∨ arg = "-h" then [.help]
    else if arg = "--half-duplex" ∨ arg = "--json-logs" then .switch arg :: words rest
    else if valueFlags.contains arg then
      match rest with
      | value :: rest' => .setting arg value :: words rest'
      | [] => []
    else .unknown arg :: words rest

namespace Word

/-- The value a word gives to the option `flag`, if it is that option. -/
def valueFor (flag : String) : Word → Option String
  | .setting f v => if f = flag then some v else none
  | .help | .switch _ | .unknown _ => none

/-- The warning a word raises: every unknown token, and every protocol name that is not
known. -/
def warning : Word → Option String
  | .unknown t => some ("ignoring unknown argument '" ++ t ++ "'")
  | .setting f v =>
    if f = "--protocol" then
      match Protocol.ofText v with
      | .error w => some w
      | .ok _ => none
    else none
  | .help | .switch _ => none

end Word

/-! ## Each field by its own rule -/

/-- The last element of `xs`, or `d` when `xs` is empty. -/
def lastOr {α : Type} (d : α) (xs : List α) : α := xs.foldl (fun _ x => x) d

@[simp]
theorem lastOr_nil {α : Type} (d : α) : lastOr d [] = d := rfl

@[simp]
theorem lastOr_cons {α : Type} (d x : α) (xs : List α) : lastOr d (x :: xs) = lastOr x xs := rfl

/-- A value that does not read leaves the last one standing. -/
@[simp]
theorem lastOr_filterMap_cons {α β : Type} (d : α) (f : β → Option α) (v : β) (xs : List β) :
    lastOr d ((v :: xs).filterMap f) = lastOr ((f v).getD d) (xs.filterMap f) := by
  cases h : f v <;> simp [h]

/-- The values given to the option `flag` in the words, in order. -/
def valuesOf (flag : String) (ws : List Word) : List String := ws.filterMap (Word.valueFor flag)

/-- The warnings the words raise, in order. -/
def warningsOf (ws : List Word) : List String := ws.filterMap Word.warning

@[simp]
theorem valuesOf_nil (flag : String) : valuesOf flag [] = [] := rfl

@[simp]
theorem valuesOf_cons (flag : String) (w : Word) (ws : List Word) :
    valuesOf flag (w :: ws) = (w.valueFor flag).toList ++ valuesOf flag ws := by
  unfold valuesOf
  cases h : w.valueFor flag <;> simp [h]

@[simp]
theorem warningsOf_nil : warningsOf [] = [] := rfl

@[simp]
theorem warningsOf_cons (w : Word) (ws : List Word) :
    warningsOf (w :: ws) = w.warning.toList ++ warningsOf ws := by
  unfold warningsOf
  cases h : w.warning <;> simp [h]

/-- The options that the words ask for on top of `o`. A field set by a value option takes the
last value given to it: for `--run-seconds` and `--update-hz` whether or not it reads, for
`--protocol`, `--motors`, `--seed` and the rates the last one that does. -/
def scannedFrom (o : RunOptions) (ws : List Word) : RunOptions where
  showHelp := o.showHelp || ws.contains .help
  runSeconds := lastOr o.runSeconds
    ((valuesOf "--run-seconds" ws).map (Text.parseUnsigned wordMax))
  protocol := lastOr o.protocol
    (((valuesOf "--protocol" ws).filterMap fun v => (Protocol.ofText v).toOption).map some)
  motors := lastOr o.motors ((valuesOf "--motors" ws).filterMap (Text.parseUnsigned wordMax))
  configPath := lastOr o.configPath ((valuesOf "--config" ws).map some)
  halfDuplex := o.halfDuplex || ws.contains (.switch "--half-duplex")
  updateHz := lastOr o.updateHz
    ((valuesOf "--update-hz" ws).map fun v => (Text.parseUnsigned 65535 v).map Nat.toUInt16)
  jsonLogs := o.jsonLogs || ws.contains (.switch "--json-logs")
  logDir := lastOr o.logDir ((valuesOf "--log-dir" ws).map some)
  metricsAddr := lastOr o.metricsAddr ((valuesOf "--metrics-addr" ws).map some)
  dropRate := lastOr o.dropRate ((valuesOf "--drop-rate" ws).filterMap parseRate)
  corruptRate := lastOr o.corruptRate ((valuesOf "--corrupt-rate" ws).filterMap parseRate)
  seed := lastOr o.seed ((valuesOf "--seed" ws).filterMap fun v =>
    (Text.parseUnsigned (2 ^ 32 - 1) v).map Nat.toUInt32)
  warnings := o.warnings ++ (warningsOf ws).toArray

/-- The options a command line asks for, its first word being the program name. -/
def scanned (args : List String) : RunOptions := scannedFrom {} (words args.tail)

/-! ## One word at a time -/

section Step

variable (o : RunOptions) (ws : List Word)

@[simp]
theorem scannedFrom_nil : scannedFrom o [] = o := by
  simp [scannedFrom]

theorem scannedFrom_help : scannedFrom o [.help] = { o with showHelp := true } := by
  simp [scannedFrom, Word.valueFor, Word.warning]

theorem scannedFrom_unknown (t : String) :
    scannedFrom o (.unknown t :: ws) =
      scannedFrom
        { o with warnings := o.warnings.push ("ignoring unknown argument '" ++ t ++ "'") } ws := by
  simp [scannedFrom, Word.valueFor, Word.warning]

theorem scannedFrom_halfDuplex :
    scannedFrom o (.switch "--half-duplex" :: ws) = scannedFrom { o with halfDuplex := true } ws := by
  simp [scannedFrom, Word.valueFor, Word.warning]

theorem scannedFrom_jsonLogs :
    scannedFrom o (.switch "--json-logs" :: ws) = scannedFrom { o with jsonLogs := true } ws := by
  simp [scannedFrom, Word.valueFor, Word.warning]

theorem scannedFrom_setting {flag : String} (h : valueFlags.contains flag) (v : String) :
    scannedFrom o (.setting flag v :: ws) = scannedFrom ((o.withValue flag v).getD o) ws := by
  simp only [valueFlags, List.contains_cons, List.contains_nil, Bool.or_false, Bool.or_eq_true,
    beq_iff_eq] at h
  rcases h with rfl | rfl | rfl | rfl | rfl | rfl | rfl | rfl | rfl | rfl
  case inr.inl =>
    cases hp : Protocol.ofText v <;>
      simp [scannedFrom, Word.valueFor, Word.warning, withValue, hp,
        Except.toOption]
  all_goals simp [scannedFrom, Word.valueFor, Word.warning, withValue]

end Step

/-! ## The pass reads the words -/

/-- Reading arguments on top of `o` gives what their words ask for on top of `o`. -/
theorem readArgs_eq_scannedFrom (o : RunOptions) (args : List String) :
    o.readArgs args = scannedFrom o (words args) := by
  -- each branch of the pass cuts off one word, and the word does what the branch does
  fun_induction readArgs o args with
  | case1 => simp [words]
  | case2 o arg rest help => rw [words.eq_def]; simp [help, scannedFrom_help]
  | case3 o rest _ ih =>
    have cut : words ("--half-duplex" :: rest) = .switch "--half-duplex" :: words rest := by
      rw [words.eq_def]
      simp
    rw [ih, cut, scannedFrom_halfDuplex]
  | case4 o rest _ _ ih =>
    have cut : words ("--json-logs" :: rest) = .switch "--json-logs" :: words rest := by
      rw [words.eq_def]
      simp
    rw [ih, cut, scannedFrom_jsonLogs]
  | case5 o arg help hd json flag value rest ih =>
    have cut : words (arg :: value :: rest) = .setting arg value :: words rest := by
      simp [words, help, hd, json, List.contains_iff_mem.mp flag]
    rw [ih, cut, scannedFrom_setting o _ flag]
  | case6 o arg help hd json flag => simp [words, help, hd, json, List.contains_iff_mem.mp flag]
  | case7 o arg rest help hd json flag ih =>
    have unknown : arg ∉ valueFlags := fun h => flag (List.contains_iff_mem.mpr h)
    have cut : words (arg :: rest) = .unknown arg :: words rest := by
      rw [words.eq_def]
      simp [help, hd, json, unknown]
    rw [ih, cut, scannedFrom_unknown]

/-- The options of a command line are what its words ask for on top of the defaults: the
program name is skipped, a value option takes the next token whatever it is, `--help` ends
the reading, and each field follows its own rule of `scannedFrom`. -/
theorem ofArgs_eq_scanned (args : List String) : ofArgs args = scanned args :=
  readArgs_eq_scannedFrom {} args.tail

example : (scanned ["esc-sensor", "--config", "-h", "--protocol", "dshot", "-x", "--seed"]).warnings =
    #["unknown esc sensor protocol 'dshot'", "ignoring unknown argument '-x'"] := by decide

end RunOptions

end EscTelemetry
