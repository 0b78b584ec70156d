/-
Settings in layers.

Settings come from a file, then from variables, then from the command line; each layer replaces
what it mentions and leaves the rest. Only the result is checked, so a value that a higher layer
replaces need not be valid.

* `Settings.withVariables` — the layer of variables;
* `Overrides`, `Settings.withOverrides` — the layer of the command line;
* `Settings.layered` — all layers together.
-/
import GatewayProbe.Decimal.Read
import GatewayProbe.Settings.Reading

namespace GatewayProbe

/-- What the command line may replace. -/
structure Overrides where
  /-- The path of the settings file. -/
  config : String := "probe.toml"
  url : Option String := none
  timeout : Option Nat := none
  logLevel : Option String := none
  deriving DecidableEq, Repr

namespace Settings

/-- The variables that replace settings. -/
def variableNames : List String :=
  ["OLLA_PROBE_URL", "OLLA_PROBE_TIMEOUT", "OLLA_PROBE_API_KEY", "OLLA_PROBE_LOG_LEVEL",
   "OLLA_PROBE_LOG_FORMAT"]

/-- Replaces settings by variables. A wait that is no number of 64 bits, or a form of the log that
has no such name, leaves the setting as it is. -/
def withVariables (environment : Variables) (s : Settings) : Settings :=
  let access := { s.access with
    url := (environment "OLLA_PROBE_URL").getD s.access.url
    timeout := ((environment "OLLA_PROBE_TIMEOUT").bind (Decimal.natural? Decimal.word64)).getD
      s.access.timeout
    apiKey := (environment "OLLA_PROBE_API_KEY").getD s.access.apiKey }
  let logging := { s.logging with
    level := (environment "OLLA_PROBE_LOG_LEVEL").getD s.logging.level
    format := ((environment "OLLA_PROBE_LOG_FORMAT").bind LogForm.parse?).getD s.logging.format }
  { s with access, logging }

/-- Replaces settings by what the command line gives. -/
def withOverrides (o : Overrides) (s : Settings) : Settings :=
  let access := { s.access with
    url := o.url.getD s.access.url
    timeout := o.timeout.getD s.access.timeout }
  { s with access, logging := { s.logging with level := o.logLevel.getD s.logging.level } }

/-- The settings of the lowest layer: those of the file, or the defaults where there is none. -/
def base (files : Files) (path : String) : Except SettingsError Settings :=
  if files.contains path then load files path else .ok {}

/-- The settings of all layers, if the result is valid. -/
def layered (files : Files) (environment : Variables) (o : Overrides) :
    Except SettingsError Settings := do
  let settings := ((← base files o.config).withVariables environment).withOverrides o
  settings.check.mapError .invalid
  return settings

end Settings
end GatewayProbe
