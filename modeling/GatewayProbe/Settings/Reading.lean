/-
Settings from a file.

A setting that a document does not mention keeps its default, and what a document mentions beyond
the settings is passed over. A group of settings may also be written as a list in the order of its
fields; items beyond the last field are passed over.

* `Settings.ofToml?` — the settings of a document, if every one mentioned has its type;
* `Settings.load` — the settings in a file.
-/
import GatewayProbe.Settings.Basic
import GatewayProbe.Toml.Document

namespace GatewayProbe

/-- The values a group of settings mentions, in either of its two forms. -/
def Toml.named? (names : List String) (value : Toml) : Option (List (String × Toml)) :=
  match value.items? with
  | some items => some (names.zip items)
  | none => value.entries?

/-- The setting `name` of a group, or its default. -/
def Toml.setting? {α : Type} (group : List (String × Toml)) (name : String) (default : α)
    (content : Toml → Option α) : Option α :=
  match group.lookup name with
  | none => some default
  | some value => content value

namespace Settings

/-- A list of texts. -/
def texts? (value : Toml) : Option (List String) := value.items?.bind (·.mapM Toml.text?)

/-- Reads the settings of the gateway's address. -/
def access? (value : Toml) : Option Access := do
  let d : Access := {}
  let group ← value.named? ["url", "timeout_seconds", "connect_timeout_seconds",
    "health_timeout_seconds", "api_key", "anthropic_version"]
  return {
    url := ← Toml.setting? group "url" d.url Toml.text?
    timeout := ← Toml.setting? group "timeout_seconds" d.timeout Toml.natural?
    connectTimeout := ← Toml.setting? group "connect_timeout_seconds" d.connectTimeout Toml.natural?
    healthTimeout := ← Toml.setting? group "health_timeout_seconds" d.healthTimeout Toml.natural?
    apiKey := ← Toml.setting? group "api_key" d.apiKey Toml.text?
    anthropicVersion := ← Toml.setting? group "anthropic_version" d.anthropicVersion Toml.text? }

/-- Reads the tables of backend types. -/
def modes? (value : Toml) : Option ModeTables := do
  let d := ModeTables.standard
  let group ← value.named? ["passthrough_types", "translation_types"]
  return {
    passthrough := ← Toml.setting? group "passthrough_types" d.passthrough texts?
    translated := ← Toml.setting? group "translation_types" d.translated texts? }

/-- Reads the limits for the timing of streams. -/
def timing? (value : Toml) : Option Thresholds := do
  let d : Thresholds := {}
  let group ← value.named? ["min_chunks", "many_chunks", "many_chunks_max_avg_secs",
    "first_chunk_ceiling_secs", "max_gap_secs", "batched_below_secs", "smooth_below_secs",
    "choppy_gap_secs"]
  let time (name : String) (default : Float) : Option Float :=
    Toml.setting? group name default Toml.float?
  return {
    minChunks := ← Toml.setting? group "min_chunks" d.minChunks Toml.natural?
    manyChunks := ← Toml.setting? group "many_chunks" d.manyChunks Toml.natural?
    manyChunksMaxAvg := ← time "many_chunks_max_avg_secs" d.manyChunksMaxAvg
    firstChunkCeiling := ← time "first_chunk_ceiling_secs" d.firstChunkCeiling
    maxGap := ← time "max_gap_secs" d.maxGap
    batchedBelow := ← time "batched_below_secs" d.batchedBelow
    smoothBelow := ← time "smooth_below_secs" d.smoothBelow
    choppyGap := ← time "choppy_gap_secs" d.choppyGap }

/-- Reads the form of the log: its name, or a table with the name as its one key, which holds
nothing. -/
def logForm? : Toml → Option LogForm
  | .text name => LogForm.ofName? name
  | .table _ [(name, value)] => if value.isHollow then LogForm.ofName? name else none
  | _ => none

/-- Puts a level in its place among levels in ascending order of the components' names. -/
def insertLevel (component level : String) : List (String × String) → List (String × String)
  | [] => [(component, level)]
  | (c, l) :: rest =>
    if component < c then (component, level) :: (c, l) :: rest
    else if component = c then (component, level) :: rest
    else (c, l) :: insertLevel component level rest

/-- Levels of components in ascending order of the components' names. -/
def sortLevels (levels : List (String × String)) : List (String × String) :=
  levels.foldl (fun sorted level => insertLevel level.1 level.2 sorted) []

/-- Reads the levels of components. -/
def levels? (value : Toml) : Option (List (String × String)) := do
  let entries ← value.entries?
  let levels ← entries.mapM fun (component, level) => (level.text?).map fun l => (component, l)
  return sortLevels levels

/-- Reads the settings of the log. -/
def logging? (value : Toml) : Option Logging := do
  let d : Logging := {}
  let group ← value.named? ["level", "format", "component_levels"]
  return {
    level := ← Toml.setting? group "level" d.level Toml.text?
    format := ← Toml.setting? group "format" d.format logForm?
    componentLevels := ← Toml.setting? group "component_levels" none fun v => (levels? v).map some }

/-- Reads the settings of a document. -/
def ofToml? (value : Toml) : Option Settings := do
  let group ← value.entries?
  return {
    access := ← Toml.setting? group "gateway" {} access?
    modes := ← Toml.setting? group "modes" .standard modes?
    timing := ← Toml.setting? group "timing" {} timing?
    logging := ← Toml.setting? group "logging" {} logging? }

/-- The settings written by a text. -/
def parse? (text : String) : Option Settings := (Toml.parse? text).bind ofToml?

/-- The settings in the file at a path. -/
def load (files : Files) (path : String) : Except SettingsError Settings :=
  if !files.contains path then .error (.missing path)
  else match files.readText path with
    | .error fault => .error (.unreadable fault)
    | .ok text => match parse? text with
      | some settings => .ok settings
      | none => .error .malformed

end Settings
end GatewayProbe
