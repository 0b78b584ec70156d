/-
Which backend types are expected to get messages unchanged, and which translated ones.

Two tables list backend types, compared up to the case of ASCII letters. A type in neither table is
not tested. No type may stand in both: `ModeTables.check` refuses such tables, so that the order in
which `ModeTables.modeOf` looks them up never decides.

* `Mode` — what a response is expected to show;
* `ModeTables.modeOf` — the mode of a backend type;
* `ModeTables.check` — the tables are unambiguous.
-/
import GatewayProbe.Text.Ascii
import GatewayProbe.Text.Blank

namespace GatewayProbe

/-- The protocol mode a backend is expected to be served in. -/
inductive Mode where
  | passthrough
  | translated
  | untested
  deriving DecidableEq, Repr

/-- The name of a mode. -/
def Mode.name : Mode → String
  | .passthrough => "passthrough"
  | .translated => "translation"
  | .untested => "untested"

/-- The two tables of backend types. -/
structure ModeTables where
  passthrough : List String
  translated : List String
  deriving DecidableEq, Repr

/-- The tables used unless others are given. -/
def ModeTables.standard : ModeTables where
  passthrough := ["vllm", "vllm-mlx", "lm-studio", "ollama", "llamacpp", "lemonade"]
  translated := ["openai-compatible", "litellm"]

/-- What is wrong with a pair of tables. -/
inductive ModeFault where
  | blankPassthrough (position : Nat)
  | blankTranslated (position : Nat)
  /-- These types of the first table are in the second one too. -/
  | overlap (types : List String)
  deriving DecidableEq, Repr

namespace ModeTables

/-- A backend type is listed, up to the case of ASCII letters. -/
def lists (types : List String) (type : String) : Bool :=
  types.any fun listed => Text.eqIgnoreCase listed type

/-- The mode expected of a backend type. -/
def modeOf (tables : ModeTables) (type : String) : Mode :=
  if lists tables.passthrough type then .passthrough
  else if lists tables.translated type then .translated
  else .untested

/-- The types of the first table that are also in the second. -/
def overlap (tables : ModeTables) : List String :=
  tables.passthrough.filter (lists tables.translated)

/-- Accepts tables without blank types and without a type in both. -/
def check (tables : ModeTables) : Except ModeFault Unit :=
  match tables.passthrough.findIdx? Text.isBlankText with
  | some i => .error (.blankPassthrough i)
  | none => match tables.translated.findIdx? Text.isBlankText with
    | some i => .error (.blankTranslated i)
    | none =>
      if tables.overlap.isEmpty then .ok () else .error (.overlap tables.overlap)

end ModeTables
end GatewayProbe
