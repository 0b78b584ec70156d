/-
Names of statuses, modes and deliveries, each in its colour.
-/
import GatewayProbe.Delivery.Basic
import GatewayProbe.Records
import GatewayProbe.Settings.ModeTables
import GatewayProbe.View.Colour

namespace GatewayProbe

/-- The sign of a status. -/
def Status.icon : Status → String
  | .pass => "✓"
  | .fail => "✗"
  | .skip => "-"

namespace Ink

/-- The name of a status. -/
def status (ink : Ink) (s : Status) : String :=
  match s with
  | .pass => ink.paint .green s.label
  | .fail => ink.paint .red s.label
  | .skip => ink.paint .yellow s.label

/-- The name of an expected mode. -/
def mode (ink : Ink) (m : Mode) : String :=
  match m with
  | .passthrough => ink.paint .cyan m.name
  | .translated => ink.paint .blue m.name
  | .untested => ink.paint .dimmed m.name

/-- The name of a form of delivery. -/
def delivery (ink : Ink) (m : DeliveryForm) : String :=
  match m with
  | .streaming => ink.paint .green m.name
  | .standard => ink.paint .yellow m.name
  | .singleChunk => ink.paint .red m.name

/-- The name of a smoothness. -/
def quality (ink : Ink) (q : Smoothness) : String :=
  match q with
  | .smooth => ink.paint .green q.name
  | .batched => ink.paint .cyan q.name
  | .choppy => ink.paint .yellow q.name
  | .singleChunk => ink.paint .red q.name

end Ink

/-- A time in seconds, or a dash. -/
def shownTime (time : Option Float) : String := (time.map Delivery.time).getD "-"

end GatewayProbe
