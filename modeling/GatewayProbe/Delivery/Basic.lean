/-
Was a response streamed, and how smoothly?

The times at which text arrived are summed up in a few numbers. From these and the limits two
answers are drawn. The form decides whether a test passes: text that comes late or after a long gap
was held back somewhere. The smoothness only describes.

* `Evidence.ofArrivals` — the numbers;
* `Evidence.form`, `Evidence.smoothness` — the two answers;
* `Delivery.ofArrivals`, `Delivery.text` — both with the numbers, and their wording.
-/
import GatewayProbe.Decimal.Fixed
import GatewayProbe.Events.Basic
import GatewayProbe.Settings.Thresholds

namespace GatewayProbe

/-- Whether a response was streamed. -/
inductive DeliveryForm where
  | streaming
  | standard
  /-- Too few pieces to tell. -/
  | singleChunk
  deriving DecidableEq, Repr

/-- The name of a form. -/
def DeliveryForm.name : DeliveryForm → String
  | .streaming => "streaming"
  | .standard => "standard"
  | .singleChunk => "single_chunk"

/-- How smoothly a response was streamed. -/
inductive Smoothness where
  | smooth
  | choppy
  /-- The pieces arrived nearly at once. -/
  | batched
  | singleChunk
  deriving DecidableEq, Repr

/-- The name of a smoothness. -/
def Smoothness.name : Smoothness → String
  | .smooth => "smooth"
  | .choppy => "choppy"
  | .batched => "batched"
  | .singleChunk => "single_chunk"

/-- All of them, in their order. -/
def Smoothness.all : List Smoothness := [.smooth, .choppy, .batched, .singleChunk]

/-- The numbers that tell of a delivery, in seconds. With fewer than two arrivals all delays are
zero. -/
structure Evidence where
  first : Option Float := none
  count : Nat := 0
  avgDelay : Float := 0
  maxDelay : Float := 0
  minDelay : Float := 0

/-- The differences between neighbours. -/
def delays : List Float → List Float
  | a :: b :: rest => (b - a) :: delays (b :: rest)
  | _ => []

/-- A sum from left to right; that of nothing is minus zero, which changes no number added to it. -/
def sum (xs : List Float) : Float := xs.foldl (· + ·) (-0.0)

/-- The largest finite double. -/
def largest : Float := Float.ofBits 0x7fefffffffffffff

/-- The greatest of some numbers, NaN passed over. -/
def greatest (xs : List Float) : Float := xs.foldl (fun m x => if x > m then x else m) (-largest)

/-- The least of some numbers, NaN passed over. -/
def least (xs : List Float) : Float := xs.foldl (fun m x => if x < m then x else m) largest

/-- Sums up arrivals. -/
def Evidence.ofArrivals (arrivals : List Float) : Evidence :=
  let gaps := delays arrivals
  let count := arrivals.length
  if gaps.isEmpty then { first := arrivals.head?, count }
  else
    { first := arrivals.head?, count
      avgDelay := sum gaps / Float.ofNat gaps.length
      maxDelay := greatest gaps
      minDelay := least gaps }

/-- Whether a response was streamed. Many pieces with a short delay on average prove it even behind
a late first one. -/
def Evidence.form (e : Evidence) (t : Thresholds) : DeliveryForm :=
  if e.count < t.minChunks then .singleChunk
  else if e.count > t.manyChunks && e.avgDelay < t.manyChunksMaxAvg then .streaming
  else if e.first.any (· > t.firstChunkCeiling) then .standard
  else if e.maxDelay > t.maxGap then .standard
  else .streaming

/-- How smoothly a response was streamed. -/
def Evidence.smoothness (e : Evidence) (t : Thresholds) : Smoothness :=
  if e.count < t.minChunks then .singleChunk
  else if e.maxDelay > t.choppyGap then .choppy
  else if e.avgDelay < t.batchedBelow then .batched
  else if e.avgDelay < t.smoothBelow then .smooth
  else .choppy

/-- Both answers with the numbers they were drawn from. -/
structure Delivery where
  form : DeliveryForm
  quality : Smoothness
  evidence : Evidence

namespace Delivery

/-- What some numbers tell. -/
def ofEvidence (t : Thresholds) (e : Evidence) : Delivery :=
  ⟨e.form t, e.smoothness t, e⟩

/-- What arrivals tell. -/
def ofArrivals (t : Thresholds) (arrivals : List Float) : Delivery :=
  ofEvidence t (.ofArrivals arrivals)

/-- What events tell; only those that carry text count. -/
def ofEvents (t : Thresholds) (events : List TimedFrame) : Delivery :=
  ofArrivals t ((events.filter fun e => e.kind = .content).map fun e => seconds e.offset)

/-- A time in seconds with three places. -/
def time (x : Float) : String := Decimal.fixed 3 x ++ "s"

/-- The wording of a delivery. -/
def text (v : Delivery) : String :=
  s!"{v.form.name} ({v.evidence.count} chunks, first " ++
    ((v.evidence.first.map time).getD "-") ++ ", avg " ++ time v.evidence.avgDelay ++ ", max " ++
    time v.evidence.maxDelay ++ ")"

end Delivery
end GatewayProbe
