/-
The limits by which the timing of a stream is judged.

* `Thresholds` — the limits, with times in seconds;
* `Thresholds.check` — at least two arrivals are asked for, every time is a positive number, and
  the band of smooth delays is not empty.
-/

namespace GatewayProbe

/-- The limits by which the timing of a stream is judged. -/
structure Thresholds where
  /-- Fewer arrivals than this cannot be judged. -/
  minChunks : Nat := 3
  /-- With more arrivals than this a short average delay is proof enough. -/
  manyChunks : Nat := 10
  /-- The average delay that is short enough then. -/
  manyChunksMaxAvg : Float := 0.5
  /-- A later first arrival means buffering. -/
  firstChunkCeiling : Float := 5.0
  /-- A longer gap means buffering. -/
  maxGap : Float := 1.0
  /-- A shorter average delay means batches. -/
  batchedBelow : Float := 0.01
  /-- A shorter average delay, but not one of batches, is smooth. -/
  smoothBelow : Float := 0.2
  /-- A longer gap is choppy. -/
  choppyGap : Float := 1.0

/-- What is wrong with a set of limits. -/
inductive ThresholdFault where
  | fewChunks
  | manyBelowMin
  /-- The time of this name is not a positive number. -/
  | notPositive (field : String)
  | emptyBand
  deriving DecidableEq, Repr

namespace Thresholds

/-- The times of a set of limits under their names. -/
def times (t : Thresholds) : List (String × Float) :=
  [("many_chunks_max_avg_secs", t.manyChunksMaxAvg),
   ("first_chunk_ceiling_secs", t.firstChunkCeiling),
   ("max_gap_secs", t.maxGap),
   ("batched_below_secs", t.batchedBelow),
   ("smooth_below_secs", t.smoothBelow),
   ("choppy_gap_secs", t.choppyGap)]

/-- Accepts limits that can be told apart by measurements. -/
def check (t : Thresholds) : Except ThresholdFault Unit :=
  if t.minChunks < 2 then .error .fewChunks
  else if t.manyChunks < t.minChunks then .error .manyBelowMin
  else match t.times.find? fun time => !(time.2.isFinite && time.2 > 0) with
    | some (field, _) => .error (.notPositive field)
    | none => if t.batchedBelow ≥ t.smoothBelow then .error .emptyBand else .ok ()

end Thresholds
end GatewayProbe
