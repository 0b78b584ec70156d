/-
Deliveries of too few pieces.

Valid limits ask for at least two pieces of text before anything is said of a delivery. With fewer
pieces than the limit neither the times nor the other limits count, so a body that arrives as one
piece is never taken for a stream, however long it took:

* `Evidence.count_ofArrivals` — every arrival counts;
* `Delivery.ofArrivals_few` — with too few arrivals nothing is told of a delivery;
* `Thresholds.two_le_minChunks` — valid limits ask for two.
-/
import GatewayProbe.Delivery.Basic

namespace GatewayProbe

theorem Evidence.count_ofArrivals (arrivals : List Float) :
    (ofArrivals arrivals).count = arrivals.length := by
  rw [ofArrivals]
  split <;> rfl

namespace Delivery

variable {t : Thresholds}

theorem ofArrivals_few {arrivals : List Float} (few : arrivals.length < t.minChunks) :
    (ofArrivals t arrivals).form = .singleChunk ∧
      (ofArrivals t arrivals).quality = .singleChunk := by
  have hcount : (Evidence.ofArrivals arrivals).count < t.minChunks := by
    rwa [Evidence.count_ofArrivals]
  constructor
  · show (Evidence.ofArrivals arrivals).form t = _
    rw [Evidence.form, if_pos hcount]
  · show (Evidence.ofArrivals arrivals).smoothness t = _
    rw [Evidence.smoothness, if_pos hcount]

/-- Events that carry too little text. -/
theorem ofEvents_few {events : List TimedFrame}
    (few : (events.filter fun e => e.kind = .content).length < t.minChunks) :
    (ofEvents t events).form = .singleChunk := by
  rw [ofEvents]
  exact (ofArrivals_few (by rwa [List.length_map])).1

end Delivery

theorem Thresholds.two_le_minChunks {t : Thresholds} (h : t.check = .ok ()) :
    2 ≤ t.minChunks := by
  refine Nat.le_of_not_lt fun hfew => ?_
  rw [check, if_pos hfew] at h
  cases h

end GatewayProbe
