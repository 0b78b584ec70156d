/-
Talking to a gateway.

What a run asks may depend on what it was answered, so a run is a tree: it is done, or it sends a
request and goes on with the answer. A gateway is any rule that answers a request, given the
requests it has seen before; running a session against a gateway gives the value of the session and
the requests that the gateway saw.

* `Request`, `Reply`, `Answer` — what is sent and what comes back, and when;
* `Session` — a run as a tree of requests;
* `Gateway`, `Session.run` — any gateway, and a run against it.
-/
import GatewayProbe.Exchange.Head

namespace GatewayProbe

/-- A request. -/
structure Request where
  method : String
  /-- Path and query as they are sent. -/
  target : String
  headers : List (String × String) := []
  body : String := ""
  /-- The seconds it may take, its answer included. -/
  budget : Nat := 0
  deriving DecidableEq, Repr

/-- A piece of a body, and the nanoseconds from the request to its arrival. -/
structure Chunk where
  offset : Nat
  bytes : List UInt8
  deriving DecidableEq

/-- How a body ends. -/
inductive Ending where
  | complete
  /-- The connection breaks before the announced length. -/
  | broken
  /-- Nothing more arrives within the request's budget. -/
  | stalled
  deriving DecidableEq, Repr

/-- A response. -/
structure Reply where
  status : Nat
  headers : Headers
  chunks : List Chunk
  ending : Ending := .complete
  /-- The nanoseconds from the request to the headers. -/
  headOffset : Nat := 0
  /-- The nanoseconds from the request to the end of the body. -/
  endOffset : Nat := 0
  deriving DecidableEq

/-- What comes of a request. -/
inductive Answer where
  | reply (reply : Reply)
  /-- There is no connection, so the gateway does not see the request. -/
  | refused
  /-- The gateway sees the request and closes the connection. -/
  | closed
  /-- The gateway sees the request and does not answer within its budget. -/
  | silent
  deriving DecidableEq

/-- A run that ends in a value, with the requests it sends on the way. -/
inductive Session (α : Type) where
  | done (value : α)
  | ask (request : Request) (next : Answer → Session α)

namespace Session

variable {α β : Type}

/-- Goes on with the value of a session. -/
def andThen (f : α → Session β) : Session α → Session β
  | .done value => f value
  | .ask request next => .ask request fun answer => (next answer).andThen f

instance : Monad Session where
  pure := .done
  bind s f := s.andThen f

end Session

/-- A gateway answers a request, given those it has seen before. -/
abbrev Gateway := List Request → Request → Answer

/-- A gateway to which there is no connection. -/
def Gateway.down : Gateway := fun _ _ => .refused

/-- Runs a session against a gateway that has seen some requests. Gives the value of the session,
and all requests seen then. -/
def Session.run {α : Type} (gateway : Gateway) : List Request → Session α → α × List Request
  | seen, .done value => (value, seen)
  | seen, .ask request next =>
    let answer := gateway seen request
    (next answer).run gateway (if answer = .refused then seen else seen ++ [request])

end GatewayProbe
