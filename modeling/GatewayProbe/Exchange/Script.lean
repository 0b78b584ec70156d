/-
Gateways that follow a script.

A script is a list of rules. The first rule that fits a request answers it; a rule may serve only
once. A request that no rule fits is answered with status 404. Bodies arrive a line at a time.

* `Rule`, `Rule.fits` — the rules, and the requests they are for;
* `Script.gateway` — the gateway that follows a script.
-/
import GatewayProbe.Exchange.Session
import GatewayProbe.Json.Document
import GatewayProbe.Text.Bytes

namespace GatewayProbe

/-- What goes wrong with an answer on purpose. -/
inductive Disturbance where
  | none
  | disconnect
  | truncate
  | hang
  deriving DecidableEq, Repr

/-- A rule of a script. -/
structure Rule where
  method : String
  /-- A target, or the start of one when it ends in a star. -/
  path : String
  /-- Fields that the body of the request must have. -/
  condition : Option Json := Option.none
  once : Bool := false
  status : Nat := 200
  headers : Headers := []
  body : List UInt8 := []
  disturbance : Disturbance := .none

namespace Rule

/-- A target is the one of the rule, or starts as the rule says. -/
def fitsTarget (rule : Rule) (target : String) : Bool :=
  if rule.path.endsWith "*" then rule.path.toList.dropLast.isPrefixOf target.toList
  else rule.path = target

/-- The body of a request has the fields the rule asks for. -/
def fitsBody (rule : Rule) (body : String) : Bool :=
  match rule.condition with
  | Option.none => true
  | some part => match Json.parse? body with
    | some value => part.within value
    | Option.none => false

/-- The rule is for a request. -/
def fits (rule : Rule) (request : Request) : Bool :=
  rule.method = request.method && rule.fitsTarget request.target && rule.fitsBody request.body

end Rule

namespace Script

/-- Cuts bytes after each line feed. -/
def pieces : List UInt8 → List UInt8 → List (List UInt8)
  | [], current => if current.isEmpty then [] else [current.reverse]
  | b :: bs, current =>
    if b = 10 then (b :: current).reverse :: pieces bs [] else pieces bs (b :: current)

/-- The microsecond, in nanoseconds: the time between two pieces of a body. -/
def tick : Nat := 1000

/-- Pieces of a body, one each tick. -/
def timed (n : Nat) : List (List UInt8) → List Chunk
  | [] => []
  | piece :: rest => ⟨n * tick, piece⟩ :: timed (n + 1) rest

/-- A reply with the given body. -/
def reply (status : Nat) (headers : Headers) (body : List UInt8) (ending : Ending) : Reply :=
  let chunks := timed 2 (pieces body [])
  { status, headers, chunks, ending, headOffset := tick, endOffset := (chunks.length + 2) * tick }

/-- The answer of the rules that are left. -/
def respond (rules : List Rule) (request : Request) : Answer :=
  match rules.find? (Rule.fits · request) with
  | Option.none => .reply (reply 404 [] (Text.toUtf8 "no such route") .complete)
  | some rule => match rule.disturbance with
    | .none => .reply (reply rule.status rule.headers rule.body .complete)
    | .truncate => .reply (reply rule.status rule.headers rule.body .broken)
    | .disconnect => .closed
    | .hang => .silent

/-- The rules that are left after a request: the one that served it is gone if it serves once. -/
def afterRequest : List Rule → Request → List Rule
  | [], _ => []
  | rule :: rest, request =>
    if rule.fits request then if rule.once then rest else rule :: rest
    else rule :: afterRequest rest request

/-- The gateway that follows a script. -/
def gateway (rules : List Rule) : Gateway := fun seen request =>
  respond (seen.foldl afterRequest rules) request

end Script
end GatewayProbe
