/-
The command line: reads arguments, variables and files, talks to the gateway and prints.

Each request has a connection of its own, which is not encrypted; an address that asks for
encryption counts as one that refuses connections.
-/
import GatewayProbe.Command.Run
import GatewayProbe.Exchange.Wire
import Std.Async.DNS
import Std.Async.TCP
import Std.Async.Timer

namespace GatewayProbe.Network

open Std.Async Std.Net

/-- Nanoseconds of a second. -/
def second : Nat := 1000000000

/-- Gives up waiting at a time of the clock; at least a millisecond passes. -/
def before {α : Type} (deadline : Nat) (action : Async α) : Async (Option α) := do
  let now ← IO.monoNanosNow
  let wait : Std.Time.Millisecond.Offset := .ofNat ((deadline - now) / 1000000 + 1)
  Async.race (some <$> action) (do sleep wait; return none)

/-- The bytes that arrive next, none when the connection is closed. -/
def arrival (socket : TCP.Socket.Client) : Async (Option ByteArray) :=
  try socket.recv? 65536 catch _ => return none

/-- Reads a response up to its end or to the deadline. -/
partial def listen (socket : TCP.Socket.Client) (start deadline : Nat) (r : Reading) :
    Async Answer := do
  let now ← IO.monoNanosNow
  if r.isOver || deadline ≤ now then return r.answer (now - start) false
  match ← before deadline (arrival socket) with
  | none => listen socket start deadline r
  | some arrived =>
    let now ← IO.monoNanosNow
    match arrived with
    | none => return r.answer (now - start) true
    | some bytes => listen socket start deadline (r.receive (now - start) bytes.toList)

/-- A connection to the first of some hosts that accepts it. -/
def connect (service : Nat) : List IPAddr → Async (Option TCP.Socket.Client)
  | [] => return none
  | ip :: others => do
    let address : SocketAddress := match ip with
      | .v4 addr => .v4 ⟨addr, service.toUInt16⟩
      | .v6 addr => .v6 ⟨addr, service.toUInt16⟩
    try
      let socket ← TCP.Socket.Client.mk
      socket.connect address
      return some socket
    catch _ => connect service others

/-- Sends a request and reads the response to it. -/
def exchange (access : Access) (request : Request) : Async Answer := do
  match WebAddress.parse? access.address with
  | none => return .refused
  | some address =>
    if address.isSecure then return .refused
    let start ← IO.monoNanosNow
    let deadline := start + request.budget * second
    let connected : Async (Option TCP.Socket.Client) :=
      try
        connect address.service (← DNS.getAddrInfo address.host (toString address.service)).toList
      catch _ => return none
    match ← before (min deadline (start + access.connectTimeout * second)) connected with
    | none => return .silent
    | some none => return .refused
    | some (some socket) =>
      let host := String.ofList address.authority
      try
        socket.send ⟨(request.wire host).toArray⟩
        listen socket start deadline {}
      catch _ => return .closed

end Network

/-- Carries out a session with a real gateway. -/
def Session.converse {α : Type} (exchange : Request → IO Answer) : Session α → IO α
  | .done value => return value
  | .ask request next => do (next (← exchange request)).converse exchange

/-- What is found at a path. -/
def look (path : String) : IO Found := do
  if let some fault := Files.pathFault? path then return .absent fault
  try
    return .file (← IO.FS.readBinFile path).toList
  catch
    | .inappropriateType _ 21 _ => return .folder
    | .inappropriateType _ _ _ => return .absent .notFolder
    | .invalidArgument _ _ _ => return .absent .nameTooLong
    | _ => return .absent .missing

/-- Carries out what a command line says. Gives the exit code. -/
def Invocation.perform (i : Invocation) : IO UInt32 := do
  let named ← (Settings.variableNames ++ Ink.variableNames).mapM fun name => do
    return (name, ← IO.getEnv name)
  let environment : Variables := fun name => (named.lookup name).join
  let found ← (i.overrides.config :: i.command.paths).mapM fun path => do
    return (path, ← look path)
  let files : Files := fun path => (found.lookup path).getD (.absent .missing)
  let first := Draws.seeded (← IO.rand 0 0xFFFFFFFFFFFFFFFF).toUInt64
  let second := Draws.seeded (← IO.rand 0 0xFFFFFFFFFFFFFFFF).toUInt64
  let chance (choice : Nat) : Draws := if choice = 0 then first else second
  let ink := Ink.chosen i.noColour (← (← IO.getStdout).isTty) environment
  let access := match Settings.layered files environment i.overrides with
    | .ok settings => settings.access
    | .error _ => {}
  let session := Command.run { files, environment, chance, ink } i
  match ← session.converse fun request => (Network.exchange access request).block with
  | .error failure =>
    IO.eprintln ("Error: " ++ failure.message)
    return failure.exitCode
  | .ok result =>
    if let some (path, text) := result.written then IO.FS.writeFile path text
    IO.println result.page.shown
    return if result.success then 0 else 1

end GatewayProbe

/-- Runs the program. -/
def main (args : List String) : IO UInt32 := do
  match GatewayProbe.Command.parse args with
  | .ok invocation => invocation.perform
  | .error e =>
    IO.eprintln ("error: " ++ e.message)
    return e.exitCode
