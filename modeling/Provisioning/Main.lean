/-
**The program on a computer.**

Files, the backend, time and random numbers are those of the computer that the program runs on, and
what it writes goes to the standard output and the standard error.  Everything that is decided is
decided elsewhere; here it is only carried out.

Connections to the backend are not encrypted.  A backend that wants them to be is out of reach, as
one is that nobody listens for.  Redirects are not followed, but handed on as answers.

Main definitions:

* `Computer.find`, `Computer.exchange`, `Computer.allot` — what the program needs from the computer;
* `Computer.system` — the computer as surroundings of the program;
* `main` — **the program**.
-/

import Provisioning.Backend.Message
import Provisioning.Program.Run
import Provisioning.Random.ChaCha
import Std.Async.DNS
import Std.Async.System
import Std.Async.TCP
import Std.Async.Timer

set_option autoImplicit false
set_option relaxedAutoImplicit false

namespace Provisioning.Computer

open Std.Async (Async)
open Std.Net (IPAddr IPv4Addr IPv6Addr SocketAddress)

/-! ### Files -/

/-- What the failure to read a file says about the place.  A directory can be opened, and only
reading it fails. -/
def foundOf : IO.Error → Found
  | .noFileOrDirectory .. => .nothing
  | .inappropriateType _ code _ => if code = 21 then .directory else .blocked
  | .invalidArgument _ code _ => if code = 36 then .tooLong else .denied
  | _ => .denied

/-- What is at a path. -/
def find (path : String) : IO Found := do
  if path.isEmpty then return .nothing
  if path.contains '\x00' then return .unnameable
  try
    let bytes ← IO.FS.readBinFile path
    return .file bytes.toList
  catch e => return foundOf e

/-! ### The backend -/

/-- The addresses that a host stands for. -/
def addresses (host : String) : Async (List IPAddr) := do
  let bare := String.ofList (host.toList.filter fun c => c != '[' && c != ']')
  match IPv4Addr.ofString bare, IPv6Addr.ofString bare with
  | some address, _ => return [.v4 address]
  | _, some address => return [.v6 address]
  | none, none => return (← Std.Async.DNS.getAddrInfo host "").toList

/-- An address with a port. -/
def placeOf (port : UInt16) : IPAddr → SocketAddress
  | .v4 addr => .v4 { addr, port }
  | .v6 addr => .v6 { addr, port }

/-- Connect to the first of several places that can be reached. -/
def connect : List SocketAddress → Async (Option Std.Async.TCP.Socket.Client)
  | [] => return none
  | place :: others => do
    try
      let client ← Std.Async.TCP.Socket.Client.mk
      client.connect place
      return some client
    catch _ => connect others

/-- How many bytes are received at a time. -/
def portion : UInt64 := 65536

/-- Send a request and receive until the answer has arrived or the connection ends.  The bytes that
have arrived are kept in `arrived`, from where they can be read when the time limit strikes. -/
def converse (r : Backend.HttpRequest) (arrived : IO.Ref (List UInt8)) :
    Async Backend.Exchange := do
  let port : UInt16 := .ofNat (r.url.port.getD 80)
  let places := (← addresses (String.ofList (r.url.host.getD []))).map (placeOf port)
  let some client ← connect places | return .unreachable
  client.send (ByteArray.mk (Backend.Message.ofRequest r).toArray)
  repeat
    let more ← try client.recv? portion catch _ => pure none
    match more with
    | none => return Backend.Message.ended false (← arrived.get)
    | some bytes =>
      arrived.modify (· ++ bytes.toList)
      if let some answer := Backend.Message.answer? (← arrived.get) then return answer
  return .unreachable

/-- The longest time limit that is kept, in seconds. -/
def longestLimit : Nat := 1000000000

/-- Send a request, and wait until it has ended. -/
def exchange (r : Backend.HttpRequest) : IO Backend.Exchange := do
  if r.url.scheme != "http".toList then return .unreachable
  let arrived ← IO.mkRef []
  let talk : Async (Option Backend.Exchange) := do
    try return some (← converse r arrived) catch _ => return some .unreachable
  let limit : Async (Option Backend.Exchange) := do
    Std.Async.sleep (.ofNat (min r.limitSecs.toNat longestLimit * 1000))
    return none
  match ← (Async.race talk limit).block with
  | some e => return e
  | none => return Backend.Message.ended true (← arrived.get)

/-! ### Time and random numbers -/

/-- Sleep for some milliseconds. -/
def sleep (ms : UInt64) : IO Unit := do
  let longest := 0xffffffff
  for _ in [0 : ms.toNat / longest] do IO.sleep 0xffffffff
  IO.sleep (.ofNat (ms.toNat % longest))

/-- The present time. -/
def now : IO Instant := do
  let t ← Std.Time.Timestamp.now
  return ⟨t.val.second.val, t.val.nano.val.toNat⟩

/-- A word of four bytes. -/
def word (bytes : ByteArray) (place : Nat) : UInt32 :=
  (List.range 4).foldl (fun w i => (w <<< 8) ||| ((bytes[place * 4 + i]?).getD 0).toUInt32) 0

/-- A random key. -/
def randomKey : IO ChaCha.Key := do
  let bytes ← IO.getRandomBytes 32
  return Vector.ofFn fun i => word bytes i.val

/-- How often the count of draws is doubled before none are enough. -/
def doublings : Nat := 16

/-- The names and ports of a run. -/
def allot (port : UInt16) (wish : String) : IO Allotment := do
  let key ← randomKey
  let drawn := (List.range doublings).findSome? fun n =>
    Allotment.draw? port wish (ChaCha.draws key (16 <<< n))
  match drawn with
  | some allotment => return allotment
  | none => throw (IO.userError "no free names and ports were drawn")

/-- The identifier of a run. -/
def newRun : IO RunId := do
  match ChaCha.draws (← randomKey) 1 with
  | high :: low :: _ => return .random high low
  | _ => return default

/-! ### The program -/

/-- Write to the channel that is meant. -/
def write (output : Program.Output) : IO Unit := do
  let stream ← match output.channel with
    | .standardOutput => IO.getStdout
    | .standardError => IO.getStderr
  stream.putStr output.text
  stream.flush

/-- The computer as surroundings of the program. -/
def system : Program.System IO where
  find := find
  exchange := exchange
  sleep := sleep
  allot := allot
  newRun := newRun
  now := now
  write := write

/-- The home directory of the user's account. -/
def accountHome : IO (Option String) := do
  try return (← Std.Async.System.getCurrentUser).homeDir.map (·.toString) catch _ => return none

end Provisioning.Computer

open Provisioning in
/-- **The program.** -/
def main (arguments : List String) : IO UInt32 := do
  let environment := (← Std.Internal.UV.System.osEnviron).toList
  Program.run Computer.system {
    words := "workspace-provisioner" :: arguments
    environment
    accountHome := ← Computer.accountHome }
