import Assay.Command
import Assay.Http
import Std.Async.DNS
import Std.Async.TCP
import Std.Async.Timer

/-!
# The command line

The world as it is: requests go over the network, pauses take time, and files are written to
disk.
-/
namespace Assay.Live

open Std.Async Std.Net

/-- A host at a port. -/
def socketAddress (host : IPAddr) (port : UInt16) : SocketAddress :=
  match host with
  | .v4 host => .v4 ⟨host, port⟩
  | .v6 host => .v6 ⟨host, port⟩

/-- The name of a host as it is looked up. -/
def lookupName (url : Url) : String :=
  String.ofList ((url.host.getD []).filter (· ∉ ['[', ']']))

/-- Receive bytes after those that have arrived, until the answer is whole. -/
partial def receive (socket : TCP.Socket.Client) (arrived : IO.Ref (List UInt8)) :
    Async Delivery := do
  match ← socket.recv? 65536 with
  | none => return (Http.read? (← arrived.get) true).getD (.unanswered false)
  | some bytes =>
    arrived.modify (· ++ bytes.toList)
    match Http.read? (← arrived.get) false with
    | some delivery => return delivery
    | none => receive socket arrived

/-- Send a request and receive the answer, of which no bytes have arrived so far. -/
def exchange (request : Post) (arrived : IO.Ref (List UInt8)) : Async Delivery := do
  try
    if request.url.scheme != "http".toList then return .unanswered false
    let hosts ← DNS.getAddrInfo (lookupName request.url) ""
    let some host := hosts[0]? | return .unanswered false
    let socket ← TCP.Socket.Client.mk
    socket.connect (socketAddress host (UInt16.ofNat (request.url.port.getD 80)))
    socket.send (ByteArray.mk (Http.requestBytes request).toArray)
    receive socket arrived
  catch _ => return .unanswered false

instance : Inhabited Delivery := ⟨.unanswered false⟩

/-- Send a request and wait for the answer as long as the request says. -/
def post (request : Post) : IO Delivery := do
  let arrived ← IO.mkRef []
  match request.timeout with
  | none => (exchange request arrived).block
  | some limit =>
    let expire : Async Delivery := do
      sleep (.ofNat (max 1 limit.milliseconds))
      return Http.late (← arrived.get)
    (Async.race (exchange request arrived) expire).block

/-- Pause. -/
def pause (span : Duration) : IO Unit :=
  (sleep (.ofNat span.milliseconds)).block

/-- Why a file could not be written or a directory not be made. -/
def faultOf : IO.Error → FileFault
  | .noFileOrDirectory .. => .missing
  | .alreadyExists .. => .alreadyExists
  | .inappropriateType _ 21 _ => .isDirectory
  | .inappropriateType .. => .notDirectory
  | .invalidArgument _ 36 _ => .nameTooLong
  | error => .other (toString error)

/-- Do something to files, unless a fault keeps it from being done. -/
def attempt (action : IO Unit) : IO (Except FileFault Unit) := do
  try
    action
    return .ok ()
  catch error => return .error (faultOf error)

/-- Whether there is a directory under a path: in a directory, and nowhere else, a dot is one that
is there already. -/
def isDirectory (path : String) : IO Bool := do
  match ← attempt (IO.FS.createDir (path ++ "/.")) with
  | .error .alreadyExists => return true
  | _ => return false

/-- Answer what the command asks of the world. -/
def answer : (event : WorldEvent) → IO (world.Answer event)
  | .post request => post request
  | .wait span => pause span
  | .now => return ⟨← IO.monoNanosNow⟩
  | .makeDirectory path => attempt (IO.FS.createDir path)
  | .isDirectory path => isDirectory path
  | .write path text => attempt (IO.FS.writeFile path text)

end Assay.Live

/-- Run the command with the arguments it was given. -/
def main (arguments : List String) : IO UInt32 := do
  let environment : Assay.Environment :=
    ⟨← IO.getEnv "MOCKREST_BASE_URL", ← IO.getEnv "MOCKREST_API_KEY"⟩
  let exit ← (Assay.Command.run environment arguments).runIn Assay.Live.answer
  IO.print exit.output
  IO.eprint exit.message
  return exit.code.toUInt32
