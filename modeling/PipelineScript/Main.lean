/-
# The command line

Compiles saved pipelines and asks the schema backend for columns, with
the files and the network of the system.
-/
import PipelineScript.Command.Run
import PipelineScript.Schema.Transfer
import Std.Async

namespace PipelineScript.Main

open Std.Async Std.Net

/-- The number of a system error, which may come with its sign turned. -/
def errorNumber (code : UInt32) : Nat :=
  if code < 2147483648 then code.toNat else (0 - code).toNat

/-- The failure that the system reports by a number. -/
def systemError (code : UInt32) (reason : String) : FileError :=
  match errorNumber code with
  | 2 => .missing
  | 13 => .system "Permission denied" 13
  | 20 => .notFolder
  | 21 => .isFolder
  | n => .system reason n

/-- The reason for which the system refused a file. -/
def fileError : IO.Error → FileError
  | .noFileOrDirectory _ code reason | .inappropriateType _ code reason
  | .permissionDenied _ code reason | .alreadyExists _ code reason
  | .invalidArgument _ code reason | .resourceExhausted _ code reason
  | .noSuchThing _ code reason | .otherError code reason | .resourceBusy code reason
  | .hardwareFault code reason | .illegalOperation code reason => systemError code reason
  | _ => .noText

/-- The files of the system. -/
def files : Files IO where
  read path := do
    try
      match String.fromUTF8? (← IO.FS.readBinFile path) with
      | some text => return .ok text
      | none => return .error .noText
    catch e => return .error (fileError e)
  write path bytes := do
    try
      IO.FS.writeBinFile path ⟨bytes.toArray⟩
      return .ok ()
    catch e => return .error (fileError e)

/-- Everything that comes until the other side closes the connection. -/
partial def receiveAll (socket : TCP.Socket.Client) (got : ByteArray) : Async ByteArray := do
  match ← socket.recv? 65536 with
  | some bytes => receiveAll socket (got ++ bytes)
  | none => return got

/-- Sends a question to an address and waits for the answer. -/
def post (e : Endpoint) (q : Question) : Async Exchange := do
  let failed : Exchange := .failed ("error sending request for url (" ++ e.url.text ++ ")")
  try
    let port := e.port.toUInt16
    let addresses ← DNS.getAddrInfo e.host (toString port)
    match addresses.toList with
    | [] => return failed
    | address :: _ =>
      let socket ← TCP.Socket.Client.mk
      socket.connect (match address with | .v4 a => .v4 ⟨a, port⟩ | .v6 a => .v6 ⟨a, port⟩)
      socket.sendAll #[(e.requestText q).toUTF8]
      let bytes ← receiveAll socket ByteArray.empty
      return (Exchange.ofBytes? bytes.toList).getD failed
  catch _ => return failed

instance : Inhabited Exchange := ⟨.timedOut⟩

/-- Asks the backend within its time limit. -/
def ask (b : BackendSettings) (q : Question) : IO Exchange := do
  match Endpoint.ofText b.endpoint with
  | .error _ => return .failed (Endpoint.sendFailure b.endpoint)
  | .ok e =>
    if e.url.scheme != "http" then return .failed (Endpoint.sendFailure b.endpoint)
    Async.block (Async.race (post e q) (do
      sleep (.ofNat b.timeoutMs)
      return .timedOut))

def surroundings : Surroundings IO where
  files
  ask
  print text := do
    let out ← IO.getStdout
    out.putStr text
    out.flush
  note text := IO.eprint text

end PipelineScript.Main

def main (arguments : List String) : IO UInt32 := do
  let ending ← PipelineScript.runArguments PipelineScript.Main.surroundings arguments
  match ending with
  | .done => return ending.exitCode
  | .failed cause => IO.eprintln ("\nError: " ++ cause.message); return ending.exitCode
  | .misused =>
    IO.eprintln "Usage: [-c FILE] (compile PIPELINE | columns PIPELINE NODE | table TABLE)"
    return ending.exitCode
