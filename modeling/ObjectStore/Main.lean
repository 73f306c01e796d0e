import ObjectStore.Command.Program
import ObjectStore.Http.Wire
import Std.Async.DNS
import Std.Async.TCP
import Std.Time.DateTime.Timestamp
/-!
# The command line

The program in the world: requests go over connections of their own, one for each, and the
environment is read once.  Secured connections are not provided, so a request that needs one
fails as if the network did.
-/

namespace ObjectStore

def readLocalFile (name : String) : IO (Except InputFault Bytes) := do
  try
    let content ← IO.FS.readBinFile name
    return .ok content.toList
  catch
    | .noFileOrDirectory .. => return .error .noSuchFile
    | e => return .error (.stated (toString e))

def lookUp (host : String) (port : UInt16) : IO Std.Net.SocketAddress := do
  let found ← (Std.Async.DNS.getAddrInfo host (toString port.toNat)).block
  match found.toList with
  | [] => throw (IO.userError ("no address of " ++ host))
  | .v4 addr :: _ => return .v4 { addr, port }
  | .v6 addr :: _ => return .v6 { addr, port }

/-- All that a server sends before it closes the connection. -/
partial def receiveAll (socket : Std.Async.TCP.Socket.Client) (received : ByteArray) :
    IO ByteArray := do
  match ← (socket.recv? 65536).block with
  | some piece => receiveAll socket (received ++ piece)
  | none => return received

/-- Send bytes along a route and wait for the answer. -/
def exchangeBytes (route : Http.Route) (message : Bytes) : IO Bytes := do
  if route.secure then throw (IO.userError "secured connections are not supported")
  let address ← lookUp route.host route.port.toUInt16
  let socket ← Std.Async.TCP.Socket.Client.mk
  (socket.connect address).block
  (socket.send ⟨message.toArray⟩).block
  let answer ← receiveAll socket ByteArray.empty
  return answer.toList

def sendRequest (q : Http.Request) : IO (Except Fault Http.Response) := do
  match q.sentHeaders, q.body.collect with
  | .error f, _ => return .error (.http f)
  | _, .error f => return .error (.input f)
  | .ok headers, .ok body =>
    try
      let answer ← exchangeBytes (Http.Route.ofUrl q.url) (q.encode headers body)
      match Http.Response.decode? (answer.length + 1) answer with
      | some r => return .ok r
      | none => return .error (.transport .connectionReset)
    catch e => return .error (.transport (.stated (toString e)))

/-- The variables that a profile or the assignment file can ask for. -/
def readEnvironment : IO Environment := do
  let file ← readLocalFile Settings.assignmentFile
  let text := (file.toOption.bind Text.Utf8.decode?).getD ""
  let names := Profile.variableNames ++ AssignmentFile.mentioned text
  names.foldlM
    (fun e name => do
      match ← IO.getEnv name with
      | some value => return e.insert name value
      | none => return e)
    Table.empty

def terminal (output input : IO.FS.Stream) : Command.World IO :=
  { send := sendRequest
    print := fun text => do
      output.putStr text
      output.flush
    readLine := input.getLine
    contents := readLocalFile }

end ObjectStore

open ObjectStore in
def main (words : List String) : IO UInt32 := do
  let now ← Std.Time.Timestamp.now
  let moment := Moment.ofSeconds now.toSecondsSinceUnixEpoch.val
  let environment ← readEnvironment
  let world := terminal (← IO.getStdout) (← IO.getStdin)
  let errors ← IO.getStderr
  match ← (Command.program words environment moment).run world with
  | none =>
    errors.putStr (Command.CommandFault.report .unfinished)
    return 1
  | some ending =>
    if let .usage f := ending then
      if !f.isWish then errors.putStr ("error: " ++ f.message ++ "\n")
    errors.putStr (ending.report.getD "")
    return ending.status.toUInt32
