import LiveBoard.Api.Wire
import LiveBoard.Cli.Program
import Std.Async.DNS
import Std.Async.TCP

/-! The program: it reads its surroundings, carries requests to the server, and prints. -/

namespace LiveBoard.Cli

open Std.Async

/-- The fault behind an error that the system reports. -/
def faultOf : IO.Error → FileFault
  | .noFileOrDirectory .. | .noSuchThing .. => .missing
  | .permissionDenied .. => .denied
  | .inappropriateType .. => .isDirectory
  | .userError _ => .notText
  | _ => .notDirectory

/-- The text of a file. -/
def readFile (path : String) : IO (Except FileFault String) := do
  try return .ok (← IO.FS.readFile path)
  catch error => return .error (faultOf error)

/-- All variables that surround the run. -/
def readEnvironment : IO Environment := do
  let entries := (← IO.FS.readBinFile "/proc/self/environ").toList.splitOn 0
  return ⟨entries.filterMap fun entry =>
    match (Text.ofUtf8 entry).span (· != '=') with
    | (name, '=' :: value) => some (String.ofList name, String.ofList value)
    | _ => none⟩

/-- What the run finds around it; of all files only the one with the settings is read. -/
def readSurroundings (words : List String) : IO Surroundings := do
  let environment ← readEnvironment
  let dotenv := (← readFile ".env").toOption
  let path := settingsPath? environment dotenv words
  let content ← path.mapM readFile
  return ⟨environment, dotenv, fun wanted =>
    -- A run asks for no other file, so that none other is looked for.
    if some wanted = path then content.getD (.error .missing) else .error .missing⟩

/-- The clocks that go by the rules of a zone. -/
def zoneOf (rules : Std.Time.TimeZone.ZoneRules) : TimeZone where
  ahead instant :=
    let moment := Std.Time.Timestamp.ofSecondsSinceUnixEpoch (.ofInt instant.seconds)
    -- Rules that put clocks a whole day ahead or behind would be none of any place.
    max (-86399) (min 86399 (rules.timezoneAt moment).offset.second.val)
  inDay instant := by
    dsimp only
    omega

/-- The clocks of the place: those that a variable names, or those of the system. -/
def readZone (environment : Environment) : IO TimeZone := do
  try
    match (environment.get? "TZ").bind Text.nonBlank with
    | some name => return zoneOf (← Std.Time.Database.defaultGetZoneRules name)
    | none => return zoneOf (← Std.Time.Database.defaultGetLocalZoneRules)
  -- A system that does not say which clocks it goes by is taken to go by universal time.
  catch _ => return .utc

/-- The addresses of the server of a request. -/
def resolveHost (url : Url) : Async (List Std.Net.SocketAddress) := do
  let port := UInt16.ofNat (url.port.getD url.scheme.defaultPort)
  let found ← DNS.getAddrInfo (String.ofList url.host.render) (toString port)
  return found.toList.map fun
    | .v4 address => .v4 ⟨address, port⟩
    | .v6 address => .v6 ⟨address, port⟩

/-- Receive what the server sends until it closes the connection. -/
partial def receiveAll (socket : TCP.Socket.Client) (received : IO.Ref ByteArray) :
    Async ByteArray := do
  match ← socket.recv? 65536 with
  | some bytes =>
    received.modify (· ++ bytes)
    receiveAll socket received
  | none => received.get

/-- Send a request to its server, and receive the whole reply. -/
def converseOver (request : Request) (received : IO.Ref ByteArray) : Async ByteArray := do
  match ← resolveHost request.url with
  | [] => received.get
  | address :: _ =>
    let socket ← TCP.Socket.Client.mk
    socket.connect address
    socket.send request.toWire.toUTF8
    receiveAll socket received

/-- How long a feed is listened to before the next one has its turn, in milliseconds. -/
def turn : UInt32 := 1000

/-- Make a request; a feed is cut off when its turn is over. -/
def exchange (request : Request) : IO Reply := do
  -- Only plain connections are made.
  if request.url.scheme = .https then return .dropped
  let received ← IO.mkRef ByteArray.empty
  let reply := Async.block (converseOver request received)
  match request.accepted with
  | .anything =>
    try return .ofWire (← reply).toList
    catch _ => return .ofWire (← received.get).toList
  | .events =>
    -- A feed does not end by itself: what has come by the end of its turn is taken.
    let _ ← IO.asTask reply
    IO.sleep turn
    return .ofWire (← received.get).toList

/-- Carry out a course of requests. -/
def converse {α : Type} : Dialogue α → IO α
  | .done result => return result
  | .ask request resume => do converse (resume (← exchange request))

/-- Print what a run left. -/
def conclude (outcome : Outcome) : IO UInt32 := do
  (← IO.getStdout).putStr outcome.output
  (← IO.getStderr).putStr outcome.errors
  return UInt32.ofNat outcome.code

/-- Draw screens one over the other. -/
def draw (screens : List String) : IO Unit := do
  let output ← IO.getStdout
  output.putStr (String.join screens)
  output.flush

/-- Follow a board and draw every change of it until the run is interrupted. -/
partial def watchOn (watch : Watch) : IO Unit := do
  let (watch, drawn) ← converse watch.round
  draw drawn
  IO.sleep (UInt32.ofNat (min watch.context.settings.reconnectDelay.toNat 4294967295))
  watchOn watch

/-- Run the program on the words of its command line. -/
def runMain (words : List String) : IO UInt32 := do
  let surroundings ← readSurroundings words
  let platform : Platform := { zone := ← readZone surroundings.environment }
  match prepare platform surroundings words with
  | .ok (⟨.watch board, _, _, _⟩, context) =>
    match ← converse (Watch.start context board).run with
    | .error failure => conclude (.ofFailure failure)
    | .ok watch =>
      draw [context.screen watch.sync.store]
      watchOn watch
      return 0
  | _ => conclude (← converse (run surroundings words 0 platform))

end LiveBoard.Cli

/-- Run the program. -/
def main (words : List String) : IO UInt32 := LiveBoard.Cli.runMain words
