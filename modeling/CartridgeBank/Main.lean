import CartridgeBank.CommandLine
import CartridgeBank.Relay
import CartridgeBank.Tape
import Std.Async

open Std.Async

namespace CartridgeBank.Program

/-- The cause of a failed call of the system. -/
def faultOf : IO.Error → IoFault
  | .noFileOrDirectory .. => .notFound
  | error => .failed (toString error)

def readLocal (path : String) : IO (String × Except IoFault Bytes) := do
  try return (path, .ok (← IO.FS.readBinFile path).toList)
  catch error => return (path, .error (faultOf error))

/-- The addresses of an endpoint. -/
def addresses (endpoint : Endpoint) : IO (List Std.Net.SocketAddress) := do
  let port := endpoint.port
  let found ← (DNS.getAddrInfo endpoint.host port.toNat.repr).block
  return found.toList.map fun
    | .v4 addr => .v4 { addr, port }
    | .v6 addr => .v6 { addr, port }

/-- Tries the addresses one after the other. -/
def connect (failure : IO.Error) : List Std.Net.SocketAddress → IO TCP.Socket.Client
  | [] => throw failure
  | address :: rest => do
    try
      let socket ← TCP.Socket.Client.mk
      (socket.connect address).block
      socket.noDelay
      return socket
    catch failure => connect failure rest

def sendAll (socket : TCP.Socket.Client) (bytes : Bytes) : IO Unit :=
  (socket.send ⟨bytes.toArray⟩).block

/-- Receives until a request is settled or the connection ends. -/
partial def receiveAnswer (socket : TCP.Socket.Client) (frameSize : Nat)
    (request received : Bytes) : IO Bytes := do
  if Tape.isSettled frameSize request received then return received
  match ← (socket.recv? 65536).block with
  | none => return received
  | some bytes => receiveAnswer socket frameSize request (received ++ bytes.toList)

/-- What is known of the world while the program runs. -/
structure Knowledge where
  files : List (String × Except IoFault Bytes)
  reach : Reach := .listening
  socket : Option TCP.Socket.Client := none
  answers : List Bytes := []

def Knowledge.surroundings (known : Knowledge) : Surroundings Tape where
  read path := (known.files.lookup path).getD (.error .notFound)
  bind _ _ := .ok ()
  network := { reach := known.reach, peer := { answers := known.answers } }

/-- The answer to a request, as far as it arrives. -/
def ask (socket : TCP.Socket.Client) (frameSize : Nat) (request : Bytes) : IO Bytes := do
  try
    sendAll socket request
    receiveAnswer socket frameSize request []
  catch _ => return []

/-- Sends a request, on a new connection if there is none, and learns its answer. -/
def learn (known : Knowledge) (config : Config) (request : Bytes) : IO Knowledge := do
  try
    let socket ← match known.socket with
      | some socket => pure socket
      | none => connect (.userError "no address") (← addresses config.endpoint)
    let answer ← ask socket config.geometry.frameSize request
    return { known with socket := some socket, answers := known.answers ++ [answer] }
  catch failure => return { known with reach := .failing (faultOf failure) }

/-- Runs the program on what is known, and again from the start whenever one more answer of the
peer is known. -/
partial def play (arguments : List String) (known : Knowledge) : IO Outcome := do
  let world := known.surroundings
  let (outcome, network) := CommandLine.run world arguments
  match network.peer.unanswered, Invocation.ofArguments arguments with
  | some request, .ok invocation =>
    match CommandLine.configOf world invocation with
    | .ok config => play arguments (← learn known config request)
    | .error failure => return .failed failure
  | _, _ => return outcome

/-- Serves a connection to its end. -/
partial def serveConnection (socket : TCP.Socket.Client) (host : Host Device) :
    IO (Host Device) := do
  let received ← try (socket.recv? 65536).block catch _ => pure none
  match received with
  | none => return Peer.hangUp host
  | some bytes =>
    let (answer, host) := Peer.deliver bytes.toList host
    try
      sendAll socket answer
      if host.unread.isNone then
        socket.shutdown.block
        return host
    catch _ => return Peer.hangUp host
    serveConnection socket host

/-- Serves one connection after the other. -/
partial def serveAll (server : TCP.Socket.Server) (host : Host Device) : IO Unit := do
  let socket ← server.accept.block
  socket.noDelay
  serveAll server (← serveConnection socket (Peer.accept host))

/-- Listens at the first address of an endpoint. -/
def listen (endpoint : Endpoint) : IO TCP.Socket.Server := do
  match ← addresses endpoint with
  | [] => throw (.userError "no address")
  | address :: _ =>
    let server ← TCP.Socket.Server.mk
    server.bind address
    server.listen 128
    return server

def serve (config : Config) : IO Outcome := do
  let server? ← try pure (some (← listen config.endpoint)) catch _ => pure none
  match server? with
  | none => return .failed (.binding config.endpoint.host config.endpoint.port)
  | some server =>
    let device : Device := { geometry := config.geometry }
    serveAll server { relay := { device, frameSize := config.geometry.frameSize } }
    return .serving config

def print : Outcome → IO Unit
  | .usage => IO.eprint Invocation.summary
  | .help => IO.print Invocation.summary
  | .failed failure => IO.eprintln ("Error: " ++ failure.message)
  | .done output => IO.print output
  | .serving _ => pure ()

def run (arguments : List String) : IO UInt32 := do
  let paths := match Invocation.ofArguments arguments with
    | .ok invocation => invocation.paths
    | .error _ => []
  let files ← paths.mapM readLocal
  let outcome ← match ← play arguments { files } with
    | .serving config => serve config
    | outcome => pure outcome
  print outcome
  return outcome.exitCode

end CartridgeBank.Program

def main (arguments : List String) : IO UInt32 := CartridgeBank.Program.run arguments
