import CartridgeBank.Client
import CartridgeBank.Config.Toml
import CartridgeBank.Device
import CartridgeBank.Invocation
import CartridgeBank.QuotedPath
import CartridgeBank.RoundTrip

namespace CartridgeBank

/-- What the program finds around it. -/
structure Surroundings (π : Type) where
  read : String → Except IoFault Bytes
  /-- Listens at a host and a port. -/
  bind : String → UInt16 → Except IoFault Unit
  network : Network π

/-- How a run of the program ends. -/
inductive Outcome where
  | usage
  | help
  | failed (failure : Failure)
  | done (output : String)
  /-- The program serves a device until it is stopped. -/
  | serving (config : Config)

namespace Outcome

/-- The exit code of the program. -/
def exitCode : Outcome → UInt32
  | help | done _ | serving _ => 0
  | failed _ => 1
  | usage => 2

end Outcome

/-- The first line that tells of a failure. -/
def Failure.message : Failure → String
  | fault cause => cause.message
  | differs name => name ++ ": content read back differs"
  | loading path => "loading configuration from " ++ quotedPath path
  | reading path => "reading " ++ quotedPath path
  | noFileName path => quotedPath path ++ " has no file name"
  | binding host port => "binding " ++ host ++ ":" ++ port.toNat.repr

namespace CommandLine

variable {π : Type}

/-- The last part of a path, if it names a file. -/
def fileName? (path : String) : Option String :=
  let parts := (path.splitOn "/").filter fun part => part ≠ "" ∧ part ≠ "."
  match parts.getLast? with
  | some ".." => none
  | last => last

/-- The configuration of a file. -/
def loadConfig (world : Surroundings π) (path : String) : Except Failure Config :=
  let config? := do
    let bytes ← (world.read path).toOption
    let text ← String.fromUTF8? ⟨bytes.toArray⟩
    (Config.ofToml text).toOption
  match config? with
  | none => .error (.loading path)
  | some config => .ok config

/-- The configuration of an invocation: that of its file with the address of its options. -/
def configOf (world : Surroundings π) (invocation : Invocation) : Except Failure Config := do
  let config ← match invocation.config with
    | none => .ok {}
    | some path => loadConfig world path
  let endpoint := { config.endpoint with
    host := invocation.host.getD config.endpoint.host
    port := invocation.port.getD config.endpoint.port }
  let config := { config with endpoint }
  match config.validate with
  | .error fault => .error (.fault fault)
  | .ok () => .ok config

/-- A local file under its name. -/
def readLocal (world : Surroundings π) (path : String) : Except Failure (String × Bytes) :=
  match world.read path, fileName? path with
  | .error _, _ => .error (.reading path)
  | .ok _, none => .error (.noFileName path)
  | .ok data, some name => .ok (name, data)

/-- Makes a round trip and reports it. -/
def report {σ : Type} [Transport σ] (json : Bool) (files : List (String × Bytes))
    (storage : Storage σ) : Outcome × Storage σ :=
  match RoundTrip.run files storage with
  | .error failure storage => (.failed failure, storage)
  | .ok report storage =>
    (.done (if json then report.toJson.pretty 0 ++ "\n" else report.toText), storage)

/-- Copies files to the device at the other end of the network. -/
def copy [Peer π] (world : Surroundings π) (invocation : Invocation) (config : Config) :
    Outcome × Network π :=
  match invocation.files.mapM (readLocal world) with
  | .error failure => (.failed failure, world.network)
  | .ok files =>
    let client : Client π := { frameSize := config.geometry.frameSize, network := world.network }
    match Storage.create config client with
    | .error fault => (.failed (.fault fault), world.network)
    | .ok storage =>
      let (outcome, storage) := report invocation.json files storage
      (outcome, storage.transport.network)

/-- Makes a round trip of test files on a device in memory. -/
def selftest (invocation : Invocation) (config : Config) : Outcome :=
  let device : Device := { geometry := config.geometry }
  match Storage.create config device with
  | .error fault => .failed (.fault fault)
  | .ok storage =>
    (report invocation.json (RoundTrip.testFiles config.geometry.frameSize) storage).1

/-- Listens for clients of a device in memory. -/
def serve (world : Surroundings π) (config : Config) : Outcome :=
  match world.bind config.endpoint.host config.endpoint.port with
  | .error _ => .failed (.binding config.endpoint.host config.endpoint.port)
  | .ok () => .serving config

/-- Runs the program. Returns how it ended and what became of the network. -/
def run [Peer π] (world : Surroundings π) (arguments : List String) : Outcome × Network π :=
  match Invocation.ofArguments arguments with
  | .error .usage => (.usage, world.network)
  | .error .help => (.help, world.network)
  | .ok invocation =>
    match configOf world invocation with
    | .error failure => (.failed failure, world.network)
    | .ok config =>
      match invocation.task with
      | .serve => (serve world config, world.network)
      | .copy => copy world invocation config
      | .selftest => (selftest invocation config, world.network)

end CommandLine

end CartridgeBank
