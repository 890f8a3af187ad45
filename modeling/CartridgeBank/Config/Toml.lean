import CartridgeBank.Config.Reading
import CartridgeBank.Toml.Grammar
import CartridgeBank.Toml.Writer

namespace CartridgeBank

open Toml

/-- A point in time counts as a record none of whose fields is known. -/
instance : Document Node where
  fields? names
    | .table _ entries => some (names.map fun name => entries.lookup name)
    | .moment _ => some (names.map fun _ => none)
    | .array items => some (Document.inOrder names items)
    | .tables elements => some (Document.inOrder names (elements.map (.table .header)))
    | _ => none
  natural?
    | .integer value => if 0 ≤ value then some value.toNat else none
    | _ => none
  text?
    | .text text => some text
    | _ => none

namespace Config

/-- Reads and checks a configuration written in TOML. -/
def ofToml (text : String) : Except Fault Config := do
  match (document? text).bind Config.ofDocument? with
  | none => throw (.config .document)
  | some config =>
    config.validate
    return config

/-- The lines of a configuration, unless a number is too large for a document. -/
def tomlLines? (config : Config) : Option (List Char) := do
  let number (key : String) (value : Nat) : Option (List Char) :=
    (writeNatural? value).map (writePair key)
  return writeHeader "geometry" ++
    (← number "max_cartridges" config.geometry.cartridges) ++
    (← number "frames_per_cartridge" config.geometry.framesPerCartridge) ++
    (← number "frame_size" config.geometry.frameSize) ++
    ['\n'] ++ writeHeader "cache" ++
    (← number "capacity" config.cacheFrames) ++
    ['\n'] ++ writeHeader "network" ++
    writePair "host" (writeText config.endpoint.host.toList) ++
    (← number "port" config.endpoint.port.toNat) ++
    (← number "connect_timeout_ms" config.endpoint.connectTimeout) ++
    (← number "read_timeout_ms" config.endpoint.readTimeout) ++
    (← number "write_timeout_ms" config.endpoint.writeTimeout)

/-- Writes a configuration in TOML. -/
def toToml (config : Config) : Except Fault String :=
  match config.tomlLines? with
  | none => .error (.config .document)
  | some lines => .ok (String.ofList lines)

end Config

end CartridgeBank
