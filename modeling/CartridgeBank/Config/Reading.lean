import CartridgeBank.Config
import CartridgeBank.Document

namespace CartridgeBank

open Document

variable {ν : Type} [Document ν]

/-- Reads a geometry. Missing fields take their defaults. -/
def Geometry.ofDocument? (node : ν) : Option Geometry := do
  let defaults : Geometry := {}
  match ← fields? ["max_cartridges", "frames_per_cartridge", "frame_size"] node with
  | [cartridges, framesPerCartridge, frameSize] =>
    return {
      cartridges := ← field defaults.cartridges (word? 64) cartridges
      framesPerCartridge := ← field defaults.framesPerCartridge (word? 64) framesPerCartridge
      frameSize := ← field defaults.frameSize (word? 64) frameSize }
  | _ => none

/-- Reads the number of cached frames. -/
def cacheFramesOfDocument? (node : ν) : Option Nat := do
  match ← fields? ["capacity"] node with
  | [capacity] => field ({} : Config).cacheFrames (word? 64) capacity
  | _ => none

/-- Reads an endpoint. Missing fields take their defaults. -/
def Endpoint.ofDocument? (node : ν) : Option Endpoint := do
  let defaults : Endpoint := {}
  let names :=
    ["host", "port", "connect_timeout_ms", "read_timeout_ms", "write_timeout_ms"]
  match ← fields? names node with
  | [host, port, connect, read, write] =>
    return {
      host := ← field defaults.host text? host
      port := ← field defaults.port (fun node => (word? 16 node).map UInt16.ofNat) port
      connectTimeout := ← field defaults.connectTimeout (word? 64) connect
      readTimeout := ← field defaults.readTimeout (word? 64) read
      writeTimeout := ← field defaults.writeTimeout (word? 64) write }
  | _ => none

/-- Reads a configuration. Missing sections take their defaults, and unknown ones are ignored. -/
def Config.ofDocument? (node : ν) : Option Config := do
  let defaults : Config := {}
  match ← fields? ["geometry", "cache", "network"] node with
  | [geometry, cache, network] =>
    return {
      geometry := ← field defaults.geometry Geometry.ofDocument? geometry
      cacheFrames := ← field defaults.cacheFrames cacheFramesOfDocument? cache
      endpoint := ← field defaults.endpoint Endpoint.ofDocument? network }
  | _ => none

end CartridgeBank
