import CartridgeBank.Fault
import CartridgeBank.Geometry

namespace CartridgeBank

/-- Where a device is served, and how many milliseconds each network call may take. A limit of 0
stands for none. -/
structure Endpoint where
  host : String := "127.0.0.1"
  port : UInt16 := 19876
  connectTimeout : Nat := 5000
  readTimeout : Nat := 5000
  writeTimeout : Nat := 5000
deriving DecidableEq, Repr

/-- A limit in milliseconds as seconds and nanoseconds, if there is one. -/
def deadline? (milliseconds : Nat) : Option (Nat × Nat) :=
  if milliseconds = 0 then none
  else some (milliseconds / 1000, milliseconds % 1000 * 1000000)

/-- All settings of a storage. -/
structure Config where
  geometry : Geometry := {}
  cacheFrames : Nat := 64
  endpoint : Endpoint := {}
deriving DecidableEq, Repr

namespace Geometry

/-- Counts and sizes lie between 1 and 65536. -/
def inRange (value : Nat) : Bool := 1 ≤ value ∧ value ≤ 65536

/-- The names of the fields out of range, in alphabetical order. -/
def outOfRange (geometry : Geometry) : List String :=
  ([("frame_size", geometry.frameSize), ("frames_per_cartridge", geometry.framesPerCartridge),
    ("max_cartridges", geometry.cartridges)].filter fun field => !inRange field.2).map Prod.fst

end Geometry

/-- The names of the fields out of range, in alphabetical order. -/
def Endpoint.outOfRange (endpoint : Endpoint) : List String :=
  (if endpoint.host = "" then ["host"] else []) ++ (if endpoint.port = 0 then ["port"] else [])

namespace Config

/-- Checks every setting. The first failing check counts: the ranges of the geometry, the number of
frames in total, the endpoint, the cache. -/
def validate (config : Config) : Except Fault Unit :=
  if config.geometry.outOfRange ≠ [] then
    .error (.config (.outOfRange "geometry" config.geometry.outOfRange))
  else if maxTotalFrames < config.geometry.totalFrames then
    .error (.config
      (.tooManyFrames config.geometry.cartridges config.geometry.framesPerCartridge))
  else if config.endpoint.outOfRange ≠ [] then
    .error (.config (.outOfRange "network" config.endpoint.outOfRange))
  else if config.cacheFrames = 0 ∨ maxCacheFrames < config.cacheFrames then
    .error (.invalidCacheSize config.cacheFrames)
  else .ok ()

end Config

end CartridgeBank
