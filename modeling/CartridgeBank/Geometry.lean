import CartridgeBank.Frame

namespace CartridgeBank

/-- The shape of a bank: how many cartridges, how many frames on each, how many bytes in a frame. -/
structure Geometry where
  cartridges : Nat := 64
  framesPerCartridge : Nat := 1024
  frameSize : Nat := 1024
deriving DecidableEq, Repr

namespace Geometry

def totalFrames (geometry : Geometry) : Nat := geometry.cartridges * geometry.framesPerCartridge

def totalBytes (geometry : Geometry) : Nat := geometry.totalFrames * geometry.frameSize

def contains (geometry : Geometry) (location : FrameLocation) : Bool :=
  location.cartridge.toNat < geometry.cartridges ∧
    location.frame.toNat < geometry.framesPerCartridge

/-- The place of a location in scan order: cartridge by cartridge, frame by frame. -/
def index? (geometry : Geometry) (location : FrameLocation) : Option Nat :=
  if geometry.contains location then
    some (location.cartridge.toNat * geometry.framesPerCartridge + location.frame.toNat)
  else none

/-- The location at a place of the scan order. Both parts are sixteen bits wide, so a place beyond
65536 cartridges wraps around. -/
def locationAt (geometry : Geometry) (index : Nat) : FrameLocation where
  cartridge := UInt16.ofNat (index / geometry.framesPerCartridge)
  frame := UInt16.ofNat (index % geometry.framesPerCartridge)

/-- As `locationAt`, but cartridges without frames have no locations. -/
def locationAt? (geometry : Geometry) (index : Nat) : Option FrameLocation :=
  if geometry.framesPerCartridge = 0 then none else some (geometry.locationAt index)

end Geometry

end CartridgeBank
