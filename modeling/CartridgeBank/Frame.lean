import CartridgeBank.Bytes
import CartridgeBank.Hexadecimal
import Std.Data.ExtTreeMap

namespace CartridgeBank

/-- Where a frame lies: a cartridge, and a frame of that cartridge. -/
structure FrameLocation where
  cartridge : UInt16
  frame : UInt16
deriving DecidableEq, Repr

namespace FrameLocation

/-- Locations are ordered by cartridge first, then by frame. -/
instance : Ord FrameLocation :=
  ⟨compareLex (compareOn FrameLocation.cartridge) (compareOn FrameLocation.frame)⟩

instance : Std.TransOrd FrameLocation :=
  inferInstanceAs
    (Std.TransCmp (compareLex (compareOn FrameLocation.cartridge) (compareOn FrameLocation.frame)))

instance : Std.LawfulEqOrd FrameLocation where
  eq_of_compare {a b} same := by
    have same : compareLex (compareOn FrameLocation.cartridge)
      (compareOn FrameLocation.frame) a b = .eq := same
    simp only [compareLex, Ordering.then_eq_eq, compareOn] at same
    cases a
    cases b
    simp_all

def toText (location : FrameLocation) : String :=
  location.cartridge.toNat.repr ++ ":" ++ location.frame.toNat.repr

end FrameLocation

/-- A location packed into 32 bits: the cartridge above, the frame below. -/
structure CacheTag where
  raw : BitVec 32
deriving DecidableEq, Repr

namespace CacheTag

def location (tag : CacheTag) : FrameLocation where
  cartridge := UInt16.ofNat (tag.raw.toNat / 65536)
  frame := UInt16.ofNat tag.raw.toNat

def toHex (tag : CacheTag) : String := hexadecimal 8 tag.raw.toNat

end CacheTag

def FrameLocation.tag (location : FrameLocation) : CacheTag :=
  ⟨BitVec.ofNat 32 (location.cartridge.toNat * 65536 + location.frame.toNat)⟩

/-- How many frames of the given size hold that many bytes. -/
def framesFor (bytes frameSize : Nat) : Nat := (bytes + frameSize - 1) / frameSize

/-- As `framesFor`, but frames of no bytes have no answer. -/
def framesFor? (bytes frameSize : Nat) : Option Nat :=
  if frameSize = 0 then none else some (framesFor bytes frameSize)

/-- A chunk cut to the frame size, or filled up to it with zeros. -/
def padFrame (chunk : Bytes) (frameSize : Nat) : Bytes :=
  chunk.take frameSize ++ List.replicate (frameSize - chunk.length) 0

/-- Consecutive pieces of the given size; the last one may be shorter. -/
def chunks (content : Bytes) (size : Nat) : List Bytes :=
  if _ : content = [] ∨ size = 0 then []
  else content.take size :: chunks (content.drop size) size
termination_by content.length
decreasing_by
  rename_i more
  rw [not_or] at more
  have := List.length_pos_iff.mpr more.1
  simp only [List.length_drop]
  omega

end CartridgeBank
