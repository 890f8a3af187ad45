import CartridgeBank.Bytes
import CartridgeBank.Hexadecimal

namespace CartridgeBank

/-- What a request asks of the device, named by its mnemonic. -/
inductive Command where
  | initms
  | bzero
  | ldcart
  | rdfrme
  | wrfrme
  | powoff
deriving DecidableEq, Repr

namespace Command

/-- The code that the command carries in the first key register. -/
def number : Command → Nat
  | initms => 0
  | bzero => 1
  | ldcart => 2
  | rdfrme => 3
  | wrfrme => 4
  | powoff => 5

def ofNumber? : Nat → Option Command
  | 0 => some initms
  | 1 => some bzero
  | 2 => some ldcart
  | 3 => some rdfrme
  | 4 => some wrfrme
  | 5 => some powoff
  | _ => none

def mnemonic : Command → String
  | initms => "INITMS"
  | bzero => "BZERO"
  | ldcart => "LDCART"
  | rdfrme => "RDFRME"
  | wrfrme => "WRFRME"
  | powoff => "POWOFF"

/-- Whether a request of this kind carries a frame to the device. -/
def sendsFrame (command : Command) : Bool := command == wrfrme

/-- Whether an answer of this kind carries a frame back. -/
def returnsFrame (command : Command) : Bool := command == rdfrme

theorem ofNumber?_eq_some_iff {code : Nat} {command : Command} :
    ofNumber? code = some command ↔ command.number = code := by
  constructor
  · intro found
    unfold ofNumber? at found
    split at found <;> simp_all [number] <;> subst command <;> rfl
  · rintro rfl
    cases command <;> rfl

end Command

/-- The six registers packed into a request word. -/
inductive Register where
  | ky1
  | ky2
  | ret
  | cartridge
  | frame
  | reserved
deriving DecidableEq, Repr

namespace Register

/-- All registers, from the most significant to the least. -/
def all : List Register := [ky1, ky2, ret, cartridge, frame, reserved]

def ofTag? (tag : Nat) : Option Register := all[tag]?

/-- The position of the register's lowest bit. -/
def shift : Register → Nat
  | ky1 => 56
  | ky2 => 48
  | ret => 47
  | cartridge => 31
  | frame => 15
  | reserved => 0

/-- The number of bits of the register. -/
def width : Register → Nat
  | ky1 | ky2 => 8
  | ret => 1
  | cartridge | frame => 16
  | reserved => 15

/-- The largest value that the register holds. -/
def mask (register : Register) : Nat := 1 <<< register.width - 1

def name : Register → String
  | ky1 => "Ky1"
  | ky2 => "Ky2"
  | ret => "Ret"
  | cartridge => "Cartridge"
  | frame => "Frame"
  | reserved => "Reserved"

end Register

/-- A 64-bit request or answer word. -/
structure Opcode where
  word : BitVec 64
deriving DecidableEq, Repr

namespace Opcode

/-- The word whose registers are the given values, each moved to its place. A value wider than its
register spills into the registers above it, and bits beyond the word are lost. -/
def pack (values : Register → BitVec 64) : Opcode :=
  ⟨Register.all.foldl (fun word register => word ||| values register <<< register.shift) 0⟩

/-- The value of one register. -/
def field (opcode : Opcode) (register : Register) : Nat :=
  (opcode.word.extractLsb' register.shift register.width).toNat

/-- The request for a command at a cartridge and a frame. -/
def request (command : Command) (cartridge frame : UInt16) : Opcode :=
  pack fun
    | .ky1 => BitVec.ofNat 64 command.number
    | .cartridge => BitVec.ofNat 64 cartridge.toNat
    | .frame => BitVec.ofNat 64 frame.toNat
    | _ => 0

/-- The command named by the first key register, if there is one. -/
def command? (opcode : Opcode) : Option Command := Command.ofNumber? (opcode.field .ky1)

def ret (opcode : Opcode) : Nat := opcode.field .ret

/-- An answer reports success when its return bit is clear. -/
def isSuccess (opcode : Opcode) : Bool := opcode.ret == 0

def cartridge (opcode : Opcode) : UInt16 := UInt16.ofNat (opcode.field .cartridge)

def frame (opcode : Opcode) : UInt16 := UInt16.ofNat (opcode.field .frame)

/-- The same word with the return bit set to the given outcome. -/
def withRet (opcode : Opcode) (failed : Bool) : Opcode :=
  ⟨opcode.word &&& ~~~(1#64 <<< Register.ret.shift) |||
    (BitVec.ofBool failed).setWidth 64 <<< Register.ret.shift⟩

/-- The word in network byte order. -/
def toBytes (opcode : Opcode) : Bytes := bigEndian 8 opcode.word.toNat

def ofBytes (bytes : Bytes) : Opcode := ⟨BitVec.ofNat 64 (ofBigEndian bytes)⟩

def toHex (opcode : Opcode) : String := hexadecimal 16 opcode.word.toNat

/-- The registers one by one, for diagnostics. -/
def describe (opcode : Opcode) : String :=
  let part (label : String) (register : Register) : String :=
    label ++ ": " ++ (opcode.field register).repr
  "Opcode \x7b " ++ String.intercalate ", "
    [part "ky1" .ky1, part "ky2" .ky2, part "ret" .ret, part "cart" .cartridge,
      part "frame" .frame, part "resv" .reserved] ++ " \x7d"

end Opcode

end CartridgeBank
