import CartridgeBank.Opcode
import Mathlib

namespace CartridgeBank

namespace Register

/-- Two different registers have no bit in common. -/
theorem disjoint {a b : Register} (different : a ≠ b) :
    a.shift + a.width ≤ b.shift ∨ b.shift + b.width ≤ a.shift := by
  cases a <;> cases b <;> first | contradiction | decide

theorem within (register : Register) : register.shift + register.width ≤ 64 := by
  cases register <;> decide

end Register

namespace Opcode

theorem getLsbD_of_fits {value : BitVec 64} {width i : Nat} (fits : value.toNat < 2 ^ width)
    (beyond : width ≤ i) : value.getLsbD i = false := by
  rw [← BitVec.testBit_toNat]
  exact Nat.testBit_lt_two_pow (Nat.lt_of_lt_of_le fits (Nat.pow_le_pow_right (by omega) beyond))

/-- A value moved to one register is read back from there, and nothing of it from any other. -/
theorem extract_shifted {value : BitVec 64} {register : Register}
    (fits : value.toNat < 2 ^ register.width) (other : Register) :
    (value <<< register.shift).extractLsb' other.shift other.width =
      if register = other then value.setWidth other.width else 0 := by
  have fitsWord := other.within
  split
  · rename_i same
    subst same
    ext i bound
    have inWord : register.shift + i < 64 := by omega
    have past : ¬register.shift + i < register.shift := by omega
    simp [inWord, past, BitVec.getLsbD_eq_getElem (by omega : i < 64)]
  · rename_i different
    ext i bound
    rcases Register.disjoint different with below | above
    · have beyond := getLsbD_of_fits fits (i := other.shift + i - register.shift) (by omega)
      simp [beyond]
    · have before : other.shift + i < register.shift := by omega
      simp [before]

/-- Each register of a word holds its own value, if all values fit. -/
theorem field_pack {values : Register → BitVec 64}
    (fits : ∀ register, (values register).toNat < 2 ^ register.width) (register : Register) :
    (pack values).field register = (values register).toNat := by
  have parts : (pack values).word.extractLsb' register.shift register.width =
      (values register).setWidth register.width := by
    simp only [pack, Register.all, List.foldl_cons, List.foldl_nil, BitVec.extractLsb'_or,
      extract_shifted (fits _)]
    cases register <;> simp
  rw [field, parts, BitVec.toNat_setWidth, Nat.mod_eq_of_lt (fits register)]

/-- Setting the return bit changes no other register. -/
theorem field_withRet (opcode : Opcode) (failed : Bool) (register : Register) :
    (opcode.withRet failed).field register =
      if register = .ret then failed.toNat else opcode.field register := by
  have mark : ((BitVec.ofBool failed).setWidth 64).toNat < 2 ^ Register.ret.width := by
    cases failed <;> decide
  have bit : (1#64).toNat < 2 ^ Register.ret.width := by decide
  have flipped : (~~~(1#64 <<< Register.ret.shift)).extractLsb' register.shift register.width =
      ~~~((1#64 <<< Register.ret.shift).extractLsb' register.shift register.width) := by
    have fitsWord := register.within
    ext i bound
    have inWord : register.shift + i < 64 := by omega
    simp [inWord]
  simp only [field, withRet, BitVec.extractLsb'_or, BitVec.extractLsb'_and, flipped,
    extract_shifted mark, extract_shifted bit]
  by_cases same : register = .ret
  · subst same
    generalize opcode.word.extractLsb' Register.ret.shift Register.ret.width = part
    revert part
    clear flipped mark bit
    cases failed <;> decide
  · simp [same, Ne.symm same]

/-- Setting the return bit changes no other bit. -/
theorem getLsbD_withRet (opcode : Opcode) (failed : Bool) {i : Nat}
    (other : i ≠ Register.ret.shift) :
    (opcode.withRet failed).word.getLsbD i = opcode.word.getLsbD i := by
  have apart (bit : BitVec 64) (single : bit.toNat < 2 ^ 1) :
      (bit <<< Register.ret.shift).getLsbD i = false := by
    rw [BitVec.getLsbD_shiftLeft]
    by_cases below : i < Register.ret.shift
    · simp [below]
    · rw [getLsbD_of_fits single (by omega)]
      simp
  have mark : ((BitVec.ofBool failed).setWidth 64).toNat < 2 ^ 1 := by
    cases failed <;> decide
  by_cases inside : i < 64
  · rw [withRet, BitVec.getLsbD_or, BitVec.getLsbD_and, BitVec.getLsbD_not, apart _ mark,
      apart _ (by decide)]
    simp [inside]
  · rw [BitVec.getLsbD_of_ge _ _ (not_lt.mp inside), BitVec.getLsbD_of_ge _ _ (not_lt.mp inside)]

variable (command : Command) (cartridge index : UInt16)

theorem field_request (register : Register) :
    (request command cartridge index).field register =
      match register with
      | .ky1 => command.number
      | .cartridge => cartridge.toNat
      | .frame => index.toNat
      | _ => 0 := by
  have small : command.number < 6 := by cases command <;> decide
  have cartridgeFits := cartridge.toNat_lt
  have indexFits := index.toNat_lt
  rw [request, field_pack]
  · cases register
    all_goals simp
    all_goals omega
  · intro other
    cases other <;> simp [Register.width] <;> omega

@[simp] theorem command?_request : (request command cartridge index).command? = some command := by
  rw [command?, field_request]
  exact Command.ofNumber?_eq_some_iff.mpr rfl

@[simp] theorem cartridge_request : (request command cartridge index).cartridge = cartridge := by
  rw [Opcode.cartridge, field_request]
  exact UInt16.ofNat_toNat

@[simp] theorem frame_request : (request command cartridge index).frame = index := by
  rw [Opcode.frame, field_request]
  exact UInt16.ofNat_toNat

@[simp] theorem isSuccess_withRet (opcode : Opcode) (failed : Bool) :
    (opcode.withRet failed).isSuccess = !failed := by
  rw [isSuccess, ret, field_withRet, if_pos rfl]
  cases failed <;> rfl

theorem field_withRet_request (failed : Bool) :
    ((request command cartridge index).withRet failed).field .ky1 = command.number := by
  rw [field_withRet, if_neg (by decide), field_request]

end Opcode

end CartridgeBank
