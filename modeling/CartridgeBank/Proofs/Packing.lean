import CartridgeBank.Proofs.Opcode
import CartridgeBank.Proofs.Wire

namespace CartridgeBank

/-- The registers cover the word: each bit lies in one of them. -/
theorem Register.exists_covering {i : Nat} (inside : i < 64) :
    ∃ register : Register, register.shift ≤ i ∧ i < register.shift + register.width := by
  by_cases reserved : i < 15
  · exact ⟨.reserved, Nat.zero_le i, reserved⟩
  by_cases frame : i < 31
  · exact ⟨.frame, Nat.le_of_not_lt reserved, frame⟩
  by_cases cartridge : i < 47
  · exact ⟨.cartridge, Nat.le_of_not_lt frame, cartridge⟩
  by_cases ret : i < 48
  · exact ⟨.ret, Nat.le_of_not_lt cartridge, ret⟩
  by_cases ky2 : i < 56
  · exact ⟨.ky2, Nat.le_of_not_lt ret, ky2⟩
  · exact ⟨.ky1, Nat.le_of_not_lt ky2, inside⟩

/-- The first byte of a number is its highest one. -/
theorem head?_bigEndian (width value : Nat) :
    (bigEndian (width + 1) value).head? = some (UInt8.ofNat (value / 256 ^ width)) := by
  induction width generalizing value with
  | zero => simp [bigEndian]
  | succ width ih =>
    have shorter := ih (value / 256)
    rw [Nat.div_div_eq_div_mul, ← Nat.pow_succ'] at shorter
    rw [bigEndian, List.head?_append, shorter]
    rfl

namespace Opcode

variable {a b opcode : Opcode} {values : Register → BitVec 64}

/-- A bit of a packed word is set if it is in any of the values, each moved to its place. -/
theorem getLsbD_pack (values : Register → BitVec 64) {i : Nat} (inside : i < 64) :
    (pack values).word.getLsbD i =
      Register.all.any fun register =>
        decide (register.shift ≤ i) && (values register).getLsbD (i - register.shift) := by
  have moved (register : Register) :
      (values register <<< register.shift).getLsbD i =
        (decide (register.shift ≤ i) && (values register).getLsbD (i - register.shift)) := by
    rw [BitVec.getLsbD_shiftLeft]
    by_cases above : register.shift ≤ i
    · simp [inside, above, Nat.not_lt.mpr above]
    · simp [above, Nat.lt_of_not_le above]
  simp only [pack, Register.all, List.foldl_cons, List.foldl_nil, BitVec.getLsbD_or, moved,
    BitVec.ofNat_eq_ofNat, BitVec.getLsbD_zero, List.any_cons, List.any_nil, Bool.or_false,
    Bool.false_or, Bool.or_assoc]

/-- A bit of a register's value is the bit of the word at the register's place. -/
theorem testBit_field (opcode : Opcode) (register : Register) (i : Nat) :
    (opcode.field register).testBit i =
      (decide (i < register.width) && opcode.word.getLsbD (register.shift + i)) := by
  rw [field, BitVec.testBit_toNat, BitVec.getLsbD_extractLsb']

/-- Packing what all registers hold gives the word back. -/
theorem pack_field (opcode : Opcode) :
    pack (fun register => BitVec.ofNat 64 (opcode.field register)) = opcode := by
  have bits (i : Nat) (inside : i < 64) :
      (pack fun register => BitVec.ofNat 64 (opcode.field register)).word.getLsbD i =
        opcode.word.getLsbD i := by
    rw [getLsbD_pack _ inside, Bool.eq_iff_iff, List.any_eq_true]
    simp only [BitVec.getLsbD_ofNat, testBit_field, Bool.and_eq_true, decide_eq_true_eq]
    constructor
    · rintro ⟨register, _, above, _, _, set⟩
      rwa [Nat.add_sub_cancel' above] at set
    · intro set
      obtain ⟨register, above, within⟩ := Register.exists_covering inside
      refine ⟨register, by cases register <;> decide, above, by omega, by omega, ?_⟩
      rwa [Nat.add_sub_cancel' above]
  have words := BitVec.eq_of_getLsbD_eq bits
  exact congrArg Opcode.mk words

/-- Two words with the same value in each register are the same. -/
theorem eq_of_field (same : ∀ register, a.field register = b.field register) : a = b := by
  rw [← pack_field a, ← pack_field b]
  simp only [same]

theorem withRet_withRet (opcode : Opcode) (first second : Bool) :
    (opcode.withRet first).withRet second = opcode.withRet second := by
  refine eq_of_field fun register => ?_
  rw [field_withRet, field_withRet, field_withRet]
  split <;> rfl

/-- A register is read off the word by a shift and a mask. -/
theorem field_eq_shift_mask (opcode : Opcode) (register : Register) :
    opcode.field register = opcode.word.toNat >>> register.shift &&& register.mask := by
  rw [field, BitVec.extractLsb'_toNat, Register.mask, Nat.one_shiftLeft,
    Nat.and_two_pow_sub_one_eq_mod]

/-- The command register travels first. -/
theorem head?_toBytes (opcode : Opcode) :
    opcode.toBytes.head? = some (UInt8.ofNat (opcode.field .ky1)) := by
  have bound : opcode.word.toNat < 2 ^ 64 := opcode.word.isLt
  have highest : opcode.field .ky1 = opcode.word.toNat / 256 ^ 7 := by
    rw [field, BitVec.extractLsb'_toNat, Nat.shiftRight_eq_div_pow]
    exact Nat.mod_eq_of_lt (Nat.div_lt_of_lt_mul bound)
  rw [toBytes, head?_bigEndian, highest]

/-- Whatever the values are, they are moved to their places and the bits that overlap are united. -/
theorem toNat_pack (values : Register → BitVec 64) :
    (pack values).word.toNat =
      ((values .ky1).toNat <<< 56 ||| (values .ky2).toNat <<< 48 ||| (values .ret).toNat <<< 47 |||
        (values .cartridge).toNat <<< 31 ||| (values .frame).toNat <<< 15 |||
        (values .reserved).toNat) % 2 ^ 64 := by
  have unmoved : (values .reserved).toNat % 2 ^ 64 = (values .reserved).toNat :=
    Nat.mod_eq_of_lt (values .reserved).isLt
  simp only [pack, Register.all, List.foldl_cons, List.foldl_nil, BitVec.toNat_or,
    BitVec.toNat_shiftLeft, Register.shift, Nat.shiftLeft_zero, Nat.or_mod_two_pow, unmoved,
    BitVec.toNat_zero, Nat.zero_or, BitVec.ofNat_eq_ofNat]

/-- The registers take a word apart and put it together again, whatever it is. Each is read off by a
shift and a mask. Setting the return bit leaves all others alone, and the last setting counts. The
word goes over the wire and back as eight bytes, the command register first. Any values are put
together by moving them to their places, and each value that fits its register is found there again. -/
theorem packing_exact :
    (∀ opcode : Opcode,
      (∀ register,
        opcode.field register = opcode.word.toNat >>> register.shift &&& register.mask) ∧
      pack (fun register => BitVec.ofNat 64 (opcode.field register)) = opcode ∧
      (∀ failed register, (opcode.withRet failed).field register =
        if register = .ret then failed.toNat else opcode.field register) ∧
      (∀ first second, (opcode.withRet first).withRet second = opcode.withRet second) ∧
      ofBytes opcode.toBytes = opcode ∧ opcode.toBytes.length = 8 ∧
      opcode.toBytes.head? = some (UInt8.ofNat (opcode.field .ky1))) ∧
    ∀ values : Register → BitVec 64,
      (pack values).word.toNat =
        ((values .ky1).toNat <<< 56 ||| (values .ky2).toNat <<< 48 |||
          (values .ret).toNat <<< 47 ||| (values .cartridge).toNat <<< 31 |||
          (values .frame).toNat <<< 15 ||| (values .reserved).toNat) % 2 ^ 64 ∧
      ((∀ register, (values register).toNat < 2 ^ register.width) →
        ∀ register, (pack values).field register = (values register).toNat) :=
  ⟨fun opcode => ⟨field_eq_shift_mask opcode, pack_field opcode, field_withRet opcode,
      withRet_withRet opcode, Wire.ofBytes_toBytes opcode, length_bigEndian _ _,
      head?_toBytes opcode⟩,
    fun values => ⟨toNat_pack values, fun fits => field_pack fits⟩⟩

/-- The largest value in every other register, and none in between. -/
def alternating : Register → BitVec 64
  | .ky2 => 0xff
  | .cartridge => 0xffff
  | .reserved => 0x7fff
  | _ => 0

/-- Full registers do not spill into the empty ones between them. -/
theorem packing_exact_alternating :
    (pack alternating).field .cartridge = 0xffff ∧ (pack alternating).field .ret = 0 ∧
      (pack alternating).field .frame = 0 ∧ (pack alternating).word = 0x00ff7fff80007fff := by
  have fits : ∀ register, (alternating register).toNat < 2 ^ register.width := by
    intro register
    cases register <;> decide
  obtain ⟨_, values⟩ := packing_exact
  obtain ⟨word, fields⟩ := values alternating
  refine ⟨(fields fits .cartridge).trans rfl, (fields fits .ret).trans rfl,
    (fields fits .frame).trans rfl, BitVec.eq_of_toNat_eq (word.trans ?_)⟩
  decide

end Opcode

end CartridgeBank
