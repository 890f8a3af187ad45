import CartridgeBank.Wire.Message
import Mathlib

namespace CartridgeBank.Wire

section Steps

variable {ε σ α β : Type} {first : EStateM ε σ α} {rest : α → EStateM ε σ β} {before after : σ}

theorem bind_of_ok {value : α} (run : first before = .ok value after) :
    (first >>= rest) before = rest value after := by
  change EStateM.bind first rest before = _
  simp only [EStateM.bind, run]

theorem bind_of_error {fault : ε} (run : first before = .error fault after) :
    (first >>= rest) before = .error fault after := by
  change EStateM.bind first rest before = _
  simp only [EStateM.bind, run]

end Steps

namespace Source

/-- All that is in store is bytes, perhaps with interruptions: no read fails, and the stream ends
only after the last byte. -/
def Clean (source : Source) : Prop :=
  ∀ delivery ∈ source, delivery = .interrupted ∨ ∃ bytes, delivery = .bytes bytes

theorem clean_ofBytes (bytes : Bytes) : (ofBytes bytes).Clean := by
  intro delivery member
  exact Or.inr ⟨bytes, List.mem_singleton.mp member⟩

@[simp] theorem toBytes_ofBytes (bytes : Bytes) : (ofBytes bytes).toBytes = bytes :=
  List.append_nil bytes

variable {source : Source} {wanted : Nat}

/-- Reading takes bytes off the front, in whatever pieces they come. -/
theorem fill_clean (clean : source.Clean) (wanted : Nat) :
    ∃ rest : Source, fill wanted source = .ok (source.toBytes.take wanted) rest ∧ rest.Clean ∧
      rest.toBytes = source.toBytes.drop wanted := by
  induction source generalizing wanted with
  | nil =>
    unfold fill
    by_cases nothing : wanted = 0
    · rw [if_pos nothing]
      exact ⟨[], by simp [toBytes], clean, by simp [toBytes]⟩
    · rw [if_neg nothing]
      exact ⟨[], by simp [toBytes], clean, by simp [toBytes]⟩
  | cons delivery tail ih =>
    have cleanTail : Clean tail := fun other member => clean other (List.mem_cons_of_mem _ member)
    unfold fill
    by_cases nothing : wanted = 0
    · subst nothing
      rw [if_pos rfl]
      exact ⟨delivery :: tail, rfl, clean, rfl⟩
    · rw [if_neg nothing]
      rcases clean delivery List.mem_cons_self with rfl | ⟨bytes, rfl⟩
      · exact ih cleanTail wanted
      · dsimp only [toBytes]
        by_cases enough : wanted < bytes.length
        · rw [if_pos enough, List.take_append_of_le_length enough.le]
          refine ⟨_, rfl, ?_, (List.drop_append_of_le_length enough.le).symm⟩
          intro other member
          rcases List.mem_cons.mp member with rfl | inTail
          · exact Or.inr ⟨_, rfl⟩
          · exact cleanTail other inTail
        · obtain ⟨rest, filled, cleanRest, left⟩ := ih cleanTail (wanted - bytes.length)
          rw [if_neg enough, filled, List.take_append, List.drop_append,
            List.take_of_length_le (Nat.le_of_not_lt enough),
            List.drop_of_length_le (Nat.le_of_not_lt enough)]
          exact ⟨rest, rfl, cleanRest, left⟩

theorem readExactly_clean (clean : source.Clean) (enough : wanted ≤ source.toBytes.length) :
    ∃ rest : Source, readExactly wanted source = .ok (source.toBytes.take wanted) rest ∧
      rest.Clean ∧ rest.toBytes = source.toBytes.drop wanted := by
  obtain ⟨rest, filled, cleanRest, left⟩ := fill_clean clean wanted
  have count : (source.toBytes.take wanted).length = wanted := List.length_take_of_le enough
  refine ⟨rest, ?_, cleanRest, left⟩
  rw [readExactly, bind_of_ok filled, if_pos count]
  rfl

theorem readWord_clean (clean : source.Clean) (enough : 8 ≤ source.toBytes.length) :
    ∃ rest : Source, readWord source = .ok (ofBigEndian (source.toBytes.take 8)) rest ∧
      rest.Clean ∧ rest.toBytes = source.toBytes.drop 8 := by
  obtain ⟨rest, run, cleanRest, left⟩ := readExactly_clean clean enough
  refine ⟨rest, ?_, cleanRest, left⟩
  rw [readWord, bind_of_ok run]
  rfl

/-- A number of eight bytes is read back from the front of a stream. -/
theorem readWord_bigEndian (clean : source.Clean) {value : Nat} (fits : value < 2 ^ 64)
    {tail : Bytes} (front : source.toBytes = bigEndian 8 value ++ tail) :
    ∃ rest : Source, readWord source = .ok value rest ∧ rest.Clean ∧ rest.toBytes = tail := by
  have count : (bigEndian 8 value).length = 8 := length_bigEndian 8 value
  have enough : 8 ≤ source.toBytes.length := by
    rw [front, List.length_append]
    omega
  obtain ⟨rest, run, cleanRest, left⟩ := readWord_clean clean enough
  have word : ofBigEndian (source.toBytes.take 8) = value := by
    rw [front, List.take_left' count, ofBigEndian_bigEndian]
    exact Nat.mod_eq_of_lt fits
  rw [front, List.drop_left' count] at left
  rw [word] at run
  exact ⟨rest, run, cleanRest, left⟩

end Source

variable {source : Source} {opcode : Opcode} {payload : Option Bytes} {tail : Bytes}
  {frameSize : Nat}

/-- What arrives of a payload: none is sent as no bytes, and no bytes arrive as none. -/
def carried (payload : Option Bytes) : Option Bytes := payload.filter (· ≠ [])

theorem carried_getD (payload : Option Bytes) : (carried payload).getD [] = payload.getD [] := by
  cases payload with
  | none => rfl
  | some bytes => cases bytes <;> rfl

theorem carried_of_nil (nothing : payload.getD [] = []) : carried payload = none := by
  cases payload with
  | none => rfl
  | some bytes =>
    obtain rfl : bytes = [] := nothing
    rfl

theorem carried_of_ne_nil (something : payload.getD [] ≠ []) :
    carried payload = some (payload.getD []) := by
  cases payload with
  | none => exact absurd rfl something
  | some bytes => simpa [carried] using something

theorem encode_carried (opcode : Opcode) (payload : Option Bytes) :
    encode opcode (carried payload) = encode opcode payload := by
  simp only [encode, carried_getD]

/-- A payload of no bytes or of one frame is read back. -/
theorem readPayload_full (clean : source.Clean)
    (full : payload.getD [] = [] ∨ (payload.getD []).length = frameSize)
    (front : source.toBytes = payload.getD [] ++ tail) :
    ∃ rest : Source, readPayload (payload.getD []).length frameSize source =
      .ok (carried payload) rest ∧ rest.Clean ∧ rest.toBytes = tail := by
  by_cases nothing : payload.getD [] = []
  · have length : (payload.getD []).length = 0 := by rw [nothing]; rfl
    rw [nothing, List.nil_append] at front
    refine ⟨source, ?_, clean, front⟩
    rw [carried_of_nil nothing, length]
    rfl
  · have some : (payload.getD []).length ≠ 0 := by simpa using nothing
    have size := full.resolve_left nothing
    have enough : frameSize ≤ source.toBytes.length := by
      rw [front, List.length_append]
      omega
    obtain ⟨rest, run, cleanRest, left⟩ := Source.readExactly_clean clean enough
    rw [front, List.take_left' size] at run
    rw [front, List.drop_left' size] at left
    refine ⟨rest, ?_, cleanRest, left⟩
    rw [carried_of_ne_nil nothing]
    rw [readPayload, if_neg some, if_neg (not_not.mpr size), bind_of_ok run]
    rfl

/-- A payload of any other length is refused before it is read. -/
theorem readPayload_odd {length : Nat} (some : length ≠ 0) (odd : length ≠ frameSize)
    (source : Source) :
    readPayload length frameSize source = .error (.unexpectedPayload frameSize length) source := by
  simp only [readPayload, if_neg some, if_pos odd]
  rfl

theorem ofBytes_toBytes (opcode : Opcode) : Opcode.ofBytes opcode.toBytes = opcode := by
  have bound : opcode.word.toNat < 2 ^ 64 := opcode.word.isLt
  have word : ofBigEndian opcode.toBytes = opcode.word.toNat := by
    rw [Opcode.toBytes, ofBigEndian_bigEndian]
    exact Nat.mod_eq_of_lt bound
  rw [Opcode.ofBytes, word, BitVec.ofNat_toNat, BitVec.setWidth_eq]

/-- The parts of a message in a stream. -/
theorem front_encode (front : source.toBytes = encode opcode payload ++ tail) :
    source.toBytes = opcode.toBytes ++
      (bigEndian 8 (payload.getD []).length ++ (payload.getD [] ++ tail)) := by
  rw [front, encode, List.append_assoc, List.append_assoc]

/-- A request starts with its word and the length of its payload. -/
theorem readRequest_header (clean : source.Clean) (short : (payload.getD []).length < 2 ^ 64)
    (front : source.toBytes = encode opcode payload ++ tail) (frameSize : Nat) :
    ∃ rest : Source, readRequest frameSize source = (do
        let frame ← readPayload (payload.getD []).length frameSize
        return some { opcode, frame } : EStateM Fault Source (Option Request)) rest ∧
      rest.Clean ∧ rest.toBytes = payload.getD [] ++ tail := by
  have parts := front_encode front
  have count : opcode.toBytes.length = 8 := length_bigEndian 8 _
  obtain ⟨middle, filled, cleanMiddle, left⟩ := Source.fill_clean clean 8
  rw [parts, List.take_left' count] at filled
  rw [parts, List.drop_left' count] at left
  obtain ⟨rest, length, cleanRest, payloadLeft⟩ := Source.readWord_bigEndian cleanMiddle short left
  refine ⟨rest, ?_, cleanRest, payloadLeft⟩
  rw [readRequest, bind_of_ok filled, if_neg (by omega), if_neg (not_not.mpr count),
    bind_of_ok length, ofBytes_toBytes]

/-- A request is read back from the front of a stream. -/
theorem readRequest_encode (clean : source.Clean) (short : (payload.getD []).length < 2 ^ 64)
    (full : payload.getD [] = [] ∨ (payload.getD []).length = frameSize)
    (front : source.toBytes = encode opcode payload ++ tail) :
    ∃ rest : Source, readRequest frameSize source =
      .ok (some { opcode, frame := carried payload }) rest ∧ rest.Clean ∧ rest.toBytes = tail := by
  obtain ⟨middle, header, cleanMiddle, left⟩ := readRequest_header clean short front frameSize
  obtain ⟨rest, frame, cleanRest, finished⟩ := readPayload_full cleanMiddle full left
  exact ⟨rest, header.trans (bind_of_ok frame), cleanRest, finished⟩

/-- A request with a payload of another size is refused. -/
theorem readRequest_odd (clean : source.Clean) (short : (payload.getD []).length < 2 ^ 64)
    (some : payload.getD [] ≠ []) (odd : (payload.getD []).length ≠ frameSize)
    (front : source.toBytes = encode opcode payload ++ tail) :
    ∃ rest : Source, readRequest frameSize source =
      .error (.unexpectedPayload frameSize (payload.getD []).length) rest := by
  obtain ⟨rest, header, _, _⟩ := readRequest_header clean short front frameSize
  have length : (payload.getD []).length ≠ 0 := by simpa using some
  exact ⟨rest, header.trans (bind_of_error (readPayload_odd length odd rest))⟩

/-- Nothing at all holds no request. -/
theorem readRequest_nil (frameSize : Nat) :
    readRequest frameSize (Source.ofBytes []) = .ok none [] := rfl

/-- An answer starts with its word and the length of its payload. -/
theorem readAnswer_header (clean : source.Clean) (short : (payload.getD []).length < 2 ^ 64)
    (front : source.toBytes = encode opcode payload ++ tail) (command : Command) (frameSize : Nat) :
    ∃ rest : Source, readAnswer command frameSize source = (
        if (payload.getD []).length ≠ 0 ∧ ¬command.returnsFrame then
          throw (.unexpectedPayload 0 (payload.getD []).length)
        else do
          let frame ← readPayload (payload.getD []).length frameSize
          return { opcode, frame } : EStateM Fault Source Answer) rest ∧
      rest.Clean ∧ rest.toBytes = payload.getD [] ++ tail := by
  have parts := front_encode front
  have bound : opcode.word.toNat < 2 ^ 64 := opcode.word.isLt
  obtain ⟨middle, word, cleanMiddle, left⟩ := Source.readWord_bigEndian clean bound parts
  obtain ⟨rest, length, cleanRest, payloadLeft⟩ := Source.readWord_bigEndian cleanMiddle short left
  refine ⟨rest, ?_, cleanRest, payloadLeft⟩
  rw [readAnswer, bind_of_ok word, bind_of_ok length, BitVec.ofNat_toNat, BitVec.setWidth_eq]

/-- An answer is read back from the front of a stream, if it is one to the command. -/
theorem readAnswer_encode (clean : source.Clean) (short : (payload.getD []).length < 2 ^ 64)
    {command : Command} (full : payload.getD [] = [] ∨
      command.returnsFrame = true ∧ (payload.getD []).length = frameSize)
    (front : source.toBytes = encode opcode payload ++ tail) :
    ∃ rest : Source, readAnswer command frameSize source =
      .ok { opcode, frame := carried payload } rest ∧ rest.Clean ∧ rest.toBytes = tail := by
  obtain ⟨middle, header, cleanMiddle, left⟩ :=
    readAnswer_header clean short front command frameSize
  obtain ⟨rest, frame, cleanRest, finished⟩ :=
    readPayload_full cleanMiddle (full.imp_right And.right) left
  have allowed : ¬((payload.getD []).length ≠ 0 ∧ ¬command.returnsFrame = true) := by
    rintro ⟨some, silent⟩
    rcases full with nothing | ⟨returns, _⟩
    · exact some (by rw [nothing]; rfl)
    · exact silent returns
  rw [if_neg allowed] at header
  exact ⟨rest, header.trans (bind_of_ok frame), cleanRest, finished⟩

/-- An answer with any other payload is refused. -/
theorem readAnswer_odd (clean : source.Clean) (short : (payload.getD []).length < 2 ^ 64)
    {command : Command} (odd : ¬(payload.getD [] = [] ∨
      command.returnsFrame = true ∧ (payload.getD []).length = frameSize))
    (front : source.toBytes = encode opcode payload ++ tail) :
    ∃ fault rest, readAnswer command frameSize source = .error fault rest := by
  obtain ⟨rest, header, _, _⟩ := readAnswer_header clean short front command frameSize
  rw [not_or] at odd
  have some : (payload.getD []).length ≠ 0 := by simpa using odd.1
  by_cases silent : (payload.getD []).length ≠ 0 ∧ ¬command.returnsFrame = true
  · rw [if_pos silent] at header
    exact ⟨_, rest, header⟩
  · rw [if_neg silent] at header
    have returns : command.returnsFrame = true := by
      by_contra returnsNone
      exact silent ⟨some, returnsNone⟩
    have size : (payload.getD []).length ≠ frameSize := fun same => odd.2 ⟨returns, same⟩
    exact ⟨_, rest, header.trans (bind_of_error (readPayload_odd some size rest))⟩

/-- Nothing at all is no answer. -/
theorem readAnswer_nil (command : Command) (frameSize : Nat) :
    readAnswer command frameSize (Source.ofBytes []) = .error (.shortTransfer 8 0) [] := rfl

end CartridgeBank.Wire
