import CartridgeBank.Proofs.Wire

namespace CartridgeBank

theorem bigEndian_ofBigEndian (bytes : Bytes) : bigEndian bytes.length (ofBigEndian bytes) = bytes := by
  induction bytes using List.reverseRecOn with
  | nil => rfl
  | append_singleton bytes byte ih =>
    have low : byte.toNat < 256 := byte.toNat_lt
    have high : (ofBigEndian bytes * 256 + byte.toNat) / 256 = ofBigEndian bytes := by omega
    have last : UInt8.ofNat (ofBigEndian bytes * 256 + byte.toNat) = byte := by
      apply UInt8.toNat_inj.mp
      rw [UInt8.toNat_ofNat']
      omega
    rw [List.length_append, List.length_singleton, bigEndian, ofBigEndian_append_byte, high, ih, last]

theorem ofBigEndian_lt (bytes : Bytes) : ofBigEndian bytes < 256 ^ bytes.length := by
  induction bytes using List.reverseRecOn with
  | nil => exact Nat.one_pos
  | append_singleton bytes byte ih =>
    have low : byte.toNat < 256 := byte.toNat_lt
    rw [List.length_append, List.length_singleton, pow_succ, ofBigEndian_append_byte]
    omega

theorem ofBigEndian_lt_of_word {bytes : Bytes} (word : bytes.length = 8) :
    ofBigEndian bytes < 2 ^ 64 := by
  have bound := ofBigEndian_lt bytes
  rw [word] at bound
  exact bound

namespace Wire

theorem toBytes_ofBytes {bytes : Bytes} (word : bytes.length = 8) :
    (Opcode.ofBytes bytes).toBytes = bytes := by
  rw [Opcode.toBytes, Opcode.ofBytes, BitVec.toNat_ofNat,
    Nat.mod_eq_of_lt (ofBigEndian_lt_of_word word), ← word, bigEndian_ofBigEndian]

/-- A request has no payload or one frame. The length of a frame fits its word. -/
def Request.Framed (frameSize : Nat) (request : Request) : Prop :=
  ∀ frame, request.frame = some frame →
    frame ≠ [] ∧ frame.length = frameSize ∧ frame.length < 2 ^ 64

/-- The longest list of whole requests at the front of a byte string, and the bytes after them. -/
structure Framing (frameSize : Nat) (bytes : Bytes) (requests : List Request) (rest : Bytes) :
    Prop where
  whole : bytes = requests.flatMap Request.encode ++ rest
  framed : ∀ request ∈ requests, request.Framed frameSize
  longest : ∀ request : Request, request.Framed frameSize → ¬request.encode <+: rest

/-- What is wrong with the bytes after the last whole request, if there are any: they end within the
word, within the length or within the frame, or the length is not that of a frame. -/
def defect? (frameSize : Nat) (rest : Bytes) : Option Fault :=
  let length := ofBigEndian ((rest.drop 8).take 8)
  if rest = [] then none
  else if rest.length < 8 then some (.shortTransfer 8 rest.length)
  else if rest.length < 16 then some (.shortTransfer 8 (rest.length - 8))
  else if length = frameSize then some (.shortTransfer frameSize (rest.length - 16))
  else some (.unexpectedPayload frameSize length)

theorem defect?_eq_none_iff {frameSize : Nat} {rest : Bytes} :
    defect? frameSize rest = none ↔ rest = [] := by
  unfold defect?
  constructor
  · intro fine
    by_contra some
    dsimp only at fine
    rw [if_neg some] at fine
    split_ifs at fine
  · rintro rfl
    rfl

variable {frameSize : Nat} {request : Request} {requests : List Request} {bytes rest : Bytes}
  {source : Source}

theorem Request.encode_ne_nil (request : Request) : request.encode ≠ [] := by
  intro nothing
  have length := congrArg List.length nothing
  rw [Request.encode, Wire.encode, List.length_append, List.length_append, Opcode.toBytes,
    length_bigEndian, length_bigEndian, List.length_nil] at length
  omega

/-- Requests can be taken off the front as long as there are any. -/
theorem exists_framing (frameSize : Nat) (bytes : Bytes) :
    ∃ requests rest, Framing frameSize bytes requests rest := by
  -- a request is never empty, so that fewer bytes are left each time
  induction size : bytes.length using Nat.strong_induction_on generalizing bytes with
  | _ size ih =>
    subst size
    by_cases more : ∃ request : Request, request.Framed frameSize ∧ request.encode <+: bytes
    · obtain ⟨request, framed, tail, rfl⟩ := more
      have shorter : tail.length < (request.encode ++ tail).length := by
        have := List.length_pos_of_ne_nil request.encode_ne_nil
        rw [List.length_append]
        omega
      obtain ⟨requests, rest, framing⟩ := ih _ shorter tail rfl
      refine ⟨request :: requests, rest, ?_, ?_, framing.longest⟩
      · rw [List.flatMap_cons, List.append_assoc, ← framing.whole]
      · exact List.forall_mem_cons.mpr ⟨framed, framing.framed⟩
    · exact ⟨[], bytes, rfl, nofun, fun request framed front => more ⟨request, framed, front⟩⟩

theorem Request.Framed.carried (framed : request.Framed frameSize) :
    Wire.carried request.frame = request.frame := by
  cases same : request.frame with
  | none => rfl
  | some frame => exact carried_of_ne_nil (framed frame same).1

/-- A whole request at the front of a stream is read as it is. -/
theorem readRequest_framed (clean : source.Clean) (framed : request.Framed frameSize)
    (front : source.toBytes = request.encode ++ bytes) :
    ∃ rest : Source, readRequest frameSize source = .ok (some request) rest ∧ rest.Clean ∧
      rest.toBytes = bytes := by
  have carried := framed.carried
  obtain ⟨opcode, frame⟩ := request
  have size : (frame.getD []).length < 2 ^ 64 ∧
      (frame.getD [] = [] ∨ (frame.getD []).length = frameSize) := by
    cases frame with
    | none => exact ⟨by decide, Or.inl rfl⟩
    | some frame =>
      obtain ⟨_, full, fits⟩ := framed frame rfl
      exact ⟨fits, Or.inr full⟩
  obtain ⟨rest, read, cleanRest, left⟩ := readRequest_encode clean size.1 size.2 front
  dsimp only at carried
  rw [carried] at read
  exact ⟨rest, read, cleanRest, left⟩

/-- The length that stands behind the word. -/
def declared (bytes : Bytes) : Nat := ofBigEndian ((bytes.drop 8).take 8)

/-- What reading one request from a byte string comes to, and the bytes left unread: nothing where there
are no bytes, a whole request where one is at the front, and else a fault, which tells where the bytes
end or which length is not that of a frame. -/
inductive Reading (frameSize : Nat) (bytes : Bytes) :
    Except Fault (Option Request) → Bytes → Prop
  | ended : bytes = [] → Reading frameSize bytes (.ok none) []
  | whole {request : Request} {rest : Bytes} : request.Framed frameSize →
      bytes = request.encode ++ rest → Reading frameSize bytes (.ok (some request)) rest
  | odd : 16 ≤ bytes.length → declared bytes ≠ 0 → declared bytes ≠ frameSize →
      Reading frameSize bytes (.error (.unexpectedPayload frameSize (declared bytes)))
        (bytes.drop 16)
  | cutWord : bytes ≠ [] → bytes.length < 8 →
      Reading frameSize bytes (.error (.shortTransfer 8 bytes.length)) []
  | cutLength : 8 ≤ bytes.length → bytes.length < 16 →
      Reading frameSize bytes (.error (.shortTransfer 8 (bytes.length - 8))) []
  | cutFrame : 16 ≤ bytes.length → frameSize ≠ 0 → declared bytes = frameSize →
      bytes.length < 16 + frameSize →
      Reading frameSize bytes (.error (.shortTransfer frameSize (bytes.length - 16))) []

/-- A word, a length and as many bytes are a request. -/
theorem encode_front (header : 16 ≤ bytes.length) (body : declared bytes ≤ (bytes.drop 16).length) :
    encode (Opcode.ofBytes (bytes.take 8)) (some ((bytes.drop 16).take (declared bytes))) <+:
      bytes := by
  have word : (bytes.take 8).length = 8 := List.length_take_of_le (by omega)
  have number : ((bytes.drop 8).take 8).length = 8 := by
    rw [List.length_take, List.length_drop]
    omega
  have spelled := bigEndian_ofBigEndian ((bytes.drop 8).take 8)
  rw [number, ← declared] at spelled
  rw [encode, Option.getD_some, List.length_take_of_le body, toBytes_ofBytes word, spelled,
    ← List.take_add, ← List.take_add]
  exact List.take_prefix _ _

theorem declared_lt (header : 16 ≤ bytes.length) : declared bytes < 2 ^ 64 := by
  refine ofBigEndian_lt_of_word (List.length_take_of_le ?_)
  rw [List.length_drop]
  omega

/-- A length of nothing, or of a frame that is all there, makes a whole request. -/
theorem exists_whole (header : 16 ≤ bytes.length)
    (body : declared bytes = 0 ∨ declared bytes = frameSize ∧ 16 + frameSize ≤ bytes.length) :
    ∃ (request : Request) (rest : Bytes), request.Framed frameSize ∧
      bytes = request.encode ++ rest := by
  have enough : declared bytes ≤ (bytes.drop 16).length := by
    rw [List.length_drop]
    omega
  obtain ⟨rest, front⟩ := encode_front header enough
  by_cases nothing : declared bytes = 0
  · rw [nothing, List.take_zero] at front
    exact ⟨⟨_, none⟩, rest, nofun, front.symm⟩
  · have full := List.length_take_of_le enough
    refine ⟨⟨_, some _⟩, rest, ?_, front.symm⟩
    rintro frame ⟨⟩
    refine ⟨fun empty => nothing ?_, full.trans (body.resolve_left nothing).1,
      full.trans_lt (declared_lt header)⟩
    rw [← full, empty]
    rfl

/-- Whatever the bytes are, reading a request from them comes to something. -/
theorem exists_reading (frameSize : Nat) (bytes : Bytes) :
    ∃ outcome left, Reading frameSize bytes outcome left := by
  by_cases nothing : bytes = []
  · exact ⟨_, _, .ended nothing⟩
  by_cases word : bytes.length < 8
  · exact ⟨_, _, .cutWord nothing word⟩
  by_cases number : bytes.length < 16
  · exact ⟨_, _, .cutLength (not_lt.mp word) number⟩
  have header := not_lt.mp number
  by_cases body : declared bytes = 0 ∨ declared bytes = frameSize ∧ 16 + frameSize ≤ bytes.length
  · obtain ⟨request, rest, framed, front⟩ := exists_whole header body
    exact ⟨_, _, .whole framed front⟩
  obtain ⟨some, lacking⟩ := not_or.mp body
  by_cases proper : declared bytes = frameSize
  · have short : bytes.length < 16 + frameSize := by
      by_contra enough
      exact lacking ⟨proper, not_lt.mp enough⟩
    exact ⟨_, _, .cutFrame header (proper ▸ some) proper short⟩
  · exact ⟨_, _, .odd header some proper⟩

theorem readExactly_short (clean : source.Clean) {wanted : Nat}
    (short : source.toBytes.length < wanted) :
    ∃ rest : Source, Source.readExactly wanted source =
      .error (.shortTransfer wanted source.toBytes.length) rest ∧ rest.toBytes = [] := by
  obtain ⟨rest, filled, _, left⟩ := Source.fill_clean clean wanted
  rw [List.take_of_length_le short.le] at filled
  rw [List.drop_of_length_le short.le] at left
  refine ⟨rest, ?_, left⟩
  rw [Source.readExactly, bind_of_ok filled, if_neg short.ne]
  rfl

/-- With a whole word to read, the length and the frame come next. -/
theorem readRequest_word (clean : source.Clean) (word : 8 ≤ source.toBytes.length)
    (frameSize : Nat) :
    ∃ rest : Source, readRequest frameSize source = (do
        let length ← Source.readWord
        let frame ← readPayload length frameSize
        return some { opcode := Opcode.ofBytes (source.toBytes.take 8), frame } :
          EStateM Fault Source (Option Request)) rest ∧
      rest.Clean ∧ rest.toBytes = source.toBytes.drop 8 := by
  have count : (source.toBytes.take 8).length = 8 := List.length_take_of_le word
  obtain ⟨rest, filled, cleanRest, left⟩ := Source.fill_clean clean 8
  refine ⟨rest, ?_, cleanRest, left⟩
  rw [readRequest, bind_of_ok filled, if_neg (by omega), if_neg (not_not.mpr count)]

/-- With a word and a length to read, the frame comes next. -/
theorem readRequest_number (clean : source.Clean) (number : 16 ≤ source.toBytes.length)
    (frameSize : Nat) :
    ∃ rest : Source, readRequest frameSize source = (do
        let frame ← readPayload (declared source.toBytes) frameSize
        return some { opcode := Opcode.ofBytes (source.toBytes.take 8), frame } :
          EStateM Fault Source (Option Request)) rest ∧
      rest.Clean ∧ rest.toBytes = source.toBytes.drop 16 := by
  obtain ⟨middle, read, cleanMiddle, left⟩ := readRequest_word clean (by omega) frameSize
  have long : 8 ≤ middle.toBytes.length := by
    rw [left, List.length_drop]
    omega
  obtain ⟨rest, length, cleanRest, bodyLeft⟩ := Source.readWord_clean cleanMiddle long
  rw [left] at length bodyLeft
  rw [List.drop_drop] at bodyLeft
  exact ⟨rest, read.trans (bind_of_ok length), cleanRest, bodyLeft⟩

/-- A payload that is not all there is refused. -/
theorem readPayload_short (clean : source.Clean) (positive : frameSize ≠ 0)
    (short : source.toBytes.length < frameSize) :
    ∃ rest : Source, readPayload frameSize frameSize source =
      .error (.shortTransfer frameSize source.toBytes.length) rest ∧ rest.toBytes = [] := by
  obtain ⟨rest, failed, left⟩ := readExactly_short clean short
  refine ⟨rest, ?_, left⟩
  rw [readPayload, if_neg positive, if_neg (not_not.mpr rfl)]
  exact bind_of_error failed

/-- Reading does what it is said to come to, in whatever pieces the bytes arrive. -/
theorem Reading.readRequest {outcome : Except Fault (Option Request)} {left : Bytes}
    (reading : Reading frameSize source.toBytes outcome left) (clean : source.Clean) :
    ∃ rest : Source, Wire.readRequest frameSize source = (match outcome with
        | .ok found => .ok found rest
        | .error fault => .error fault rest) ∧
      rest.toBytes = left := by
  obtain ⟨first, filled, _, behind⟩ := Source.fill_clean clean 8
  cases reading with
  | ended nothing =>
    rw [nothing, List.take_nil] at filled
    rw [nothing, List.drop_nil] at behind
    exact ⟨first, bind_of_ok filled, behind⟩
  | whole framed front =>
    obtain ⟨rest, read, _, behind⟩ := readRequest_framed clean framed front
    exact ⟨rest, read, behind⟩
  | odd header some odd =>
    obtain ⟨body, read, _, behind⟩ := readRequest_number clean header frameSize
    exact ⟨body, read.trans (bind_of_error (readPayload_odd some odd body)), behind⟩
  | cutWord some short =>
    have count : source.toBytes.length ≠ 0 := fun none => some (List.length_eq_zero_iff.mp none)
    rw [List.take_of_length_le short.le] at filled
    rw [List.drop_of_length_le short.le] at behind
    refine ⟨first, ?_, behind⟩
    rw [Wire.readRequest, bind_of_ok filled, if_neg count, if_pos short.ne]
    rfl
  | cutLength word short =>
    obtain ⟨middle, read, cleanMiddle, behind⟩ := readRequest_word clean word frameSize
    have count : middle.toBytes.length = source.toBytes.length - 8 := by
      rw [behind, List.length_drop]
    obtain ⟨rest, failed, nothing⟩ := readExactly_short cleanMiddle (show _ < 8 by omega)
    rw [count] at failed
    exact ⟨rest, read.trans (bind_of_error (bind_of_error failed)), nothing⟩
  | cutFrame header positive proper short =>
    obtain ⟨body, read, cleanBody, behind⟩ := readRequest_number clean header frameSize
    have count : body.toBytes.length = source.toBytes.length - 16 := by
      rw [behind, List.length_drop]
    obtain ⟨rest, failed, nothing⟩ := readPayload_short cleanBody positive (by omega)
    rw [count] at failed
    rw [proper] at read
    exact ⟨rest, read.trans (bind_of_error failed), nothing⟩

/-- Bytes without a whole request at their front are none at all or are refused. -/
theorem readRequest_rest (clean : source.Clean)
    (stuck : ∀ request : Request, request.Framed frameSize → ¬request.encode <+: source.toBytes) :
    ∃ rest, readRequest frameSize source =
      match defect? frameSize source.toBytes with
      | none => .ok none rest
      | some fault => .error fault rest := by
  obtain ⟨outcome, left, reading⟩ := exists_reading frameSize source.toBytes
  obtain ⟨rest, read, _⟩ := reading.readRequest clean
  refine ⟨rest, read.trans ?_⟩
  unfold defect?
  rw [← declared]
  cases reading with
  | ended nothing => rw [if_pos nothing]
  | whole framed front => exact absurd ⟨_, front.symm⟩ (stuck _ framed)
  | odd header some odd =>
    have present : source.toBytes ≠ [] := fun none => by
      rw [none] at header
      cases header
    rw [if_neg present, if_neg (by omega), if_neg (by omega), if_neg odd]
  | cutWord some short => rw [if_neg some, if_pos short]
  | cutLength word short =>
    have present : source.toBytes ≠ [] := fun none => by
      rw [none] at word
      cases word
    rw [if_neg present, if_neg (by omega), if_pos short]
  | cutFrame header positive proper short =>
    have present : source.toBytes ≠ [] := fun none => by
      rw [none] at header
      cases header
    rw [if_neg present, if_neg (by omega), if_neg (by omega), if_pos proper]

end Wire

end CartridgeBank
