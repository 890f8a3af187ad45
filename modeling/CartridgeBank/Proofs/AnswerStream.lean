import CartridgeBank.Proofs.RequestStream

namespace CartridgeBank

/-- An answer to a command has no payload, or one frame if the command is a RDFRME. -/
def Answer.Framed (command : Command) (frameSize : Nat) (answer : Answer) : Prop :=
  ∀ frame, answer.frame = some frame →
    command = .rdfrme ∧ frame ≠ [] ∧ frame.length = frameSize ∧ frame.length < 2 ^ 64

namespace Wire

/-- What reading the answer to a command from a byte string comes to, and the bytes left unread: the
answer where one is at the front, and else a fault, which tells where the bytes end or which length is
neither nothing nor that of the payload. -/
inductive Receiving (command : Command) (frameSize : Nat) (bytes : Bytes) :
    Except Fault Answer → Bytes → Prop
  | whole {answer : Answer} {rest : Bytes} : answer.Framed command frameSize →
      bytes = encodeAnswer answer ++ rest → Receiving command frameSize bytes (.ok answer) rest
  | unasked : command ≠ .rdfrme → 16 ≤ bytes.length → declared bytes ≠ 0 →
      Receiving command frameSize bytes (.error (.unexpectedPayload 0 (declared bytes)))
        (bytes.drop 16)
  | odd : command = .rdfrme → 16 ≤ bytes.length → declared bytes ≠ 0 → declared bytes ≠ frameSize →
      Receiving command frameSize bytes (.error (.unexpectedPayload frameSize (declared bytes)))
        (bytes.drop 16)
  | cutWord : bytes.length < 8 →
      Receiving command frameSize bytes (.error (.shortTransfer 8 bytes.length)) []
  | cutLength : 8 ≤ bytes.length → bytes.length < 16 →
      Receiving command frameSize bytes (.error (.shortTransfer 8 (bytes.length - 8))) []
  | cutFrame : command = .rdfrme → 16 ≤ bytes.length → frameSize ≠ 0 →
      declared bytes = frameSize → bytes.length < 16 + frameSize →
      Receiving command frameSize bytes (.error (.shortTransfer frameSize (bytes.length - 16))) []

/-- What reading the answer to a command from a byte string comes to, and the bytes left unread. -/
def answerFront (command : Command) (frameSize : Nat) (bytes : Bytes) :
    Except Fault Answer × Bytes :=
  match readAnswer command frameSize (Source.ofBytes bytes) with
  | .ok answer rest => (.ok answer, rest.toBytes)
  | .error fault rest => (.error fault, rest.toBytes)

variable {command : Command} {frameSize : Nat} {source : Source} {answer : Answer}
  {bytes rest : Bytes}

theorem returnsFrame_iff : command.returnsFrame = true ↔ command = .rdfrme := beq_iff_eq

/-- The request with the same bytes. -/
def asRequest (answer : Answer) : Request := { opcode := answer.opcode, frame := answer.frame }

theorem framed_asRequest (framed : answer.Framed command frameSize) :
    (asRequest answer).Framed frameSize := fun frame present => (framed frame present).2

/-- Whatever the bytes are, reading an answer from them comes to something. -/
theorem exists_receiving (command : Command) (frameSize : Nat) (bytes : Bytes) :
    ∃ outcome left, Receiving command frameSize bytes outcome left := by
  by_cases word : bytes.length < 8
  · exact ⟨_, _, .cutWord word⟩
  by_cases number : bytes.length < 16
  · exact ⟨_, _, .cutLength (not_lt.mp word) number⟩
  have header := not_lt.mp number
  by_cases nothing : declared bytes = 0
  · -- without a payload it does not matter how long a frame is
    obtain ⟨request, rest, framed, front⟩ := @exists_whole 0 bytes header (Or.inl nothing)
    have whole : Answer.Framed command frameSize ⟨request.opcode, request.frame⟩ := by
      intro frame present
      obtain ⟨some, empty, _⟩ := framed frame present
      exact absurd (List.length_eq_zero_iff.mp empty) some
    exact ⟨_, _, .whole whole front⟩
  by_cases asked : command = .rdfrme
  · by_cases proper : declared bytes = frameSize
    · by_cases enough : 16 + frameSize ≤ bytes.length
      · obtain ⟨request, rest, framed, front⟩ := exists_whole header (Or.inr ⟨proper, enough⟩)
        have whole : Answer.Framed command frameSize ⟨request.opcode, request.frame⟩ :=
          fun frame present => ⟨asked, framed frame present⟩
        exact ⟨_, _, .whole whole front⟩
      · exact ⟨_, _, .cutFrame asked header (proper ▸ nothing) proper (not_le.mp enough)⟩
    · exact ⟨_, _, .odd asked header nothing proper⟩
  · exact ⟨_, _, .unasked asked header nothing⟩

/-- With a word and a length to read, the frame comes next if there may be one. -/
theorem readAnswer_number (clean : source.Clean) (number : 16 ≤ source.toBytes.length)
    (command : Command) (frameSize : Nat) :
    ∃ rest : Source, readAnswer command frameSize source = (
        if declared source.toBytes ≠ 0 ∧ ¬command.returnsFrame then
          throw (.unexpectedPayload 0 (declared source.toBytes))
        else do
          let frame ← readPayload (declared source.toBytes) frameSize
          return { opcode := Opcode.ofBytes (source.toBytes.take 8), frame } :
            EStateM Fault Source Answer) rest ∧
      rest.Clean ∧ rest.toBytes = source.toBytes.drop 16 := by
  obtain ⟨middle, word, cleanMiddle, left⟩ := Source.readWord_clean clean (by omega)
  have long : 8 ≤ middle.toBytes.length := by
    rw [left, List.length_drop]
    omega
  obtain ⟨rest, length, cleanRest, bodyLeft⟩ := Source.readWord_clean cleanMiddle long
  rw [left] at length bodyLeft
  rw [List.drop_drop] at bodyLeft
  refine ⟨rest, ?_, cleanRest, bodyLeft⟩
  rw [readAnswer, bind_of_ok word, bind_of_ok length]
  rfl

theorem readWord_short (clean : source.Clean) (short : source.toBytes.length < 8) :
    ∃ rest : Source, Source.readWord source =
      .error (.shortTransfer 8 source.toBytes.length) rest ∧ rest.toBytes = [] := by
  obtain ⟨rest, failed, left⟩ := readExactly_short clean short
  exact ⟨rest, bind_of_error failed, left⟩

/-- An answer to the command is read as it is. -/
theorem readAnswer_framed (clean : source.Clean) (framed : answer.Framed command frameSize)
    (front : source.toBytes = encodeAnswer answer ++ bytes) :
    ∃ rest : Source, readAnswer command frameSize source = .ok answer rest ∧ rest.Clean ∧
      rest.toBytes = bytes := by
  have carried := (framed_asRequest framed).carried
  have size : (answer.frame.getD []).length < 2 ^ 64 ∧ (answer.frame.getD [] = [] ∨
      command.returnsFrame = true ∧ (answer.frame.getD []).length = frameSize) := by
    cases same : answer.frame with
    | none => exact ⟨by decide, Or.inl rfl⟩
    | some frame =>
      obtain ⟨asked, _, full, fits⟩ := framed frame same
      exact ⟨fits, Or.inr ⟨returnsFrame_iff.mpr asked, full⟩⟩
  obtain ⟨rest, read, cleanRest, left⟩ := readAnswer_encode clean size.1 size.2 front
  rw [show Wire.carried answer.frame = answer.frame from carried] at read
  exact ⟨rest, read, cleanRest, left⟩

/-- Reading does what it is said to come to, in whatever pieces the bytes arrive. -/
theorem Receiving.readAnswer {outcome : Except Fault Answer} {left : Bytes}
    (receiving : Receiving command frameSize source.toBytes outcome left) (clean : source.Clean) :
    ∃ rest : Source, Wire.readAnswer command frameSize source = (match outcome with
        | .ok answer => .ok answer rest
        | .error fault => .error fault rest) ∧
      rest.toBytes = left := by
  cases receiving with
  | whole framed front =>
    obtain ⟨rest, read, _, behind⟩ := readAnswer_framed clean framed front
    exact ⟨rest, read, behind⟩
  | unasked other header some =>
    obtain ⟨body, read, _, behind⟩ := readAnswer_number clean header command frameSize
    rw [if_pos ⟨some, mt returnsFrame_iff.mp other⟩] at read
    exact ⟨body, read, behind⟩
  | odd asked header some odd =>
    obtain ⟨body, read, _, behind⟩ := readAnswer_number clean header command frameSize
    rw [if_neg fun both => both.2 (returnsFrame_iff.mpr asked)] at read
    exact ⟨body, read.trans (bind_of_error (readPayload_odd some odd body)), behind⟩
  | cutWord short =>
    obtain ⟨rest, failed, nothing⟩ := readWord_short clean short
    exact ⟨rest, bind_of_error failed, nothing⟩
  | cutLength word short =>
    obtain ⟨middle, read, cleanMiddle, behind⟩ := Source.readWord_clean clean word
    have count : middle.toBytes.length = source.toBytes.length - 8 := by
      rw [behind, List.length_drop]
    obtain ⟨rest, failed, nothing⟩ := readWord_short cleanMiddle (by omega)
    rw [count] at failed
    exact ⟨rest, (bind_of_ok read).trans (bind_of_error failed), nothing⟩
  | cutFrame asked header positive proper short =>
    obtain ⟨body, read, cleanBody, behind⟩ := readAnswer_number clean header command frameSize
    have count : body.toBytes.length = source.toBytes.length - 16 := by
      rw [behind, List.length_drop]
    obtain ⟨rest, failed, nothing⟩ := readPayload_short cleanBody positive (by omega)
    rw [count] at failed
    rw [if_neg fun both => both.2 (returnsFrame_iff.mpr asked), proper] at read
    exact ⟨rest, read.trans (bind_of_error failed), nothing⟩

theorem Receiving.answerFront {outcome : Except Fault Answer}
    (receiving : Receiving command frameSize bytes outcome rest) :
    answerFront command frameSize bytes = (outcome, rest) := by
  have whole := Source.toBytes_ofBytes bytes
  obtain ⟨after, read, left⟩ :=
    Receiving.readAnswer (whole.symm ▸ receiving) (Source.clean_ofBytes bytes)
  subst left
  unfold Wire.answerFront
  rw [read]
  cases outcome <;> rfl

/-- Reading comes to one thing only. -/
theorem answerFront_eq_iff {outcome : Except Fault Answer} :
    answerFront command frameSize bytes = (outcome, rest) ↔
      Receiving command frameSize bytes outcome rest := by
  constructor
  · intro read
    obtain ⟨found, left, receiving⟩ := exists_receiving command frameSize bytes
    rw [receiving.answerFront] at read
    cases read
    exact receiving
  · exact Receiving.answerFront

/-- A part of an answer that is not all of it ends too early. -/
theorem short_of_answer_front (framed : answer.Framed command frameSize)
    (front : bytes <+: encodeAnswer answer) (proper : bytes ≠ encodeAnswer answer) :
    ∃ expected actual, actual < expected ∧
      Receiving command frameSize bytes (.error (.shortTransfer expected actual)) [] := by
  by_cases word : bytes.length < 8
  · exact ⟨_, _, word, .cutWord word⟩
  have some : bytes ≠ [] := fun none => word (by rw [none]; decide)
  obtain ⟨expected, actual, fewer, reading⟩ :=
    short_of_front (framed_asRequest framed) front some proper
  refine ⟨expected, actual, fewer, ?_⟩
  cases reading with
  | cutWord _ short => exact absurd short word
  | cutLength word short => exact .cutLength word short
  | cutFrame header positive same short =>
    have length := declared_of_front (framed_asRequest framed) header front
    cases present : answer.frame with
    | none =>
      rw [asRequest, present] at length
      exact absurd (same.symm.trans length) positive
    | some frame => exact .cutFrame (framed frame present).1 header positive same short

/-- Answers delimit themselves, once it is known which command they are to. What reading one comes to
is settled by the command and the bytes: it is the answer exactly where one to the command is written
at the front, of which exactly its bytes are taken, and otherwise the fault tells where the bytes end
or which length is not that of a payload. So what was written is read back as it was, whatever comes
after it, and no part of it is read as anything. -/
theorem answers_delimited (command : Command) (frameSize : Nat) :
    (∀ bytes outcome rest, answerFront command frameSize bytes = (outcome, rest) ↔
      Receiving command frameSize bytes outcome rest) ∧
    (∀ answer : Answer, answer.Framed command frameSize →
      ∃ sink, writeAnswer answer {} = .ok () sink ∧ sink.written = encodeAnswer answer ∧
        ∀ rest, answerFront command frameSize (sink.written ++ rest) = (.ok answer, rest)) ∧
    ∀ (answer : Answer) (bytes : Bytes), answer.Framed command frameSize →
      bytes <+: encodeAnswer answer → bytes ≠ encodeAnswer answer →
        ∃ expected actual, actual < expected ∧
          answerFront command frameSize bytes = (.error (.shortTransfer expected actual), []) := by
  refine ⟨fun bytes outcome rest => answerFront_eq_iff, fun answer framed => ?_,
    fun answer bytes framed front proper => ?_⟩
  · refine ⟨_, rfl, List.nil_append _, fun rest => ?_⟩
    rw [List.nil_append]
    exact (Receiving.whole framed rfl).answerFront
  · obtain ⟨expected, actual, fewer, receiving⟩ := short_of_answer_front framed front proper
    exact ⟨expected, actual, fewer, receiving.answerFront⟩

/-- The answer to a RDFRME with a frame of two bytes is read back, and the same bytes are refused as the
answer to a BZERO. -/
theorem answers_delimited_frame :
    let answer : Answer := { opcode := .request .rdfrme 0 3, frame := some [7, 8] }
    answer.Framed .rdfrme 2 ∧
      (∃ sink, writeAnswer answer {} = .ok () sink ∧ sink.written = encodeAnswer answer ∧
        ∀ rest, answerFront .rdfrme 2 (sink.written ++ rest) = (.ok answer, rest)) ∧
      answerFront .bzero 2 (encodeAnswer answer) = (.error (.unexpectedPayload 0 2), [7, 8]) := by
  intro answer
  have framed : answer.Framed .rdfrme 2 := by
    rintro frame ⟨⟩
    decide
  have length : declared (encodeAnswer answer) = 2 := by decide
  have behind : (encodeAnswer answer).drop 16 = [7, 8] := by decide
  have refused : Receiving .bzero 2 (encodeAnswer answer) _ _ :=
    .unasked nofun (by decide) (by rw [length]; decide)
  rw [length, behind] at refused
  exact ⟨framed, (answers_delimited .rdfrme 2).2.1 answer framed,
    ((answers_delimited .bzero 2).1 _ _ _).mpr refused⟩

end Wire

end CartridgeBank
