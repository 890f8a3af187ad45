import CartridgeBank.Proofs.Framing

namespace CartridgeBank.Wire

variable {frameSize : Nat} {source : Source} {request : Request} {requests : List Request}
  {bytes rest : Bytes}

/-- Reads requests until there are no bytes left or one is refused: the requests, and how it ended. -/
def readRequests (frameSize : Nat) (source : Source) : List Request × Except Fault Unit :=
  match _ : readRequest frameSize source with
  | .ok none _ => ([], .ok ())
  | .error fault _ => ([], .error fault)
  | .ok (some request) rest =>
    let (requests, ending) := readRequests frameSize rest
    (request :: requests, ending)
termination_by source.size
decreasing_by exact size_readRequest_lt ‹_›

/-- Writes requests one after the other. -/
def writeRequests (requests : List Request) : EStateM Fault Sink Unit :=
  requests.forM fun request => writeRequest request.opcode request.frame

/-- What reading one request from a byte string comes to, and the bytes left unread. -/
def readFront (frameSize : Nat) (bytes : Bytes) : Except Fault (Option Request) × Bytes :=
  match readRequest frameSize (Source.ofBytes bytes) with
  | .ok found rest => (.ok found, rest.toBytes)
  | .error fault rest => (.error fault, rest.toBytes)

theorem Reading.readFront {outcome : Except Fault (Option Request)}
    (reading : Reading frameSize bytes outcome rest) :
    readFront frameSize bytes = (outcome, rest) := by
  have whole := Source.toBytes_ofBytes bytes
  obtain ⟨after, read, left⟩ :=
    Reading.readRequest (whole.symm ▸ reading) (Source.clean_ofBytes bytes)
  subst left
  unfold Wire.readFront
  rw [read]
  cases outcome <;> rfl

/-- Reading comes to one thing only. -/
theorem readFront_eq_iff {outcome : Except Fault (Option Request)} :
    readFront frameSize bytes = (outcome, rest) ↔ Reading frameSize bytes outcome rest := by
  constructor
  · intro read
    obtain ⟨found, left, reading⟩ := exists_reading frameSize bytes
    rw [reading.readFront] at read
    cases read
    exact reading
  · exact Reading.readFront

theorem writeRequests_eq (requests : List Request) (written : Bytes) :
    writeRequests requests { written } =
      .ok () { written := written ++ requests.flatMap Request.encode } := by
  induction requests generalizing written with
  | nil => simp [writeRequests, pure, EStateM.pure]
  | cons request rest ih =>
    have first : writeRequest request.opcode request.frame { written } =
        .ok () { written := written ++ request.encode } := rfl
    change (writeRequest request.opcode request.frame >>= fun _ => writeRequests rest) _ = _
    rw [bind_of_ok first, ih, List.flatMap_cons, List.append_assoc]

theorem readRequests_of_none {left : Source} (read : readRequest frameSize source = .ok none left) :
    readRequests frameSize source = ([], .ok ()) := by
  rw [readRequests]
  split
  · rfl
  · rename_i failed
    rw [read] at failed
    cases failed
  · rename_i found
    rw [read] at found
    cases found

theorem readRequests_of_error {fault : Fault} {left : Source}
    (read : readRequest frameSize source = .error fault left) :
    readRequests frameSize source = ([], .error fault) := by
  rw [readRequests]
  split
  · rename_i ended
    rw [read] at ended
    cases ended
  · rename_i failed
    rw [read] at failed
    cases failed
    rfl
  · rename_i found
    rw [read] at found
    cases found

theorem readRequests_of_some {left : Source}
    (read : readRequest frameSize source = .ok (some request) left) :
    readRequests frameSize source =
      (request :: (readRequests frameSize left).1, (readRequests frameSize left).2) := by
  rw [readRequests]
  split
  · rename_i ended
    rw [read] at ended
    cases ended
  · rename_i failed
    rw [read] at failed
    cases failed
  · rename_i found
    rw [read] at found
    cases found
    rfl

/-- Reading a stream gives its whole requests, and ends with what is wrong with the bytes after them. -/
theorem readRequests_framing (clean : source.Clean)
    (framing : Framing frameSize source.toBytes requests rest) :
    readRequests frameSize source = (requests, match defect? frameSize rest with
      | none => .ok ()
      | some fault => .error fault) := by
  induction requests generalizing source with
  | nil =>
    obtain ⟨whole, _, longest⟩ := framing
    rw [List.flatMap_nil, List.nil_append] at whole
    subst whole
    obtain ⟨left, read⟩ := readRequest_rest clean longest
    cases defective : defect? frameSize source.toBytes with
    | none =>
      rw [defective] at read
      exact readRequests_of_none read
    | some fault =>
      rw [defective] at read
      exact readRequests_of_error read
  | cons request requests ih =>
    obtain ⟨whole, framed, longest⟩ := framing
    obtain ⟨first, others⟩ := List.forall_mem_cons.mp framed
    rw [List.flatMap_cons, List.append_assoc] at whole
    obtain ⟨left, read, cleanLeft, tail⟩ := readRequest_framed clean first whole
    rw [readRequests_of_some read, ih cleanLeft ⟨tail, others, longest⟩]

/-- Requests one after the other are a stream without anything after them. -/
theorem framing_flatMap (framed : ∀ request ∈ requests, request.Framed frameSize) :
    Framing frameSize (requests.flatMap Request.encode) requests [] := by
  refine ⟨(List.append_nil _).symm, framed, fun request _ front => ?_⟩
  exact request.encode_ne_nil (List.prefix_nil.mp front)

theorem length_encode (request : Request) :
    request.encode.length = 16 + (request.frame.getD []).length := by
  rw [Request.encode, encode, List.length_append, List.length_append, Opcode.toBytes,
    length_bigEndian, length_bigEndian]

/-- A length that is all there is the length of the frame. -/
theorem declared_of_front (framed : request.Framed frameSize) (header : 16 ≤ bytes.length)
    (front : bytes <+: request.encode) : declared bytes = (request.frame.getD []).length := by
  obtain ⟨tail, whole⟩ := front
  have short : (request.frame.getD []).length < 2 ^ 64 := by
    cases same : request.frame with
    | none => decide
    | some frame => exact (framed frame same).2.2
  have number : ((bytes.drop 8).take 8) = bigEndian 8 (request.frame.getD []).length := by
    have word : request.opcode.toBytes.length = 8 := length_bigEndian 8 _
    have cut := congrArg (fun bytes => (bytes.drop 8).take 8) whole
    rw [List.drop_append_of_le_length (by omega), List.take_append_of_le_length (by
      rw [List.length_drop]
      omega), Request.encode, encode, List.append_assoc, List.drop_left' word,
      List.take_left' (length_bigEndian 8 _)] at cut
    exact cut
  rw [declared, number, ofBigEndian_bigEndian]
  exact Nat.mod_eq_of_lt short

/-- A part of a request that is neither nothing nor all of it ends too early. -/
theorem short_of_front (framed : request.Framed frameSize) (front : bytes <+: request.encode)
    (some : bytes ≠ []) (proper : bytes ≠ request.encode) :
    ∃ expected actual, actual < expected ∧
      Reading frameSize bytes (.error (.shortTransfer expected actual)) [] := by
  have shorter : bytes.length < request.encode.length :=
    front.length_le.lt_of_ne fun same => proper (front.eq_of_length same)
  by_cases word : bytes.length < 8
  · exact ⟨_, _, word, .cutWord some word⟩
  by_cases number : bytes.length < 16
  · exact ⟨8, _, by omega, .cutLength (not_lt.mp word) number⟩
  have header := not_lt.mp number
  have length := declared_of_front framed header front
  rw [length_encode] at shorter
  cases same : request.frame with
  | none =>
    rw [same] at shorter
    exact absurd header (not_le.mpr shorter)
  | some frame =>
    obtain ⟨present, full, _⟩ := framed frame same
    have positive : frameSize ≠ 0 := by
      rw [← full]
      exact mt List.length_eq_zero_iff.mp present
    rw [same, Option.getD_some, full] at length shorter
    exact ⟨_, _, by omega, .cutFrame header positive length shorter⟩

/-- Requests delimit themselves. What reading one comes to is settled by the bytes alone: there is none
exactly where there are no bytes, one exactly where it is written at the front, of which exactly its
bytes are taken, and otherwise the fault tells where the bytes end or which length is not that of a
frame. So what was written, one request after the other, is read back as it was, and no part of one
request is read as anything. -/
theorem requests_delimited (frameSize : Nat) :
    (∀ bytes outcome rest, readFront frameSize bytes = (outcome, rest) ↔
      Reading frameSize bytes outcome rest) ∧
    (∀ requests : List Request, (∀ request ∈ requests, request.Framed frameSize) →
      ∃ sink, writeRequests requests {} = .ok () sink ∧
        sink.written = requests.flatMap Request.encode ∧
        readRequests frameSize (Source.ofBytes sink.written) = (requests, .ok ())) ∧
    ∀ (request : Request) (bytes : Bytes), request.Framed frameSize → bytes <+: request.encode →
      bytes ≠ [] → bytes ≠ request.encode → ∃ expected actual, actual < expected ∧
        readFront frameSize bytes = (.error (.shortTransfer expected actual), []) := by
  refine ⟨fun bytes outcome rest => readFront_eq_iff, fun requests framed => ?_,
    fun request bytes framed front some proper => ?_⟩
  · refine ⟨_, writeRequests_eq requests [], rfl, ?_⟩
    have framing := framing_flatMap framed
    rw [← Source.toBytes_ofBytes (requests.flatMap Request.encode)] at framing
    exact readRequests_framing (Source.clean_ofBytes _) framing
  · obtain ⟨expected, actual, fewer, reading⟩ := short_of_front framed front some proper
    exact ⟨expected, actual, fewer, reading.readFront⟩

/-- A WRFRME with a frame of two bytes and a BZERO are read back, and the WRFRME without its last byte
is one byte of two. -/
theorem requests_delimited_two :
    let store : Request := { opcode := .request .wrfrme 0 3, frame := some [7, 8] }
    let zero : Request := { opcode := .request .bzero 0 0 }
    (∀ request ∈ [store, zero], request.Framed 2) ∧
      (∃ sink, writeRequests [store, zero] {} = .ok () sink ∧
        sink.written = store.encode ++ zero.encode ∧
        readRequests 2 (Source.ofBytes sink.written) = ([store, zero], .ok ())) ∧
      store.encode.take 17 <+: store.encode ∧ store.encode.take 17 ≠ [] ∧
      store.encode.take 17 ≠ store.encode ∧
      ∃ expected actual, actual < expected ∧
        readFront 2 (store.encode.take 17) = (.error (.shortTransfer expected actual), []) := by
  intro store zero
  obtain ⟨_, streams, parts⟩ := requests_delimited 2
  have storeFramed : store.Framed 2 := by
    rintro frame ⟨⟩
    decide
  have framed : ∀ request ∈ [store, zero], request.Framed 2 :=
    List.forall_mem_cons.mpr ⟨storeFramed, List.forall_mem_singleton.mpr nofun⟩
  have part : store.encode.take 17 <+: store.encode := List.take_prefix _ _
  have some : store.encode.take 17 ≠ [] := by decide
  have proper : store.encode.take 17 ≠ store.encode := by decide
  obtain ⟨sink, written, same, read⟩ := streams _ framed
  refine ⟨framed, ⟨sink, written, same.trans ?_, read⟩, part, some, proper,
    parts store _ storeFramed part some proper⟩
  simp

end CartridgeBank.Wire
