import CartridgeBank.Proofs.Arrival

namespace CartridgeBank.Wire

section Results

variable {α : Type}

/-- What a reader returned. -/
def outcomeOf : EStateM.Result Fault Source α → Except Fault α
  | .ok value _ => .ok value
  | .error fault _ => .error fault

/-- What a reader left to be read. -/
def leftOf : EStateM.Result Fault Source α → Source
  | .ok _ rest => rest
  | .error _ rest => rest

theorem outcomeOf_report (outcome : Except Fault α) (rest : Source) :
    outcomeOf (report outcome rest) = outcome := by
  cases outcome <;> rfl

theorem leftOf_report (outcome : Except Fault α) (rest : Source) :
    leftOf (report outcome rest) = rest := by
  cases outcome <;> rfl

/-- How many bytes were taken after the last of some calls, if so many were before the first. -/
def takenBy (taken : Nat) : List (Except Fault α × Nat) → Nat
  | [] => taken
  | (_, count) :: rest => takenBy count rest

/-- The calls that were settled before more than so many bytes were taken. -/
def settledBy (wanted : α → Bool) (most : Nat) (calls : List (Except Fault α × Nat)) :
    List (Except Fault α × Nat) :=
  calls.takeWhile fun call => settled wanted call.1 && decide (call.2 ≤ most)

end Results

theorem left_readRequest_lt {frameSize : Nat} {source : Source} {request : Request}
    (found : outcomeOf (readRequest frameSize source) = .ok (some request)) :
    (leftOf (readRequest frameSize source)).size < source.size := by
  generalize read : readRequest frameSize source = result at found ⊢
  cases result with
  | ok value rest =>
    obtain rfl := Except.ok.inj found
    exact size_readRequest_lt read
  | error fault rest => cases found

/-- Reads requests until there are none left or one is refused: what each call returns, and how many
bytes are taken after it. -/
def requestCalls (frameSize : Nat) (source : Source) (taken : Nat) :
    List (Except Fault (Option Request) × Nat) :=
  let result := readRequest frameSize source
  let count := taken + (source.size - (leftOf result).size)
  (outcomeOf result, count) :: match _ : outcomeOf result with
    | .ok (some _) => requestCalls frameSize (leftOf result) count
    | .ok none | .error _ => []
termination_by source.size
decreasing_by exact left_readRequest_lt ‹_›

/-- Reads the answers to commands, whatever becomes of those before: what each call returns, and how
many bytes are taken after it. -/
def answerCalls (frameSize : Nat) :
    List Command → Source → Nat → List (Except Fault Answer × Nat)
  | [], _, _ => []
  | command :: commands, source, taken =>
    let result := readAnswer command frameSize source
    let count := taken + (source.size - (leftOf result).size)
    (outcomeOf result, count) :: answerCalls frameSize commands (leftOf result) count

/-- Where the bytes end in the middle of a message. -/
def shortage (frameSize : Nat) (bytes : Bytes) : Fault :=
  if bytes.length < 8 then .shortTransfer 8 bytes.length
  else if bytes.length < 16 then .shortTransfer 8 (bytes.length - 8)
  else .shortTransfer frameSize (bytes.length - 16)

namespace Stop

/-- What reading a request comes to if the stream stops after the bytes of a part of it. -/
def request (stop : Stop) (frameSize : Nat) (part : Bytes) : Except Fault (Option Request) :=
  if stop = ended ∧ part = [] then .ok none else .error (stop.fault (shortage frameSize part))

/-- What reading an answer comes to if the stream stops after the bytes of a part of it. -/
def answer (stop : Stop) (frameSize : Nat) (part : Bytes) : Except Fault Answer :=
  .error (stop.fault (shortage frameSize part))

end Stop

variable {command : Command} {commands : List Command} {frameSize taken : Nat}
  {source other pieces : Source} {part tail left bytes : Bytes}

theorem Reading.shortage {expected actual : Nat}
    (reading : Reading frameSize bytes (.error (.shortTransfer expected actual)) left) :
    .shortTransfer expected actual = shortage frameSize bytes := by
  unfold Wire.shortage
  cases reading with
  | cutWord _ short => exact (if_pos short).symm
  | cutLength word short => rw [if_neg word.not_gt, if_pos short]
  | cutFrame header _ _ _ => rw [if_neg (by omega), if_neg header.not_gt]

theorem Receiving.shortage {expected actual : Nat}
    (receiving : Receiving command frameSize bytes (.error (.shortTransfer expected actual)) left) :
    .shortTransfer expected actual = shortage frameSize bytes := by
  unfold Wire.shortage
  cases receiving with
  | cutWord short => exact (if_pos short).symm
  | cutLength word short => rw [if_neg word.not_gt, if_pos short]
  | cutFrame _ header _ _ _ => rw [if_neg (by omega), if_neg header.not_gt]

theorem declared_append (header : 16 ≤ part.length) (tail : Bytes) :
    declared (part ++ tail) = declared part := by
  rw [declared, declared, List.drop_append_of_le_length (by omega),
    List.take_append_of_le_length (by rw [List.length_drop]; omega)]

/-- If nothing of the tail is taken, the tail is at the end of what is left. -/
theorem exists_eq_append {message : Bytes} (split : part ++ tail = message ++ left)
    (within : tail.length ≤ left.length) : ∃ rest, part = message ++ rest := by
  rcases List.append_eq_append_iff.mp split with ⟨more, rfl, rest⟩ | ⟨rest, same, -⟩
  · have count := congrArg List.length rest
    rw [List.length_append] at count
    obtain rfl : more = [] := List.length_eq_zero_iff.mp (by omega)
    exact ⟨[], by rw [List.append_nil, List.append_nil]⟩
  · exact ⟨rest, same⟩

theorem header_of_within (header : 16 ≤ (part ++ tail).length)
    (within : tail.length ≤ ((part ++ tail).drop 16).length) : 16 ≤ part.length := by
  rw [List.length_drop, List.length_append] at within
  rw [List.length_append] at header
  omega

/-- A call that takes nothing of the tail comes to the same without it. -/
theorem Reading.without {outcome : Except Fault (Option Request)}
    (reading : Reading frameSize (part ++ tail) outcome left)
    (found : settled Option.isSome outcome = true) (within : tail.length ≤ left.length) :
    ∃ rest, Reading frameSize part outcome rest := by
  cases reading with
  | ended nothing => cases found
  | whole framed split =>
    obtain ⟨rest, same⟩ := exists_eq_append split within
    exact ⟨rest, .whole framed same⟩
  | odd header some odd =>
    have long := header_of_within header within
    rw [declared_append long] at some odd ⊢
    exact ⟨_, .odd long some odd⟩
  | cutWord _ _ => cases found
  | cutLength _ _ => cases found
  | cutFrame _ _ _ _ => cases found

theorem Receiving.without {outcome : Except Fault Answer}
    (receiving : Receiving command frameSize (part ++ tail) outcome left)
    (found : settled (fun _ => true) outcome = true) (within : tail.length ≤ left.length) :
    ∃ rest, Receiving command frameSize part outcome rest := by
  cases receiving with
  | whole framed split =>
    obtain ⟨rest, same⟩ := exists_eq_append split within
    exact ⟨rest, .whole framed same⟩
  | unasked asked header some =>
    have long := header_of_within header within
    rw [declared_append long] at some ⊢
    exact ⟨_, .unasked asked long some⟩
  | odd asked header some odd =>
    have long := header_of_within header within
    rw [declared_append long] at some odd ⊢
    exact ⟨_, .odd asked long some odd⟩
  | cutWord _ => cases found
  | cutLength _ _ => cases found
  | cutFrame _ _ _ _ _ => cases found

/-- What one call comes to in a stream of bytes. -/
theorem readRequest_reading (clean : source.Clean) (frameSize : Nat) :
    Reading frameSize source.toBytes (outcomeOf (readRequest frameSize source))
      (leftOf (readRequest frameSize source)).toBytes := by
  obtain ⟨outcome, left, reading⟩ := exists_reading frameSize source.toBytes
  obtain ⟨rest, read, rfl⟩ := reading.readRequest clean
  have same : readRequest frameSize source = report outcome rest := by cases outcome <;> exact read
  rw [same, outcomeOf_report, leftOf_report]
  exact reading

theorem readAnswer_receiving (clean : source.Clean) (command : Command) (frameSize : Nat) :
    Receiving command frameSize source.toBytes (outcomeOf (readAnswer command frameSize source))
      (leftOf (readAnswer command frameSize source)).toBytes := by
  obtain ⟨outcome, left, receiving⟩ := exists_receiving command frameSize source.toBytes
  obtain ⟨rest, read, rfl⟩ := receiving.readAnswer clean
  have same : readAnswer command frameSize source = report outcome rest := by
    cases outcome <;> exact read
  rw [same, outcomeOf_report, leftOf_report]
  exact receiving

theorem Steady.clean_left {α : Type} {reader : EStateM Fault Source α}
    (steady : Steady reader pieces) : (leftOf (reader pieces)).Clean := by
  cases steady with
  | settles outcome rest _ clean _ run =>
    rw [Source.alone_of_run run, leftOf_report]
    exact clean
  | starves expected actual short _ =>
    rw [short]
    exact nofun

theorem clean_left_readRequest (clean : source.Clean) (frameSize : Nat) :
    (leftOf (readRequest frameSize source)).Clean := by
  by_cases nothing : source.toBytes = []
  · rw [readRequest_end clean nothing]
    exact nofun
  · exact (steady_readRequest clean nothing frameSize).clean_left

/-- Two streams of the same bytes. -/
structure Alike (source other : Source) : Prop where
  clean : source.Clean
  also : other.Clean
  bytes : source.toBytes = other.toBytes

theorem Alike.size_eq (alike : Alike source other) : source.size = other.size := by
  rw [← Source.length_toBytes, alike.bytes, Source.length_toBytes]

theorem Alike.readRequest (alike : Alike source other) (frameSize : Nat) :
    outcomeOf (Wire.readRequest frameSize source) = outcomeOf (Wire.readRequest frameSize other) ∧
      Alike (leftOf (Wire.readRequest frameSize source))
        (leftOf (Wire.readRequest frameSize other)) := by
  have first := readRequest_reading alike.clean frameSize
  have second := readRequest_reading alike.also frameSize
  rw [alike.bytes] at first
  have same := first.readFront.symm.trans second.readFront
  obtain ⟨outcome, left⟩ := Prod.mk.inj same
  exact ⟨outcome, clean_left_readRequest alike.clean frameSize,
    clean_left_readRequest alike.also frameSize, left⟩

theorem Alike.readAnswer (alike : Alike source other) (command : Command) (frameSize : Nat) :
    outcomeOf (Wire.readAnswer command frameSize source) =
        outcomeOf (Wire.readAnswer command frameSize other) ∧
      Alike (leftOf (Wire.readAnswer command frameSize source))
        (leftOf (Wire.readAnswer command frameSize other)) := by
  have first := readAnswer_receiving alike.clean command frameSize
  have second := readAnswer_receiving alike.also command frameSize
  rw [alike.bytes] at first
  have same := first.answerFront.symm.trans second.answerFront
  obtain ⟨outcome, left⟩ := Prod.mk.inj same
  exact ⟨outcome, (steady_readAnswer alike.clean command frameSize).clean_left,
    (steady_readAnswer alike.also command frameSize).clean_left, left⟩

theorem Alike.answerCalls (alike : Alike source other) (frameSize : Nat) (commands : List Command)
    (taken : Nat) : answerCalls frameSize commands source taken =
      answerCalls frameSize commands other taken := by
  induction commands generalizing source other taken with
  | nil => rfl
  | cons command commands ih =>
    obtain ⟨outcome, left⟩ := alike.readAnswer command frameSize
    rw [Wire.answerCalls, Wire.answerCalls, outcome, alike.size_eq, left.size_eq, ih left]

theorem requestCalls_some {request : Request}
    (found : outcomeOf (readRequest frameSize source) = .ok (some request)) :
    requestCalls frameSize source taken =
      (.ok (some request), taken + (source.size - (leftOf (readRequest frameSize source)).size)) ::
        requestCalls frameSize (leftOf (readRequest frameSize source))
          (taken + (source.size - (leftOf (readRequest frameSize source)).size)) := by
  rw [requestCalls]
  split
  · rw [found]
  · rename_i last
    cases found.symm.trans last
  · rename_i last
    cases found.symm.trans last

theorem exists_requestCalls (frameSize : Nat) (source : Source) (taken : Nat) :
    ∃ later, requestCalls frameSize source taken = (outcomeOf (readRequest frameSize source),
      taken + (source.size - (leftOf (readRequest frameSize source)).size)) :: later := by
  rw [requestCalls]
  exact ⟨_, rfl⟩

theorem requestCalls_last
    (last : ∀ request, outcomeOf (readRequest frameSize source) ≠ .ok (some request)) :
    requestCalls frameSize source taken = [(outcomeOf (readRequest frameSize source),
      taken + (source.size - (leftOf (readRequest frameSize source)).size))] := by
  rw [requestCalls]
  split
  · rename_i found
    exact absurd found (last _)
  · rfl
  · rfl

theorem Alike.requestCalls (alike : Alike source other) (frameSize taken : Nat) :
    requestCalls frameSize source taken = requestCalls frameSize other taken := by
  induction size : source.size using Nat.strong_induction_on generalizing source other taken with
  | _ size ih =>
    subst size
    obtain ⟨outcome, left⟩ := alike.readRequest frameSize
    by_cases found : ∃ request, outcomeOf (Wire.readRequest frameSize source) = .ok (some request)
    · obtain ⟨request, found⟩ := found
      rw [requestCalls_some found, requestCalls_some (outcome.symm.trans found),
        ih _ (left_readRequest_lt found) left _ rfl, alike.size_eq, left.size_eq]
    · rw [not_exists] at found
      rw [requestCalls_last found, requestCalls_last (outcome ▸ found), outcome, alike.size_eq,
        left.size_eq]

theorem size_delivery (pieces : Source) (stop : Stop) (more : Source) :
    Source.size (pieces ++ stop.delivery :: more) = pieces.size + more.size := by
  rw [Source.size_append]
  cases stop <;> rfl

section SettledBy

variable {α : Type} {wanted : α → Bool} {outcome : Except Fault α} {count most : Nat}
  {calls : List (Except Fault α × Nat)}

theorem settledBy_cons (found : settled wanted outcome = true) (within : count ≤ most) :
    settledBy wanted most ((outcome, count) :: calls) =
      (outcome, count) :: settledBy wanted most calls :=
  List.takeWhile_cons_of_pos (by simp [found, within])

theorem settledBy_eq_nil (late : settled wanted outcome = true → most < count) :
    settledBy wanted most ((outcome, count) :: calls) = [] := by
  refine List.takeWhile_cons_of_neg ?_
  rw [Bool.and_eq_true, decide_eq_true_iff]
  rintro ⟨found, within⟩
  exact (late found).not_ge within

end SettledBy

/-- A call that is not settled by the bytes before the tail takes some of the tail, or more. -/
theorem unsettled_readAnswer (clean : pieces.Clean) (rest : Source) (also : rest.Clean)
    (unsettled : settled (fun _ => true) (outcomeOf (readAnswer command frameSize pieces)) = false)
    (found : settled (fun _ => true) (outcomeOf (readAnswer command frameSize (pieces ++ rest))) =
      true) :
    (leftOf (readAnswer command frameSize (pieces ++ rest))).size < rest.size := by
  by_contra within
  have receiving := readAnswer_receiving (clean.append also) command frameSize
  rw [Source.toBytes_append] at receiving
  rw [not_lt, ← Source.length_toBytes, ← Source.length_toBytes] at within
  obtain ⟨left, alone⟩ := receiving.without found within
  have same := alone.answerFront.symm.trans
    (readAnswer_receiving clean command frameSize).answerFront
  rw [(Prod.mk.inj same).1, unsettled] at found
  cases found

theorem unsettled_readRequest (clean : pieces.Clean) (rest : Source) (also : rest.Clean)
    (unsettled : settled Option.isSome (outcomeOf (readRequest frameSize pieces)) = false)
    (found : settled Option.isSome (outcomeOf (readRequest frameSize (pieces ++ rest))) = true) :
    (leftOf (readRequest frameSize (pieces ++ rest))).size < rest.size := by
  by_contra within
  have reading := readRequest_reading (clean.append also) frameSize
  rw [Source.toBytes_append] at reading
  rw [not_lt, ← Source.length_toBytes, ← Source.length_toBytes] at within
  obtain ⟨left, alone⟩ := reading.without found within
  have same := alone.readFront.symm.trans (readRequest_reading clean frameSize).readFront
  rw [(Prod.mk.inj same).1, unsettled] at found
  cases found

/-- A call that is settled by some bytes, and the calls after it. -/
theorem answerCalls_settled {outcome : Except Fault Answer} {middle : Source}
    (run : ∀ more, readAnswer command frameSize (pieces ++ more) = report outcome (middle ++ more))
    (more : Source) : answerCalls frameSize (command :: commands) (pieces ++ more) taken =
      (outcome, taken + (pieces.size - middle.size)) ::
        answerCalls frameSize commands (middle ++ more) (taken + (pieces.size - middle.size)) := by
  rw [answerCalls, run, outcomeOf_report, leftOf_report, Source.size_append, Source.size_append,
    Nat.add_sub_add_right]

/-- Answers are read from a stream that stops as from a longer one, as far as they are all there. The
call after them tells how the stream stopped. -/
theorem answerCalls_stop (frameSize : Nat) (clean : pieces.Clean) {rest : Source} (also : rest.Clean)
    (stop : Stop) (more : Source) (commands : List Command) (taken : Nat) :
    let done := settledBy (fun _ => true) (taken + pieces.size)
      (answerCalls frameSize commands (pieces ++ rest) taken)
    let calls := answerCalls frameSize commands (pieces ++ stop.delivery :: more) taken
    done.length = commands.length ∧ calls = done ∨
      done.length < commands.length ∧ ∃ part : Bytes, part <:+ pieces.toBytes ∧
        part.length + takenBy taken done = taken + pieces.size ∧
        done ++ [(stop.answer frameSize part, taken + pieces.size)] <+: calls := by
  induction commands generalizing pieces taken with
  | nil => exact Or.inl ⟨rfl, rfl⟩
  | cons command commands ih =>
    cases steady_readAnswer clean command frameSize with
    | settles outcome middle found cleanMiddle suffix run =>
      have fewer := Source.size_le_of_suffix suffix
      have most : taken + (pieces.size - middle.size) + middle.size = taken + pieces.size := by omega
      have behind := ih cleanMiddle (taken + (pieces.size - middle.size))
      rw [most] at behind
      rw [answerCalls_settled run, answerCalls_settled run, settledBy_cons found (by omega)]
      rcases behind with ⟨all, same⟩ | ⟨fewer, part, end_, count, front⟩
      · exact Or.inl ⟨congrArg (· + 1) all, congrArg _ same⟩
      · exact Or.inr ⟨Nat.succ_lt_succ fewer, part, end_.trans suffix, count,
          (List.prefix_cons_inj _).mpr front⟩
    | starves expected actual short stopped =>
      have alone := readAnswer_receiving clean command frameSize
      rw [short] at alone
      have unsettled : settled (fun _ => true)
          (outcomeOf (readAnswer command frameSize pieces)) = false := by
        rw [short]
        rfl
      have late := unsettled_readAnswer clean rest also unsettled
      have none : settledBy (fun _ => true) (taken + pieces.size)
          (answerCalls frameSize (command :: commands) (pieces ++ rest) taken) = [] := by
        refine settledBy_eq_nil fun found => ?_
        have less := late found
        rw [Source.size_append]
        omega
      rw [none]
      refine Or.inr ⟨Nat.succ_pos _, pieces.toBytes, List.suffix_rfl, ?_, ?_⟩
      · rw [Source.length_toBytes, takenBy, Nat.add_comm]
      · rw [answerCalls, stopped, Stop.answer, ← alone.shortage]
        refine ⟨_, congrArg₂ List.cons (Prod.ext rfl ?_) rfl⟩
        rw [leftOf, size_delivery, Nat.add_sub_cancel_right]

theorem requestCalls_settled {request : Request} {middle : Source}
    (run : ∀ more, readRequest frameSize (pieces ++ more) = .ok (some request) (middle ++ more))
    (more : Source) : requestCalls frameSize (pieces ++ more) taken =
      (.ok (some request), taken + (pieces.size - middle.size)) ::
        requestCalls frameSize (middle ++ more) (taken + (pieces.size - middle.size)) := by
  have found : outcomeOf (readRequest frameSize (pieces ++ more)) = .ok (some request) := by
    rw [run]
    rfl
  rw [requestCalls_some found, run, leftOf, Source.size_append, Source.size_append,
    Nat.add_sub_add_right]

theorem requestCalls_refused {fault : Fault} {middle : Source}
    (run : ∀ more, readRequest frameSize (pieces ++ more) = .error fault (middle ++ more))
    (more : Source) : requestCalls frameSize (pieces ++ more) taken =
      [(.error fault, taken + (pieces.size - middle.size))] := by
  have last : ∀ request, outcomeOf (readRequest frameSize (pieces ++ more)) ≠ .ok (some request) := by
    rw [run]
    exact nofun
  rw [requestCalls_last last, run, outcomeOf, leftOf, Source.size_append, Source.size_append,
    Nat.add_sub_add_right]

theorem requestCalls_stopped {stop : Stop} {more : Source} {part : Bytes}
    (stopped : readRequest frameSize (pieces ++ stop.delivery :: more) =
      report (stop.request frameSize part) more) :
    requestCalls frameSize (pieces ++ stop.delivery :: more) taken =
      [(stop.request frameSize part, taken + pieces.size)] := by
  have last : ∀ request, outcomeOf (readRequest frameSize (pieces ++ stop.delivery :: more)) ≠
      .ok (some request) := by
    rw [stopped, outcomeOf_report, Stop.request]
    intro request
    split <;> exact nofun
  rw [requestCalls_last last, stopped, outcomeOf_report, leftOf_report, size_delivery,
    Nat.add_sub_cancel_right]

/-- The bytes of a stream settle a request, or that a payload is refused, or it matters how the stream
stops. -/
theorem readRequest_cases (clean : pieces.Clean) (frameSize : Nat) :
    (∃ (request : Request) (middle : Source), middle.Clean ∧ middle.toBytes <:+ pieces.toBytes ∧
      ∀ more, readRequest frameSize (pieces ++ more) = .ok (some request) (middle ++ more)) ∨
    (∃ (fault : Fault) (middle : Source), refusesPayload fault = true ∧
      middle.toBytes <:+ pieces.toBytes ∧
      ∀ more, readRequest frameSize (pieces ++ more) = .error fault (middle ++ more)) ∨
    settled Option.isSome (outcomeOf (readRequest frameSize pieces)) = false ∧
      ∀ (stop : Stop) more, readRequest frameSize (pieces ++ stop.delivery :: more) =
        report (stop.request frameSize pieces.toBytes) more := by
  have alone := readRequest_reading clean frameSize
  by_cases nothing : pieces.toBytes = []
  · refine Or.inr (Or.inr ⟨by rw [readRequest_end clean nothing]; rfl, fun stop more => ?_⟩)
    rw [readRequest_stop clean nothing, Stop.request, nothing]
    cases stop <;> rfl
  cases steady_readRequest clean nothing frameSize with
  | settles outcome middle found cleanMiddle suffix run =>
    rw [Source.alone_of_run run, outcomeOf_report] at alone
    generalize (leftOf (report outcome middle)).toBytes = left at alone
    cases outcome with
    | error fault => exact Or.inr (Or.inl ⟨fault, middle, found, suffix, run⟩)
    | ok value =>
      cases value with
      | none =>
        cases alone with
        | ended none => exact absurd none nothing
      | some request => exact Or.inl ⟨request, middle, cleanMiddle, suffix, run⟩
  | starves expected actual short stopped =>
    rw [short] at alone
    refine Or.inr (Or.inr ⟨by rw [short]; rfl, fun stop more => ?_⟩)
    rw [stopped, Stop.request, if_neg fun both => nothing both.2, ← alone.shortage]
    rfl

/-- Requests are read from a stream that stops as from a longer one, as far as they are all there, to the
first that is refused. If none is, the call after them tells how the stream stopped. -/
theorem requestCalls_stop (frameSize : Nat) (clean : pieces.Clean) {rest : Source} (also : rest.Clean)
    (stop : Stop) (more : Source) (taken : Nat) :
    let done := settledBy Option.isSome (taken + pieces.size)
      (requestCalls frameSize (pieces ++ rest) taken)
    let calls := requestCalls frameSize (pieces ++ stop.delivery :: more) taken
    (∃ fault count, (.error fault, count) ∈ done) ∧ calls = done ∨
      (∀ fault count, (.error fault, count) ∉ done) ∧ ∃ part : Bytes, part <:+ pieces.toBytes ∧
        part.length + takenBy taken done = taken + pieces.size ∧
        calls = done ++ [(stop.request frameSize part, taken + pieces.size)] := by
  induction size : pieces.size using Nat.strong_induction_on generalizing pieces taken with
  | _ size ih =>
    subst size
    rcases readRequest_cases clean frameSize with ⟨request, middle, cleanMiddle, suffix, run⟩ |
      ⟨fault, middle, refused, suffix, run⟩ | ⟨unsettled, stopped⟩
    · have fewer := Source.size_le_of_suffix suffix
      have less : middle.size < pieces.size := size_readRequest_lt (Source.alone_of_run run)
      have most : taken + (pieces.size - middle.size) + middle.size = taken + pieces.size := by omega
      have behind := ih _ less cleanMiddle (taken + (pieces.size - middle.size)) rfl
      rw [most] at behind
      rw [requestCalls_settled run, requestCalls_settled run, settledBy_cons rfl (by omega)]
      rcases behind with ⟨⟨fault, count, member⟩, same⟩ | ⟨fine, part, end_, count, same⟩
      · exact Or.inl ⟨⟨fault, count, List.mem_cons_of_mem _ member⟩, congrArg _ same⟩
      · refine Or.inr ⟨fun fault count member => ?_, part, end_.trans suffix, count, congrArg _ same⟩
        rcases List.mem_cons.mp member with first | later
        · cases first
        · exact fine fault count later
    · have found : settled Option.isSome (.error fault : Except Fault (Option Request)) = true :=
        refused
      rw [requestCalls_refused run, requestCalls_refused run, settledBy_cons found (by omega)]
      exact Or.inl ⟨⟨fault, _, List.mem_cons_self⟩, rfl⟩
    · have late := unsettled_readRequest clean rest also unsettled
      obtain ⟨later, calls⟩ := exists_requestCalls frameSize (pieces ++ rest) taken
      have none : settledBy Option.isSome (taken + pieces.size)
          (requestCalls frameSize (pieces ++ rest) taken) = [] := by
        rw [calls]
        refine settledBy_eq_nil fun found => ?_
        have less := late found
        rw [Source.size_append]
        omega
      rw [none, requestCalls_stopped (stopped stop more)]
      refine Or.inr ⟨nofun, pieces.toBytes, List.suffix_rfl, ?_, rfl⟩
      rw [Source.length_toBytes, takenBy, Nat.add_comm]

theorem eq_drop_of_suffix {count : Nat} (suffix : part <:+ pieces.toBytes)
    (length : part.length + count = pieces.size) : part = pieces.toBytes.drop count := by
  rw [← Source.length_toBytes] at length
  have before : pieces.toBytes.length - part.length = count := by omega
  rw [← before]
  exact List.suffix_iff_eq_drop.mp suffix

/-- How the bytes of a stream arrive does not matter. Cut into pieces in whatever way, with
interruptions between them, they give the same results from repeated reading of requests and from
reading the answers to any commands, with the same bytes taken after each call. If the stream stops
after some of the bytes, by a read that fails or by its end, the calls that are settled by those bytes
are not affected. The next one gives that fault, or tells how far the bytes went; only between requests
may a stream end. -/
theorem arrival_irrelevant (frameSize : Nat) (bytes : Bytes) :
    (∀ pieces : Source, pieces.Clean → pieces.toBytes = bytes →
      requestCalls frameSize pieces 0 = requestCalls frameSize (Source.ofBytes bytes) 0 ∧
      ∀ commands, answerCalls frameSize commands pieces 0 =
        answerCalls frameSize commands (Source.ofBytes bytes) 0) ∧
    ∀ (pieces : Source) (stop : Stop) (more : Source), pieces.Clean → pieces.toBytes <+: bytes →
      (let done := settledBy Option.isSome pieces.size
          (requestCalls frameSize (Source.ofBytes bytes) 0)
        let part := pieces.toBytes.drop (takenBy 0 done)
        let calls := requestCalls frameSize (pieces ++ stop.delivery :: more) 0
        ((∃ fault count, (.error fault, count) ∈ done) → calls = done) ∧
        ((∀ fault count, (.error fault, count) ∉ done) →
          calls = done ++ [(stop.request frameSize part, pieces.size)])) ∧
      ∀ commands : List Command,
        let done := settledBy (fun _ => true) pieces.size
          (answerCalls frameSize commands (Source.ofBytes bytes) 0)
        let part := pieces.toBytes.drop (takenBy 0 done)
        let calls := answerCalls frameSize commands (pieces ++ stop.delivery :: more) 0
        (done.length = commands.length → calls = done) ∧
        (done.length ≠ commands.length →
          done ++ [(stop.answer frameSize part, pieces.size)] <+: calls) := by
  constructor
  · rintro pieces clean rfl
    have alike : Alike pieces (Source.ofBytes pieces.toBytes) :=
      ⟨clean, Source.clean_ofBytes _, (Source.toBytes_ofBytes _).symm⟩
    exact ⟨alike.requestCalls frameSize 0, fun commands => alike.answerCalls frameSize commands 0⟩
  · rintro pieces stop more clean ⟨tail, rfl⟩
    have also := Source.clean_ofBytes tail
    have alike : Alike (pieces ++ Source.ofBytes tail) (Source.ofBytes (pieces.toBytes ++ tail)) := by
      refine ⟨clean.append also, Source.clean_ofBytes _, ?_⟩
      rw [Source.toBytes_append, Source.toBytes_ofBytes, Source.toBytes_ofBytes]
    constructor
    · have stopped := requestCalls_stop frameSize clean also stop more 0
      rw [alike.requestCalls, Nat.zero_add] at stopped
      intro done part calls
      rcases stopped with ⟨refused, same⟩ | ⟨fine, part, suffix, count, same⟩
      · refine ⟨fun _ => same, fun fine => ?_⟩
        obtain ⟨fault, count, member⟩ := refused
        exact absurd member (fine fault count)
      · refine ⟨fun ⟨fault, count, member⟩ => absurd member (fine fault count), fun _ => ?_⟩
        rw [eq_drop_of_suffix suffix count] at same
        exact same
    · intro commands done part calls
      have stopped := answerCalls_stop frameSize clean also stop more commands 0
      rw [alike.answerCalls, Nat.zero_add] at stopped
      rcases stopped with ⟨all, same⟩ | ⟨fewer, part, suffix, count, front⟩
      · exact ⟨fun _ => same, fun some => absurd all some⟩
      · rw [eq_drop_of_suffix suffix count] at front
        exact ⟨fun all => absurd all fewer.ne, fun _ => front⟩

/-- An answer that arrives byte by byte is read as one that arrives at once. If the stream ends a byte
earlier, the same call tells that one byte of two is there. -/
theorem arrival_irrelevant_frame :
    let answer : Answer := { opcode := .request .rdfrme 0 3, frame := some [7, 8] }
    let bytes := encodeAnswer answer
    let pieces : Source := bytes.flatMap fun byte => [.interrupted, .bytes [byte]]
    let early : Source := [.bytes (bytes.take 9), .interrupted, .bytes ((bytes.take 17).drop 9)]
    pieces.Clean ∧ pieces.toBytes = bytes ∧
      answerCalls 2 [.rdfrme] pieces 0 = [(.ok answer, 18)] ∧
      early.Clean ∧ early.toBytes <+: bytes ∧
      [(.error (.shortTransfer 2 1), 17)] <+: answerCalls 2 [.rdfrme] (early ++ [.ended]) 0 := by
  intro answer bytes pieces early
  obtain ⟨anyPieces, stops⟩ := arrival_irrelevant 2 bytes
  have clean : pieces.Clean := by
    intro delivery member
    obtain ⟨byte, _, either⟩ := List.mem_flatMap.mp member
    rcases List.mem_cons.mp either with rfl | one
    · exact Or.inl rfl
    · exact Or.inr ⟨_, List.mem_singleton.mp one⟩
  have whole : pieces.toBytes = bytes := by decide
  have cleanEarly : early.Clean := by
    intro delivery member
    simp only [early, List.mem_cons, List.not_mem_nil, or_false] at member
    rcases member with rfl | rfl | rfl
    · exact Or.inr ⟨_, rfl⟩
    · exact Or.inl rfl
    · exact Or.inr ⟨_, rfl⟩
  have front : early.toBytes <+: bytes := by decide
  refine ⟨clean, whole, ?_, cleanEarly, front, ?_⟩
  · rw [(anyPieces pieces clean whole).2]
    decide
  · have unread : settledBy (fun _ => true) early.size
        (answerCalls 2 [.rdfrme] (Source.ofBytes bytes) 0) = [] := by decide
    have told : Stop.ended.answer 2 early.toBytes = .error (.shortTransfer 2 1) := by decide
    have size : early.size = 17 := by decide
    have stopped := ((stops early .ended [] cleanEarly front).2 [.rdfrme]).2
    rw [unread, takenBy, List.drop_zero, told, size] at stopped
    exact stopped (by decide)

end CartridgeBank.Wire
