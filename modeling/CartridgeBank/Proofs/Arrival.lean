import CartridgeBank.Proofs.AnswerStream

namespace CartridgeBank.Wire

/-- What may come instead of more bytes: a read that fails, or the end of the stream. -/
inductive Stop where
  | failed (reason : String)
  | ended
deriving DecidableEq, Repr

namespace Stop

def delivery : Stop → Delivery
  | failed reason => .failed reason
  | ended => .ended

/-- The fault of a reader that still wants bytes, which finds too few of them at the end of the stream. -/
def fault (stop : Stop) (short : Fault) : Fault :=
  match stop with
  | failed reason => .io (.failed reason)
  | ended => short

end Stop

namespace Source

variable {source more : Source} {wanted : Nat}

theorem Clean.append (clean : source.Clean) (also : more.Clean) : Clean (source ++ more) :=
  fun delivery member => (List.mem_append.mp member).elim (clean delivery) (also delivery)

theorem toBytes_append (source more : Source) :
    toBytes (source ++ more) = source.toBytes ++ more.toBytes := by
  induction source with
  | nil => rfl
  | cons delivery rest ih => cases delivery <;> simp [toBytes, ih]

theorem size_append (source more : Source) : size (source ++ more) = source.size + more.size := by
  rw [← length_toBytes, toBytes_append, List.length_append, length_toBytes, length_toBytes]

theorem size_le_of_suffix (suffix : more.toBytes <:+ source.toBytes) : more.size ≤ source.size := by
  have fewer := suffix.length_le
  rwa [length_toBytes, length_toBytes] at fewer

/-- What holds whatever comes after holds of nothing. -/
theorem alone_of_run {β : Type} {reader last : Source → β}
    (run : ∀ after, reader (source ++ after) = last (more ++ after)) : reader source = last more := by
  have alone := run []
  rwa [List.append_nil, List.append_nil] at alone

theorem fill_zero (source : Source) : fill 0 source = .ok [] source := by
  rw [fill.eq_def]
  rfl

theorem fill_interrupted (some : wanted ≠ 0) (source : Source) :
    fill wanted (.interrupted :: source) = fill wanted source := by
  rw [fill.eq_def, if_neg some]

theorem fill_part {bytes : Bytes} (part : wanted < bytes.length) (some : wanted ≠ 0)
    (source : Source) : fill wanted (.bytes bytes :: source) =
      .ok (bytes.take wanted) (.bytes (bytes.drop wanted) :: source) := by
  rw [fill.eq_def, if_neg some]
  exact if_pos part

theorem fill_all {bytes : Bytes} (all : bytes.length ≤ wanted) (some : wanted ≠ 0)
    (source : Source) : fill wanted (.bytes bytes :: source) =
      match fill (wanted - bytes.length) source with
      | .ok rest after => .ok (bytes ++ rest) after
      | .error fault after => .error fault after := by
  rw [fill.eq_def, if_neg some]
  exact if_neg all.not_gt

/-- What comes after the bytes that are wanted does not matter. -/
theorem fill_enough (clean : source.Clean) (enough : wanted ≤ source.size) :
    ∃ rest : Source, rest.Clean ∧ rest.toBytes = source.toBytes.drop wanted ∧
      ∀ more, fill wanted (source ++ more) = .ok (source.toBytes.take wanted) (rest ++ more) := by
  induction source generalizing wanted with
  | nil =>
    obtain rfl : wanted = 0 := Nat.le_zero.mp enough
    exact ⟨[], nofun, rfl, fill_zero⟩
  | cons delivery tail ih =>
    have cleanTail : Clean tail := fun other member => clean other (List.mem_cons_of_mem _ member)
    by_cases some : wanted = 0
    · subst some
      exact ⟨delivery :: tail, clean, rfl, fun more => fill_zero _⟩
    rcases clean delivery List.mem_cons_self with rfl | ⟨bytes, rfl⟩
    · obtain ⟨rest, cleanRest, left, filled⟩ := ih cleanTail enough
      exact ⟨rest, cleanRest, left, fun more => (fill_interrupted some _).trans (filled more)⟩
    · dsimp only [toBytes, size] at enough ⊢
      by_cases part : wanted < bytes.length
      · refine ⟨.bytes (bytes.drop wanted) :: tail, ?_,
          (List.drop_append_of_le_length part.le).symm, fun more => ?_⟩
        · intro other member
          rcases List.mem_cons.mp member with rfl | inTail
          · exact Or.inr ⟨_, rfl⟩
          · exact cleanTail other inTail
        · rw [List.take_append_of_le_length part.le]
          exact fill_part part some _
      · have all := Nat.le_of_not_lt part
        have enoughTail : wanted - bytes.length ≤ size tail := by omega
        obtain ⟨rest, cleanRest, left, filled⟩ := ih cleanTail enoughTail
        refine ⟨rest, cleanRest, ?_, fun more => ?_⟩
        · rw [List.drop_append, List.drop_of_length_le all]
          exact left
        · rw [List.cons_append, fill_all all some, filled, List.take_append,
            List.take_of_length_le all]

/-- If more bytes are wanted than there are, it matters how the stream stops. -/
theorem fill_stop (clean : source.Clean) (short : source.size < wanted) (stop : Stop)
    (more : Source) : fill wanted (source ++ stop.delivery :: more) = match stop with
      | .failed reason => .error (.io (.failed reason)) more
      | .ended => .ok source.toBytes more := by
  induction source generalizing wanted with
  | nil =>
    rw [List.nil_append, fill.eq_def, if_neg (Nat.ne_zero_of_lt short)]
    cases stop <;> rfl
  | cons delivery tail ih =>
    have cleanTail : Clean tail := fun other member => clean other (List.mem_cons_of_mem _ member)
    have some := Nat.ne_zero_of_lt short
    rcases clean delivery List.mem_cons_self with rfl | ⟨bytes, rfl⟩
    · exact (fill_interrupted some _).trans (ih cleanTail short)
    · dsimp only [size] at short
      rw [List.cons_append, fill_all (by omega) some, ih cleanTail (by omega)]
      cases stop <;> rfl

/-- A stream that is used up has ended. -/
theorem fill_end (clean : source.Clean) (short : source.size < wanted) :
    fill wanted source = .ok source.toBytes [] := by
  induction source generalizing wanted with
  | nil =>
    rw [fill.eq_def, if_neg (Nat.ne_zero_of_lt short)]
    rfl
  | cons delivery tail ih =>
    have cleanTail : Clean tail := fun other member => clean other (List.mem_cons_of_mem _ member)
    have some := Nat.ne_zero_of_lt short
    rcases clean delivery List.mem_cons_self with rfl | ⟨bytes, rfl⟩
    · exact (fill_interrupted some _).trans (ih cleanTail short)
    · dsimp only [size] at short
      rw [fill_all (by omega) some, ih cleanTail (by omega)]
      rfl

end Source

section Outcomes

variable {α : Type}

/-- What a reader returned, and what it left to be read. -/
def report (outcome : Except Fault α) (rest : Source) : EStateM.Result Fault Source α :=
  match outcome with
  | .ok value => .ok value rest
  | .error fault => .error fault rest

def refusesPayload : Fault → Bool
  | .unexpectedPayload _ _ => true
  | _ => false

/-- Whether it was known what to return before the stream ended: what was wanted was there, or a payload
was refused. -/
def settled (wanted : α → Bool) (outcome : Except Fault α) : Bool :=
  match outcome with
  | .ok value => wanted value
  | .error fault => refusesPayload fault

/-- What a reader can do with the bytes of a stream, whatever comes after them: it settles what to
return before it wants more of them, or it wants more and finds too few. -/
inductive Steady (reader : EStateM Fault Source α) (pieces : Source) : Prop
  | settles (outcome : Except Fault α) (rest : Source) : settled (fun _ => true) outcome = true →
      rest.Clean → rest.toBytes <:+ pieces.toBytes →
      (∀ more, reader (pieces ++ more) = report outcome (rest ++ more)) → Steady reader pieces
  | starves (expected actual : Nat) :
      reader pieces = .error (.shortTransfer expected actual) [] →
      (∀ (stop : Stop) more, reader (pieces ++ stop.delivery :: more) =
        .error (stop.fault (.shortTransfer expected actual)) more) → Steady reader pieces

end Outcomes

section Readers

variable {α β : Type} {reader : EStateM Fault Source α} {next : α → EStateM Fault Source β}
  {pieces : Source} {frameSize : Nat}

theorem steady_pure (value : α) (clean : pieces.Clean) : Steady (pure value) pieces :=
  .settles (.ok value) pieces rfl clean List.suffix_rfl fun _ => rfl

theorem steady_throw (expected actual : Nat) (clean : pieces.Clean) :
    Steady (throw (.unexpectedPayload expected actual) : EStateM Fault Source α) pieces :=
  .settles (.error (.unexpectedPayload expected actual)) pieces rfl clean List.suffix_rfl fun _ => rfl

/-- A reader that goes on as another is steady where the other is. -/
theorem Steady.after {second : EStateM Fault Source α} {middle : Source}
    (steady : Steady second middle) (suffix : middle.toBytes <:+ pieces.toBytes)
    (goes : ∀ more, reader (pieces ++ more) = second (middle ++ more)) : Steady reader pieces := by
  cases steady with
  | settles outcome rest settled clean behind run =>
    exact .settles outcome rest settled clean (behind.trans suffix) fun more =>
      (goes more).trans (run more)
  | starves expected actual short stopped =>
    exact .starves expected actual ((Source.alone_of_run goes).trans short) fun stop more =>
      (goes _).trans (stopped stop more)

theorem Steady.bind (steady : Steady reader pieces)
    (follow : ∀ value (rest : Source), rest.Clean → Steady (next value) rest) :
    Steady (reader >>= next) pieces := by
  cases steady with
  | settles outcome rest settled clean suffix run =>
    cases outcome with
    | ok value => exact (follow value rest clean).after suffix fun more => bind_of_ok (run more)
    | error fault =>
      exact .settles (.error fault) rest settled clean suffix fun more => bind_of_error (run more)
  | starves expected actual short stopped =>
    exact .starves expected actual (bind_of_error short) fun stop more =>
      bind_of_error (stopped stop more)

/-- Too few bytes to fill a buffer. -/
theorem steady_of_short {wanted : Nat} (clean : pieces.Clean) (short : pieces.size < wanted)
    {use : Bytes → EStateM Fault Source α}
    (refused : use pieces.toBytes = throw (.shortTransfer wanted pieces.toBytes.length)) :
    Steady (Source.fill wanted >>= use) pieces := by
  refine .starves wanted pieces.toBytes.length ?_ fun stop more => ?_
  · rw [bind_of_ok (Source.fill_end clean short), refused]
    rfl
  · have stopped := Source.fill_stop clean short stop more
    cases stop with
    | failed reason => exact bind_of_error stopped
    | ended =>
      rw [bind_of_ok stopped, refused]
      rfl

theorem steady_readExactly (clean : pieces.Clean) (wanted : Nat) :
    Steady (Source.readExactly wanted) pieces := by
  by_cases short : pieces.size < wanted
  · exact steady_of_short clean short (if_neg (pieces.length_toBytes.trans_lt short).ne)
  · have enough := Nat.le_of_not_lt short
    obtain ⟨rest, cleanRest, left, filled⟩ := Source.fill_enough clean enough
    rw [← Source.length_toBytes] at enough
    refine .settles (.ok (pieces.toBytes.take wanted)) rest rfl cleanRest
      (left ▸ List.drop_suffix _ _) fun more => ?_
    rw [Source.readExactly, bind_of_ok (filled more), if_pos (List.length_take_of_le enough)]
    rfl

theorem steady_readWord (clean : pieces.Clean) : Steady Source.readWord pieces :=
  (steady_readExactly clean 8).bind fun _ _ cleanRest => steady_pure _ cleanRest

theorem steady_readPayload (clean : pieces.Clean) (length frameSize : Nat) :
    Steady (readPayload length frameSize) pieces := by
  unfold readPayload
  split
  · exact steady_pure _ clean
  · split
    · exact steady_throw _ _ clean
    · exact (steady_readExactly clean frameSize).bind fun _ _ cleanRest => steady_pure _ cleanRest

theorem steady_readAnswer (clean : pieces.Clean) (command : Command) (frameSize : Nat) :
    Steady (readAnswer command frameSize) pieces := by
  refine (steady_readWord clean).bind fun word _ cleanLength => ?_
  refine (steady_readWord cleanLength).bind fun length _ cleanBody => ?_
  split
  · exact steady_throw _ _ cleanBody
  · exact (steady_readPayload cleanBody _ _).bind fun _ _ cleanRest => steady_pure _ cleanRest

/-- Once there is a first byte, a whole request is wanted. -/
theorem steady_readRequest (clean : pieces.Clean) (some : pieces.toBytes ≠ []) (frameSize : Nat) :
    Steady (readRequest frameSize) pieces := by
  have first : pieces.toBytes.length ≠ 0 := mt List.length_eq_zero_iff.mp some
  by_cases short : pieces.size < 8
  · refine steady_of_short clean short ?_
    rw [if_neg first, if_pos (pieces.length_toBytes.trans_lt short).ne]
  · have enough := Nat.le_of_not_lt short
    obtain ⟨rest, cleanRest, left, filled⟩ := Source.fill_enough clean enough
    rw [← Source.length_toBytes] at enough
    have count : (pieces.toBytes.take 8).length = 8 := List.length_take_of_le enough
    have behind : Steady (do
        let length ← Source.readWord
        let frame ← readPayload length frameSize
        return Option.some { opcode := Opcode.ofBytes (pieces.toBytes.take 8), frame } :
          EStateM Fault Source (Option Request)) rest :=
      (steady_readWord cleanRest).bind fun length _ cleanBody =>
        (steady_readPayload cleanBody _ _).bind fun _ _ cleanLast => steady_pure _ cleanLast
    refine behind.after (left ▸ List.drop_suffix _ _) fun more => ?_
    rw [readRequest, bind_of_ok (filled more), if_neg (by omega), if_neg (not_not.mpr count)]

/-- Before the first byte no request is wanted. -/
theorem readRequest_end (clean : pieces.Clean) (nothing : pieces.toBytes = []) (frameSize : Nat) :
    readRequest frameSize pieces = .ok none [] := by
  have short : pieces.size < 8 := by
    rw [← Source.length_toBytes, nothing]
    decide
  have filled := Source.fill_end clean short
  rw [nothing] at filled
  exact bind_of_ok filled

theorem readRequest_stop (clean : pieces.Clean) (nothing : pieces.toBytes = []) (frameSize : Nat)
    (stop : Stop) (more : Source) :
    readRequest frameSize (pieces ++ stop.delivery :: more) = match stop with
      | .failed reason => .error (.io (.failed reason)) more
      | .ended => .ok none more := by
  have short : pieces.size < 8 := by
    rw [← Source.length_toBytes, nothing]
    decide
  have stopped := Source.fill_stop clean short stop more
  cases stop with
  | failed reason => exact bind_of_error stopped
  | ended =>
    rw [nothing] at stopped
    exact bind_of_ok stopped

end Readers

end CartridgeBank.Wire
