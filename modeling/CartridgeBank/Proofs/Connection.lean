import CartridgeBank.Proofs.Errands
import CartridgeBank.Proofs.Framing
import CartridgeBank.Relay

namespace CartridgeBank

open Wire

/-- The request as it was passed to the transport. -/
def Sent.request {σ : Type} (sent : Sent σ) : Request where
  opcode := sent.opcode
  frame := sent.frame

namespace Relay

variable {σ : Type}

/-- A last request is one whose first key register is that of a POWOFF. -/
theorem isLast_iff {request : Request} :
    isLast request = true ↔ request.opcode.field .ky1 = Command.powoff.number := by
  rw [isLast, beq_iff_eq, Opcode.command?, Command.ofNumber?_eq_some_iff, eq_comm]

/-- The requests up to the first last one, which is included. -/
def upToLast : List Request → List Request
  | [] => []
  | request :: requests => if isLast request then [request] else request :: upToLast requests

/-- How a connection ends on whole requests and the bytes after them. -/
def ending (frameSize : Nat) (requests : List Request) (rest : Bytes) : Except Fault Unit :=
  if requests.any isLast then .ok ()
  else match defect? frameSize rest with
    | none => .ok ()
    | some fault => .error fault

theorem ending_eq_ok_iff {frameSize : Nat} {requests : List Request} {rest : Bytes} :
    ending frameSize requests rest = .ok () ↔
      (∃ request ∈ requests, isLast request = true) ∨ rest = [] := by
  rw [← List.any_eq_true, ← @defect?_eq_none_iff frameSize, ending]
  cases requests.any isLast with
  | true => exact ⟨fun _ => Or.inl rfl, fun _ => rfl⟩
  | false =>
    cases defect? frameSize rest with
    | none => exact ⟨fun _ => Or.inr rfl, fun _ => rfl⟩
    | some fault => exact ⟨nofun, fun either => either.elim nofun nofun⟩

variable [Transport σ]

/-- The answers to requests that are passed on one after the other. -/
def respondAll : List Request → Relay σ → List Answer × Relay σ
  | [], relay => ([], relay)
  | request :: requests, relay =>
    let (answer, next) := relay.respond request
    let (answers, last) := respondAll requests next
    (answer :: answers, last)

/-- The relay with a record of the requests that it has passed on. -/
def recording (sent : List (Sent σ)) (relay : Relay σ) : Relay (Recorded σ) where
  device := { transport := relay.device, sent }
  frameSize := relay.frameSize

variable {relay : Relay σ} {source : Source} {request : Request} {requests : List Request}
  {rest : Bytes}

theorem frameSize_respond (relay : Relay σ) (request : Request) :
    (relay.respond request).2.frameSize = relay.frameSize := by
  unfold respond
  split <;> rfl

theorem serve_of_none {left : Source}
    (read : readRequest relay.frameSize source = .ok none left) :
    relay.serve source = (.ok (), [], relay) := by
  rw [serve]
  split
  · rename_i failed
    rw [read] at failed
    cases failed
  · rfl
  · rename_i found
    rw [read] at found
    cases found

theorem serve_of_error {fault : Fault} {left : Source}
    (read : readRequest relay.frameSize source = .error fault left) :
    relay.serve source = (.error fault, [], relay) := by
  rw [serve]
  split
  · rename_i failed
    rw [read] at failed
    cases failed
    rfl
  · rename_i ended
    rw [read] at ended
    cases ended
  · rename_i found
    rw [read] at found
    cases found

theorem serve_of_some {left : Source}
    (read : readRequest relay.frameSize source = .ok (some request) left) :
    relay.serve source =
      if isLast request then
        (.ok (), encodeAnswer (relay.respond request).1, (relay.respond request).2)
      else
        (((relay.respond request).2.serve left).1,
          encodeAnswer (relay.respond request).1 ++ ((relay.respond request).2.serve left).2.1,
          ((relay.respond request).2.serve left).2.2) := by
  rw [serve]
  split
  · rename_i failed
    rw [read] at failed
    cases failed
  · rename_i ended
    rw [read] at ended
    cases ended
  · rename_i found
    rw [read] at found
    cases found
    rfl

/-- Serving a connection passes its whole requests on, up to the last, and sends their answers. -/
theorem serve_framing (clean : source.Clean)
    (framing : Framing relay.frameSize source.toBytes requests rest) :
    relay.serve source = (ending relay.frameSize requests rest,
      (respondAll (upToLast requests) relay).1.flatMap encodeAnswer,
      (respondAll (upToLast requests) relay).2) := by
  -- on the whole requests, from any state of the device
  induction requests generalizing relay source with
  | nil =>
    obtain ⟨whole, _, longest⟩ := framing
    rw [List.flatMap_nil, List.nil_append] at whole
    subst whole
    obtain ⟨left, read⟩ := readRequest_rest clean longest
    unfold ending
    cases defective : defect? relay.frameSize source.toBytes with
    | none =>
      rw [defective] at read
      exact serve_of_none read
    | some fault =>
      rw [defective] at read
      exact serve_of_error read
  | cons request requests ih =>
    obtain ⟨whole, framed, longest⟩ := framing
    obtain ⟨first, others⟩ := List.forall_mem_cons.mp framed
    rw [List.flatMap_cons, List.append_assoc] at whole
    obtain ⟨left, read, cleanLeft, tail⟩ := readRequest_framed clean first whole
    rw [serve_of_some read, upToLast, ending, List.any_cons]
    by_cases last : isLast request = true
    · rw [if_pos last, if_pos last, last]
      simp [respondAll]
    · have size := frameSize_respond relay request
      have later := @ih (relay.respond request).2 left cleanLeft
        ⟨tail, by rwa [size], by rwa [size]⟩
      rw [if_neg last, if_neg last, later, size, eq_false_of_ne_true last, Bool.false_or]
      rfl

theorem respond_recording (sent : List (Sent σ)) (relay : Relay σ) (request : Request) :
    (relay.recording sent).respond request = ((relay.respond request).1,
      (relay.respond request).2.recording
        (sent ++ [⟨relay.device, request.opcode, request.frame⟩])) := by
  simp only [respond, recording, Transport.send]
  cases Transport.send request.opcode request.frame relay.device <;> rfl

/-- A record of the requests changes no answer, and holds each request once and in order. -/
theorem respondAll_recording (requests : List Request) (sent : List (Sent σ)) (relay : Relay σ) :
    ∃ more : List (Sent σ), respondAll requests (relay.recording sent) =
      ((respondAll requests relay).1, (respondAll requests relay).2.recording (sent ++ more)) ∧
      more.map Sent.request = requests := by
  induction requests generalizing relay sent with
  | nil => exact ⟨[], by rw [List.append_nil]; rfl, rfl⟩
  | cons request requests ih =>
    obtain ⟨more, same, listed⟩ := ih (sent ++ [⟨relay.device, request.opcode, request.frame⟩])
      (relay.respond request).2
    refine ⟨⟨relay.device, request.opcode, request.frame⟩ :: more, ?_, ?_⟩
    · rw [respondAll, respond_recording]
      dsimp only
      rw [same, List.append_assoc]
      rfl
    · rw [List.map_cons, listed]
      rfl

/-- A connection is its whole requests, one after the other, up to the first POWOFF: these and no
others reach the device, and their answers are sent, each as its word, the length of its payload and
the payload. It ends well after a POWOFF or between two requests, and otherwise with what is wrong with
the bytes after the last whole request. -/
theorem serve_exact (relay : Relay σ) (clean : source.Clean) :
    (∃ requests rest, Framing relay.frameSize source.toBytes requests rest) ∧
    ∀ requests rest, Framing relay.frameSize source.toBytes requests rest →
      relay.serve source = (ending relay.frameSize requests rest,
        (respondAll (upToLast requests) relay).1.flatMap fun answer =>
          answer.opcode.toBytes ++ bigEndian 8 (answer.frame.getD []).length ++ answer.frame.getD [],
        (respondAll (upToLast requests) relay).2) ∧
      ((relay.serve source).1 = .ok () ↔
        (∃ request ∈ requests, isLast request = true) ∨ rest = []) ∧
      ∃ sent : List (Sent σ), sent.map Sent.request = upToLast requests ∧
        (relay.recording []).serve source = ((relay.serve source).1, (relay.serve source).2.1,
          (relay.serve source).2.2.recording sent) := by
  refine ⟨exists_framing _ _, fun requests rest framing => ?_⟩
  have served := serve_framing clean framing
  have sameSize : Framing (relay.recording []).frameSize source.toBytes requests rest := framing
  have servedRecording := serve_framing clean sameSize
  obtain ⟨sent, same, listed⟩ := respondAll_recording (upToLast requests) [] relay
  refine ⟨served, ?_, sent, listed, ?_⟩
  · rw [served]
    exact ending_eq_ok_iff
  · rw [served, servedRecording, same]
    rfl

/-- An INITMS that arrives in two pieces, a frame that is written and read back, a POWOFF and one more
byte, which is never read. -/
theorem serve_exact_pieces :
    let init : Request := { opcode := .request .initms 0 0 }
    let load : Request := { opcode := .request .ldcart 1 0 }
    let write : Request := { opcode := .request .wrfrme 0 2, frame := some [1, 2, 3, 4] }
    let read : Request := { opcode := .request .rdfrme 0 2 }
    let stop : Request := { opcode := .request .powoff 0 0 }
    let requests := [init, load, write, read, stop]
    let source : Source := [.bytes (init.encode.take 5), .interrupted,
      .bytes (init.encode.drop 5 ++ load.encode ++ write.encode ++ read.encode ++ stop.encode ++ [9])]
    let relay : Relay Device := { device := { geometry := { frameSize := 4 } }, frameSize := 4 }
    source.Clean ∧ Framing 4 source.toBytes requests [9] ∧ (relay.serve source).1 = .ok () ∧
      (relay.serve source).2.1 =
        [0, 0, 0, 0, 0, 0, 0, 0] ++ [0, 0, 0, 0, 0, 0, 0, 0] ++
        [2, 0, 0, 0, 128, 0, 0, 0] ++ [0, 0, 0, 0, 0, 0, 0, 0] ++
        [4, 0, 0, 0, 0, 1, 0, 0] ++ [0, 0, 0, 0, 0, 0, 0, 0] ++
        [3, 0, 0, 0, 0, 1, 0, 0] ++ [0, 0, 0, 0, 0, 0, 0, 4] ++ [1, 2, 3, 4] ++
        [5, 0, 0, 0, 0, 0, 0, 0] ++ [0, 0, 0, 0, 0, 0, 0, 0] ∧
      ∃ sent : List (Sent Device), sent.map Sent.request = requests ∧
        (relay.recording []).serve source = (.ok (), (relay.serve source).2.1,
          (relay.serve source).2.2.recording sent) := by
  intro init load write read stop requests source relay
  have clean : source.Clean := by
    intro delivery member
    simp only [source, List.mem_cons, List.not_mem_nil, or_false] at member
    rcases member with rfl | rfl | rfl
    · exact Or.inr ⟨_, rfl⟩
    · exact Or.inl rfl
    · exact Or.inr ⟨_, rfl⟩
  have framing : Framing 4 source.toBytes requests [9] := by
    refine ⟨by decide, fun request member frame carried => ?_, fun request _ front => ?_⟩
    · simp only [requests, List.mem_cons, List.not_mem_nil, or_false] at member
      rcases member with rfl | rfl | rfl | rfl | rfl
      · cases carried
      · cases carried
      · cases carried
        decide
      · cases carried
      · cases carried
    · have longer := front.length_le
      rw [Request.encode, Wire.encode, List.length_append, List.length_append, Opcode.toBytes,
        length_bigEndian, length_bigEndian, List.length_singleton] at longer
      omega
  obtain ⟨served, ends, sent, listed, same⟩ := (serve_exact relay clean).2 _ _ framing
  have stopped : isLast stop = true := isLast_iff.mpr (by decide)
  have well := ends.mpr (Or.inl ⟨stop, by simp [requests], stopped⟩)
  rw [well] at same
  refine ⟨clean, framing, well, ?_, sent, listed.trans (by decide), same⟩
  rw [served]
  decide

end Relay

end CartridgeBank
