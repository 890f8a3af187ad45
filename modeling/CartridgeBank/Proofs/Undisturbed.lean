import CartridgeBank.Proofs.Direct
import CartridgeBank.Proofs.Refinement
import CartridgeBank.Proofs.Startup

namespace CartridgeBank

/-- A device of the configured geometry, whatever it has been through, on a connection on which nothing
will go wrong. -/
def Recorded.Clear (config : Config) (recorded : Recorded Unreliable) : Prop :=
  recorded.Fits config ∧ recorded.transport.Calm

/-- As long as nothing goes wrong, the connection is as good as the device itself. -/
structure Recorded.Passes (recorded : Recorded Unreliable) (device : Device) : Prop where
  calm : recorded.transport.Calm
  device : recorded.device = device

namespace Recorded

theorem send_passes {recorded : Recorded Unreliable} {device : Device}
    (passes : recorded.Passes device) (opcode : Opcode) (frame : Option Bytes) :
    Agree Passes (Transport.send opcode frame recorded) (Transport.send opcode frame device) := by
  obtain ⟨calm, rfl⟩ := passes
  have later := calm.after opcode frame
  simp only [Transport.after, Transport.send, calm.next] at later ⊢
  exact .ok ⟨later, rfl⟩

theorem mirrors_passes (size : Nat) : Storage.Mirrors size Passes Passes where
  linked_of_ready passes := passes
  start passes := send_passes passes _ _
  send passes _ _ _ _ := send_passes passes _ _
  finish passes := send_passes passes _ _
  disconnect passes := passes

end Recorded

namespace Storage

/-- Nothing has gone wrong, and nothing will: the storage keeps the files of a reference. -/
structure Undisturbed (reference : Reference) (storage : Storage (Recorded Unreliable)) : Prop where
  calm : storage.transport.transport.Calm
  refines : Refines reference (storage.via storage.transport.device)

namespace Undisturbed

variable {reference : Reference} {storage : Storage (Recorded Unreliable)} {handle : Handle}
  {file : OpenFile}

theorem sound (undisturbed : Undisturbed reference storage) : storage.Sound := by
  obtain ⟨valid, sized, shape, books, power, cached, off⟩ := undisturbed.refines.sound
  exact ⟨valid, sized, shape, books, power, cached, off⟩

theorem coherent (undisturbed : Undisturbed reference storage) :
    Coherent Recorded.device [] storage := by
  obtain ⟨⟨shape, whole, loaded⟩, cached⟩ := undisturbed.refines.coherent
  exact ⟨⟨shape, whole, loaded⟩, cached⟩

theorem settled (undisturbed : Undisturbed reference storage) : storage.Settled where
  inStep := undisturbed.coherent.inStep
  ready on := undisturbed.refines.shows.ready (undisturbed.refines.power on)

/-- A call is answered as by the reference. -/
theorem respond (undisturbed : Undisturbed reference storage) (call : Call) :
    (respond call storage).1 = (Reference.respond call reference).1 ∧
      Undisturbed (Reference.respond call reference).2 (respond call storage).2 := by
  have passes : storage.transport.Passes storage.transport.device := ⟨undisturbed.calm, rfl⟩
  have alike : Alike (WhileOn Recorded.Passes Recorded.Passes) storage.frameSize storage
      (storage.via storage.transport.device) := .via ⟨passes, fun _ => passes⟩ rfl
  obtain ⟨same, after⟩ := (Recorded.mirrors_passes storage.frameSize).respond alike call
  have reply := (undisturbed.refines.agrees call).reply
  have later := undisturbed.refines.respond call
  refine ⟨same.trans reply, ?_⟩
  generalize (Storage.respond call storage).2 = left at after ⊢
  generalize (Storage.respond call (storage.via storage.transport.device)).2 = right at after later
  cases after with
  | via link _ =>
    obtain ⟨⟨calm, rfl⟩, _⟩ := link
    exact ⟨calm, later⟩

/-- A read that finds something to read succeeds. -/
theorem reads (undisturbed : Undisturbed reference storage) {wanted : Nat}
    (on : storage.poweredOn = true) (present : storage.files.get? handle = some file)
    (some : 0 < wanted) (more : file.position < file.length) :
    ∃ bytes next, read handle wanted storage = .ok bytes next := by
  obtain ⟨bytes, found, rfl⟩ := undisturbed.refines.held present
  have answer : Reference.respond (.read handle wanted) reference =
      reference.readAt handle bytes wanted :=
    (Reference.onFile_present (undisturbed.refines.power on) found).trans
      ((if_neg (Nat.ne_of_gt some)).trans (if_neg (Nat.not_le.mpr more)))
  have success := (undisturbed.respond (.read handle wanted)).1
  rw [answer] at success
  obtain ⟨value, run, _⟩ := Operation.bind_pure_ok.mp (respond_ok success)
  exact ⟨value, _, run⟩

/-- A write that finds the file and the room for the data succeeds. -/
theorem writes (undisturbed : Undisturbed reference storage) {data : Bytes}
    (starts : storage.Starts handle data file) :
    ∃ count next, write handle data storage = .ok count next := by
  obtain ⟨bytes, found, rfl⟩ := undisturbed.refines.held starts.present
  have size := undisturbed.refines.frameSize
  have free := undisturbed.refines.free
  have room : bytes.content.length < bytes.position + data.length →
      framesFor (bytes.content.length + data.length) reference.frameSize ≤ reference.free := by
    rw [← size, ← free]
    exact starts.room
  have answer : Reference.respond (.write handle data) reference =
      reference.writeAt handle bytes data :=
    (Reference.onFile_present (undisturbed.refines.power starts.on) found).trans
      ((if_neg starts.nonempty).trans
        (if_neg fun full => Nat.not_lt.mpr (room full.1) full.2))
  have success := (undisturbed.respond (.write handle data)).1
  rw [answer] at success
  obtain ⟨value, run, _⟩ := Operation.bind_pure_ok.mp (respond_ok success)
  exact ⟨value, _, run⟩

end Undisturbed

theorem Reached.undisturbed {storage : Storage (Recorded Unreliable)}
    (reached : Reached Recorded.Clear (fun _ _ => False) storage) :
    ∃ reference, Undisturbed reference storage := by
  induction reached with
  | created clear made =>
    obtain ⟨⟨shape, arises⟩, calm⟩ := clear
    obtain ⟨passed, rfl⟩ := create_eq_ok_iff.mp made
    exact ⟨_, calm, .created passed shape arises.whole calm.faults⟩
  | called call _ ih =>
    obtain ⟨reference, undisturbed⟩ := ih
    exact ⟨_, (undisturbed.respond call).2⟩
  | meddled _ never _ => exact never.elim

end Storage

end CartridgeBank
