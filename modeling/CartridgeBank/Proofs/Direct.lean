import CartridgeBank.Proofs.Confinement
import CartridgeBank.Proofs.Mirrors

namespace CartridgeBank

/-- A device of the configured geometry, whatever it has been through. -/
def Device.Fits (config : Config) (device : Device) : Prop :=
  device.geometry = config.geometry ∧ device.Arises

/-- The requests that the device is to refuse are chosen anew. -/
def Device.Retuned (before after : Device) : Prop := ∃ faults, after = { before with faults }

/-- The connection loses nothing, so that it is as good as the device itself. -/
structure Recorded.Direct (recorded : Recorded Unreliable) (device : Device) : Prop where
  lossless : recorded.transport.fates = []
  device : recorded.device = device

namespace Recorded

theorem send_direct {recorded : Recorded Unreliable} {device : Device}
    (direct : recorded.Direct device) (opcode : Opcode) (frame : Option Bytes) :
    Agree Direct (Transport.send opcode frame recorded) (Transport.send opcode frame device) := by
  obtain ⟨⟨_, fates⟩, sent⟩ := recorded
  obtain ⟨lossless, same⟩ := direct
  dsimp only at lossless
  subst lossless same
  exact .ok ⟨rfl, rfl⟩

theorem mirrors_direct (size : Nat) : Storage.Mirrors size Direct Direct where
  linked_of_ready direct := direct
  start direct := send_direct direct _ _
  send direct _ _ _ _ := send_direct direct _ _
  finish direct := send_direct direct _ _
  disconnect direct := direct

end Recorded

namespace Storage

/-- A storage over the device itself goes on like one over a connection that loses nothing. -/
theorem respond_direct {storage : Storage Device} {recorded : Recorded Unreliable}
    (direct : recorded.Direct storage.transport) (call : Call) :
    (respond call (storage.via recorded)).1 = (respond call storage).1 ∧
      (respond call (storage.via recorded)).2.transport.Direct (respond call storage).2.transport ∧
      (respond call (storage.via recorded)).2 =
        (respond call storage).2.via (respond call (storage.via recorded)).2.transport := by
  have alike : Alike (WhileOn Recorded.Direct Recorded.Direct) storage.frameSize
      (storage.via recorded) storage :=
    @Alike.via _ _ _ _ (storage.via recorded) storage.transport ⟨direct, fun _ => direct⟩ rfl
  obtain ⟨same, after⟩ := (Recorded.mirrors_direct storage.frameSize).respond alike call
  generalize (respond call (storage.via recorded)).2 = left at after ⊢
  generalize (respond call storage).2 = right at after ⊢
  cases after with
  | via link _ => exact ⟨same, link.1, rfl⟩

/-- What a storage reaches over the device itself, it reaches over a connection that loses nothing. -/
theorem Reached.recorded {storage : Storage Device}
    (reached : Reached Device.Fits Device.Retuned storage) :
    ∃ recorded : Recorded Unreliable, recorded.Direct storage.transport ∧
      Reached Recorded.Fits Recorded.Retuned (storage.via recorded) := by
  induction reached with
  | @created config device storage fits made =>
    obtain ⟨passed, rfl⟩ := create_eq_ok_iff.mp made
    have fits : Recorded.Fits config { transport := { device } } := fits
    exact ⟨_, ⟨rfl, rfl⟩, .created fits (create_eq_ok_iff.mpr ⟨passed, rfl⟩)⟩
  | called call _ ih =>
    obtain ⟨recorded, direct, reached⟩ := ih
    obtain ⟨_, after, same⟩ := respond_direct direct call
    exact ⟨_, after, same ▸ reached.called call⟩
  | @meddled storage device _ retuned ih =>
    obtain ⟨recorded, direct, reached⟩ := ih
    obtain ⟨faults, rfl⟩ := retuned
    refine ⟨{ recorded with transport := { device := { storage.transport with faults } } },
      ⟨rfl, rfl⟩, reached.meddled ⟨rfl, faults, ?_⟩⟩
    rw [← direct.device]
    rfl

end Storage

end CartridgeBank
