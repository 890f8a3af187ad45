import CartridgeBank.Proofs.GuardedWrite

namespace CartridgeBank

/-- The place behind the data of a write is a number of 64 bits. -/
def Call.Fits {σ : Type} (storage : Storage σ) : Call → Prop
  | .write handle data => ∀ file, storage.files.get? handle = some file →
      file.position + data.length < 2 ^ 64
  | _ => True

namespace Guarded

variable {σ : Type} {storage : Storage σ}

/-- A file is closed with as many frames as it has. -/
theorem closeFile_eq (sound : storage.Sound) (handle : Handle) :
    closeFile handle storage = plain (Storage.closeFile handle) storage := by
  rw [plain, Storage.closeFile_eq, closeFile]
  by_cases on : storage.poweredOn = true
  · rw [if_pos on]
    simp only [Operation.bind_apply, plain_ok (Storage.ensurePowered_on on), Operation.get_apply]
    cases closed : storage.files.erase handle with
    | error fault => rfl
    | ok pair =>
      obtain ⟨file, files⟩ := pair
      have present := (Registry.erase_ok closed).1
      have released : (storage.table.releaseAll handle).1 = file.frames.length := by
        rw [Ownership.releaseAll_fst, sound.ownedBy_eq present]
      simp only [plain, Storage.require_ok, Operation.modify_apply, insist_true released,
        Storage.forM_invalidate]
  · have off : storage.poweredOn = false := Bool.eq_false_iff.mpr on
    simp only [if_neg on, Operation.bind_apply, plain, Storage.ensurePowered_off off]

theorem stats_eq (sound : storage.Sound) : stats storage = .ok storage.stats storage := by
  have counted := sound.books.within.counted
  have used : Checked.sub storage.table.total storage.table.free =
    .ok (storage.table.total - storage.table.free) := Checked.sub_ok (by omega)
  simp only [stats, Operation.bind_apply, Operation.get_apply, used, grant_ok,
    Operation.pure_apply]

/-- What follows a guarded step follows the step as it is. -/
theorem plain_bind {α β : Type} {guarded : Guarded σ α} {operation : Operation σ α}
    (same : guarded storage = plain operation storage) (rest : α → β) :
    (do return rest (← guarded)) storage = plain (do return rest (← operation)) storage := by
  simp only [Operation.bind_apply, same, plain]
  cases operation storage <;> rfl

variable [Transport σ]

/-- With nothing taken for granted, a call does what it does otherwise. -/
theorem perform_eq (sound : storage.Sound) {call : Call} (fits : call.Fits storage) :
    perform call storage = plain (Storage.perform call) storage := by
  cases call with
  | closeFile handle => exact plain_bind (closeFile_eq sound handle) fun _ => Reply.done
  | read handle wanted => exact plain_bind (readFresh_eq sound handle wanted) Reply.bytes
  | readToEnd handle => exact plain_bind (readToEnd_eq sound handle) Reply.bytes
  | write handle data => exact plain_bind (write_eq sound fits) Reply.written
  | stats =>
    simp only [perform, Operation.bind_apply, stats_eq sound, Operation.pure_apply]
    rfl
  | _ => rfl

end Guarded

namespace Storage

variable {σ : Type} [Transport σ] {storage : Storage σ}

/-- Whatever the transport answers, no call relies on anything that does not hold: it does the same
if each index, each range and each difference is checked, and each agreement between the tables. Nor
does the sum overflow by which a write reserves frames, since data is shorter than 2⁶³ bytes. -/
theorem Reached.unbreached (reached : Reached (fun _ _ => True) (fun _ _ => True) storage) :
    (∀ call : Call, call.Fits storage →
      (Guarded.perform call).Follows (perform call) storage) ∧
    (∀ handle buffer, (Guarded.read handle buffer).Follows (do
      let bytes ← read handle buffer.length
      return (bytes.length, splice buffer 0 bytes)) storage) ∧
    ∀ handle file, storage.files.get? handle = some file →
      ∀ added < 2 ^ 63, file.length + added < 2 ^ 64 := by
  have sound := reached.sound
  refine ⟨fun call fits => Guarded.follows_of_eq (Guarded.perform_eq sound fits),
    fun handle buffer => Guarded.follows_of_eq (Guarded.read_eq sound handle buffer),
    fun handle file present added short => ?_⟩
  have bound := Nat.le_trans (sound.length_le present) sound.valid.totalBytes_le
  omega

/-- A file of two frames that lie around that of another file, over a device that will refuse the
sixth WRFRME from the start. -/
def interleaved : Storage Device :=
  twoByTwo { wrfrme := some 6 } [.powerOn, .openFile "a", .openFile "b", .write ⟨0⟩ [1, 2, 3, 4],
    .write ⟨1⟩ [5, 6], .write ⟨0⟩ [7], .seek ⟨0⟩ 2]

/-- A write that stores one frame and not the next is undone, and all that it relies on holds. -/
theorem Reached.unbreached_interleaved :
    (Guarded.perform (.write ⟨0⟩ [8, 9, 8])).Follows (perform (.write ⟨0⟩ [8, 9, 8])) interleaved ∧
      (respond (.write ⟨0⟩ [8, 9, 8]) interleaved).1 =
        .error (.deviceFailure .wrfrme ((Opcode.request .wrfrme 0 0).withRet true)) := by
  have reached : Reached (fun _ _ => True) (fun _ _ => True) interleaved :=
    twoByTwo_reached trivial _
  have present : interleaved.files.get? ⟨0⟩ = some {
    name := "a", length := 5, position := 2, frames := [⟨0, 0⟩, ⟨1, 0⟩] } := by cbv
  have fits : Call.Fits interleaved (.write ⟨0⟩ [8, 9, 8]) := by
    intro file found
    obtain rfl := Option.some.inj (present.symm.trans found)
    decide
  exact ⟨reached.unbreached.1 _ fits, by cbv⟩

end Storage

end CartridgeBank
