import CartridgeBank.Proofs.Errands

namespace CartridgeBank

/-- All that can go wrong with a request is its transport. -/
def Transport.FailsAsSuch (σ : Type) [Transport σ] : Prop :=
  ∀ opcode frame (transport next : σ) fault,
    Transport.send opcode frame transport = .error fault next → fault.category = .transport

/-- A device in memory answers every request, be it with a refusal. -/
theorem Device.failsAsSuch : Transport.FailsAsSuch Device := by
  intro opcode frame device next fault run
  cases run

theorem Recorded.failsAsSuch {σ : Type} [Transport σ] (fails : Transport.FailsAsSuch σ) :
    Transport.FailsAsSuch (Recorded σ) := by
  intro opcode frame recorded next fault run
  unfold Transport.send instTransportRecorded at run
  dsimp only at run
  split at run
  · cases run
  · rename_i failure transport sent
    cases run
    exact fails _ _ _ _ _ sent

/-- Whatever an operation fails with is of some kind. -/
def Operation.FailsWith {σ α : Type} (kind : Fault → Prop) (operation : Operation σ α) : Prop :=
  ∀ storage fault next, operation storage = .error fault next → kind fault

namespace Operation.FailsWith

variable {σ α β : Type} {kind : Fault → Prop}

theorem pure (value : α) : FailsWith kind (pure value : Operation σ α) := by
  intro storage fault next run
  cases run

theorem get : FailsWith kind (get : Operation σ (Storage σ)) := by
  intro storage fault next run
  cases run

theorem modify (change : Storage σ → Storage σ) :
    FailsWith kind (modify change : Operation σ PUnit) := by
  intro storage fault next run
  cases run

theorem throw {fault : Fault} (holds : kind fault) : FailsWith kind (throw fault : Operation σ α) := by
  intro storage other next run
  cases run
  exact holds

theorem bind {operation : Operation σ α} {rest : α → Operation σ β}
    (first : FailsWith kind operation) (others : ∀ value, FailsWith kind (rest value)) :
    FailsWith kind (operation >>= rest) := by
  intro storage fault next run
  rw [bind_apply] at run
  split at run
  · exact others _ _ _ _ run
  · rename_i failed
    cases run
    exact first _ _ _ failed

theorem ite {condition : Prop} [Decidable condition] {yes no : Operation σ α}
    (left : FailsWith kind yes) (right : FailsWith kind no) :
    FailsWith kind (if condition then yes else no) := by
  by_cases holds : condition
  · rw [if_pos holds]
    exact left
  · rw [if_neg holds]
    exact right

theorem forM {step : α → Operation σ PUnit} (each : ∀ item, FailsWith kind (step item))
    (items : List α) : FailsWith kind (items.forM step) := by
  induction items with
  | nil => exact pure _
  | cons item rest ih => exact bind (each item) fun _ => ih

end Operation.FailsWith

namespace Storage

section Requests

open Operation (FailsWith)

variable {σ : Type} [Transport σ] (fails : Transport.FailsAsSuch σ)

include fails

theorem execute_fails (command : Command) (cartridge index : UInt16) (payload : Option Bytes) :
    FailsWith (·.category = .transport)
      (execute command cartridge index payload : Operation σ Answer) := by
  refine .bind (fun storage fault next run => ?_) fun answer => ?_
  · unfold send at run
    split at run
    · cases run
    · rename_i sent
      cases run
      exact fails _ _ _ _ _ sent
  · refine .ite (.throw rfl) ?_
    refine .ite (.throw rfl) ?_
    exact .pure _

theorem loadCartridge_fails (cartridge : UInt16) :
    FailsWith (·.category = .transport) (loadCartridge cartridge : Operation σ Unit) := by
  refine .bind .get fun storage => ?_
  refine .ite (.pure _) ?_
  refine .bind (.modify _) fun _ => ?_
  exact .bind (execute_fails fails _ _ _ _) fun _ => .modify _

theorem fetchFrame_fails (location : FrameLocation) :
    FailsWith (·.category = .transport) (fetchFrame location : Operation σ Bytes) := by
  refine .bind (loadCartridge_fails fails _) fun _ => ?_
  refine .bind (execute_fails fails _ _ _ _) fun answer => ?_
  refine .bind .get fun storage => ?_
  exact .ite (.throw rfl) (.bind (.modify _) fun _ => .pure _)

theorem readFrames_fails (locations : List FrameLocation) :
    FailsWith (·.category = .transport) (readFrames locations : Operation σ (List Bytes)) := by
  induction locations with
  | nil => exact .pure []
  | cons location rest ih =>
    refine .bind (.bind (fun storage fault next run => ?_) fun found => ?_) fun frame => ?_
    · obtain ⟨found, cache, looked⟩ := cached?_ok location storage
      cases run.symm.trans looked
    · cases found with
      | none => exact fetchFrame_fails fails location
      | some frame => exact .pure frame
    · exact .bind ih fun frames => .pure _

theorem writeFrame_fails (location : FrameLocation) (frame : Bytes) :
    FailsWith (·.category = .transport) (writeFrame location frame : Operation σ Unit) := by
  refine .bind (loadCartridge_fails fails _) fun _ => ?_
  exact .bind (execute_fails fails _ _ _ _) fun _ => .modify _

theorem initializeDevice_fails :
    FailsWith (·.category = .transport) (initializeDevice : Operation σ Unit) := by
  refine .bind (execute_fails fails _ _ _ _) fun _ => ?_
  refine .bind .get fun storage => ?_
  refine .forM (fun cartridge => ?_) _
  refine .bind (loadCartridge_fails fails _) fun _ => ?_
  exact .bind (execute_fails fails _ _ _ _) fun _ => .pure _

/-- Free frames can be claimed one after the other, so that storing fails for a request only. -/
theorem store_fails {handle : Handle} {pieces : List (FrameLocation × Bytes)} {fault : Fault}
    {storage : Storage σ} (distinct : (pieces.map Prod.fst).Nodup)
    (free : ∀ location ∈ pieces.map Prod.fst, storage.table.geometry.contains location = true ∧
      storage.table.owner? location = none)
    (failed : (store handle pieces storage).2.1 = .error fault) : fault.category = .transport := by
  induction pieces generalizing storage with
  | nil => cases failed
  | cons piece rest ih =>
    obtain ⟨location, frame⟩ := piece
    obtain ⟨table, claimed, freeRest⟩ := Ownership.claim_next handle distinct free
    unfold store at failed
    rw [claim_eq, claimed] at failed
    dsimp only at failed
    split at failed
    · rename_i refused
      cases failed
      exact writeFrame_fails fails _ _ _ _ _ refused
    · rename_i middle written
      obtain ⟨transport, rfl⟩ := writeFrame_ok written
      exact ih (List.nodup_cons.mp distinct).2 freeRest failed

end Requests

end Storage

end CartridgeBank
