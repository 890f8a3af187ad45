import CartridgeBank.Proofs.FrameCache
import CartridgeBank.Storage.Files
import CartridgeBank.Storage.Power
import CartridgeBank.Storage.Write

namespace CartridgeBank

variable {σ α β : Type} {storage : Storage σ}

namespace Operation

/-- The storage that an operation leaves, whichever way it ends. -/
def after (operation : Operation σ α) (storage : Storage σ) : Storage σ :=
  match operation storage with
  | .ok _ after => after
  | .error _ after => after

theorem after_of_ok {operation : Operation σ α} {value : α} {next : Storage σ}
    (run : operation storage = .ok value next) : operation.after storage = next := by
  simp only [after, run]

theorem after_of_error {operation : Operation σ α} {fault : Fault} {next : Storage σ}
    (run : operation storage = .error fault next) : operation.after storage = next := by
  simp only [after, run]

theorem after_bind_pure (operation : Operation σ α) (function : α → β) :
    (do return function (← operation) : Operation σ β).after storage = operation.after storage := by
  change (match EStateM.bind operation (fun value => EStateM.pure (function value)) storage with
    | .ok _ after => after
    | .error _ after => after) = operation.after storage
  unfold EStateM.bind after
  cases operation storage <;> rfl

theorem bind_pure_error {operation : Operation σ α} {function : α → β} {fault : Fault}
    {next : Storage σ} :
    (do return function (← operation) : Operation σ β) storage = .error fault next ↔
      operation storage = .error fault next := by
  change EStateM.bind operation (fun value => EStateM.pure (function value)) storage = _ ↔ _
  unfold EStateM.bind
  cases operation storage with
  | ok value after => exact ⟨nofun, nofun⟩
  | error other after => simp only [EStateM.Result.error.injEq]

theorem bind_pure_ok {operation : Operation σ α} {function : α → β} {result : β}
    {next : Storage σ} :
    (do return function (← operation) : Operation σ β) storage = .ok result next ↔
      ∃ value, operation storage = .ok value next ∧ function value = result := by
  change EStateM.bind operation (fun value => EStateM.pure (function value)) storage = _ ↔ _
  unfold EStateM.bind
  cases operation storage with
  | ok value after =>
    constructor
    · intro same
      cases same
      exact ⟨value, rfl, rfl⟩
    · rintro ⟨_, ⟨⟩, rfl⟩
      rfl
  | error other after => exact ⟨nofun, nofun⟩

theorem ok_of_run {operation : Operation σ α} {value : α}
    (run : EStateM.run' operation storage = some value) :
    ∃ next, operation storage = .ok value next := by
  unfold EStateM.run' EStateM.run at run
  cases result : operation storage with
  | ok other next =>
    rw [result] at run
    cases run
    exact ⟨next, rfl⟩
  | error fault next =>
    rw [result] at run
    cases run

section Parts

-- The parts of an operation may stop with any kind of error.
variable {ε : Type}

@[simp] theorem pure_apply (value : α) :
    (pure value : EStateM ε (Storage σ) α) storage = .ok value storage := rfl

@[simp] theorem bind_apply (first : EStateM ε (Storage σ) α) (rest : α → EStateM ε (Storage σ) β) :
    (first >>= rest) storage =
      match first storage with
      | .ok value next => rest value next
      | .error reason next => .error reason next := by
  change EStateM.bind first rest storage = _
  unfold EStateM.bind
  cases first storage <;> rfl

@[simp] theorem get_apply :
    (get : EStateM ε (Storage σ) (Storage σ)) storage = .ok storage storage := rfl

@[simp] theorem modify_apply (change : Storage σ → Storage σ) :
    (modify change : EStateM ε (Storage σ) PUnit) storage = .ok () (change storage) := rfl

@[simp] theorem throw_apply (reason : ε) :
    (throw reason : EStateM ε (Storage σ) α) storage = .error reason storage := rfl

@[simp] theorem tryCatch_apply (body : Operation σ α) (handler : Fault → Operation σ α) :
    (tryCatch body handler) storage =
      match body storage with
      | .ok value next => .ok value next
      | .error fault next => handler fault next := by
  change EStateM.tryCatch body handler storage = _
  unfold EStateM.tryCatch
  cases body storage <;> rfl

@[simp] theorem ite_apply (condition : Prop) [Decidable condition]
    (yes no : EStateM ε (Storage σ) α) :
    (if condition then yes else no) storage = if condition then yes storage else no storage := by
  split <;> rfl

@[simp] theorem forM_nil_apply (step : α → EStateM ε (Storage σ) PUnit) :
    ([].forM step) storage = .ok () storage := rfl

@[simp] theorem forM_cons_apply (step : α → EStateM ε (Storage σ) PUnit) (first : α)
    (rest : List α) :
    ((first :: rest).forM step) storage =
      match step first storage with
      | .ok _ next => rest.forM step next
      | .error reason next => .error reason next := by
  change (step first >>= fun _ => rest.forM step) storage = _
  rw [bind_apply]
  cases step first storage <;> rfl

end Parts

/-- What every step of a loop keeps, the loop keeps. -/
theorem forM_keeps {step : α → Operation σ PUnit} (keeps : Storage σ → Prop) (items : List α)
    (each : ∀ item ∈ items, ∀ storage, keeps storage → keeps ((step item).after storage))
    (start : keeps storage) : keeps (Operation.after (items.forM step) storage) := by
  induction items generalizing storage with
  | nil => exact start
  | cons first rest ih =>
    have kept := each first List.mem_cons_self storage start
    have others : ∀ item ∈ rest, ∀ storage, keeps storage → keeps ((step item).after storage) :=
      fun item member => each item (List.mem_cons_of_mem _ member)
    unfold after at kept ⊢
    rw [forM_cons_apply]
    cases run : step first storage with
    | error fault next =>
      rw [run] at kept
      exact kept
    | ok value next =>
      rw [run] at kept
      exact ih others kept

/-- A loop succeeds if each step does, and keeps what the next one needs. -/
theorem forM_succeeds {step : α → Operation σ PUnit} (keeps : Storage σ → Prop) (items : List α)
    (each : ∀ item ∈ items, ∀ storage, keeps storage →
      ∃ next, step item storage = .ok () next ∧ keeps next)
    (start : keeps storage) : ∃ next, items.forM step storage = .ok () next ∧ keeps next := by
  induction items generalizing storage with
  | nil => exact ⟨storage, rfl, start⟩
  | cons first rest ih =>
    obtain ⟨middle, run, kept⟩ := each first List.mem_cons_self storage start
    rw [forM_cons_apply, run]
    exact ih (fun item member => each item (List.mem_cons_of_mem _ member)) kept

end Operation

namespace Storage

@[simp] theorem require_ok (value : α) : (require (.ok value) : Operation σ α) storage =
    .ok value storage := rfl

@[simp] theorem require_error (fault : Fault) : (require (.error fault) : Operation σ α) storage =
    .error fault storage := rfl

@[simp] theorem modifyCache_apply (change : FrameCache → FrameCache) :
    modifyCache change storage = .ok () { storage with cache := storage.cache.map change } := rfl

@[simp] theorem invalidate_apply (location : FrameLocation) :
    invalidate location storage =
      .ok () { storage with cache := storage.cache.map (·.invalidateAll [location]) } := rfl

@[simp] theorem ensurePowered_on (on : storage.poweredOn = true) :
    ensurePowered storage = .ok () storage := by
  simp [ensurePowered, on]

@[simp] theorem ensurePowered_off (off : storage.poweredOn = false) :
    ensurePowered storage = .error .notPoweredOn storage := by
  simp [ensurePowered, off]

end Storage

end CartridgeBank
