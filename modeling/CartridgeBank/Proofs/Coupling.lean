import CartridgeBank.Proofs.Calls

namespace CartridgeBank

variable {σ τ α β S T : Type}

/-- Two runs that return the same value or fail with the same fault, and leave related states. -/
inductive Agree (after : S → T → Prop) :
    EStateM.Result Fault S α → EStateM.Result Fault T α → Prop
  | ok {value : α} {left : S} {right : T} : after left right →
      Agree after (.ok value left) (.ok value right)
  | error {fault : Fault} {left : S} {right : T} : after left right →
      Agree after (.error fault left) (.error fault right)

theorem Agree.mono {before after : S → T → Prop} {left : EStateM.Result Fault S α}
    {right : EStateM.Result Fault T α} (agree : Agree before left right)
    (weaker : ∀ left right, before left right → after left right) : Agree after left right := by
  cases agree with
  | ok related => exact .ok (weaker _ _ related)
  | error related => exact .error (weaker _ _ related)

namespace Storage

/-- The same storage over another transport. -/
def via (storage : Storage σ) (transport : τ) : Storage τ :=
  { storage with transport }

theorem transport_via (storage : Storage σ) (transport : τ) :
    (storage.via transport).transport = transport := rfl

theorem config_via (storage : Storage σ) (transport : τ) :
    (storage.via transport).config = storage.config := rfl

theorem poweredOn_via (storage : Storage σ) (transport : τ) :
    (storage.via transport).poweredOn = storage.poweredOn := rfl

/-- Two storages that differ in nothing but their transports. How these are linked may depend on
whether the storages are on. -/
inductive Alike (link : Bool → σ → τ → Prop) (size : Nat) (left : Storage σ) : Storage τ → Prop
  | via {transport : τ} : link left.poweredOn left.transport transport → left.frameSize = size →
      Alike link size left (left.via transport)

/-- Two operations that do the same to storages that differ in nothing but their transports. -/
def Couples (link : Bool → σ → τ → Prop) (size : Nat) (left : Operation σ α)
    (right : Operation τ α) : Prop :=
  ∀ a b, Alike link size a b → Agree (Alike link size) (left a) (right b)

namespace Couples

variable {link : Bool → σ → τ → Prop} {size : Nat}

theorem pure (value : α) :
    Couples link size (pure value : Operation σ α) (pure value : Operation τ α) :=
  fun _ _ alike => .ok alike

theorem throw (fault : Fault) :
    Couples link size (throw fault : Operation σ α) (throw fault : Operation τ α) :=
  fun _ _ alike => .error alike

theorem require (result : Except Fault α) :
    Couples link size (Storage.require result : Operation σ α)
      (Storage.require result : Operation τ α) := by
  cases result with
  | ok value => exact pure value
  | error fault => exact throw fault

theorem bind {left : Operation σ α} {right : Operation τ α} {leftRest : α → Operation σ β}
    {rightRest : α → Operation τ β} (first : Couples link size left right)
    (rest : ∀ value, Couples link size (leftRest value) (rightRest value)) :
    Couples link size (left >>= leftRest) (right >>= rightRest) := by
  intro a b alike
  rw [Operation.bind_apply, Operation.bind_apply]
  have agree := first a b alike
  generalize left a = ending at agree ⊢
  generalize right b = ending' at agree ⊢
  cases agree with
  | ok alike => exact rest _ _ _ alike
  | error alike => exact .error alike

/-- After looking at the storage, an operation goes on from what it saw. -/
theorem get_bind {left : Storage σ → Operation σ α} {right : Storage τ → Operation τ α}
    (rest : ∀ (storage : Storage σ) (transport : τ), storage.frameSize = size →
      Couples link size (left storage) (right (storage.via transport))) :
    Couples link size (get >>= left) (get >>= right) := by
  intro a b alike
  rw [Operation.bind_apply, Operation.bind_apply]
  cases alike with
  | via linked frameSize => exact rest a _ frameSize _ _ (.via linked frameSize)

/-- A change that leaves alone what links the transports, and does not look at them. -/
theorem modify {left : Storage σ → Storage σ} {right : Storage τ → Storage τ}
    (same : ∀ (storage : Storage σ) (transport : τ),
      right (storage.via transport) = (left storage).via transport ∧
        (left storage).transport = storage.transport ∧
        (left storage).poweredOn = storage.poweredOn ∧
        (left storage).frameSize = storage.frameSize) :
    Couples link size (modify left : Operation σ PUnit) (modify right : Operation τ PUnit) := by
  intro a b alike
  rw [Operation.modify_apply, Operation.modify_apply]
  cases alike with
  | @via transport linked frameSize =>
    obtain ⟨content, sameTransport, power, unchanged⟩ := same a transport
    rw [content]
    refine .ok (.via ?_ (unchanged.trans frameSize))
    rwa [power, sameTransport]

theorem ite {condition : Prop} [Decidable condition] {left left' : Operation σ α}
    {right right' : Operation τ α} (yes : Couples link size left right)
    (no : Couples link size left' right') :
    Couples link size (if condition then left else left') (if condition then right else right') := by
  by_cases holds : condition
  · rw [if_pos holds, if_pos holds]
    exact yes
  · rw [if_neg holds, if_neg holds]
    exact no

theorem forM {left : α → Operation σ PUnit} {right : α → Operation τ PUnit}
    (each : ∀ item, Couples link size (left item) (right item)) (items : List α) :
    Couples link size (items.forM left) (items.forM right) := by
  induction items with
  | nil => exact pure _
  | cons item rest ih => exact bind (each item) fun _ => ih

theorem ensurePowered :
    Couples link size (Storage.ensurePowered : Operation σ Unit)
      (Storage.ensurePowered : Operation τ Unit) := by
  refine get_bind fun storage transport _ => ?_
  refine ite ?_ ?_
  · exact pure _
  · exact throw _

theorem modifyCache (change : FrameCache → FrameCache) :
    Couples link size (Storage.modifyCache change : Operation σ Unit)
      (Storage.modifyCache change : Operation τ Unit) := by
  exact modify fun _ _ => ⟨rfl, rfl, rfl, rfl⟩

theorem cached? (location : FrameLocation) :
    Couples link size (Storage.cached? location : Operation σ (Option Bytes))
      (Storage.cached? location : Operation τ (Option Bytes)) := by
  intro a b alike
  cases alike with
  | via linked frameSize =>
    obtain ⟨config, transport, cache, table, files, active, poweredOn⟩ := a
    cases cache with
    | none => exact .ok (.via linked frameSize)
    | some cache => exact .ok (.via linked frameSize)

theorem claim (handle : Handle) (location : FrameLocation) :
    Couples link size (Storage.claim handle location : Operation σ Unit)
      (Storage.claim handle location : Operation τ Unit) := by
  refine get_bind fun storage transport _ => ?_
  refine bind (require _) fun table => ?_
  exact modify fun _ _ => ⟨rfl, rfl, rfl, rfl⟩

theorem release (location : FrameLocation) :
    Couples link size (Storage.release location : Operation σ Unit)
      (Storage.release location : Operation τ Unit) := by
  refine get_bind fun storage transport _ => ?_
  refine bind (require _) fun released => ?_
  exact modify fun _ _ => ⟨rfl, rfl, rfl, rfl⟩

theorem ensureRoom (file : OpenFile) (added : Nat) :
    Couples link size (Storage.ensureRoom file added : Operation σ Unit)
      (Storage.ensureRoom file added : Operation τ Unit) := by
  refine ite ?_ ?_
  · refine get_bind fun storage transport _ => ?_
    refine get_bind fun storage transport _ => ?_
    refine ite ?_ ?_
    · exact throw _
    · exact pure _
  · exact pure _

theorem rollBack (handle : Handle) (claimed old : List FrameLocation) :
    Couples link size (Storage.rollBack handle claimed old : Operation σ Unit)
      (Storage.rollBack handle claimed old : Operation τ Unit) := by
  intro a b alike
  rw [rollBack_eq, rollBack_eq]
  cases alike with
  | via linked frameSize => exact .ok (.via linked frameSize)

theorem openFile (name : String) :
    Couples link size (Storage.openFile name : Operation σ Handle)
      (Storage.openFile name : Operation τ Handle) := by
  refine bind ensurePowered fun _ => ?_
  refine get_bind fun storage transport _ => ?_
  refine bind (require _) fun opened => ?_
  refine bind ?_ fun _ => pure _
  exact modify fun _ _ => ⟨rfl, rfl, rfl, rfl⟩

theorem closeFile (handle : Handle) :
    Couples link size (Storage.closeFile handle : Operation σ Unit)
      (Storage.closeFile handle : Operation τ Unit) := by
  refine bind ensurePowered fun _ => ?_
  refine get_bind fun storage transport _ => ?_
  refine bind (require _) fun closed => ?_
  refine bind ?_ fun _ => ?_
  · exact modify fun _ _ => ⟨rfl, rfl, rfl, rfl⟩
  · exact forM (fun location => modifyCache _) closed.1.frames

theorem info (handle : Handle) :
    Couples link size (Storage.info handle : Operation σ FileInfo)
      (Storage.info handle : Operation τ FileInfo) := by
  refine bind ensurePowered fun _ => ?_
  refine get_bind fun storage transport _ => ?_
  exact require _

theorem seek (handle : Handle) (offset : Nat) :
    Couples link size (Storage.seek handle offset : Operation σ Unit)
      (Storage.seek handle offset : Operation τ Unit) := by
  refine bind ensurePowered fun _ => ?_
  refine get_bind fun storage transport _ => ?_
  refine bind (require _) fun file => ?_
  refine ite ?_ ?_
  · exact throw _
  · exact modify fun _ _ => ⟨rfl, rfl, rfl, rfl⟩

theorem setCacheFrames (frames : Nat) :
    Couples link size (Storage.setCacheFrames frames : Operation σ Unit)
      (Storage.setCacheFrames frames : Operation τ Unit) := by
  refine get_bind fun storage transport _ => ?_
  refine ite ?_ ?_
  · exact throw _
  · refine ite ?_ ?_
    · exact throw _
    · exact modify fun _ _ => ⟨rfl, rfl, rfl, rfl⟩

end Couples

end Storage

end CartridgeBank
