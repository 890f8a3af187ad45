import CartridgeBank.Proofs.Coupling

namespace CartridgeBank

variable {σ τ α β : Type}

namespace Storage

variable [Transport σ] [Transport τ]

/-- Two transports that answer the requests of a storage alike. They may be linked without being
ready for requests: an INITMS makes them ready, and a POWOFF may end it. -/
structure Mirrors (size : Nat) (linked ready : σ → τ → Prop) : Prop where
  linked_of_ready {a : σ} {b : τ} : ready a b → linked a b
  start {a : σ} {b : τ} : linked a b →
    Agree ready (Transport.send (Opcode.request .initms 0 0) none a)
      (Transport.send (Opcode.request .initms 0 0) none b)
  /-- A WRFRME carries one frame, any other request none. -/
  send {a : σ} {b : τ} {command : Command} {frame : Option Bytes} : ready a b →
    command ≠ .powoff →
    frame.map List.length = (if command = .wrfrme then some size else none) →
    ∀ cartridge index, Agree ready
      (Transport.send (Opcode.request command cartridge index) frame a)
      (Transport.send (Opcode.request command cartridge index) frame b)
  finish {a : σ} {b : τ} : ready a b →
    Agree linked (Transport.send (Opcode.request .powoff 0 0) none a)
      (Transport.send (Opcode.request .powoff 0 0) none b)
  disconnect {a : σ} {b : τ} : linked a b →
    linked (Transport.disconnect a) (Transport.disconnect b)

/-- One request does the same over transports that answer it alike. -/
theorem execute_agree {link later : Bool → σ → τ → Prop} {size : Nat} {command : Command}
    {cartridge index : UInt16} {payload : Option Bytes} {a : Storage σ} {b : Storage τ}
    (alike : Alike link size a b)
    (sent : Agree (later a.poweredOn)
      (Transport.send (Opcode.request command cartridge index) payload a.transport)
      (Transport.send (Opcode.request command cartridge index) payload b.transport)) :
    Agree (Alike later size) (execute command cartridge index payload a)
      (execute command cartridge index payload b) := by
  rw [execute_eq, execute_eq]
  cases alike with
  | @via transport linked frameSize =>
    rw [transport_via] at sent ⊢
    generalize Transport.send (Opcode.request command cartridge index) payload a.transport =
      ending at sent ⊢
    generalize Transport.send (Opcode.request command cartridge index) payload transport =
      ending' at sent ⊢
    cases sent with
    | error linked => exact .error (.via linked frameSize)
    | @ok answer _ _ linked =>
      dsimp only
      by_cases echoed : answer.opcode.field .ky1 ≠ command.number
      · rw [if_pos echoed, if_pos echoed]
        exact .error (.via linked frameSize)
      · rw [if_neg echoed, if_neg echoed]
        by_cases success : answer.opcode.isSuccess = true
        · rw [if_pos success, if_pos success]
          exact .ok (.via linked frameSize)
        · rw [if_neg success, if_neg success]
          exact .error (.via linked frameSize)

namespace Mirrors

variable {size : Nat} {linked ready : σ → τ → Prop}

theorem execute (mirrors : Mirrors size linked ready) {command : Command} {frame : Option Bytes}
    (further : command ≠ .powoff)
    (fitting : frame.map List.length = if command = .wrfrme then some size else none)
    (cartridge index : UInt16) :
    Couples (fun _ => ready) size (Storage.execute command cartridge index frame : Operation σ Answer)
      (Storage.execute command cartridge index frame : Operation τ Answer) := by
  intro a b alike
  refine execute_agree alike ?_
  cases alike with
  | via ready frameSize => exact mirrors.send ready further fitting cartridge index

theorem loadCartridge (mirrors : Mirrors size linked ready) (cartridge : UInt16) :
    Couples (fun _ => ready) size (Storage.loadCartridge cartridge : Operation σ Unit)
      (Storage.loadCartridge cartridge : Operation τ Unit) := by
  refine Couples.get_bind fun storage transport _ => ?_
  refine Couples.ite (Couples.pure _) ?_
  refine Couples.bind ?_ fun _ => Couples.bind ?_ fun _ => ?_
  · exact Couples.modify fun _ _ => ⟨rfl, rfl, rfl, rfl⟩
  · exact mirrors.execute (by decide) rfl cartridge 0
  · exact Couples.modify fun _ _ => ⟨rfl, rfl, rfl, rfl⟩

theorem fetchFrame (mirrors : Mirrors size linked ready) (location : FrameLocation) :
    Couples (fun _ => ready) size (Storage.fetchFrame location : Operation σ Bytes)
      (Storage.fetchFrame location : Operation τ Bytes) := by
  refine Couples.bind (mirrors.loadCartridge _) fun _ => ?_
  refine Couples.bind (mirrors.execute (by decide) rfl 0 _) fun answer => ?_
  refine Couples.get_bind fun storage transport _ => ?_
  refine Couples.ite (Couples.throw _) ?_
  exact Couples.bind (Couples.modifyCache _) fun _ => Couples.pure _

theorem readFrame (mirrors : Mirrors size linked ready) (location : FrameLocation) :
    Couples (fun _ => ready) size (Storage.readFrame location : Operation σ Bytes)
      (Storage.readFrame location : Operation τ Bytes) := by
  refine Couples.bind (Couples.cached? location) fun found => ?_
  cases found with
  | none => exact mirrors.fetchFrame location
  | some frame => exact Couples.pure frame

theorem readFrames (mirrors : Mirrors size linked ready) (locations : List FrameLocation) :
    Couples (fun _ => ready) size (Storage.readFrames locations : Operation σ (List Bytes))
      (Storage.readFrames locations : Operation τ (List Bytes)) := by
  induction locations with
  | nil => exact Couples.pure []
  | cons location rest ih =>
    refine Couples.bind (mirrors.readFrame location) fun frame => ?_
    exact Couples.bind ih fun frames => Couples.pure _

theorem writeFrame (mirrors : Mirrors size linked ready) (location : FrameLocation) {frame : Bytes}
    (full : frame.length = size) :
    Couples (fun _ => ready) size (Storage.writeFrame location frame : Operation σ Unit)
      (Storage.writeFrame location frame : Operation τ Unit) := by
  refine Couples.bind (mirrors.loadCartridge _) fun _ => ?_
  refine Couples.bind (mirrors.execute (by decide) ?_ 0 _) fun _ => Couples.modifyCache _
  exact congrArg some full

theorem store (mirrors : Mirrors size linked ready) (handle : Handle)
    (pieces : List (FrameLocation × Bytes)) (full : ∀ piece ∈ pieces, piece.2.length = size)
    {a : Storage σ} {b : Storage τ} (alike : Alike (fun _ => ready) size a b) :
    (Storage.store handle pieces a).1 = (Storage.store handle pieces b).1 ∧
      (Storage.store handle pieces a).2.1 = (Storage.store handle pieces b).2.1 ∧
      Alike (fun _ => ready) size (Storage.store handle pieces a).2.2
        (Storage.store handle pieces b).2.2 := by
  induction pieces generalizing a b with
  | nil => exact ⟨rfl, rfl, alike⟩
  | cons piece rest ih =>
    obtain ⟨location, frame⟩ := piece
    have claimed := Couples.claim handle location a b alike
    unfold Storage.store
    generalize claim handle location a = ending at claimed ⊢
    generalize claim handle location b = ending' at claimed ⊢
    cases claimed with
    | error alike => exact ⟨rfl, rfl, alike⟩
    | @ok _ a b alike =>
      have written := mirrors.writeFrame location (full _ List.mem_cons_self) a b alike
      dsimp only at written ⊢
      generalize Storage.writeFrame location frame a = ending at written ⊢
      generalize Storage.writeFrame location frame b = ending' at written ⊢
      cases written with
      | error alike => exact ⟨rfl, rfl, alike⟩
      | ok alike =>
        obtain ⟨same, result, after⟩ :=
          ih (fun other member => full other (List.mem_cons_of_mem _ member)) alike
        exact ⟨congrArg _ same, result, after⟩

theorem placeContent (mirrors : Mirrors size linked ready) (handle : Handle) (content : Bytes) :
    Couples (fun _ => ready) size
      (Storage.placeContent handle content :
        Operation σ (List FrameLocation × List FrameLocation × Except Fault Unit))
      (Storage.placeContent handle content :
        Operation τ (List FrameLocation × List FrameLocation × Except Fault Unit)) := by
  intro a b alike
  cases alike with
  | @via transport connected frameSize =>
    let targets := a.table.firstFree (framesFor content.length a.frameSize)
    let pieces := targets.zip (blocks content a.frameSize)
    have full : ∀ piece ∈ pieces, piece.2.length = size := by
      intro piece member
      rw [← frameSize]
      exact length_of_mem_blocks (List.of_mem_zip member).2
    obtain ⟨claimed, result, after⟩ := mirrors.store handle pieces full (.via connected frameSize)
    have stored : Agree (Alike (fun _ => ready) size)
        (.ok (targets, (Storage.store handle pieces a).1, (Storage.store handle pieces a).2.1)
          (Storage.store handle pieces a).2.2)
        (.ok (targets, (Storage.store handle pieces (a.via transport)).1,
            (Storage.store handle pieces (a.via transport)).2.1)
          (Storage.store handle pieces (a.via transport)).2.2) := by
      rw [claimed, result]
      exact .ok after
    change Agree _ (if targets.length < framesFor content.length a.frameSize then _ else _)
      (if targets.length < framesFor content.length a.frameSize then _ else _)
    by_cases few : targets.length < framesFor content.length a.frameSize
    · rw [if_pos few, if_pos few]
      exact .ok (.via connected frameSize)
    · rw [if_neg few, if_neg few]
      exact stored

theorem write (mirrors : Mirrors size linked ready) (handle : Handle) (data : Bytes) :
    Couples (fun _ => ready) size (Storage.write handle data : Operation σ Nat)
      (Storage.write handle data : Operation τ Nat) := by
  refine Couples.bind Couples.ensurePowered fun _ => ?_
  refine Couples.get_bind fun storage transport _ => ?_
  refine Couples.bind (Couples.require _) fun file => ?_
  refine Couples.ite (Couples.pure _) ?_
  refine Couples.bind (Couples.ensureRoom file data.length) fun _ => ?_
  refine Couples.bind (mirrors.readFrames file.frames) fun frames => ?_
  refine Couples.bind (Couples.forM Couples.release file.frames) fun _ => ?_
  refine Couples.bind (mirrors.placeContent handle _) fun placed => ?_
  obtain ⟨targets, claimed, result⟩ := placed
  cases result with
  | error fault =>
    exact Couples.bind (Couples.rollBack handle claimed file.frames) fun _ => Couples.throw fault
  | ok done =>
    refine Couples.bind (Couples.forM (fun _ => Couples.modifyCache _) _) fun _ => ?_
    refine Couples.bind ?_ fun _ => Couples.pure _
    exact Couples.modify fun _ _ => ⟨rfl, rfl, rfl, rfl⟩

theorem read (mirrors : Mirrors size linked ready) (handle : Handle) (wanted : Nat) :
    Couples (fun _ => ready) size (Storage.read handle wanted : Operation σ Bytes)
      (Storage.read handle wanted : Operation τ Bytes) := by
  refine Couples.bind Couples.ensurePowered fun _ => ?_
  refine Couples.get_bind fun storage transport _ => ?_
  refine Couples.bind (Couples.require _) fun file => ?_
  refine Couples.ite (Couples.pure _) ?_
  refine Couples.ite (Couples.throw _) ?_
  refine Couples.get_bind fun storage transport _ => ?_
  refine Couples.bind (mirrors.readFrames _) fun frames => ?_
  refine Couples.bind ?_ fun _ => Couples.pure _
  exact Couples.modify fun _ _ => ⟨rfl, rfl, rfl, rfl⟩

theorem readToEnd (mirrors : Mirrors size linked ready) (handle : Handle) :
    Couples (fun _ => ready) size (Storage.readToEnd handle : Operation σ Bytes)
      (Storage.readToEnd handle : Operation τ Bytes) := by
  refine Couples.bind (Couples.info handle) fun file => ?_
  exact Couples.ite (Couples.pure _) (mirrors.read handle _)

theorem zeroCartridge (mirrors : Mirrors size linked ready) (cartridge : UInt16) :
    Couples (fun _ => ready) size (Storage.zeroCartridge cartridge : Operation σ Unit)
      (Storage.zeroCartridge cartridge : Operation τ Unit) := by
  refine Couples.bind (mirrors.loadCartridge cartridge) fun _ => ?_
  exact Couples.bind (mirrors.execute (by decide) rfl 0 0) fun _ => Couples.pure _

theorem initializeDevice (mirrors : Mirrors size linked ready) {a : Storage σ} {b : Storage τ}
    (alike : Alike (fun _ => linked) size a b) :
    Agree (Alike (fun _ => ready) size) (Storage.initializeDevice a)
      (Storage.initializeDevice b) := by
  have initialized : Agree (Alike (fun _ => ready) size)
      (Storage.execute .initms 0 0 none a) (Storage.execute .initms 0 0 none b) := by
    refine execute_agree alike ?_
    cases alike with
    | via linked frameSize => exact mirrors.start linked
  rw [initializeDevice_eq, initializeDevice_eq]
  generalize Storage.execute .initms 0 0 none a = ending at initialized ⊢
  generalize Storage.execute .initms 0 0 none b = ending' at initialized ⊢
  cases initialized with
  | error alike => exact .error alike
  | @ok _ a b alike =>
    cases alike with
    | via ready frameSize =>
      refine Couples.forM (fun cartridge => mirrors.zeroCartridge (UInt16.ofNat cartridge)) _ _ _ ?_
      exact .via ready frameSize

end Mirrors

/-- Linked, and ready while the storage is on. -/
def WhileOn (linked ready : σ → τ → Prop) (on : Bool) (a : σ) (b : τ) : Prop :=
  linked a b ∧ (on = true → ready a b)

namespace Mirrors

variable {size : Nat} {linked ready : σ → τ → Prop}

/-- In a session the transports are ready, and that is enough whatever comes of it. -/
theorem whileOn (mirrors : Mirrors size linked ready) {left : Storage σ} {right : Storage τ}
    (alike : Alike (fun _ => ready) size left right) :
    Alike (WhileOn linked ready) size left right := by
  cases alike with
  | via ready frameSize => exact .via ⟨mirrors.linked_of_ready ready, fun _ => ready⟩ frameSize

theorem powerOn (mirrors : Mirrors size linked ready) :
    Couples (WhileOn linked ready) size (Storage.powerOn : Operation σ Unit)
      (Storage.powerOn : Operation τ Unit) := by
  intro a b alike
  cases alike with
  | @via transport link frameSize =>
    rw [powerOn_eq, powerOn_eq, poweredOn_via, config_via]
    by_cases on : a.poweredOn = true
    · rw [if_pos on, if_pos on]
      exact .error (.via link frameSize)
    · rw [if_neg on, if_neg on]
      cases FrameCache.ofCapacity a.config.cacheFrames with
      | error fault => exact .error (.via link frameSize)
      | ok cache =>
        have alike : Alike (fun _ => linked) size { a.cleared with cache := some cache }
            ({ a.cleared with cache := some cache }.via transport) := .via link.1 frameSize
        have started := mirrors.initializeDevice alike
        have same : { (a.via transport).cleared with cache := some cache } =
          { a.cleared with cache := some cache }.via transport := rfl
        dsimp only
        rw [same]
        generalize Storage.initializeDevice { a.cleared with cache := some cache } = ending
          at started ⊢
        generalize Storage.initializeDevice
          ({ a.cleared with cache := some cache }.via transport) = ending' at started ⊢
        cases started with
        | error alike =>
          cases mirrors.whileOn alike with
          | via link frameSize => exact .error (.via link frameSize)
        | ok alike =>
          cases alike with
          | via ready frameSize =>
            exact .ok (.via ⟨mirrors.linked_of_ready ready, fun _ => ready⟩ frameSize)

theorem powerOff (mirrors : Mirrors size linked ready) :
    Couples (WhileOn linked ready) size (Storage.powerOff : Operation σ Unit)
      (Storage.powerOff : Operation τ Unit) := by
  intro a b alike
  cases alike with
  | @via transport link frameSize =>
    rw [powerOff_eq, powerOff_eq, poweredOn_via]
    by_cases on : a.poweredOn = true
    · rw [if_pos on, if_pos on]
      have off : Alike (fun _ => ready) size { a.cleared with poweredOn := false }
          ({ a.cleared with poweredOn := false }.via transport) := .via (link.2 on) frameSize
      have finished := mirrors.finish (link.2 on)
      have finished : Agree (Alike (fun on a b => linked a b ∧ on = false) size)
          (Storage.execute .powoff 0 0 none { a.cleared with poweredOn := false })
          (Storage.execute .powoff 0 0 none
            ({ a.cleared with poweredOn := false }.via transport)) :=
        execute_agree off (finished.mono fun _ _ linked => ⟨linked, rfl⟩)
      have same : { (a.via transport).cleared with poweredOn := false } =
        { a.cleared with poweredOn := false }.via transport := rfl
      rw [same]
      generalize Storage.execute .powoff 0 0 none { a.cleared with poweredOn := false } = ending
        at finished ⊢
      generalize Storage.execute .powoff 0 0 none
        ({ a.cleared with poweredOn := false }.via transport) = ending' at finished ⊢
      cases finished with
      | ok alike =>
        cases alike with
        | via ended frameSize =>
          exact .ok (.via ⟨mirrors.disconnect ended.1, fun still => absurd still (by simp [ended.2])⟩
            frameSize)
      | error alike =>
        cases alike with
        | via ended frameSize =>
          exact .error (.via ⟨mirrors.disconnect ended.1,
            fun still => absurd still (by simp [ended.2])⟩ frameSize)
    · rw [if_neg on, if_neg on]
      exact .error (.via link frameSize)

/-- What needs a session is refused outside of one. -/
theorem session (mirrors : Mirrors size linked ready) {left : Operation σ α}
    {right : Operation τ α} (couples : Couples (fun _ => ready) size left right)
    (refused : ∀ a, a.poweredOn = false → left a = .error .notPoweredOn a)
    (alsoRefused : ∀ b, b.poweredOn = false → right b = .error .notPoweredOn b) :
    Couples (WhileOn linked ready) size left right := by
  intro a b alike
  cases alike with
  | @via transport link frameSize =>
    cases on : a.poweredOn with
    | false =>
      rw [refused a on, alsoRefused (a.via transport) on]
      exact .error (.via link frameSize)
    | true =>
      have agree := couples a (a.via transport) (.via (link.2 on) frameSize)
      exact agree.mono fun left right alike => mirrors.whileOn alike

theorem perform (mirrors : Mirrors size linked ready) (call : Call) :
    Couples (WhileOn linked ready) size (Storage.perform call : Operation σ Reply)
      (Storage.perform call : Operation τ Reply) := by
  cases call with
  | powerOn => exact Couples.bind mirrors.powerOn fun _ => Couples.pure _
  | powerOff => exact Couples.bind mirrors.powerOff fun _ => Couples.pure _
  | openFile name => exact Couples.bind (Couples.openFile name) fun _ => Couples.pure _
  | closeFile handle => exact Couples.bind (Couples.closeFile handle) fun _ => Couples.pure _
  | read handle wanted =>
    refine Couples.bind ?_ fun _ => Couples.pure _
    exact mirrors.session (mirrors.read handle wanted) (fun _ off => read_off handle wanted off)
      (fun _ off => read_off handle wanted off)
  | readToEnd handle =>
    refine Couples.bind ?_ fun _ => Couples.pure _
    exact mirrors.session (mirrors.readToEnd handle) (fun _ off => readToEnd_off handle off)
      (fun _ off => readToEnd_off handle off)
  | write handle data =>
    refine Couples.bind ?_ fun _ => Couples.pure _
    exact mirrors.session (mirrors.write handle data) (fun _ off => write_off handle data off)
      (fun _ off => write_off handle data off)
  | seek handle offset => exact Couples.bind (Couples.seek handle offset) fun _ => Couples.pure _
  | info handle => exact Couples.bind (Couples.info handle) fun _ => Couples.pure _
  | lookup name => exact Couples.get_bind fun _ _ _ => Couples.pure _
  | openFiles => exact Couples.get_bind fun _ _ _ => Couples.pure _
  | stats => exact Couples.get_bind fun _ _ _ => Couples.pure _
  | setCacheFrames frames => exact Couples.bind (Couples.setCacheFrames frames) fun _ => Couples.pure _

/-- A call is answered alike, and leaves storages that still differ in nothing but their
transports. -/
theorem respond (mirrors : Mirrors size linked ready) {a : Storage σ} {b : Storage τ}
    (alike : Alike (WhileOn linked ready) size a b) (call : Call) :
    (Storage.respond call a).1 = (Storage.respond call b).1 ∧
      Alike (WhileOn linked ready) size (Storage.respond call a).2 (Storage.respond call b).2 := by
  have agree := mirrors.perform call a b alike
  unfold Storage.respond
  generalize Storage.perform call a = ending at agree ⊢
  generalize Storage.perform call b = ending' at agree ⊢
  cases agree with
  | ok alike => exact ⟨rfl, alike⟩
  | error alike => exact ⟨rfl, alike⟩

end Mirrors

end Storage

end CartridgeBank
