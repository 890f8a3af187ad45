import CartridgeBank.CommandLine
import CartridgeBank.Proofs.Copying
import CartridgeBank.Proofs.Refinement

namespace CartridgeBank

namespace RoundTrip

variable {geometry : Geometry} {files before rest : List (String × Bytes)} {file : String × Bytes}

/-- The frames that copies of files take. -/
def framesOf (files : List (String × Bytes)) (frameSize : Nat) : Nat :=
  (files.map fun file => framesFor file.2.length frameSize).sum

/-- What keeps a file from being copied after others, if anything does. -/
def offence? (geometry : Geometry) (before : List (String × Bytes)) (file : String × Bytes) :
    Option Fault :=
  let needed := framesFor file.2.length geometry.frameSize
  let available := geometry.totalFrames - framesOf before geometry.frameSize
  if file.1 = "" then some .emptyName
  else if file.1 ∈ before.map Prod.fst then some (.duplicateFile file.1)
  else if available < needed then some (.outOfSpace needed available)
  else none

/-- Files that can be copied one after the other. -/
structure Fits (geometry : Geometry) (files : List (String × Bytes)) : Prop where
  named : ∀ file ∈ files, file.1 ≠ ""
  distinct : (files.map Prod.fst).Nodup
  room : framesOf files geometry.frameSize ≤ geometry.totalFrames

@[simp] theorem framesOf_append (files rest : List (String × Bytes)) (frameSize : Nat) :
    framesOf (files ++ rest) frameSize = framesOf files frameSize + framesOf rest frameSize := by
  rw [framesOf, List.map_append, List.sum_append]
  rfl

@[simp] theorem framesOf_singleton (file : String × Bytes) (frameSize : Nat) :
    framesOf [file] frameSize = framesFor file.2.length frameSize := List.sum_singleton

theorem fits_nil : Fits geometry [] := ⟨nofun, List.nodup_nil, Nat.zero_le _⟩

theorem Fits.of_append (fits : Fits geometry (files ++ rest)) : Fits geometry files where
  named file member := fits.named file (List.mem_append_left rest member)
  distinct := (fits.distinct.sublist ((List.sublist_append_left files rest).map Prod.fst))
  room := by
    have room := fits.room
    rw [framesOf_append] at room
    omega

theorem offence?_eq_none_iff : offence? geometry before file = none ↔
    file.1 ≠ "" ∧ file.1 ∉ before.map Prod.fst ∧
      framesFor file.2.length geometry.frameSize ≤
        geometry.totalFrames - framesOf before geometry.frameSize := by
  unfold offence?
  dsimp only
  by_cases unnamed : file.1 = ""
  · simp [unnamed]
  by_cases taken : file.1 ∈ before.map Prod.fst
  · rw [if_neg unnamed, if_pos taken]
    exact ⟨nofun, fun clean => absurd taken clean.2.1⟩
  rw [if_neg unnamed, if_neg taken]
  split
  · rename_i few
    exact ⟨nofun, fun clean => absurd few (Nat.not_lt.mpr clean.2.2)⟩
  · rename_i enough
    exact ⟨fun _ => ⟨unnamed, taken, Nat.le_of_not_lt enough⟩, fun _ => rfl⟩

theorem nodup_names_concat :
    ((before ++ [file]).map Prod.fst).Nodup ↔
      file.1 ∉ before.map Prod.fst ∧ (before.map Prod.fst).Nodup := by
  rw [List.map_append, List.map_singleton, ← List.concat_eq_append, List.nodup_concat]

/-- A file can be copied after others just if nothing is wrong with it then. -/
theorem fits_concat (fits : Fits geometry before) :
    Fits geometry (before ++ [file]) ↔ offence? geometry before file = none := by
  have room := fits.room
  rw [offence?_eq_none_iff]
  constructor
  · intro more
    have enough := more.room
    rw [framesOf_append, framesOf_singleton] at enough
    exact ⟨more.named file (by simp), (nodup_names_concat.mp more.distinct).1, by omega⟩
  · rintro ⟨unnamed, new, enough⟩
    refine ⟨fun other member => ?_, nodup_names_concat.mpr ⟨new, fits.distinct⟩, ?_⟩
    · rcases List.mem_append.mp member with earlier | last
      · exact fits.named other earlier
      · obtain rfl := List.mem_singleton.mp last
        exact unnamed
    · rw [framesOf_append, framesOf_singleton]
      omega

/-- With a file with which something is wrong, files cannot all be copied. -/
theorem not_fits_of_offence {fault : Fault} (fits : Fits geometry before)
    (wrong : offence? geometry before file = some fault) :
    ¬Fits geometry (before ++ file :: rest) := by
  intro all
  rw [List.append_cons] at all
  have clean := (fits_concat fits).mp all.of_append
  rw [wrong] at clean
  cases clean

theorem lift_ok {σ α : Type} [Transport σ] {operation : Operation σ α} {storage next : Storage σ}
    {value : α} (run : operation storage = .ok value next) :
    (lift operation : Step σ α) storage = .ok value next := by
  simp only [lift, EStateM.adaptExcept, run]

theorem lift_error {σ α : Type} [Transport σ] {operation : Operation σ α} {storage next : Storage σ}
    {fault : Fault} (run : operation storage = .error fault next) :
    (lift operation : Step σ α) storage = .error (.fault fault) next := by
  simp only [lift, EStateM.adaptExcept, run]

end RoundTrip

namespace Storage.Refines

variable {reference after : Reference} {storage : Storage Device} {call : Call} {α : Type}
  {operation : Operation Device α} {reply : α → Reply}

/-- An operation succeeds where the reference does. -/
theorem succeeds (refines : Refines reference storage)
    (performs : perform call = do return reply (← operation)) (injective : reply.Injective)
    {value : α} (answer : Reference.respond call reference = (.ok (reply value), after)) :
    ∃ next, operation storage = .ok value next ∧ Refines after next := by
  have responds := refines.respond call
  have success := (refines.agrees call).reply
  rw [answer] at responds success
  have run := respond_ok success
  rw [performs] at run
  obtain ⟨other, run, same⟩ := Operation.bind_pure_ok.mp run
  exact ⟨_, injective same ▸ run, responds⟩

/-- An operation that returns nothing succeeds where the reference does. -/
theorem completes (refines : Refines reference storage) {step : Operation Device Unit}
    (performs : perform call = do
      step
      return .done)
    (answer : Reference.respond call reference = (.ok .done, after)) :
    ∃ next, step storage = .ok () next ∧ Refines after next :=
  @succeeds _ _ _ _ _ _ (fun _ => .done) refines performs (fun _ _ _ => rfl) () answer

/-- An operation fails where the reference does. -/
theorem fails (refines : Refines reference storage)
    (performs : perform call = do return reply (← operation)) {fault : Fault}
    (answer : Reference.respond call reference = (.error fault, after)) :
    ∃ next, operation storage = .error fault next := by
  have failure := (refines.agrees call).reply
  rw [answer] at failure
  have run := respond_error failure
  rw [performs] at run
  exact ⟨_, Operation.bind_pure_error.mp run⟩

end Storage.Refines

namespace RoundTrip

/-- What is reported of a file. -/
def copyOf (frameSize : Nat) (file : String × Bytes) : CopiedFile where
  name := file.1
  bytes := file.2.length
  frames := framesFor file.2.length frameSize

variable {config : Config} {reference : Reference} {storage : Storage Device}
  {opened : List ByteFile}

theorem free_eq (copied : reference.Copied config opened) :
    reference.free = config.geometry.totalFrames -
      framesOf (opened.map ByteFile.entry) config.geometry.frameSize := by
  rw [Reference.free, copied.used, copied.config, framesOf, List.map_map]
  rfl

/-- A file that was just opened takes no frames. -/
theorem free_opened {name : String}
    (copied : reference.Copied config (opened ++ [{ name := name }])) :
    reference.free = config.geometry.totalFrames -
      framesOf (opened.map ByteFile.entry) config.geometry.frameSize := by
  rw [free_eq copied, List.map_append, framesOf_append]
  simp [ByteFile.entry]

theorem named_iff {name : String} :
    name ∈ (opened.map ByteFile.entry).map Prod.fst ↔ ∃ file ∈ opened, file.name = name := by
  rw [List.map_map, List.mem_map]
  rfl

/-- A file with which nothing is wrong is copied. -/
theorem copyFile_clean (refines : Storage.Refines reference storage)
    (copied : reference.Copied config opened)
    (clean : offence? config.geometry (opened.map ByteFile.entry) file = none) :
    ∃ last after copy,
      copyFile file.1 file.2 storage = .ok (copyOf config.geometry.frameSize file) last ∧
      Storage.Refines after last ∧ after.Copied config (opened ++ [copy]) ∧ copy.entry = file := by
  obtain ⟨name, data⟩ := file
  obtain ⟨unnamed, new, room⟩ := offence?_eq_none_iff.mp clean
  have others : ∀ file ∈ opened, file.name ≠ name :=
    fun file member same => new (named_iff.mpr ⟨file, member, same⟩)
  obtain ⟨_, answer, copied⟩ := copied.openFile unnamed others
  obtain ⟨_, opening, refines⟩ := refines.succeeds rfl (fun _ _ => Reply.handle.inj) answer
  rw [← free_opened copied] at room
  obtain ⟨_, _, answer, copied, entry⟩ := copied.write room
  obtain ⟨_, writing, refines⟩ := refines.succeeds rfl (fun _ _ => Reply.written.inj) answer
  obtain ⟨_, _, answer, copied, same, start⟩ := copied.seek
  rw [entry] at same
  obtain ⟨_, seeking, refines⟩ := refines.completes rfl answer
  obtain ⟨_, copy, answer, copied, again⟩ := copied.readToEnd start
  rw [same] at answer again
  obtain ⟨_, reading, refines⟩ := refines.succeeds rfl (fun _ _ => Reply.bytes.inj) answer
  obtain ⟨_, asking, refines⟩ := refines.succeeds rfl (fun _ _ => Reply.info.inj) copied.info
  have frames : copy.frames.length = framesFor data.length config.geometry.frameSize := by
    have count := (refines.laid copied.file?_last).count
    rw [refines.shows.config, copied.config] at count
    have length : copy.content.length = data.length := congrArg (List.length ∘ Prod.snd) again
    exact count.trans (congrArg (framesFor · config.geometry.frameSize) length)
  refine ⟨_, _, copy, ?_, refines, copied, again⟩
  simp only [copyFile, Operation.bind_apply, lift_ok opening, lift_ok writing, lift_ok seeking,
    lift_ok reading, lift_ok asking, ne_eq, not_true_eq_false, if_false, Operation.pure_apply]
  rw [copyOf, ← frames]
  rfl

/-- A file with which something is wrong is refused for that reason. -/
theorem copyFile_offence (refines : Storage.Refines reference storage)
    (copied : reference.Copied config opened) {fault : Fault}
    (wrong : offence? config.geometry (opened.map ByteFile.entry) file = some fault) :
    ∃ last, copyFile file.1 file.2 storage = .error (.fault fault) last := by
  obtain ⟨name, data⟩ := file
  unfold offence? at wrong
  by_cases unnamed : name = ""
  · subst unnamed
    obtain rfl := Option.some.inj wrong
    obtain ⟨last, opening⟩ := refines.fails rfl copied.openFile_unnamed
    refine ⟨last, ?_⟩
    simp only [copyFile, Operation.bind_apply, lift_error opening]
  by_cases taken : name ∈ (opened.map ByteFile.entry).map Prod.fst
  · rw [if_neg unnamed, if_pos taken] at wrong
    obtain rfl := Option.some.inj wrong
    obtain ⟨last, opening⟩ := refines.fails rfl (copied.openFile_taken unnamed (named_iff.mp taken))
    refine ⟨last, ?_⟩
    simp only [copyFile, Operation.bind_apply, lift_error opening]
  · rw [if_neg unnamed, if_neg taken, ite_eq_iff] at wrong
    obtain ⟨few, same⟩ | ⟨_, ⟨⟩⟩ := wrong
    obtain rfl := Option.some.inj same
    have others : ∀ file ∈ opened, file.name ≠ name :=
      fun file member same => taken (named_iff.mpr ⟨file, member, same⟩)
    obtain ⟨_, answer, copied⟩ := copied.openFile unnamed others
    obtain ⟨_, opening, refines⟩ := refines.succeeds rfl (fun _ _ => Reply.handle.inj) answer
    rw [← free_opened copied] at few ⊢
    obtain ⟨last, writing⟩ := refines.fails rfl (copied.write_full few)
    refine ⟨last, ?_⟩
    simp only [copyFile, Operation.bind_apply, lift_ok opening, lift_error writing]

/-- Files are copied up to the first with which something is wrong. -/
theorem copyFiles_run (refines : Storage.Refines reference storage)
    (copied : reference.Copied config opened)
    (fits : Fits config.geometry (opened.map ByteFile.entry)) (files : List (String × Bytes)) :
    (∃ last after copies,
      copyFiles files storage = .ok (files.map (copyOf config.geometry.frameSize)) last ∧
      Storage.Refines after last ∧ after.Copied config (opened ++ copies) ∧
      copies.map ByteFile.entry = files ∧
      Fits config.geometry (opened.map ByteFile.entry ++ files)) ∨
    ∃ last before file rest fault, copyFiles files storage = .error (.fault fault) last ∧
      files = before ++ file :: rest ∧
      Fits config.geometry (opened.map ByteFile.entry ++ before) ∧
      offence? config.geometry (opened.map ByteFile.entry ++ before) file = some fault := by
  induction files generalizing reference storage opened with
  | nil =>
    refine Or.inl ⟨storage, reference, [], rfl, refines, ?_, rfl, ?_⟩
    · rwa [List.append_nil]
    · rwa [List.append_nil]
  | cons file rest ih =>
    cases offends : offence? config.geometry (opened.map ByteFile.entry) file with
    | some fault =>
      obtain ⟨last, failing⟩ := copyFile_offence refines copied offends
      refine Or.inr ⟨last, [], file, rest, fault, ?_, rfl, ?_, ?_⟩
      · simp only [copyFiles, Operation.bind_apply, failing]
      · rwa [List.append_nil]
      · rwa [List.append_nil]
    | none =>
      obtain ⟨middle, between, copy, copying, refines, copied, rfl⟩ :=
        copyFile_clean refines copied offends
      have fits := (fits_concat fits).mpr offends
      have entries : (opened ++ [copy]).map ByteFile.entry =
          opened.map ByteFile.entry ++ [copy.entry] := by
        rw [List.map_append, List.map_singleton]
      rw [← entries] at fits
      obtain ⟨last, after, copies, run, refines, copied, rfl, fits⟩ |
        ⟨last, before, file, rest, fault, run, rfl, fits, offends⟩ := ih refines copied fits
      · refine Or.inl ⟨last, after, copy :: copies, ?_, refines, ?_, rfl, ?_⟩
        · simp only [copyFiles, Operation.bind_apply, copying, run, Operation.pure_apply,
            List.map_cons]
        · simpa using copied
        · simpa using fits
      · refine Or.inr ⟨last, copy.entry :: before, file, rest, fault, ?_, rfl, ?_, ?_⟩
        · simp only [copyFiles, Operation.bind_apply, copying, run]
        · simpa using fits
        · simpa using offends

/-- The storage at the end of a round trip, before it is powered off. -/
theorem stats_copied (refines : Storage.Refines reference storage)
    (copied : reference.Copied config opened) :
    storage.stats.poweredOn = true ∧
      storage.stats.totalFrames = config.geometry.totalFrames ∧
      storage.stats.usedFrames =
        framesOf (opened.map ByteFile.entry) config.geometry.frameSize ∧
      storage.stats.openFiles = opened.length := by
  rw [refines.stats]
  refine ⟨copied.on, congrArg (·.geometry.totalFrames) copied.config, ?_, ?_⟩
  · refine copied.used.trans ?_
    rw [framesOf, List.map_map]
    rfl
  · change reference.files.length = _
    rw [← List.length_map Prod.snd, Reference.map_files, copied.reduceOption_slots]

/-- A round trip succeeds with a report on all the files, or ends at the first with which something is
wrong. -/
theorem run_cases (refines : Storage.Refines { config } storage) (files : List (String × Bytes)) :
    (∃ stats last,
      run files storage = .ok ⟨files.map (copyOf config.geometry.frameSize), stats⟩ last ∧
      Fits config.geometry files ∧ stats.poweredOn = true ∧
      stats.totalFrames = config.geometry.totalFrames ∧
      stats.usedFrames = framesOf files config.geometry.frameSize ∧
      stats.openFiles = files.length ∧ last.poweredOn = false) ∨
    ∃ last before file rest fault, run files storage = .error (.fault fault) last ∧
      files = before ++ file :: rest ∧ Fits config.geometry before ∧
      offence? config.geometry before file = some fault := by
  let started := (Reference.respond .powerOn { config }).2
  have copied : started.Copied config [] := ⟨rfl, rfl, [none], rfl, Or.inr rfl⟩
  have answer : Reference.respond .powerOn { config } = (.ok .done, started) := rfl
  obtain ⟨first, starting, refines⟩ := refines.completes rfl answer
  obtain ⟨middle, between, copies, copying, refines, copied, rfl, fits⟩ |
    ⟨last, before, file, rest, fault, failing, rfl, fits, offends⟩ :=
      copyFiles_run refines copied fits_nil files
  · obtain ⟨on, total, used, count⟩ := stats_copied refines copied
    have answer : Reference.respond .powerOff between = (.ok .done, { config := between.config }) :=
      if_pos copied.on
    obtain ⟨last, stopping, refines⟩ := refines.completes rfl answer
    refine Or.inl ⟨middle.stats, last, ?_, fits, on, total, used, ?_, refines.shows.poweredOn⟩
    · simp only [run, Operation.bind_apply, lift_ok starting, copying, Operation.get_apply,
        lift_ok stopping, Operation.pure_apply]
    · rw [count, List.nil_append, List.length_map]
  · refine Or.inr ⟨last, before, file, rest, fault, ?_, rfl, fits, offends⟩
    simp only [run, Operation.bind_apply, lift_ok starting, failing]

theorem run_ok_iff (refines : Storage.Refines { config } storage) {files : List (String × Bytes)} :
    (∃ report last, run files storage = .ok report last) ↔ Fits config.geometry files := by
  obtain ⟨stats, last, run, fits, _⟩ | ⟨last, before, file, rest, fault, run, rfl, fits, offends⟩ :=
    run_cases refines files
  · exact ⟨fun _ => fits, fun _ => ⟨_, _, run⟩⟩
  · refine ⟨?_, fun all => absurd all (not_fits_of_offence fits offends)⟩
    rintro ⟨report, after, again⟩
    cases run.symm.trans again

theorem run_ok (refines : Storage.Refines { config } storage) {files : List (String × Bytes)}
    {report : Report} {last : Storage Device} (success : run files storage = .ok report last) :
    report.files = files.map (copyOf config.geometry.frameSize) ∧ report.stats.poweredOn = true ∧
      report.stats.totalFrames = config.geometry.totalFrames ∧
      report.stats.usedFrames = framesOf files config.geometry.frameSize ∧
      report.stats.openFiles = files.length ∧ last.poweredOn = false := by
  obtain ⟨stats, after, run, _, told⟩ | ⟨after, _, _, _, _, run, _⟩ := run_cases refines files
  · obtain ⟨rfl, rfl⟩ := EStateM.Result.ok.inj (run.symm.trans success)
    exact ⟨rfl, told⟩
  · cases run.symm.trans success

theorem run_error (refines : Storage.Refines { config } storage) {files : List (String × Bytes)}
    {failure : Failure} {last : Storage Device}
    (failed : run files storage = .error failure last) :
    ∃ before file rest fault, files = before ++ file :: rest ∧ Fits config.geometry before ∧
      offence? config.geometry before file = some fault ∧ failure = .fault fault := by
  obtain ⟨stats, after, run, _⟩ | ⟨after, before, file, rest, fault, run, split, fits, offends⟩ :=
    run_cases refines files
  · cases run.symm.trans failed
  · obtain ⟨rfl, rfl⟩ := EStateM.Result.error.inj (run.symm.trans failed)
    exact ⟨before, file, rest, fault, split, fits, offends, rfl⟩

variable {frameSize : Nat}

theorem sum_map_filter_pos {count : Nat → Nat} (zero : count 0 = 0) (lengths : List Nat) :
    ((lengths.filter (0 < ·)).map count).sum = (lengths.map count).sum := by
  induction lengths with
  | nil => rfl
  | cons length rest ih =>
    rcases Nat.eq_zero_or_pos length with rfl | positive
    · simpa [zero] using ih
    · simp [positive, ih]

theorem framesOf_testFiles (frameSize size : Nat) :
    framesOf (testFiles frameSize) size =
      ([1, frameSize - 1, frameSize, frameSize + 1, 10 * frameSize].map (framesFor · size)).sum := by
  have count : framesFor 0 size = 0 := framesFor_zero
  rw [← @sum_map_filter_pos (framesFor · size) count, framesOf, testFiles]
  generalize List.filter _ _ = lengths
  rw [List.mapIdx_eq_zipIdx_map, List.map_map]
  nth_rewrite 2 [← List.zipIdx_map_fst 0 lengths]
  rw [List.map_map]
  congr 2
  funext place
  simp

theorem names_testFiles (frameSize : Nat) :
    ∃ count, (testFiles frameSize).map Prod.fst =
      (List.range' 0 count).map fun index => "selftest-" ++ index.repr ++ ".bin" := by
  refine ⟨([1, frameSize - 1, frameSize, frameSize + 1, 10 * frameSize].filter (0 < ·)).length, ?_⟩
  rw [testFiles, List.mapIdx_eq_zipIdx_map, List.map_map, ← List.zipIdx_map_snd, List.map_map]
  rfl

theorem fits_testFiles_iff :
    Fits geometry (testFiles frameSize) ↔
      framesOf (testFiles frameSize) geometry.frameSize ≤ geometry.totalFrames := by
  obtain ⟨count, names⟩ := names_testFiles frameSize
  refine ⟨Fits.room, fun room => ⟨fun file member => ?_, ?_, room⟩⟩
  · have listed := List.mem_map_of_mem (f := Prod.fst) member
    rw [names] at listed
    obtain ⟨index, _, same⟩ := List.mem_map.mp listed
    intro unnamed
    rw [unnamed, String.append_eq_empty_iff, String.append_eq_empty_iff] at same
    exact absurd same.2 (by decide)
  · rw [names]
    refine (List.nodup_range' 1).map fun index other same => ?_
    exact Nat.repr_inj.mp ((String.append_right_inj _).mp ((String.append_left_inj _).mp same))

/-- The files of a self test take fifteen frames, or fourteen of a single byte each. -/
theorem framesOf_testFiles_self (positive : 0 < frameSize) :
    framesOf (testFiles frameSize) frameSize = if frameSize = 1 then 14 else 15 := by
  have one : framesFor frameSize frameSize = 1 := framesFor_of_le positive positive (Nat.le_refl _)
  have two : framesFor (frameSize + 1) frameSize = 2 := by
    rw [Nat.add_comm, framesFor_add_size positive, framesFor_of_le positive Nat.one_pos positive]
  have byte := framesFor_of_le positive Nat.one_pos positive
  rw [framesOf_testFiles]
  simp only [List.map_cons, List.map_nil, List.sum_cons, List.sum_nil, one, two, byte, framesFor_mul positive]
  by_cases single : frameSize = 1
  · subst single
    rfl
  · rw [if_neg single, framesFor_of_le positive (by omega) (by omega)]
    rfl

/-- A self test succeeds just if its files fit on the bank. -/
theorem selftest_done_iff (passed : config.validate = .ok ()) (invocation : Invocation) :
    (∃ output, CommandLine.selftest invocation config = .done output) ↔
      (if config.geometry.frameSize = 1 then 14 else 15) ≤ config.geometry.totalFrames := by
  have positive := (Config.validate_ok passed).1.frameSize_pos
  rw [← framesOf_testFiles_self positive, ← fits_testFiles_iff,
    ← run_ok_iff (.created passed rfl (Device.Arises.created config.geometry).whole rfl)]
  have made := (@Storage.create_eq_ok_iff _ _ ({ geometry := config.geometry } : Device) _).mpr
    ⟨passed, rfl⟩
  simp only [CommandLine.selftest, made, CommandLine.report]
  cases @run Device _ (testFiles config.geometry.frameSize) _ with
  | ok report last => simp
  | error failure last => simp

/-- A round trip over a device that is to refuse nothing succeeds just if all names are given and differ,
and the files fit on the bank. It reports each file with its length and its frames, and what they take
together, and leaves the storage off. Otherwise it ends at the first file with which something is wrong,
and tells what; content never reads back differently. A self test needs fifteen frames, or fourteen of a
single byte each. -/
theorem verifies_exactly {device : Device} (passed : config.validate = .ok ())
    (shape : device.geometry = config.geometry) (arises : device.Arises)
    (unarmed : device.faults = {}) :
    let size := config.geometry.frameSize
    let total := config.geometry.totalFrames
    (∃ storage, Storage.create config device = .ok storage ∧ ∀ files : List (String × Bytes),
      let needed := (files.map fun file => framesFor file.2.length size).sum
      ((∃ report last, run files storage = .ok report last) ↔
        (∀ file ∈ files, file.1 ≠ "") ∧ (files.map Prod.fst).Nodup ∧ needed ≤ total) ∧
      (∀ report last, run files storage = .ok report last →
        report.files = files.map (fun file =>
          { name := file.1, bytes := file.2.length, frames := framesFor file.2.length size }) ∧
        report.stats.poweredOn = true ∧ report.stats.totalFrames = total ∧
        report.stats.usedFrames = needed ∧ report.stats.openFiles = files.length ∧
        last.poweredOn = false) ∧
      ∀ failure last, run files storage = .error failure last →
        (∀ name, failure ≠ .differs name) ∧ ∃ before file rest fault,
          files = before ++ file :: rest ∧ Fits config.geometry before ∧
          offence? config.geometry before file = some fault ∧ failure = .fault fault) ∧
    ∀ invocation,
      (2 ≤ size →
        ((∃ output, CommandLine.selftest invocation config = .done output) ↔ 15 ≤ total)) ∧
      (size = 1 →
        ((∃ output, CommandLine.selftest invocation config = .done output) ↔ 14 ≤ total)) := by
  intro size total
  have refines := Storage.Refines.created passed shape arises.whole unarmed
  refine ⟨⟨_, Storage.create_eq_ok_iff.mpr ⟨passed, rfl⟩, fun files => ⟨?_, ?_, ?_⟩⟩,
    fun invocation => ⟨fun large => ?_, fun single => ?_⟩⟩
  · rw [run_ok_iff refines]
    exact ⟨fun fits => ⟨fits.named, fits.distinct, fits.room⟩,
      fun ⟨named, distinct, room⟩ => ⟨named, distinct, room⟩⟩
  · exact fun report last => run_ok refines
  · intro failure last failed
    obtain ⟨before, file, rest, fault, split, fits, offends, rfl⟩ := run_error refines failed
    exact ⟨nofun, before, file, rest, fault, split, fits, offends, rfl⟩
  · rw [selftest_done_iff passed, if_neg (by omega)]
  · rw [selftest_done_iff passed, if_pos single]

/-- Five bytes and an empty file are copied with one frame of cache. A name cannot be used twice, and
four frames are too few for a self test. -/
theorem verifies_exactly_one_slot :
    (∃ storage, Storage.create { geometry := ⟨2, 2, 4⟩, cacheFrames := 1 }
        ({ geometry := ⟨2, 2, 4⟩ } : Device) = .ok storage ∧
      (∃ report last, run [("a", [1, 2, 3, 4, 5]), ("b", [])] storage = .ok report last ∧
        report.files = [⟨"a", 5, 2⟩, ⟨"b", 0, 0⟩] ∧ report.stats.usedFrames = 2 ∧
        last.poweredOn = false) ∧
      ¬∃ report last, run [("a", [1]), ("a", [])] storage = .ok report last) ∧
    ∀ invocation, ¬∃ output, CommandLine.selftest invocation
      { geometry := ⟨2, 2, 4⟩, cacheFrames := 1 } = .done output := by
  obtain ⟨⟨storage, made, trips⟩, tests⟩ :=
    @verifies_exactly { geometry := ⟨2, 2, 4⟩, cacheFrames := 1 } { geometry := ⟨2, 2, 4⟩ } rfl rfl
      (.created _) rfl
  refine ⟨⟨storage, made, ?_, fun success => ?_⟩, fun invocation success => ?_⟩
  · obtain ⟨succeeds, reports, _⟩ := trips [("a", [1, 2, 3, 4, 5]), ("b", [])]
    obtain ⟨report, last, run⟩ := succeeds.mpr (by decide)
    obtain ⟨files, _, _, used, _, off⟩ := reports report last run
    exact ⟨report, last, run, files, used, off⟩
  · exact absurd ((trips [("a", [1]), ("a", [])]).1.mp success) (by decide)
  · exact absurd (((tests invocation).1 (by decide)).mp success) (by decide)

end RoundTrip

end CartridgeBank
