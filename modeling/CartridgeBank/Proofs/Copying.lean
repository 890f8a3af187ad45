import CartridgeBank.Proofs.Refines

namespace CartridgeBank

/-- A file as it was before it was copied. -/
def ByteFile.entry (file : ByteFile) : String × Bytes := (file.name, file.content)

namespace Reference

variable {reference : Reference} {files : List ByteFile} {file : ByteFile} {config : Config}
  {name : String} {data : Bytes}

theorem filterMap_getElem?_range (slots : List (Option ByteFile)) :
    (List.range slots.length).filterMap (fun slot => slots[slot]?.join) = slots.reduceOption := by
  induction slots with
  | nil => rfl
  | cons first rest ih =>
    rw [List.length_cons, List.range_succ_eq_map, List.filterMap_cons, List.filterMap_map]
    cases first <;> simpa [Function.comp_def] using ih

/-- The open files are those of the slots that are taken. -/
theorem map_files (reference : Reference) :
    reference.files.map Prod.snd = reference.slots.reduceOption := by
  rw [Reference.files, List.map_filterMap, ← filterMap_getElem?_range]
  congr 1
  funext slot
  rw [Option.map_map]
  exact congrFun Option.map_id _

theorem used_eq (reference : Reference) :
    reference.used = (reference.slots.reduceOption.map fun file =>
      framesFor file.content.length reference.frameSize).sum := by
  rw [used, ← map_files, List.map_map]
  rfl

/-- No open file has a name that is not found. -/
theorem lookup?_eq_none_iff :
    reference.lookup? name = none ↔ ∀ file ∈ reference.slots.reduceOption, file.name ≠ name := by
  rw [lookup?, Option.map_eq_none_iff, List.find?_eq_none, ← map_files]
  constructor
  · intro others file member
    obtain ⟨entry, listed, rfl⟩ := List.mem_map.mp member
    simpa using others entry listed
  · intro others entry listed
    simpa using others entry.2 (List.mem_map_of_mem listed)

/-- A powered-on storage with files in its first slots, and none in the others. -/
structure Copied (reference : Reference) (config : Config) (files : List ByteFile) : Prop where
  config : reference.config = config
  on : reference.poweredOn = true
  slots : ∃ free, reference.slots = files.map some ++ free ∧ (free = [] ∨ free = [none])

namespace Copied

theorem reduceOption_slots (copied : reference.Copied config files) :
    reference.slots.reduceOption = files := by
  obtain ⟨free, slots, empty⟩ := copied.slots
  have vacant : free.reduceOption = [] := by rcases empty with rfl | rfl <;> rfl
  rw [slots, List.reduceOption_append, vacant, List.append_nil, List.reduceOption,
    List.filterMap_map, Function.id_comp, List.filterMap_some]

theorem used (copied : reference.Copied config files) :
    reference.used = (files.map fun file =>
      framesFor file.content.length config.geometry.frameSize).sum := by
  rw [used_eq, copied.reduceOption_slots, frameSize, copied.config]

/-- The next file goes behind the others. -/
theorem vacancy (copied : reference.Copied config files) :
    reference.slots.findIdx Option.isNone = files.length := by
  obtain ⟨free, slots, empty⟩ := copied.slots
  have taken : (files.map some).findIdx Option.isNone = (files.map some).length :=
    List.findIdx_eq_length.mpr (by simp)
  rw [slots, List.findIdx_append, taken, if_neg (Nat.lt_irrefl _), List.length_map]
  rcases empty with rfl | rfl <;> simp

theorem file?_last (copied : reference.Copied config (files ++ [file])) :
    reference.file? ⟨files.length⟩ = some file := by
  obtain ⟨free, slots, _⟩ := copied.slots
  rw [file?, slots]
  simp

theorem update_last (copied : reference.Copied config (files ++ [file])) (after : ByteFile)
    (change : Usage → Usage) :
    (reference.update ⟨files.length⟩ (some after) change).Copied config (files ++ [after]) := by
  obtain ⟨free, slots, empty⟩ := copied.slots
  refine ⟨copied.config, copied.on, free, ?_, empty⟩
  simp [update, slots]

theorem openFile (copied : reference.Copied config files) (unnamed : name ≠ "")
    (new : ∀ file ∈ files, file.name ≠ name) :
    ∃ next, respond (.openFile name) reference = (.ok (.handle ⟨files.length⟩), next) ∧
      next.Copied config (files ++ [{ name := name }]) := by
  have absent : reference.lookup? name = none := by
    rw [lookup?_eq_none_iff, copied.reduceOption_slots]
    exact new
  have opened : respond (.openFile name) reference = (.ok (.handle ⟨files.length⟩), { reference with
      slots := reference.slots.take files.length ++
        some { name := name } :: reference.slots.drop (files.length + 1) }) := by
    simp [respond, openNew, copied.on, unnamed, absent, copied.vacancy]
  obtain ⟨free, slots, empty⟩ := copied.slots
  have front : reference.slots.take files.length = files.map some := by
    rw [slots]
    exact List.take_left' (List.length_map _)
  have behind : reference.slots.drop (files.length + 1) = [] :=
    List.drop_of_length_le (by rcases empty with rfl | rfl <;> simp [slots])
  refine ⟨_, opened, copied.config, copied.on, [], ?_, Or.inl rfl⟩
  simp [front, behind]

theorem openFile_unnamed (copied : reference.Copied config files) :
    respond (.openFile "") reference = (.error .emptyName, reference) := by
  simp [respond, openNew, copied.on]

theorem openFile_taken (copied : reference.Copied config files) (unnamed : name ≠ "")
    (taken : ∃ file ∈ files, file.name = name) :
    respond (.openFile name) reference = (.error (.duplicateFile name), reference) := by
  have found : (reference.lookup? name).isSome = true := by
    rw [Option.isSome_iff_ne_none, Ne, lookup?_eq_none_iff, copied.reduceOption_slots]
    obtain ⟨file, member, named⟩ := taken
    exact fun others => others file member named
  simp [respond, openNew, copied.on, unnamed, found]

/-- A new file takes all of its content at once. -/
theorem write (copied : reference.Copied config (files ++ [{ name := name }]))
    (room : framesFor data.length config.geometry.frameSize ≤ reference.free) :
    ∃ next after, respond (.write ⟨files.length⟩ data) reference = (.ok (.written data.length), next) ∧
      next.Copied config (files ++ [after]) ∧ after.entry = (name, data) := by
  have present := copied.file?_last
  by_cases empty : data = []
  · subst empty
    exact ⟨reference, _, (onFile_present copied.on present).trans (if_pos rfl), copied, rfl⟩
  · have enough : ¬((0 : Nat) < 0 + data.length ∧
        reference.free < framesFor (0 + data.length) reference.frameSize) := by
      rw [Nat.zero_add, frameSize, copied.config]
      omega
    refine ⟨_, _, (onFile_present copied.on present).trans ((if_neg empty).trans (if_neg enough)),
      copied.update_last _ _, ?_⟩
    rw [ByteFile.entry, ByteFile.overwritten_eq (Nat.le_refl 0)]
    simp [Storage.splice]

theorem write_full (copied : reference.Copied config (files ++ [{ name := name }]))
    (few : reference.free < framesFor data.length config.geometry.frameSize) :
    respond (.write ⟨files.length⟩ data) reference =
      (.error (.outOfSpace (framesFor data.length config.geometry.frameSize) reference.free),
        reference) := by
  have nonempty : data ≠ [] := by
    rintro rfl
    simp at few
  have grows : 0 < data.length := List.length_pos_iff.mpr nonempty
  have size : reference.frameSize = config.geometry.frameSize := by rw [frameSize, copied.config]
  refine (onFile_present copied.on copied.file?_last).trans ((if_neg nonempty).trans ?_)
  simp [size, few, grows]

theorem seek (copied : reference.Copied config (files ++ [file])) :
    ∃ next after, respond (.seek ⟨files.length⟩ 0) reference = (.ok .done, next) ∧
      next.Copied config (files ++ [after]) ∧ after.entry = file.entry ∧ after.position = 0 :=
  ⟨_, { file with position := 0 },
    (onFile_present copied.on copied.file?_last).trans (if_pos (Nat.zero_le _)),
    copied.update_last _ _, rfl, rfl⟩

/-- From its start, a file reads back as it was written. -/
theorem readToEnd (copied : reference.Copied config (files ++ [file])) (start : file.position = 0) :
    ∃ next after, respond (.readToEnd ⟨files.length⟩) reference = (.ok (.bytes file.entry.2), next) ∧
      next.Copied config (files ++ [after]) ∧ after.entry = file.entry := by
  have present := copied.file?_last
  by_cases empty : file.content = []
  · have ended : file.content.length ≤ file.position := by simp [empty]
    refine ⟨reference, file, ?_, copied, rfl⟩
    rw [ByteFile.entry, empty]
    exact (onFile_present copied.on present).trans (if_pos ended)
  · have more : ¬file.content.length ≤ file.position := by
      rw [start, Nat.not_le]
      exact List.length_pos_iff.mpr empty
    have whole : (file.content.drop file.position).take (min (file.content.length - file.position)
        (file.content.length - file.position)) = file.content := by
      rw [start, List.drop_zero, Nat.min_self, Nat.sub_zero, List.take_length]
    have answer : respond (.readToEnd ⟨files.length⟩) reference =
        reference.readAt ⟨files.length⟩ file (file.content.length - file.position) :=
      (onFile_present copied.on present).trans (if_neg more)
    rw [readAt, whole] at answer
    exact ⟨_, _, answer, copied.update_last _ _, rfl⟩

theorem info (copied : reference.Copied config (files ++ [file])) :
    respond (.info ⟨files.length⟩) reference = (.ok (.info (file.stored.info ⟨files.length⟩)),
      reference) :=
  onFile_present copied.on copied.file?_last

end Copied

end Reference

end CartridgeBank
