import CartridgeBank.Frame
import Mathlib

namespace CartridgeBank

variable {size : Nat} {content : Bytes}

@[simp] theorem framesFor_zero : framesFor 0 size = 0 := by
  rw [framesFor, Nat.zero_add]
  rcases size with _ | size
  · rfl
  · exact Nat.div_eq_of_lt (by omega)

theorem framesFor_le_iff (positive : 0 < size) {bytes frames : Nat} :
    framesFor bytes size ≤ frames ↔ bytes ≤ frames * size := by
  rw [framesFor, ← Nat.lt_succ_iff, Nat.div_lt_iff_lt_mul positive, Nat.succ_mul]
  omega

theorem le_framesFor_mul (positive : 0 < size) (bytes : Nat) : bytes ≤ framesFor bytes size * size :=
  (framesFor_le_iff positive).mp (Nat.le_refl _)

theorem framesFor_mono (positive : 0 < size) {fewer more : Nat} (le : fewer ≤ more) :
    framesFor fewer size ≤ framesFor more size :=
  (framesFor_le_iff positive).mpr (Nat.le_trans le (le_framesFor_mul positive more))

theorem framesFor_of_le (positive : 0 < size) {bytes : Nat} (some : 0 < bytes) (le : bytes ≤ size) :
    framesFor bytes size = 1 := by
  rw [framesFor]
  exact (Nat.div_eq_iff positive).mpr ⟨by omega, by omega⟩

theorem framesFor_add_size (positive : 0 < size) (bytes : Nat) :
    framesFor (bytes + size) size = framesFor bytes size + 1 := by
  rw [framesFor, framesFor, show bytes + size + size - 1 = bytes + size - 1 + size by omega,
    Nat.add_div_right _ positive]

theorem framesFor_mul (positive : 0 < size) (count : Nat) : framesFor (count * size) size = count := by
  have split : count * size + size - 1 = size - 1 + count * size := by omega
  rw [framesFor, split, Nat.add_mul_div_right _ _ positive, Nat.div_eq_of_lt (by omega),
    Nat.zero_add]

@[simp] theorem length_padFrame (chunk : Bytes) : (padFrame chunk size).length = size := by
  simp only [padFrame, List.length_append, List.length_take, List.length_replicate]
  omega

/-- Content as whole frames, the last one filled up with zeros. -/
def blocks (content : Bytes) (size : Nat) : List Bytes := (chunks content size).map (padFrame · size)

theorem length_of_mem_blocks {block : Bytes} (member : block ∈ blocks content size) :
    block.length = size := by
  obtain ⟨chunk, _, rfl⟩ := List.mem_map.mp member
  exact length_padFrame chunk

@[simp] theorem blocks_nil : blocks [] size = [] := by
  simp [blocks, chunks]

theorem chunks_eq_cons (positive : 0 < size) (nonempty : content ≠ []) :
    chunks content size = content.take size :: chunks (content.drop size) size := by
  rw [chunks, dif_neg (not_or.mpr ⟨nonempty, Nat.ne_of_gt positive⟩)]

theorem blocks_eq_cons (positive : 0 < size) (nonempty : content ≠ []) :
    blocks content size = padFrame (content.take size) size :: blocks (content.drop size) size := by
  rw [blocks, chunks_eq_cons positive nonempty]
  rfl

theorem padFrame_take_of_le (full : size ≤ content.length) :
    padFrame (content.take size) size = content.take size := by
  simp [padFrame, List.take_take, List.length_take, Nat.min_eq_left full]

theorem padFrame_of_le (short : content.length ≤ size) :
    padFrame content size = content ++ List.replicate (size - content.length) 0 := by
  rw [padFrame, List.take_of_length_le short]

theorem length_blocks (positive : 0 < size) (content : Bytes) :
    (blocks content size).length = framesFor content.length size := by
  induction remaining : content.length using Nat.strongRecOn generalizing content with
  | ind length ih =>
    by_cases empty : content = []
    · subst empty
      rw [← remaining, blocks_nil]
      exact framesFor_zero.symm
    · have some : 0 < content.length := List.length_pos_iff.mpr empty
      rw [blocks_eq_cons positive empty, List.length_cons,
        ih (content.drop size).length (by rw [List.length_drop]; omega) _ rfl, List.length_drop,
        ← remaining]
      by_cases short : content.length ≤ size
      · rw [Nat.sub_eq_zero_of_le short, framesFor_zero,
          framesFor_of_le positive some short]
      · rw [← framesFor_add_size positive]
        congr 1
        omega

theorem length_chunks (positive : 0 < size) (content : Bytes) :
    (chunks content size).length = framesFor content.length size := by
  rw [← length_blocks positive content, blocks, List.length_map]

/-- Frames put together are the content, followed by the zeros that fill up the last one. -/
theorem flatten_blocks (positive : 0 < size) (content : Bytes) :
    ∃ padding, (blocks content size).flatten = content ++ List.replicate padding 0 := by
  induction remaining : content.length using Nat.strongRecOn generalizing content with
  | ind length ih =>
    by_cases empty : content = []
    · subst empty
      exact ⟨0, by simp⟩
    · have some : 0 < content.length := List.length_pos_iff.mpr empty
      rw [blocks_eq_cons positive empty, List.flatten_cons]
      by_cases short : content.length ≤ size
      · rw [List.drop_of_length_le short, blocks_nil, List.take_of_length_le short,
          padFrame_of_le short]
        exact ⟨size - content.length, by simp⟩
      · obtain ⟨padding, rest⟩ := ih (content.drop size).length
          (by rw [List.length_drop]; omega) (content.drop size) rfl
        rw [rest, padFrame_take_of_le (by omega), ← List.append_assoc, List.take_append_drop]
        exact ⟨padding, rfl⟩

theorem take_flatten_blocks (positive : 0 < size) (content : Bytes) :
    (blocks content size).flatten.take content.length = content := by
  obtain ⟨padding, whole⟩ := flatten_blocks positive content
  rw [whole, List.take_left]

theorem flatten_drop {frames : List Bytes} (full : ∀ frame ∈ frames, frame.length = size)
    (count : Nat) : (frames.drop count).flatten = frames.flatten.drop (count * size) := by
  induction frames generalizing count with
  | nil => simp
  | cons frame rest ih =>
    cases count with
    | zero => simp
    | succ count =>
      have first := full frame List.mem_cons_self
      have past : frame.length ≤ (count + 1) * size := by rw [first, Nat.succ_mul]; omega
      have left : count * size = (count + 1) * size - frame.length := by
        rw [first, Nat.succ_mul]
        omega
      rw [List.drop_succ_cons, ih (fun block member => full block (List.mem_cons_of_mem _ member)),
        List.flatten_cons, List.drop_append, List.drop_of_length_le past, List.nil_append, left]

theorem flatten_take {frames : List Bytes} (full : ∀ frame ∈ frames, frame.length = size)
    (count : Nat) : (frames.take count).flatten = frames.flatten.take (count * size) := by
  induction frames generalizing count with
  | nil => simp
  | cons frame rest ih =>
    cases count with
    | zero => simp
    | succ count =>
      have first := full frame List.mem_cons_self
      have past : frame.length ≤ (count + 1) * size := by rw [first, Nat.succ_mul]; omega
      have left : count * size = (count + 1) * size - frame.length := by
        rw [first, Nat.succ_mul]
        omega
      rw [List.take_succ_cons, List.flatten_cons, List.flatten_cons,
        ih (fun block member => full block (List.mem_cons_of_mem _ member)), List.take_append,
        List.take_of_length_le past, left]

theorem length_flatten {frames : List Bytes} (full : ∀ frame ∈ frames, frame.length = size) :
    frames.flatten.length = frames.length * size := by
  induction frames with
  | nil => simp
  | cons frame rest ih =>
    rw [List.flatten_cons, List.length_append, full frame List.mem_cons_self,
      ih fun block member => full block (List.mem_cons_of_mem _ member), List.length_cons,
      Nat.succ_mul, Nat.add_comm]

/-- A window onto the content needs only the frames that it touches. -/
theorem flatten_window {frames : List Bytes} (positive : 0 < size)
    (full : ∀ frame ∈ frames, frame.length = size) {position count : Nat} (some : 0 < count) :
    ((((frames.drop (position / size)).take
        ((position + count - 1) / size + 1 - position / size)).flatten.drop
          (position % size)).take count) = (frames.flatten.drop position).take count := by
  have fullRest : ∀ frame ∈ frames.drop (position / size), frame.length = size :=
    fun frame member => full frame (List.mem_of_mem_drop member)
  have start : position / size * size + position % size = position := by
    rw [Nat.mul_comm]
    exact Nat.div_add_mod _ _
  have ordered : position / size ≤ (position + count - 1) / size :=
    Nat.div_le_div_right (by omega)
  have last : position + count - 1 < ((position + count - 1) / size + 1) * size := by
    rw [Nat.mul_comm]
    exact Nat.lt_mul_div_succ _ positive
  rw [flatten_take fullRest, flatten_drop full, List.drop_take, List.drop_drop, start,
    List.take_take]
  congr 1
  rw [Nat.sub_mul]
  omega

/-- The same for content that is cut into frames. -/
theorem blocks_window (positive : 0 < size) {position count : Nat} (some : 0 < count)
    (within : position + count ≤ content.length) :
    (((((blocks content size).drop (position / size)).take
        ((position + count - 1) / size + 1 - position / size)).flatten.drop
          (position % size)).take count) = (content.drop position).take count := by
  obtain ⟨padding, whole⟩ := flatten_blocks positive content
  rw [flatten_window positive (fun _ => length_of_mem_blocks) some, whole,
    List.drop_append_of_le_length (by omega),
    List.take_append_of_le_length (by rw [List.length_drop]; omega)]

end CartridgeBank
