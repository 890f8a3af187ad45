import CartridgeBank.Proofs.FrameCache

namespace CartridgeBank

namespace FrameCache

variable {slots : List (Option CachedFrame)} {clock slot : Nat} {order : List CachedFrame}
  {entry new : CachedFrame} {cache : FrameCache}

theorem entries_set_some (bound : slot < slots.length) :
    ((slots.set slot (some new)).filterMap id).Perm
      (new :: (slots.set slot none).filterMap id) := by
  induction slots generalizing slot with
  | nil => cases bound
  | cons head rest ih =>
    cases slot with
    | zero => simp
    | succ before =>
      have inner := @ih before (Nat.lt_of_succ_lt_succ bound)
      cases head with
      | none => simpa using inner
      | some first =>
        have lifted := (inner.cons first).trans (List.Perm.swap new first _)
        simpa using lifted

/-- Taking an entry out of its slot leaves all others. -/
theorem entries_perm_of_at (held : slots[slot]? = some (some entry)) :
    (slots.filterMap id).Perm (entry :: (slots.set slot none).filterMap id) := by
  obtain ⟨bound, same⟩ := List.getElem?_eq_some_iff.mp held
  have put := @entries_set_some slots slot entry bound
  have nothing : slots.set slot (some entry) = slots := by
    rw [← same]
    exact List.set_getElem_self bound
  rwa [nothing] at put

/-- The entries of the slots in the order of their stamps, none of which the clock has yet to reach,
and no two of which are equal. -/
structure Ranks (slots : List (Option CachedFrame)) (clock : Nat) (order : List CachedFrame) :
    Prop where
  perm : order.Perm (slots.filterMap id)
  apart : order.Pairwise fun a b => a.location ≠ b.location
  rising : order.Pairwise fun a b => a.stamp < b.stamp
  past : ∀ entry ∈ order, entry.stamp ≤ clock

namespace Ranks

theorem later {more : Nat} (ranks : Ranks slots clock order) (passed : clock ≤ more) :
    Ranks slots more order :=
  ⟨ranks.perm, ranks.apart, ranks.rising, fun entry member =>
    (ranks.past entry member).trans passed⟩

theorem mem (ranks : Ranks slots clock order) (held : slots[slot]? = some (some entry)) :
    entry ∈ order :=
  ranks.perm.mem_iff.mpr (List.mem_filterMap.mpr ⟨some entry, List.mem_of_getElem? held, rfl⟩)

theorem exists_slot (ranks : Ranks slots clock order) (member : entry ∈ order) :
    ∃ slot : Nat, slots[slot]? = some (some entry) := by
  obtain ⟨held, inSlots, same⟩ := List.mem_filterMap.mp (ranks.perm.mem_iff.mp member)
  obtain rfl : held = some entry := same
  exact List.mem_iff_getElem?.mp inSlots

/-- No two entries share a location. -/
theorem unique (ranks : Ranks slots clock order) {a b : CachedFrame} (memberA : a ∈ order)
    (memberB : b ∈ order) (same : a.location = b.location) : a = b := by
  have distinct : (order.map CachedFrame.location).Nodup := List.pairwise_map.mpr ranks.apart
  exact List.inj_on_of_nodup_map distinct memberA memberB same

theorem distinct (ranks : Ranks cache.slots clock order) : cache.Distinct := by
  have apart := (ranks.perm.pairwise_iff fun different => Ne.symm different).mp ranks.apart
  have separate := List.pairwise_iff_getElem.mp (List.pairwise_filterMap.mp apart)
  intro i j a b atI atJ same
  obtain ⟨boundI, heldI⟩ := List.getElem?_eq_some_iff.mp atI
  obtain ⟨boundJ, heldJ⟩ := List.getElem?_eq_some_iff.mp atJ
  by_contra different
  rcases Nat.lt_or_gt_of_ne different with before | after
  · exact separate i j boundI boundJ before a heldI b heldJ same
  · exact separate j i boundJ boundI after b heldJ a heldI same.symm

/-- Without one entry, the others keep their order. -/
theorem emptied (ranks : Ranks slots clock order) (held : slots[slot]? = some (some entry)) :
    Ranks (slots.set slot none) clock (order.filter (·.location ≠ entry.location)) := by
  have whole : order.Perm (entry :: (slots.set slot none).filterMap id) :=
    ranks.perm.trans (entries_perm_of_at held)
  have apart := (whole.pairwise_iff fun different => Ne.symm different).mp ranks.apart
  have others : ((slots.set slot none).filterMap id).filter (·.location ≠ entry.location) =
      (slots.set slot none).filterMap id := by
    refine List.filter_eq_self.mpr fun other member => ?_
    have different := (List.pairwise_cons.mp apart).1 other member
    simpa using different.symm
  refine ⟨?_, ranks.apart.filter _, ranks.rising.filter _, fun other member =>
    ranks.past other (List.mem_of_mem_filter member)⟩
  have filtered := whole.filter fun other => decide (other.location ≠ entry.location)
  rw [List.filter_cons_of_neg (by simp), others] at filtered
  exact filtered

/-- An entry of a new location with a new stamp comes last. -/
theorem filled (ranks : Ranks slots clock order) (vacant : slots[slot]? = some none)
    (fresh : ∀ entry ∈ order, entry.location ≠ new.location)
    (behind : ∀ entry ∈ order, entry.stamp < new.stamp) :
    Ranks (slots.set slot (some new)) new.stamp (order ++ [new]) := by
  obtain ⟨bound, same⟩ := List.getElem?_eq_some_iff.mp vacant
  have nothing : slots.set slot none = slots := by
    rw [← same]
    exact List.set_getElem_self bound
  have put := @entries_set_some slots slot new bound
  rw [nothing] at put
  refine ⟨?_, ?_, ?_, ?_⟩
  · exact (List.perm_append_singleton new order).trans ((ranks.perm.cons new).trans put.symm)
  · refine List.pairwise_append.mpr ⟨ranks.apart, List.pairwise_singleton _ _, ?_⟩
    simpa using fresh
  · refine List.pairwise_append.mpr ⟨ranks.rising, List.pairwise_singleton _ _, ?_⟩
    simpa using behind
  · intro entry member
    rcases List.mem_append.mp member with old | last
    · exact (behind entry old).le
    · obtain rfl := List.mem_singleton.mp last
      exact le_rfl

/-- An entry that takes the place of another one comes last. -/
theorem replaced (ranks : Ranks slots clock order) (held : slots[slot]? = some (some entry))
    (fresh : ∀ other ∈ order, other.location ≠ entry.location → other.location ≠ new.location)
    (stamped : clock < new.stamp) :
    Ranks (slots.set slot (some new)) new.stamp
      (order.filter (·.location ≠ entry.location) ++ [new]) := by
  have bound := (List.getElem?_eq_some_iff.mp held).1
  have vacant : (slots.set slot none)[slot]? = some none := List.getElem?_set_self bound
  have apart : ∀ other ∈ order.filter (·.location ≠ entry.location),
      other.location ≠ new.location := by
    intro other member
    obtain ⟨inOrder, different⟩ := List.mem_filter.mp member
    exact fresh other inOrder (by simpa using different)
  have behind : ∀ other ∈ order.filter (·.location ≠ entry.location), other.stamp < new.stamp := by
    intro other member
    have passed := ranks.past other (List.mem_of_mem_filter member)
    omega
  have refilled := (ranks.emptied held).filled vacant apart behind
  rwa [List.set_set] at refilled

end Ranks

/-- The first entry by last use is the one with the smallest stamp, in whichever slot it lies. -/
theorem oldest?_eq (ranks : Ranks cache.slots clock (entry :: order)) :
    ∃ slot, cache.oldest? = some slot ∧ cache.slots[slot]? = some (some entry) := by
  have smallest : cache.oldestStamp? = some entry.stamp := by
    have stamps : (cache.entries.map CachedFrame.stamp).Perm ((entry :: order).map CachedFrame.stamp) :=
      (ranks.perm.map _).symm
    refine List.min?_eq_some_iff.mpr ⟨stamps.mem_iff.mpr List.mem_cons_self, fun stamp member => ?_⟩
    rcases List.mem_cons.mp (stamps.mem_iff.mp member) with same | later
    · exact same.ge
    · obtain ⟨other, inOrder, rfl⟩ := List.mem_map.mp later
      exact ((List.pairwise_cons.mp ranks.rising).1 other inOrder).le
  have sought : cache.oldest? =
      cache.slots.findIdx? fun slot => slot.any fun other => other.stamp == entry.stamp := by
    simp only [oldest?, smallest, Option.bind_eq_bind, Option.bind_some]
  obtain ⟨here, held⟩ := ranks.exists_slot List.mem_cons_self
  cases found : cache.oldest? with
  | none =>
    rw [sought] at found
    have passed := List.findIdx?_eq_none_iff.mp found _ (List.mem_of_getElem? held)
    simp at passed
  | some slot =>
    rw [sought] at found
    obtain ⟨bound, matching, _⟩ := List.findIdx?_eq_some_iff_getElem.mp found
    obtain ⟨other, present, same⟩ := Option.any_eq_true _ _ |>.mp matching
    have atSlot : cache.slots[slot]? = some (some other) := by
      rw [List.getElem?_eq_getElem bound, present]
    -- no later entry has the same stamp
    have first : other = entry := by
      rcases List.mem_cons.mp (ranks.mem atSlot) with same | later
      · exact same
      · have above := (List.pairwise_cons.mp ranks.rising).1 other later
        have equal : other.stamp = entry.stamp := by simpa using same
        omega
    rw [first] at atSlot
    exact ⟨slot, rfl, atSlot⟩

theorem evict_eq (ranks : Ranks cache.slots clock (entry :: order)) :
    ∃ slot, cache.slots[slot]? = some (some entry) ∧ cache.evict = (slot, { cache with
      slots := cache.slots.set slot none
      clock := cache.clock + 1
      overflow := some entry.frame
      evictions := cache.evictions + 1 }) := by
  obtain ⟨slot, oldest, held⟩ := oldest?_eq ranks
  have found : cache.position? entry.location = some slot := by
    cases found : cache.position? entry.location with
    | none => exact absurd rfl (absent_of_position? found held)
    | some first => rw [only_slot ranks.distinct found held rfl]
  refine ⟨slot, held, ?_⟩
  simp only [evict, oldest, Option.getD_some, held, Option.join_some, remove, position?_tick, found,
    slots_tick, Option.map_some]
  rfl

end FrameCache

end CartridgeBank
