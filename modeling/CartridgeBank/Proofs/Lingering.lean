import CartridgeBank.Proofs.Errands
import CartridgeBank.Proofs.Orderly

namespace CartridgeBank

/-- A frame that is stored comes behind the last few, and drives none of them out as long as they are
fewer than there may be. -/
theorem Recency.put_recent {recency : Recency} {recent : List (FrameLocation × Bytes)}
    {location : FrameLocation} (last : recent <:+ recency.entries)
    (few : recent.length < recency.capacity) (others : ∀ piece ∈ recent, piece.1 ≠ location)
    (frame : Bytes) : recent ++ [(location, frame)] <:+ (recency.put location frame).entries := by
  unfold put
  split
  · have left : recent.filter (·.1 ≠ location) = recent :=
      List.filter_eq_self.mpr fun piece member => decide_eq_true (others piece member)
    obtain ⟨front, same⟩ := last.filter (·.1 ≠ location)
    rw [left] at same
    refine ⟨front, ?_⟩
    rw [← List.append_assoc, same]
    rfl
  · rename_i crowded
    have many : recency.capacity ≤ recency.entries.length :=
      Nat.le_of_not_lt (not_or.mp crowded).2
    obtain ⟨front, same⟩ := last
    cases front with
    | nil =>
      rw [← same, List.nil_append] at many
      omega
    | cons oldest front =>
      refine ⟨front, ?_⟩
      rw [← List.append_assoc]
      dsimp only
      rw [← same]
      rfl

namespace FrameCache

variable {cache : FrameCache} {recency : Recency} {order : List CachedFrame}
  {pieces : List (FrameLocation × Bytes)}

/-- Of frames that are stored one after the other, as many of the last as there are slots are the ones
used last. -/
theorem Follows.putAll (follows : cache.Follows recency order) (positive : 0 < cache.capacity)
    (distinct : (pieces.map Prod.fst).Nodup) :
    ∃ later lastOrder, (cache.putAll pieces).Follows later lastOrder ∧
      later.capacity = recency.capacity ∧ pieces.rtake recency.capacity <:+ later.entries := by
  induction pieces using List.reverseRecOn with
  | nil =>
    refine ⟨recency, order, follows, rfl, ?_⟩
    rw [List.rtake_nil]
    exact List.nil_suffix
  | append_singleton before last ih =>
    rw [List.map_append, List.nodup_append] at distinct
    obtain ⟨apart, _, different⟩ := distinct
    obtain ⟨middle, middleOrder, kept, capacity, recent⟩ := ih apart
    have still : 0 < (cache.putAll before).capacity := by
      rw [kept.capacity, capacity, ← follows.capacity]
      exact positive
    obtain ⟨lastOrder, stored⟩ := kept.put still last.1 last.2
    have whole : cache.putAll (before ++ [last]) = (cache.putAll before).put last.1 last.2 :=
      List.foldl_concat ..
    obtain ⟨few, room⟩ : ∃ few, recency.capacity = few + 1 :=
      Nat.exists_eq_succ_of_ne_zero (by rw [← follows.capacity]; omega)
    have suffix : before.rtake few <:+ middle.entries := by
      rw [room] at recent
      exact (List.drop_suffix_drop_left _ (by omega)).trans recent
    have fewer : (before.rtake few).length < middle.capacity := by
      rw [capacity, room, List.rtake, List.length_drop]
      omega
    refine ⟨middle.put last.1 last.2, lastOrder, whole ▸ stored, ?_, ?_⟩
    · exact (Recency.capacity_respond (.put last.1 last.2) middle).trans capacity
    · rw [room, List.rtake_concat_succ]
      refine Recency.put_recent suffix fewer (fun piece member => ?_) last.2
      have earlier : piece.1 ∈ before.map Prod.fst :=
        List.mem_map_of_mem (List.mem_of_mem_drop member)
      exact different piece.1 earlier last.1 (List.mem_singleton.mpr rfl)

theorem Orderly.frame?_putAll (orderly : cache.Orderly) (distinct : (pieces.map Prod.fst).Nodup)
    {piece : FrameLocation × Bytes} (late : piece ∈ pieces.rtake cache.capacity) :
    (cache.putAll pieces).frame? piece.1 = some piece.2 := by
  obtain ⟨recency, order, follows⟩ := orderly.ordered
  obtain ⟨later, lastOrder, kept, _, recent⟩ := follows.putAll orderly.positive distinct
  rw [follows.capacity] at late
  have listed := recent.subset late
  rw [← kept.pieces] at listed
  obtain ⟨entry, inOrder, rfl⟩ := List.mem_map.mp listed
  obtain ⟨slot, held⟩ := kept.ranks.exists_slot inOrder
  exact frame?_eq_some_of_at kept.ranks.distinct held

end FrameCache

/-- Whether a call neither transfers frames nor takes any out of the cache. -/
def Call.idle : Call → Bool
  | .openFile _ | .seek _ _ | .info _ | .lookup _ | .openFiles | .stats => true
  | _ => false

namespace Storage

/-- The last frames of a file, at most so many, each with its block of the content. -/
def lastPieces (frames : List FrameLocation) (content : Bytes) (frameSize slots : Nat) :
    List (FrameLocation × Bytes) :=
  (frames.zip (blocks content frameSize)).rtake slots

/-- The frames lie one for one under the blocks of the content. -/
structure Under (frames : List FrameLocation) (content : Bytes) (frameSize : Nat) : Prop where
  positive : 0 < frameSize
  distinct : frames.Nodup
  count : frames.length = framesFor content.length frameSize

namespace Under

variable {frames : List FrameLocation} {content : Bytes} {frameSize slots : Nat}

theorem locations (under : Under frames content frameSize) :
    (frames.zip (blocks content frameSize)).map Prod.fst = frames := by
  refine List.map_fst_zip ?_
  rw [length_blocks under.positive]
  exact under.count.le

theorem blocks_eq (under : Under frames content frameSize) :
    (frames.zip (blocks content frameSize)).map Prod.snd = blocks content frameSize := by
  refine List.map_snd_zip ?_
  rw [length_blocks under.positive]
  exact under.count.ge

theorem lastPieces_fst (under : Under frames content frameSize) :
    (lastPieces frames content frameSize slots).map Prod.fst = frames.rtake slots := by
  have length : (frames.zip (blocks content frameSize)).length = frames.length := by
    rw [← List.length_map Prod.fst, under.locations]
  rw [lastPieces, List.rtake, List.map_drop, under.locations, length]
  rfl

/-- The block over one of the last frames is one of the last. -/
theorem mem_lastPieces (under : Under frames content frameSize) {piece : FrameLocation × Bytes}
    (member : piece ∈ frames.zip (blocks content frameSize))
    (late : piece.1 ∈ frames.rtake slots) : piece ∈ lastPieces frames content frameSize slots := by
  have distinct := under.distinct
  rw [← under.locations] at distinct
  rw [← under.lastPieces_fst] at late
  obtain ⟨other, recent, same⟩ := List.mem_map.mp late
  have listed : other ∈ frames.zip (blocks content frameSize) := List.mem_of_mem_drop recent
  obtain rfl := List.inj_on_of_nodup_map distinct listed member same
  exact recent

end Under

/-- A file has its content laid over some frames, the last of which are cached. -/
structure Lingers {σ : Type} (handle : Handle) (frames : List FrameLocation) (content : Bytes)
    (slots : Nat) (storage : Storage σ) : Prop where
  on : storage.poweredOn = true
  under : Under frames content storage.frameSize
  file : ∃ file, storage.files.get? handle = some file ∧ file.frames = frames ∧
    file.length = content.length
  cached : ∃ cache, storage.cache = some cache ∧ cache.Distinct ∧
    ∀ piece ∈ lastPieces frames content storage.frameSize slots, cache.frame? piece.1 = some piece.2

/-- The items under which a number of bytes from a position on lie, if each item is under a frame. -/
def spanned {α : Type} (position count frameSize : Nat) (items : List α) : List α :=
  (items.drop (position / frameSize)).take
    ((position + count - 1) / frameSize + 1 - position / frameSize)

theorem map_spanned {α β : Type} (function : α → β) (position count frameSize : Nat)
    (items : List α) : (spanned position count frameSize items).map function =
      spanned position count frameSize (items.map function) := by
  rw [spanned, List.map_take, List.map_drop]
  rfl

theorem mem_of_mem_spanned {α : Type} {position count frameSize : Nat} {items : List α} {item : α}
    (member : item ∈ spanned position count frameSize items) : item ∈ items :=
  List.mem_of_mem_drop (List.mem_of_mem_take member)

variable {σ : Type} {storage next : Storage σ} {handle : Handle} {file : OpenFile}
  {frames : List FrameLocation} {content : Bytes} {slots wanted count : Nat}

namespace Lingers

/-- A file that is found is the one whose frames linger. -/
theorem present (lingers : Lingers handle frames content slots storage)
    (found : storage.files.get? handle = some file) :
    file.frames = frames ∧ file.length = content.length := by
  obtain ⟨other, here, same⟩ := lingers.file
  obtain rfl := Option.some.inj (found.symm.trans here)
  exact same

/-- Moving the cursor of any file leaves the frames where they are. -/
theorem moved (lingers : Lingers handle frames content slots storage) {other : Handle}
    (found : storage.files.get? other = some file) (position : Nat) :
    Lingers handle frames content slots { storage with
      files := storage.files.update other { file with position } } := by
  refine ⟨lingers.on, lingers.under, ?_, lingers.cached⟩
  simp only [Registry.get?_update found]
  by_cases mine : handle = other
  · subst mine
    have same := lingers.present found
    exact ⟨_, if_pos rfl, same⟩
  · rw [if_neg mine]
    exact lingers.file

/-- A new file gets a handle of its own. -/
theorem opened (lingers : Lingers handle frames content slots storage) {name : String}
    {other : Handle} {files : Registry} (opened : storage.files.insert name = .ok (other, files)) :
    Lingers handle frames content slots { storage with files } := by
  obtain ⟨_, _, _, vacant, others, _⟩ := Registry.insert_ok opened
  obtain ⟨file, here, same⟩ := lingers.file
  have different : handle ≠ other := by
    rintro rfl
    cases vacant.symm.trans here
  exact ⟨lingers.on, lingers.under, ⟨file, (others handle).trans ((if_neg different).trans here), same⟩,
    lingers.cached⟩

theorem openFile (lingers : Lingers handle frames content slots storage) (name : String) :
    Lingers handle frames content slots ((Storage.openFile name).after storage) ∧
      ((Storage.openFile name).after storage).transport = storage.transport := by
  unfold Operation.after
  rw [openFile_eq, if_pos lingers.on]
  cases opened : storage.files.insert name with
  | error fault => exact ⟨lingers, rfl⟩
  | ok pair => exact ⟨lingers.opened opened, rfl⟩

theorem seek (lingers : Lingers handle frames content slots storage) (other : Handle)
    (offset : Nat) :
    Lingers handle frames content slots ((Storage.seek other offset).after storage) ∧
      ((Storage.seek other offset).after storage).transport = storage.transport := by
  unfold Operation.after
  rw [seek_eq, if_pos lingers.on]
  cases found : storage.files.get? other with
  | none => exact ⟨lingers, rfl⟩
  | some file =>
    by_cases beyond : file.length < offset
    · simp only [if_pos beyond]
      exact ⟨lingers, trivial⟩
    · simp only [if_neg beyond]
      exact ⟨lingers.moved found offset, trivial⟩

end Lingers

variable [Transport σ]

/-- Frames that are all cached are read without the transport. -/
theorem readFrames_cached {pieces : List (FrameLocation × Bytes)} {cache : FrameCache}
    (held : storage.cache = some cache) (distinct : cache.Distinct)
    (cached : ∀ piece ∈ pieces, cache.frame? piece.1 = some piece.2) :
    ∃ after, readFrames (pieces.map Prod.fst) storage =
        .ok (pieces.map Prod.snd) { storage with cache := some after } ∧
      after.Distinct ∧ ∀ location, after.frame? location = cache.frame? location := by
  induction pieces generalizing storage cache with
  | nil =>
    refine ⟨cache, ?_, distinct, fun _ => rfl⟩
    rw [← held]
    rfl
  | cons piece rest ih =>
    have found : (cache.get piece.1).1 = some piece.2 :=
      FrameCache.get_fst.trans (cached piece List.mem_cons_self)
    have first : readFrame piece.1 storage =
        .ok piece.2 { storage with cache := some (cache.get piece.1).2 } := by
      rw [readFrame_eq piece.1 held]
      generalize cache.get piece.1 = looked at found
      obtain ⟨bytes, left⟩ := looked
      obtain rfl : bytes = some piece.2 := found
      rfl
    have still : ∀ other ∈ rest, (cache.get piece.1).2.frame? other.1 = some other.2 :=
      fun other member => (FrameCache.frame?_get distinct).trans
        (cached other (List.mem_cons_of_mem _ member))
    obtain ⟨after, run, apart, same⟩ :=
      @ih { storage with cache := some (cache.get piece.1).2 } _ rfl distinct.get still
    refine ⟨after, ?_, apart, fun location =>
      (same location).trans (FrameCache.frame?_get distinct)⟩
    rw [List.map_cons, readFrames_cons, first]
    dsimp only
    rw [run]
    rfl

namespace Lingers

theorem readFrames (lingers : Lingers handle frames content slots storage)
    (found : storage.files.get? handle = some file)
    (near : covering file storage.frameSize count ⊆ frames.rtake slots) :
    ∃ cache, Storage.readFrames (covering file storage.frameSize count) storage =
        .ok (spanned file.position count storage.frameSize (blocks content storage.frameSize))
          { storage with cache := some cache } ∧
      Lingers handle frames content slots { storage with cache := some cache } := by
  obtain ⟨cache, held, distinct, cached⟩ := lingers.cached
  obtain ⟨rfl, _⟩ := lingers.present found
  let pieces := spanned file.position count storage.frameSize
    (file.frames.zip (blocks content storage.frameSize))
  have locations : pieces.map Prod.fst = covering file storage.frameSize count := by
    rw [map_spanned, lingers.under.locations]
    rfl
  have here : ∀ piece ∈ pieces, cache.frame? piece.1 = some piece.2 := by
    intro piece member
    have late := near (locations ▸ List.mem_map_of_mem member)
    exact cached piece (lingers.under.mem_lastPieces (mem_of_mem_spanned member) late)
  obtain ⟨after, run, apart, same⟩ := readFrames_cached held distinct here
  rw [locations, map_spanned, lingers.under.blocks_eq] at run
  refine ⟨after, run, lingers.on, lingers.under, lingers.file, after, rfl, apart, ?_⟩
  exact fun piece member => (same piece.1).trans (cached piece member)

/-- A read that touches only frames that linger needs no transport, and leaves them there. -/
theorem read (lingers : Lingers handle frames content slots storage)
    (found : storage.files.get? handle = some file)
    (near : covering file storage.frameSize (readable file wanted) ⊆ frames.rtake slots) :
    Lingers handle frames content slots ((Storage.read handle wanted).after storage) ∧
      ((Storage.read handle wanted).after storage).transport = storage.transport ∧
      (file.position < file.length → ∃ next,
        Storage.read handle wanted storage = .ok ((content.drop file.position).take wanted) next) := by
  obtain ⟨cache, run, after⟩ := lingers.readFrames found near
  have ending := read_run handle wanted storage
  unfold Operation.after
  generalize Storage.read handle wanted storage = result at ending
  cases ending with
  | off off => exact Bool.noConfusion (off.symm.trans lingers.on)
  | invalid on absent => cases found.symm.trans absent
  | nothing on present zero =>
    subst zero
    exact ⟨lingers, rfl, fun _ => ⟨storage, rfl⟩⟩
  | atEnd on present some ended =>
    obtain rfl := Option.some.inj (found.symm.trans present)
    exact ⟨lingers, rfl, fun more => absurd ended (Nat.not_le_of_lt more)⟩
  | unread on present some more failed =>
    obtain rfl := Option.some.inj (found.symm.trans present)
    cases run.symm.trans failed
  | done on present some more finished =>
    obtain rfl := Option.some.inj (found.symm.trans present)
    obtain ⟨rfl, rfl⟩ := EStateM.Result.ok.inj (run.symm.trans finished)
    have length := (lingers.present found).2
    have within : file.position + readable file wanted ≤ content.length := by
      rw [← length, readable]
      omega
    have bytes := blocks_window lingers.under.positive (by rw [readable]; omega) within
    have ends : (content.drop file.position).take (readable file wanted) =
        (content.drop file.position).take wanted := by
      rw [readable, length, ← List.length_drop, ← List.take_eq_take_min]
    refine ⟨after.moved found _, rfl, fun _ => ⟨{ storage with
      cache := Option.some cache
      files := storage.files.update handle
        { file with position := file.position + readable file wanted } }, ?_⟩⟩
    rw [spanned, bytes, ends]

theorem idle (lingers : Lingers handle frames content slots storage) {call : Call}
    (idle : call.idle = true) :
    Lingers handle frames content slots (respond call storage).2 ∧
      (respond call storage).2.transport = storage.transport := by
  rw [respond_snd]
  cases call with
  | openFile name =>
    rw [perform, Operation.after_bind_pure]
    exact lingers.openFile name
  | seek other offset =>
    have moved : (perform (.seek other offset)).after storage =
        (Storage.seek other offset).after storage := Operation.after_bind_pure _ _
    rw [moved]
    exact lingers.seek other offset
  | info other =>
    rw [perform, Operation.after_bind_pure, info_after]
    exact ⟨lingers, rfl⟩
  | lookup | openFiles | stats => exact ⟨lingers, rfl⟩
  | powerOn | powerOff | closeFile | read | readToEnd | write | setCacheFrames => cases idle

end Lingers

/-- What a storage may become by calls that leave the given frames of a file cached: calls that do not
transfer, and reads that touch no other frames. -/
inductive Nearby (handle : Handle) (frames : List FrameLocation) (before : Storage σ) :
    Storage σ → Prop
  | none : Nearby handle frames before before
  | idle {storage : Storage σ} {call : Call} : Nearby handle frames before storage →
      call.idle = true → Nearby handle frames before (respond call storage).2
  | read {storage : Storage σ} {file : OpenFile} {wanted : Nat} :
      Nearby handle frames before storage → storage.files.get? handle = some file →
      covering file storage.frameSize (readable file wanted) ⊆ frames →
      Nearby handle frames before (respond (.read handle wanted) storage).2

/-- The last frames linger, however often they are read. -/
theorem Lingers.nearby {later : Storage σ} (lingers : Lingers handle frames content slots storage)
    (near : Nearby handle (frames.rtake slots) storage later) :
    Lingers handle frames content slots later ∧ later.transport = storage.transport := by
  induction near with
  | none => exact ⟨lingers, rfl⟩
  | idle _ idle ih =>
    obtain ⟨kept, same⟩ := ih.1.idle idle
    exact ⟨kept, same.trans ih.2⟩
  | read _ found touched ih =>
    obtain ⟨kept, same, _⟩ := ih.1.read found touched
    rw [respond_snd, perform, Operation.after_bind_pure]
    exact ⟨kept, same.trans ih.2⟩

/-- What is stored last is what was used last, and forgetting the frames that are given up takes none
of that away. -/
theorem Under.frame?_stored {frameSize : Nat} {cache : FrameCache}
    (under : Under frames content frameSize) (orderly : cache.Orderly) (old : List FrameLocation)
    {piece : FrameLocation × Bytes}
    (late : piece ∈ lastPieces frames content frameSize cache.capacity) :
    ((cache.putAll (frames.zip (blocks content frameSize))).invalidateAll
      (givenUp old frames)).frame? piece.1 = some piece.2 := by
  have apart := under.distinct
  rw [← under.locations] at apart
  have target : piece.1 ∈ frames := (List.of_mem_zip (List.mem_of_mem_drop late)).1
  have kept : piece.1 ∉ givenUp old frames := by
    rw [givenUp_eq_filter]
    intro lost
    have gone := (List.mem_filter.mp lost).2
    exact of_decide_eq_true gone target
  rw [FrameCache.frame?_invalidateAll (orderly.putAll _).distinct, if_neg kept]
  exact orderly.frame?_putAll apart late

/-- A write leaves the last frames of the new content cached. -/
theorem lingers_of_write (sound : storage.Sound) (orderly : storage.Orderly) {data : Bytes}
    {reply : Reply} (nonempty : data ≠ [])
    (success : (respond (.write handle data) storage).1 = .ok reply) :
    ∃ before frames middle after, storage.Starts handle data before ∧
      readFrames before.frames storage = .ok frames middle ∧
      (respond (.write handle data) storage).2.files.get? handle = some after ∧
      after.length = (before.contentAfter frames data).length ∧
      (respond (.write handle data) storage).2.config = storage.config ∧
      Lingers handle after.frames (before.contentAfter frames data) storage.config.cacheFrames
        (respond (.write handle data) storage).2 := by
  have run := respond_ok success
  generalize (respond (.write handle data) storage).2 = last at run ⊢
  obtain ⟨count, written, _⟩ := Operation.bind_pure_ok.mp run
  have ending := sound.write_run handle data
  rw [written] at ending
  cases ending with
  | nothing on present empty => exact absurd empty nonempty
  | @stored file frames middle targets claimed next starts read placed =>
    have between := orderly.readFrames_ok read
    obtain ⟨_, ordered, _, _, whole, _⟩ := sound.rewritten starts read placed
    obtain ⟨rfl, count⟩ := whole rfl
    have under : Under claimed (file.contentAfter frames data) storage.frameSize :=
      ⟨sound.positive, ordered.imp FrameLocation.Precedes.ne, count⟩
    obtain ⟨cache, held⟩ := sound.cache_of_on starts.on
    obtain ⟨_, values, transport, active, rfl⟩ := readFrames_ok held (sound.cached cache held)
      (sound.mayCache starts.present fun location member => member) read
    have told := between _ rfl
    have slots := ((sound.cached cache held).readThroughAll values).capacity_eq
    obtain ⟨_, _, pieces, lastTransport, lastActive, _, _, all, rfl⟩ :=
      placeContent_spec (by exact sound.positive) placed
    obtain ⟨_, rfl, _⟩ := all rfl
    have filed (after : OpenFile) : (storage.files.update handle after).get? handle = some after :=
      (Registry.get?_update starts.present).trans (if_pos rfl)
    refine ⟨file, frames, _, _, starts, read, filed _, rfl, rfl, starts.on, under,
      ⟨_, filed _, rfl, rfl⟩, _, rfl, (told.putAll _).distinct.invalidateAll _, fun piece late => ?_⟩
    exact under.frame?_stored told file.frames (slots ▸ late)

/-- After a write of some data, as many of the file's last frames are cached as there are slots,
whatever was cached before. Each of them is cached with its block of the new content, which is what was
read back with the data put in. As long as no other frames are touched, reads return the content and
leave the transport and its record of requests alone. -/
theorem Reached.lingering {storage : Storage (Recorded σ)}
    (reached : Reached (fun _ _ => True) (fun _ _ => True) storage) {data : Bytes} {reply : Reply}
    (nonempty : data ≠ []) (success : (respond (.write handle data) storage).1 = .ok reply) :
    let next := (respond (.write handle data) storage).2
    ∃ before frames middle after cache, storage.files.get? handle = some before ∧
      readFrames before.frames storage = .ok frames middle ∧
      next.files.get? handle = some after ∧ next.cache = some cache ∧
      let content := before.contentAfter frames data
      let recent := lastPieces after.frames content storage.frameSize cache.capacity
      after.length = content.length ∧
        (content.drop before.position).take data.length = data ∧
        after.frames.length = framesFor content.length storage.frameSize ∧
        cache.capacity = storage.config.cacheFrames ∧
        recent.map Prod.fst = after.frames.drop (after.frames.length - cache.capacity) ∧
        recent.length = min after.frames.length cache.capacity ∧
        (∀ piece ∈ recent, cache.frame? piece.1 = some piece.2) ∧
        ∀ later file wanted, Nearby handle (recent.map Prod.fst) next later →
          later.files.get? handle = some file →
          covering file later.frameSize (readable file wanted) ⊆ recent.map Prod.fst →
          (respond (.read handle wanted) later).2.transport = next.transport ∧
            (file.position < file.length → (respond (.read handle wanted) later).1 =
              .ok (.bytes ((content.drop file.position).take wanted))) := by
  have sound := reached.sound
  obtain ⟨before, frames, middle, after, starts, read, filed, length, config, lingers⟩ :=
    lingers_of_write sound reached.orderly nonempty success
  intro next
  have size : next.frameSize = storage.frameSize := by
    rw [frameSize, config]
    rfl
  obtain ⟨cache, held, distinct, cached⟩ := lingers.cached
  have slots : cache.capacity = storage.config.cacheFrames := by
    have kept := ((sound.respond (.write handle data)).cached cache held).capacity_eq
    rwa [config] at kept
  have under := lingers.under
  rw [← slots] at lingers cached
  rw [size] at under cached
  have within : before.position ≤ (frames.flatten.take before.length).length := by
    have whole := (sound.length_contentAfter starts.on starts.present read data).1
    have cursor := (sound.laid starts.present).cursor
    rw [List.length_take]
    omega
  refine ⟨before, frames, middle, after, cache, starts.present, read, filed, held, length,
    take_drop_splice within data, under.count, slots, under.lastPieces_fst, ?_, cached, ?_⟩
  · rw [← List.length_map Prod.fst, under.lastPieces_fst, List.rtake, List.length_drop]
    omega
  · intro later file wanted near found touched
    rw [under.lastPieces_fst] at near touched
    obtain ⟨still, same⟩ := lingers.nearby near
    obtain ⟨_, untouched, answers⟩ := still.read found touched
    refine ⟨?_, fun more => ?_⟩
    · rw [respond_snd, perform, Operation.after_bind_pure]
      exact untouched.trans same
    · obtain ⟨last, run⟩ := answers more
      have whole : perform (.read handle wanted) later = .ok (.bytes _) last :=
        Operation.bind_pure_ok.mpr ⟨_, run, rfl⟩
      rw [respond_of_ok whole]

/-- A file that will grow to two frames, with a cache of one. -/
def oneSlot : Storage (Recorded Device) :=
  (respondAll [.powerOn, .openFile "a", .write ⟨0⟩ [1]] {
    config := { geometry := ⟨1, 3, 2⟩, cacheFrames := 1 }
    transport := { transport := { geometry := ⟨1, 3, 2⟩ } }
    table := Ownership.ofGeometry ⟨1, 3, 2⟩ }).2

/-- Only the second frame is cached, and it can be read without a request. -/
theorem Reached.lingering_one_slot :
    let next := (respond (.write ⟨0⟩ [2, 3]) oneSlot).2
    let sought := (respond (.seek ⟨0⟩ 2) next).2
    (next.cache.bind fun cache => cache.frame? ⟨0, 1⟩) = some [3, 0] ∧
      (respond (.read ⟨0⟩ 5) sought).1 = .ok (.bytes [3]) ∧
      (respond (.read ⟨0⟩ 5) sought).2.transport = next.transport := by
  have reached : Reached (fun _ _ => True) (fun _ _ => True) oneSlot :=
    Reached.all (.created trivial (create_eq_ok_iff.mpr ⟨rfl, rfl⟩)) _
  have success : (respond (.write ⟨0⟩ [2, 3]) oneSlot).1 = .ok (.written 2) := by cbv
  have file : oneSlot.files.get? ⟨0⟩ =
      some { name := "a", length := 1, position := 1, frames := [⟨0, 0⟩] } := by cbv
  have back : EStateM.run' (readFrames [⟨0, 0⟩]) oneSlot = some [[1, 0]] := by cbv
  have rewritten : (respond (.write ⟨0⟩ [2, 3]) oneSlot).2.files.get? ⟨0⟩ =
      some { name := "a", length := 3, position := 3, frames := [⟨0, 0⟩, ⟨0, 1⟩] } := by cbv
  have sought : (respond (.seek ⟨0⟩ 2) (respond (.write ⟨0⟩ [2, 3]) oneSlot).2).2.files.get? ⟨0⟩ =
      some { name := "a", length := 3, position := 2, frames := [⟨0, 0⟩, ⟨0, 1⟩] } := by cbv
  have size : (respond (.seek ⟨0⟩ 2) (respond (.write ⟨0⟩ [2, 3]) oneSlot).2).2.frameSize = 2 := by
    cbv
  have recent : lastPieces [⟨0, 0⟩, ⟨0, 1⟩]
      (OpenFile.contentAfter { name := "a", length := 1, position := 1, frames := [⟨0, 0⟩] }
        [[1, 0]] [2, 3]) oneSlot.frameSize 1 = [(⟨0, 1⟩, [3, 0])] := by cbv
  obtain ⟨before, frames, middle, after, cache, present, read, filed, held, _, _, _, slots, _, _,
    cached, reads⟩ := reached.lingering (List.cons_ne_nil _ _) success
  obtain rfl := Option.some.inj (file.symm.trans present)
  obtain ⟨other, same⟩ := Operation.ok_of_run back
  obtain ⟨rfl, rfl⟩ := EStateM.Result.ok.inj (same.symm.trans read)
  obtain rfl := Option.some.inj (rewritten.symm.trans filed)
  have one : cache.capacity = 1 := slots.trans (by cbv)
  rw [one, recent] at cached reads
  obtain ⟨silent, answers⟩ := reads _ _ 5 (.idle .none rfl) sought (by rw [size]; decide)
  refine ⟨?_, answers (by decide), silent⟩
  rw [held]
  exact cached (⟨0, 1⟩, [3, 0]) (by decide)

end Storage

end CartridgeBank
