import CartridgeBank.Toml.Grammar
import Mathlib

namespace CartridgeBank.Toml

variable {cs rest : List Char} {key : String} {path : List String} {node : Node}

/-- No integer in a value is too large for a document. -/
inductive Node.Fits : Node → Prop
  | text {text : String} : Fits (.text text)
  | integer {value : Int} : value ≤ maxInteger → Fits (.integer value)
  | float {written : String} : Fits (.float written)
  | boolean {value : Bool} : Fits (.boolean value)
  | moment {written : String} : Fits (.moment written)
  | array {items : List Node} : (∀ item ∈ items, Fits item) → Fits (.array items)
  | table {origin : Origin} {entries : Entries} :
      (∀ entry ∈ entries, Fits entry.2) → Fits (.table origin entries)
  | tables {elements : List Entries} :
      (∀ element ∈ elements, ∀ entry ∈ element, Fits entry.2) → Fits (.tables elements)

def Entries.Fits (entries : Entries) : Prop := ∀ entry ∈ entries, entry.2.Fits

theorem Node.Fits.entries {origin : Origin} {entries : Entries}
    (fits : (Node.table origin entries).Fits) : entries.Fits := by
  cases fits with
  | table each => exact each

theorem Node.Fits.elements {elements : List Entries} (fits : (Node.tables elements).Fits) :
    ∀ element ∈ elements, element.Fits := by
  cases fits with
  | tables each => exact each

namespace Entries.Fits

variable {entries entries' : Entries} {change : Entries → Option Entries}

theorem nil : Entries.Fits [] := fun _ member => absurd member List.not_mem_nil

theorem lookup (fits : entries.Fits) (found : entries.lookup key = some node) : node.Fits := by
  obtain ⟨before, after, split, _⟩ := List.lookup_eq_some_iff.mp found
  exact fits (key, node) (by simp [split])

theorem concat (fits : entries.Fits) (new : node.Fits) : Fits (entries ++ [(key, node)]) := by
  intro entry member
  rcases List.mem_append.mp member with old | last
  · exact fits entry old
  · rw [List.mem_singleton.mp last]
    exact new

theorem set (fits : entries.Fits) (new : node.Fits) : (entries.set key node).Fits := by
  intro entry member
  obtain ⟨old, known, rfl⟩ := List.mem_map.mp member
  split
  · exact new
  · exact fits old known

/-- What keeps the integers of one table in range does so for the last of several. -/
theorem onLast {elements elements' : List Entries}
    (keeps : ∀ entries entries', entries.Fits → change entries = some entries' → entries'.Fits)
    (fits : ∀ element ∈ elements, element.Fits)
    (changed : Entries.onLast change elements = some elements') :
    ∀ element ∈ elements', element.Fits := by
  unfold Entries.onLast at changed
  split at changed
  · cases changed
  · rename_i last atEnd
    obtain ⟨last', here, rfl⟩ := Option.map_eq_some_iff.mp changed
    intro element member
    rcases List.mem_append.mp member with old | final
    · exact fits element (List.mem_of_mem_dropLast old)
    · rw [List.mem_singleton.mp final]
      exact keeps last last' (fits last (List.mem_of_getLast? atEnd)) here

theorem assign (new : node.Fits) (fits : entries.Fits)
    (changed : Entries.assign key node path entries = some entries') : entries'.Fits := by
  -- Along the path: what is found or made there fits, and so does what is put back in its place.
  induction path generalizing entries entries' with
  | nil =>
    unfold Entries.assign at changed
    split at changed
    · cases changed
    · cases changed
      exact fits.concat new
  | cons step path ih =>
    unfold Entries.assign at changed
    split at changed
    · obtain ⟨inner, added, same⟩ := Option.bind_eq_some_iff.mp changed
      cases same
      exact fits.concat (.table (ih nil added))
    · rename_i inner found
      obtain ⟨inner', added, same⟩ := Option.bind_eq_some_iff.mp changed
      cases same
      exact fits.set (.table (ih (fits.lookup found).entries added))
    · rename_i inner found
      split at changed
      · cases changed
      · obtain ⟨inner', added, same⟩ := Option.bind_eq_some_iff.mp changed
        cases same
        exact fits.set (.table (ih (fits.lookup found).entries added))
    · rename_i elements found
      split at changed
      · cases changed
      · obtain ⟨elements', added, same⟩ := Option.bind_eq_some_iff.mp changed
        cases same
        exact fits.set (.tables (onLast (fun _ _ => ih) (fits.lookup found).elements added))
    · cases changed

/-- What keeps the integers of one table in range does so at the end of a path. -/
theorem within
    (keeps : ∀ entries entries', entries.Fits → change entries = some entries' → entries'.Fits)
    (fits : entries.Fits) (changed : Entries.within change path entries = some entries') :
    entries'.Fits := by
  induction path generalizing entries entries' with
  | nil => exact keeps entries entries' fits changed
  | cons step path ih =>
    unfold Entries.within at changed
    split at changed
    · obtain ⟨inner, added, same⟩ := Option.bind_eq_some_iff.mp changed
      cases same
      exact fits.concat (.table (ih nil added))
    · rename_i origin inner found
      split at changed
      · cases changed
      · obtain ⟨inner', added, same⟩ := Option.bind_eq_some_iff.mp changed
        cases same
        exact fits.set (.table (ih (fits.lookup found).entries added))
    · rename_i elements found
      obtain ⟨elements', added, same⟩ := Option.bind_eq_some_iff.mp changed
      cases same
      exact fits.set (.tables (onLast (fun _ _ => ih) (fits.lookup found).elements added))
    · cases changed

theorem beginTable (fits : entries.Fits)
    (changed : Entries.beginTable key entries = some entries') : entries'.Fits := by
  unfold Entries.beginTable at changed
  split at changed
  · cases changed
    exact fits.concat (.table nil)
  · rename_i inner found
    cases changed
    exact fits.set (.table (fits.lookup found).entries)
  · cases changed

theorem beginElement (fits : entries.Fits)
    (changed : Entries.beginElement key entries = some entries') : entries'.Fits := by
  unfold Entries.beginElement at changed
  split at changed
  · cases changed
    exact fits.concat (.tables fun element member => List.mem_singleton.mp member ▸ nil)
  · rename_i elements found
    cases changed
    refine fits.set (.tables fun element member => ?_)
    rcases List.mem_append.mp member with old | new
    · exact (fits.lookup found).elements element old
    · exact List.mem_singleton.mp new ▸ nil
  · cases changed

end Entries.Fits

/-- Nothing that is read is an integer too large for a document. -/
def Fitting (read? : List Char → Option (Node × List Char)) : Prop :=
  ∀ cs node rest, read? cs = some (node, rest) → node.Fits

theorem integer?_le {value : Int} (read : integer? cs = some value) : value ≤ maxInteger := by
  unfold integer? at read
  split at read
  all_goals
    obtain ⟨found, _, bounded⟩ := Option.bind_eq_some_iff.mp read
    dsimp only at bounded
    split at bounded
    · rename_i bounds
      cases bounded
      exact bounds.2
    · cases bounded

theorem scalar?_fits (read : scalar? cs = some node) : node.Fits := by
  unfold scalar? at read
  split at read
  · cases read
    exact .boolean
  · split at read
    · cases read
      exact .boolean
    · split at read
      · rename_i value found
        cases read
        exact .integer (integer?_le found)
      · split at read
        · cases read
          exact .moment
        · split at read <;> cases read
          exact .float

theorem fitting_leaf? : Fitting leaf? := by
  intro cs node rest read
  unfold leaf? at read
  split at read
  · obtain ⟨_, _, same⟩ := Option.map_eq_some_iff.mp read
    cases same
    exact .text
  · obtain ⟨_, _, same⟩ := Option.map_eq_some_iff.mp read
    cases same
    exact .text
  · obtain ⟨_, found, same⟩ := Option.map_eq_some_iff.mp read
    cases same
    exact scalar?_fits found

section Composed

variable {read? : List Char → Option (Node × List Char)}

theorem items?_fits (fitting : Fitting read?) (limit : Nat) {items : List Node}
    (read : items? read? limit cs = some (items, rest)) : ∀ item ∈ items, item.Fits := by
  induction limit generalizing cs items with
  | zero => cases read
  | succ limit ih =>
    unfold items? at read
    split at read
    · cases read
      exact fun _ member => absurd member List.not_mem_nil
    · obtain ⟨⟨item, cs'⟩, first, more⟩ := Option.bind_eq_some_iff.mp read
      have here := fitting _ _ _ first
      dsimp only at more
      split at more
      · obtain ⟨⟨items', rest'⟩, others, same⟩ := Option.map_eq_some_iff.mp more
        cases same
        exact List.forall_mem_cons.mpr ⟨here, ih others⟩
      · cases more
        exact List.forall_mem_singleton.mpr here
      · cases more

theorem pair?_fits (fitting : Fitting read?) {pair : Key × Node}
    (read : pair? read? cs = some (pair, rest)) : pair.2.Fits := by
  obtain ⟨⟨key, cs₁⟩, _, read⟩ := Option.bind_eq_some_iff.mp read
  obtain ⟨cs₂, _, read⟩ := Option.bind_eq_some_iff.mp read
  obtain ⟨⟨value, cs₃⟩, found, same⟩ := Option.bind_eq_some_iff.mp read
  cases same
  exact fitting _ _ _ found

theorem pairs?_fits (fitting : Fitting read?) (limit : Nat) {pairs : List (Key × Node)}
    (read : pairs? read? limit cs = some (pairs, rest)) : ∀ pair ∈ pairs, pair.2.Fits := by
  induction limit generalizing cs pairs with
  | zero => cases read
  | succ limit ih =>
    obtain ⟨⟨pair, cs'⟩, first, more⟩ := Option.bind_eq_some_iff.mp read
    have here := pair?_fits fitting first
    dsimp only at more
    split at more
    · obtain ⟨⟨pairs', rest'⟩, others, same⟩ := Option.map_eq_some_iff.mp more
      cases same
      exact List.forall_mem_cons.mpr ⟨here, ih others⟩
    · cases more
      exact List.forall_mem_singleton.mpr here
    · cases more

end Composed

/-- What every step keeps, all of them keep. -/
theorem foldlM_keeps {α β : Type} {step : α → β → Option α} {l : List β} (Holds : α → Prop)
    (keeps : ∀ b ∈ l, ∀ a a', Holds a → step a b = some a' → Holds a') {a a' : α} (before : Holds a)
    (run : l.foldlM step a = some a') : Holds a' := by
  induction l generalizing a with
  | nil =>
    cases run
    exact before
  | cons b l ih =>
    obtain ⟨here, others⟩ := List.forall_mem_cons.mp keeps
    rw [List.foldlM_cons] at run
    obtain ⟨next, first, run⟩ := Option.bind_eq_some_iff.mp run
    exact ih others (here a next before first) run

theorem ofPairs?_fits {pairs : List (Key × Node)} (each : ∀ pair ∈ pairs, pair.2.Fits)
    (made : Node.ofPairs? pairs = some node) : node.Fits := by
  obtain ⟨entries, run, same⟩ := Option.bind_eq_some_iff.mp made
  cases same
  exact .table (foldlM_keeps Entries.Fits
    (fun pair member _ _ before step => Entries.Fits.assign (each pair member) before step)
    Entries.Fits.nil run)

theorem fitting_value? (depth : Nat) : Fitting (value? depth) := by
  induction depth with
  | zero =>
    intro cs node rest read
    exact fitting_leaf? cs node rest (by unfold value? at read; exact read)
  | succ depth ih =>
    intro cs node rest read
    unfold value? at read
    split at read
    · rename_i same
      cases same
      obtain ⟨_, found, same⟩ := Option.map_eq_some_iff.mp read
      cases same
      exact .array (items?_fits ih _ found)
    · rename_i same
      cases same
      split at read
      · cases read
        exact .table Entries.Fits.nil
      · obtain ⟨_, found, read⟩ := Option.bind_eq_some_iff.mp read
        obtain ⟨_, made, same⟩ := Option.bind_eq_some_iff.mp read
        cases same
        exact ofPairs?_fits (pairs?_fits ih _ found) made
    · exact fitting_leaf? _ node rest read

def Statement.Fits : Statement → Prop
  | assign _ value => value.Fits
  | table _ | element _ => True

theorem statement?_fits {statement : Statement} (read : statement? cs = some (statement, rest)) :
    statement.Fits := by
  unfold statement? at read
  split at read
  · obtain ⟨_, _, read⟩ := Option.bind_eq_some_iff.mp read
    obtain ⟨_, _, read⟩ := Option.bind_eq_some_iff.mp read
    obtain ⟨_, _, same⟩ := Option.bind_eq_some_iff.mp read
    cases same
    exact trivial
  · obtain ⟨_, _, read⟩ := Option.bind_eq_some_iff.mp read
    obtain ⟨_, _, same⟩ := Option.bind_eq_some_iff.mp read
    cases same
    exact trivial
  · obtain ⟨_, found, same⟩ := Option.bind_eq_some_iff.mp read
    cases same
    exact pair?_fits (fitting_value? _) found

theorem statements?_fits (limit : Nat) {statements : List Statement}
    (read : statements? limit cs = some statements) : ∀ statement ∈ statements, statement.Fits := by
  induction limit generalizing cs statements with
  | zero => cases read
  | succ limit ih =>
    unfold statements? at read
    split at read
    · cases read
      exact fun _ member => absurd member List.not_mem_nil
    · split at read
      · obtain ⟨_, _, more⟩ := Option.bind_eq_some_iff.mp read
        exact ih more
      · obtain ⟨⟨first, rest⟩, found, read⟩ := Option.bind_eq_some_iff.mp read
        obtain ⟨_, _, read⟩ := Option.bind_eq_some_iff.mp read
        obtain ⟨others, more, same⟩ := Option.bind_eq_some_iff.mp read
        cases same
        exact List.forall_mem_cons.mpr ⟨statement?_fits found, ih more⟩

theorem apply_fits {statement : Statement} (fits : statement.Fits)
    {state state' : List String × Entries} (before : state.2.Fits)
    (step : statement.apply state = some state') : state'.2.Fits := by
  cases statement with
  | assign key value =>
    obtain ⟨entries, changed, same⟩ := Option.bind_eq_some_iff.mp step
    cases same
    exact before.within (fun _ _ => Entries.Fits.assign fits) changed
  | table key =>
    obtain ⟨entries, changed, same⟩ := Option.bind_eq_some_iff.mp step
    cases same
    exact before.within (fun _ _ => Entries.Fits.beginTable) changed
  | element key =>
    obtain ⟨entries, changed, same⟩ := Option.bind_eq_some_iff.mp step
    cases same
    exact before.within (fun _ _ => Entries.Fits.beginElement) changed

/-- No document has an integer that is too large for one. -/
theorem document?_fits {text : String} (read : document? text = some node) : node.Fits := by
  obtain ⟨statements, found, made⟩ := Option.bind_eq_some_iff.mp read
  obtain ⟨⟨_, entries⟩, run, same⟩ := Option.bind_eq_some_iff.mp made
  cases same
  exact .table (foldlM_keeps (fun state => state.2.Fits)
    (fun statement member _ _ => apply_fits (statements?_fits _ found statement member))
    Entries.Fits.nil run)

end CartridgeBank.Toml
