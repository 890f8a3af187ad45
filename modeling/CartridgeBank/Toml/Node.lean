namespace CartridgeBank.Toml

/-- How a table came to be, which decides what may still be added to it. -/
inductive Origin where
  /-- Written out under a header of its own. -/
  | header
  /-- Only mentioned on the way to another header. -/
  | implied
  /-- Only mentioned in front of the dots of a key. -/
  | dotted
  /-- Written in braces, which is complete. -/
  | inline
deriving DecidableEq, Repr

/-- A value of a document. Floating-point numbers and points in time are kept as written. -/
inductive Node where
  | text (text : String)
  | integer (value : Int)
  | float (written : String)
  | boolean (value : Bool)
  | moment (written : String)
  | array (items : List Node)
  | table (origin : Origin) (entries : List (String × Node))
  /-- Tables written one by one under headers in double brackets. -/
  | tables (elements : List (List (String × Node)))

/-- The keys of a table with their values. -/
abbrev Entries := List (String × Node)

namespace Entries

/-- Replaces the value of a key that is there. -/
def set (entries : Entries) (key : String) (node : Node) : Entries :=
  entries.map fun entry => if entry.1 = key then (key, node) else entry

/-- Changes the last of a list of tables. -/
def onLast (change : Entries → Option Entries) (elements : List Entries) : Option (List Entries) :=
  match elements.getLast? with
  | none => none
  | some last => (change last).map fun last => elements.dropLast ++ [last]

/-- Adds `key = value` below a dotted path. Tables on the path that are missing are made. Dots lead
into tables made by dots only, but on the way to another table also into implied ones. -/
def assign (key : String) (value : Node) : List String → Entries → Option Entries
  | [], entries => if (entries.lookup key).isSome then none else some (entries ++ [(key, value)])
  | step :: path, entries =>
    match entries.lookup step with
    | none => do
      let inner ← assign key value path []
      return entries ++ [(step, .table .dotted inner)]
    | some (.table .dotted inner) => do
      let inner ← assign key value path inner
      return set entries step (.table .dotted inner)
    | some (.table .implied inner) =>
      if path = [] then none
      else do
        let inner ← assign key value path inner
        return set entries step (.table .implied inner)
    | some (.tables elements) =>
      if path = [] then none
      else do
        let elements ← onLast (assign key value path) elements
        return set entries step (.tables elements)
    | some _ => none

/-- Changes the table at a path of headers. Tables on the path that are missing are implied; a list
of tables stands for its last one. -/
def within (change : Entries → Option Entries) : List String → Entries → Option Entries
  | [], entries => change entries
  | step :: path, entries =>
    match entries.lookup step with
    | none => do
      let inner ← within change path []
      return entries ++ [(step, .table .implied inner)]
    | some (.table origin inner) =>
      if origin = .inline then none
      else do
        let inner ← within change path inner
        return set entries step (.table origin inner)
    | some (.tables elements) => do
      let elements ← onLast (within change path) elements
      return set entries step (.tables elements)
    | some _ => none

/-- Begins a table under a header. It may have been implied before, but not written out. -/
def beginTable (key : String) (entries : Entries) : Option Entries :=
  match entries.lookup key with
  | none => some (entries ++ [(key, .table .header [])])
  | some (.table .implied inner) => some (set entries key (.table .header inner))
  | some _ => none

/-- Begins one more table of a list of tables. -/
def beginElement (key : String) (entries : Entries) : Option Entries :=
  match entries.lookup key with
  | none => some (entries ++ [(key, .tables [[]])])
  | some (.tables elements) => some (set entries key (.tables (elements ++ [[]])))
  | some _ => none

end Entries

/-- A key with dots: the path before the last dot, and the last part. -/
structure Key where
  path : List String
  last : String
deriving DecidableEq, Repr

/-- One line of a document. -/
inductive Statement where
  | assign (key : Key) (value : Node)
  | table (key : Key)
  | element (key : Key)

/-- Adds a statement to a document. The path is that of the header the statement stands under. -/
def Statement.apply (state : List String × Entries) :
    Statement → Option (List String × Entries)
  | assign key value => do
    let entries ← Entries.within (Entries.assign key.last value key.path) state.1 state.2
    return (state.1, entries)
  | table key => do
    let entries ← Entries.within (Entries.beginTable key.last) key.path state.2
    return (key.path ++ [key.last], entries)
  | element key => do
    let entries ← Entries.within (Entries.beginElement key.last) key.path state.2
    return (key.path ++ [key.last], entries)

/-- The document that statements make up, unless one contradicts those before it. -/
def Node.ofStatements? (statements : List Statement) : Option Node := do
  let (_, entries) ← statements.foldlM Statement.apply ([], [])
  return .table .header entries

/-- The table that the pairs in braces make up. -/
def Node.ofPairs? (pairs : List (Key × Node)) : Option Node := do
  let entries ← pairs.foldlM (fun entries (pair : Key × Node) =>
    Entries.assign pair.1.last pair.2 pair.1.path entries) []
  return .table .inline entries

end CartridgeBank.Toml
