namespace CartridgeBank

/-- A structured document from which settings can be read. -/
class Document (ν : Type) where
  /-- The values of the named fields in the order of the names, where present. A record may be
  written with names or as a sequence of its values. -/
  fields? : List String → ν → Option (List (Option ν))
  natural? : ν → Option Nat
  text? : ν → Option String

namespace Document

variable {ν α : Type} [Document ν]

/-- The values of a sequence, in place of as many fields. -/
def inOrder (names : List String) (items : List ν) : List (Option ν) :=
  names.mapIdx fun index _ => items[index]?

/-- Reads a field, or takes the default if it is missing. -/
def field (default : α) (read? : ν → Option α) : Option ν → Option α
  | none => some default
  | some node => read? node

/-- A natural number of at most the given bits. -/
def word? (bits : Nat) (node : ν) : Option Nat := do
  let value ← natural? node
  if value < 1 <<< bits then some value else none

end Document

end CartridgeBank
