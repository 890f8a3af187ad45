import CartridgeBank.Document

namespace CartridgeBank.Json

/-- A value of a document. Numbers other than natural ones are not told apart. Text in which half of
a surrogate pair stands alone has no characters. -/
inductive Value where
  | null
  | boolean (value : Bool)
  | natural (value : Nat)
  | number
  | text (text : Option String)
  | array (items : List Value)
  | object (entries : List (Option String × Value))

namespace Value

/-- The single value of a key, if it is there at all. -/
def lookup? (entries : List (Option String × Value)) (name : String) : Option Value :=
  (entries.find? fun entry => entry.1 == some name).map Prod.snd

/-- Every key has characters, and none of the names stands twice. -/
def distinct (names : List String) (entries : List (Option String × Value)) : Bool :=
  entries.all (·.1.isSome) &&
    names.all fun name => (entries.filter fun entry => entry.1 == some name).length ≤ 1

instance : Document Value where
  fields? names
    | .object entries => if distinct names entries then some (names.map (lookup? entries)) else none
    | .array items =>
      if names.length < items.length then none else some (Document.inOrder names items)
    | _ => none
  natural?
    | .natural value => some value
    | _ => none
  text?
    | .text characters => characters
    | _ => none

end Value

end CartridgeBank.Json
