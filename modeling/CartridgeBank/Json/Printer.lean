import CartridgeBank.Json.Value

namespace CartridgeBank.Json

/-- Two lower-case hexadecimal digits. -/
def codeDigits (code : Nat) : List Char :=
  let digits := Nat.toDigits 16 code
  List.replicate (2 - digits.length) '0' ++ digits

/-- A character of a string: as it is, or escaped. -/
def escaped : Char → List Char
  | '"' => ['\\', '"']
  | '\\' => ['\\', '\\']
  | '\x08' => ['\\', 'b']
  | '\x0c' => ['\\', 'f']
  | '\n' => ['\\', 'n']
  | '\r' => ['\\', 'r']
  | '\t' => ['\\', 't']
  | c => if c.toNat < 32 then ['\\', 'u', '0', '0'] ++ codeDigits c.toNat else [c]

/-- A text in quotes. -/
def quoted (text : String) : String :=
  String.ofList ('"' :: text.toList.flatMap escaped ++ ['"'])

/-- A line break and the indentation of the given depth. -/
def lineBreak (depth : Nat) : String := String.ofList ('\n' :: List.replicate (2 * depth) ' ')

/-- Parts on a line each, between brackets on lines of their own. -/
def block (depth : Nat) (opening closing : String) (parts : List String) : String :=
  if parts = [] then opening ++ closing
  else
    opening ++ lineBreak (depth + 1) ++
      String.intercalate ("," ++ lineBreak (depth + 1)) parts ++ lineBreak depth ++ closing

namespace Value

mutual

/-- A value over several lines, indented by two blanks for each depth. -/
def pretty (depth : Nat) : Value → String
  | null => "null"
  | boolean value => if value then "true" else "false"
  | natural value => value.repr
  | number => "null"
  | text characters => characters.elim "null" quoted
  | array items => block depth "[" "]" (prettyItems (depth + 1) items)
  | object entries => block depth "\x7b" "\x7d" (prettyEntries (depth + 1) entries)

def prettyItems (depth : Nat) : List Value → List String
  | [] => []
  | item :: items => pretty depth item :: prettyItems depth items

def prettyEntries (depth : Nat) : List (Option String × Value) → List String
  | [] => []
  | (key, value) :: entries =>
    (key.elim "null" quoted ++ ": " ++ pretty depth value) :: prettyEntries depth entries

end

/-- An object with the given keys in order. -/
def record (entries : List (String × Value)) : Value :=
  object (entries.map fun (key, value) => (some key, value))

end Value

end CartridgeBank.Json
