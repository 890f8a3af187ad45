import CartridgeBank.Toml.Scalar

namespace CartridgeBank.Toml

/-- Four upper-case hexadecimal digits. -/
def codeDigits (code : Nat) : List Char :=
  let digits := (Nat.toDigits 16 code).map Char.toUpper
  List.replicate (4 - digits.length) '0' ++ digits

/-- A character between double quotes: as it is, or escaped. -/
def escaped : Char → List Char
  | '\x08' => ['\\', 'b']
  | '\t' => ['\\', 't']
  | '\n' => ['\\', 'n']
  | '\x0c' => ['\\', 'f']
  | '\r' => ['\\', 'r']
  | '"' => ['\\', '"']
  | '\\' => ['\\', '\\']
  | c => if isControl c then '\\' :: 'u' :: codeDigits c.toNat else [c]

/-- A text between three double quotes. Line feeds stay, and of quotes in a row every third is
escaped; `run` counts those just written. -/
def escapedLines (run : Nat) : List Char → List Char
  | [] => []
  | '\n' :: rest => '\n' :: escapedLines 0 rest
  | '"' :: rest =>
    if run = 2 then '\\' :: '"' :: escapedLines 0 rest else '"' :: escapedLines (run + 1) rest
  | c :: rest => escaped c ++ escapedLines 0 rest

/-- Whether three quotes stand in a row. -/
def hasTriple (quote : Char) : List Char → Bool
  | a :: b :: c :: rest => (a == quote && b == quote && c == quote) || hasTriple quote (b :: c :: rest)
  | _ => false

/-- Controls that only an escape can stand for: all but the tab and the line feed. -/
def needsEscape (c : Char) : Bool := isControl c && c != '\n'

/-- A line feed behind opening quotes is not part of the text. One is written exactly for a text
that has several lines. -/
def opening (quotes text : List Char) : List Char :=
  if '\n' ∈ text then quotes ++ ['\n'] else quotes

/-- A text in the first form that fits: on one line in double or in single quotes, over several
lines in double or in single quotes, and else in double quotes with escapes. -/
def writeText (text : List Char) : List Char :=
  let double := List.replicate 3 '"'
  let single := List.replicate 3 '\''
  let plain := !text.any needsEscape
  let basic := ['"'] ++ text.flatMap escaped ++ ['"']
  let lines := opening double text ++ escapedLines 0 text ++ double
  if plain ∧ '\\' ∉ text ∧ '"' ∉ text ∧ '\n' ∉ text then basic
  else if plain ∧ '\'' ∉ text ∧ '\n' ∉ text then ['\''] ++ text ++ ['\'']
  else if plain ∧ '\\' ∉ text ∧ ¬hasTriple '"' text then lines
  else if plain ∧ ¬hasTriple '\'' text then opening single text ++ text ++ single
  else if '\n' ∈ text then lines
  else basic

/-- A natural number, if it is not too large for a document. -/
def writeNatural? (value : Nat) : Option (List Char) :=
  if value ≤ maxInteger then some (Nat.toDigits 10 value) else none

/-- A line `key = value`. -/
def writePair (key : String) (value : List Char) : List Char :=
  key.toList ++ [' ', '=', ' '] ++ value ++ ['\n']

/-- The line of a header. -/
def writeHeader (key : String) : List Char := ['['] ++ key.toList ++ [']', '\n']

end CartridgeBank.Toml
