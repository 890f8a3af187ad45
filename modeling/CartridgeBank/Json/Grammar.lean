import CartridgeBank.Json.Value

namespace CartridgeBank.Json

def isSpace (c : Char) : Bool := c == ' ' || c == '\n' || c == '\t' || c == '\r'

def skipSpace (cs : List Char) : List Char := cs.dropWhile isSpace

def hexDigit? (c : Char) : Option Nat :=
  if '0' ≤ c ∧ c ≤ '9' then some (c.toNat - '0'.toNat)
  else if 'a' ≤ c ∧ c ≤ 'f' then some (c.toNat - 'a'.toNat + 10)
  else if 'A' ≤ c ∧ c ≤ 'F' then some (c.toNat - 'A'.toNat + 10)
  else none

/-- The code that a letter behind a backslash stands for. -/
def shortEscape? : Char → Option Nat
  | '"' => some 34
  | '\\' => some 92
  | '/' => some 47
  | 'b' => some 8
  | 'f' => some 12
  | 'n' => some 10
  | 'r' => some 13
  | 't' => some 9
  | _ => none

/-- Reads the codes of a string, surrogates one by one. The opening quote is already taken. -/
def codes? : List Char → Option (List Nat × List Char)
  | [] => none
  | '"' :: rest => some ([], rest)
  | '\\' :: 'u' :: a :: b :: c :: d :: rest => do
    let digits ← [a, b, c, d].mapM hexDigit?
    let code := digits.foldl (fun high digit => high * 16 + digit) 0
    (codes? rest).map fun (codes, rest) => (code :: codes, rest)
  | '\\' :: c :: rest => do
    let code ← shortEscape? c
    (codes? rest).map fun (codes, rest) => (code :: codes, rest)
  | c :: rest =>
    if c.toNat < 32 then none
    else (codes? rest).map fun (codes, rest) => (c.toNat :: codes, rest)

def isHigh (code : Nat) : Bool := 0xD800 ≤ code ∧ code < 0xDC00

def isLow (code : Nat) : Bool := 0xDC00 ≤ code ∧ code < 0xE000

/-- The characters of codes: a high surrogate and a low one make up one character, and neither
stands alone. -/
def characters? : List Nat → Option (List Char)
  | [] => some []
  | [code] => if isHigh code || isLow code then none else some [Char.ofNat code]
  | high :: low :: rest =>
    if isHigh high && isLow low then
      (characters? rest).map (Char.ofNat (0x10000 + (high - 0xD800) * 1024 + (low - 0xDC00)) :: ·)
    else if isHigh high || isLow high then none
    else (characters? (low :: rest)).map (Char.ofNat high :: ·)

/-- Reads a string. The opening quote is already taken. -/
def text? (cs : List Char) : Option (Option String × List Char) :=
  (codes? cs).map fun (codes, rest) => ((characters? codes).map String.ofList, rest)

/-- The rest behind one or more digits. -/
def skipDigits? (cs : List Char) : Option (List Char) :=
  if (cs.takeWhile Char.isDigit).isEmpty then none else some (cs.dropWhile Char.isDigit)

/-- The rest behind the digits after a point, if there is one. -/
def skipFraction? : List Char → Option (List Char)
  | '.' :: rest => skipDigits? rest
  | cs => some cs

/-- The rest behind a power of ten, if there is one. -/
def skipExponent? : List Char → Option (List Char)
  | [] => some []
  | mark :: rest =>
    if mark = 'e' ∨ mark = 'E' then
      match rest with
      | '+' :: rest => skipDigits? rest
      | '-' :: rest => skipDigits? rest
      | rest => skipDigits? rest
    else some (mark :: rest)

/-- Whether a fraction or a power of ten starts here. -/
def startsInexact (cs : List Char) : Bool := cs.head?.any fun c => c == '.' || c == 'e' || c == 'E'

/-- Reads a number. It starts with a zero only if that is its whole integral part. -/
def number? (cs : List Char) : Option (Value × List Char) := do
  let (negative, cs) := match cs with
    | '-' :: rest => (true, rest)
    | cs => (false, cs)
  let digits := cs.takeWhile Char.isDigit
  let rest := cs.drop digits.length
  if digits = [] ∨ (digits.head? = some '0' ∧ digits.length ≠ 1) then none
  else
    let behind ← skipExponent? (← skipFraction? rest)
    let value := digits.foldl (fun high c => high * 10 + (c.toNat - '0'.toNat)) 0
    let isNatural := !negative && !startsInexact rest
    return (if isNatural then .natural value else .number, behind)

/-- The rest behind given characters. -/
def literal? (expected cs : List Char) : Option (List Char) :=
  if expected.isPrefixOf cs then some (cs.drop expected.length) else none

/-- Reads the items of an array up to its closing bracket, of which there is at least one. -/
def items? (value? : List Char → Option (Value × List Char)) :
    Nat → List Char → Option (List Value × List Char)
  | 0, _ => none
  | limit + 1, cs => do
    let (item, cs) ← value? (skipSpace cs)
    match skipSpace cs with
    | ',' :: rest => (items? value? limit rest).map fun (items, rest) => (item :: items, rest)
    | ']' :: rest => return ([item], rest)
    | _ => none

/-- Reads the entries of an object up to its closing brace, of which there is at least one. -/
def entries? (value? : List Char → Option (Value × List Char)) :
    Nat → List Char → Option (List (Option String × Value) × List Char)
  | 0, _ => none
  | limit + 1, cs =>
    match skipSpace cs with
    | '"' :: cs => do
      let (key, cs) ← text? cs
      let (value, cs) ← value? (skipSpace (← literal? [':'] (skipSpace cs)))
      match skipSpace cs with
      | ',' :: rest =>
        (entries? value? limit rest).map fun (entries, rest) => ((key, value) :: entries, rest)
      | '\x7d' :: rest => return ([(key, value)], rest)
      | _ => none
    | _ => none

/-- Reads a value in which brackets and braces nest at most `depth` deep. -/
def value? : Nat → List Char → Option (Value × List Char)
  | _, '"' :: rest => (text? rest).map fun (text, rest) => (.text text, rest)
  | depth + 1, '[' :: rest =>
    match skipSpace rest with
    | ']' :: rest => some (.array [], rest)
    | cs => (items? (value? depth) (cs.length + 1) cs).map fun (items, rest) => (.array items, rest)
  | depth + 1, '\x7b' :: rest =>
    match skipSpace rest with
    | '\x7d' :: rest => some (.object [], rest)
    | cs =>
      (entries? (value? depth) (cs.length + 1) cs).map fun (entries, rest) => (.object entries, rest)
  | _, 'n' :: rest => (literal? ['u', 'l', 'l'] rest).map (.null, ·)
  | _, 't' :: rest => (literal? ['r', 'u', 'e'] rest).map (.boolean true, ·)
  | _, 'f' :: rest => (literal? ['a', 'l', 's', 'e'] rest).map (.boolean false, ·)
  | _, cs => number? cs

/-- Reads a text that is one value. -/
def document? (text : String) : Option Value := do
  let cs := text.toList
  let (value, rest) ← value? (cs.length + 1) (skipSpace cs)
  if skipSpace rest = [] then some value else none

end CartridgeBank.Json
