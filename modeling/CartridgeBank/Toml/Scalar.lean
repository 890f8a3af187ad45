import CartridgeBank.Toml.Node
import CartridgeBank.Toml.Text

namespace CartridgeBank.Toml

/-- Characters of numbers, of points in time and of the words for truth values. -/
def isScalarChar (c : Char) : Bool :=
  c.isAlphanum || c == '_' || c == '+' || c == '-' || c == '.' || c == ':'

/-- The value of digits behind some others; single underscores may stand between digits. -/
def moreDigits? (base high : Nat) : List Char → Option Nat
  | [] => some high
  | '_' :: c :: rest => do moreDigits? base (high * base + (← digit? base c)) rest
  | c :: rest => do moreDigits? base (high * base + (← digit? base c)) rest

/-- The value of one or more digits. -/
def digits? (base : Nat) : List Char → Option Nat
  | [] => none
  | c :: rest => do moreDigits? base (← digit? base c) rest

/-- The value of decimal digits without a superfluous zero in front. -/
def decimal? : List Char → Option Nat
  | '0' :: _ :: _ => none
  | cs => digits? 10 cs

/-- Splits a sign off. -/
def unsigned : List Char → Bool × List Char
  | '+' :: rest => (false, rest)
  | '-' :: rest => (true, rest)
  | cs => (false, cs)

/-- The largest integer of a document. -/
def maxInteger : Nat := 9223372036854775807

/-- An integer of 64 bits, in decimal with or without a sign, or in base 16, 8 or 2. -/
def integer? (cs : List Char) : Option Int := do
  let value ← match cs with
    | '0' :: 'x' :: rest => (digits? 16 rest).map Int.ofNat
    | '0' :: 'o' :: rest => (digits? 8 rest).map Int.ofNat
    | '0' :: 'b' :: rest => (digits? 2 rest).map Int.ofNat
    | cs =>
      let (negative, rest) := unsigned cs
      (decimal? rest).map fun value => if negative then -(value : Int) else value
  if -(maxInteger : Int) - 1 ≤ value ∧ value ≤ maxInteger then some value else none

/-- Whether `mantissa · 10 ^ exponent` is too large for a floating-point number of 64 bits: at least
halfway from the largest one to 2 ^ 1024. -/
def overflows (mantissa : Nat) (exponent : Int) : Bool :=
  let bound := (1 <<< 54 - 1) <<< 970
  let digits : Int := (Nat.toDigits 10 mantissa).length
  if mantissa = 0 ∨ digits + exponent < 309 then false
  else if 309 < digits + exponent then true
  else if 0 ≤ exponent then bound ≤ mantissa * Nat.pow 10 exponent.toNat
  else bound * Nat.pow 10 (-exponent).toNat ≤ mantissa

/-- Whether the characters are the power of ten of a floating-point number, and its value. -/
def exponent? (cs : List Char) : Option Int :=
  let (negative, rest) := unsigned cs
  (digits? 10 rest).map fun value => if negative then -(value : Int) else value

/-- Whether the characters are a floating-point number without its sign, and whether that is too
large. -/
def fractional? (cs : List Char) : Option Bool := do
  let isMark (c : Char) : Bool := c == 'e' || c == 'E'
  let mantissa := cs.takeWhile fun c => !isMark c
  let whole := mantissa.takeWhile (· != '.')
  let fraction := mantissa.drop whole.length
  let scale := cs.drop mantissa.length
  if fraction = [] ∧ scale = [] then none
  else
    let whole' ← decimal? whole
    let exponent ← if scale = [] then some 0 else exponent? scale.tail
    if fraction = [] then return overflows whole' exponent
    else
      let _ ← digits? 10 fraction.tail
      let places := (fraction.tail.filter (· != '_')).length
      let value ← moreDigits? 10 whole' (fraction.tail.filter (· != '_'))
      return overflows value (exponent - places)

/-- Whether the characters are a floating-point number. A positive one that is too large is none. -/
def isFloat (cs : List Char) : Bool :=
  let (negative, rest) := unsigned cs
  if rest = ['i', 'n', 'f'] ∨ rest = ['n', 'a', 'n'] then true
  else match fractional? rest with
  | none => false
  | some tooLarge => negative || !tooLarge

/-- The value of exactly `width` decimal digits at the front, and the rest. -/
def fixed? (width : Nat) (cs : List Char) : Option (Nat × List Char) := do
  let front := cs.take width
  if front.length = width ∧ front.all Char.isDigit then
    return (front.foldl (fun high c => high * 10 + (c.toNat - '0'.toNat)) 0, cs.drop width)
  else none

/-- The rest behind a given character. -/
def expect? (c : Char) : List Char → Option (List Char)
  | first :: rest => if first = c then some rest else none
  | [] => none

def daysIn (year month : Nat) : Nat :=
  if month = 2 then
    if year % 4 = 0 ∧ (year % 100 ≠ 0 ∨ year % 400 = 0) then 29 else 28
  else if month ∈ [4, 6, 9, 11] then 30
  else 31

/-- The rest behind a date. -/
def date? (cs : List Char) : Option (List Char) := do
  let (year, cs) ← fixed? 4 cs
  let (month, cs) ← fixed? 2 (← expect? '-' cs)
  let (day, cs) ← fixed? 2 (← expect? '-' cs)
  if 1 ≤ month ∧ month ≤ 12 ∧ 1 ≤ day ∧ day ≤ daysIn year month then some cs else none

/-- The rest behind hours and minutes. -/
def hourMinute? (cs : List Char) : Option (List Char) := do
  let (hour, cs) ← fixed? 2 cs
  let (minute, cs) ← fixed? 2 (← expect? ':' cs)
  if hour ≤ 23 ∧ minute ≤ 59 then some cs else none

/-- The rest behind a time of day. A minute may have a leap second. -/
def time? (cs : List Char) : Option (List Char) := do
  let (second, cs) ← fixed? 2 (← expect? ':' (← hourMinute? cs))
  if 60 < second then none
  else match cs with
  | '.' :: c :: rest => if c.isDigit then some (rest.dropWhile Char.isDigit) else none
  | '.' :: [] => none
  | cs => some cs

/-- Whether the characters are nothing, or an offset from universal time. -/
def isOffset : List Char → Bool
  | [] | ['Z'] | ['z'] => true
  | c :: rest => (c == '+' || c == '-') && hourMinute? rest == some []

/-- Whether the characters are a date, a time of day, or a date with a time of day. -/
def isMoment (cs : List Char) : Bool :=
  match date? cs with
  | some [] => true
  | some (c :: rest) => (c == 'T' || c == 't') && (time? rest).any isOffset
  | none => time? cs == some []

/-- The value that a run of characters stands for. -/
def scalar? (cs : List Char) : Option Node :=
  if cs = ['t', 'r', 'u', 'e'] then some (.boolean true)
  else if cs = ['f', 'a', 'l', 's', 'e'] then some (.boolean false)
  else match integer? cs with
  | some value => some (.integer value)
  | none =>
    if isMoment cs then some (.moment (String.ofList cs))
    else if isFloat cs then some (.float (String.ofList cs))
    else none

/-- The characters of a value without quotes or brackets, and the rest. A blank may stand between a
date and a time of day. -/
def scalarChars (cs : List Char) : List Char × List Char :=
  let front := cs.takeWhile isScalarChar
  match cs.drop front.length with
  | ' ' :: c :: rest =>
    if date? front = some [] ∧ c.isDigit then
      let clock := (c :: rest).takeWhile isScalarChar
      (front ++ 'T' :: clock, (c :: rest).drop clock.length)
    else (front, ' ' :: c :: rest)
  | rest => (front, rest)

end CartridgeBank.Toml
