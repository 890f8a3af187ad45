import CartridgeBank.FrameCache

namespace CartridgeBank

/-- A quotient rounded to the nearest integer, of two equally near ones to the even one. -/
def roundHalfEven (numerator denominator : Nat) : Nat :=
  let quotient := numerator / denominator
  let twice := 2 * (numerator % denominator)
  if denominator < twice ∨ (twice = denominator ∧ quotient % 2 = 1) then quotient + 1 else quotient

/-- A floating-point number that is not negative, as a fraction of natural numbers. -/
def fractionOf (value : Float) : Nat × Nat :=
  let bits := value.toBits.toNat
  let hidden := 1 <<< 52
  let power := bits / hidden % 2048
  let mantissa := if power = 0 then bits % hidden else bits % hidden + hidden
  let power := max power 1
  if 1075 ≤ power then (mantissa <<< (power - 1075), 1) else (mantissa, 1 <<< (1075 - power))

/-- A floating-point number that is not negative, with one decimal. -/
def oneDecimal (value : Float) : String :=
  let (numerator, denominator) := fractionOf value
  let tenths := roundHalfEven (numerator * 10) denominator
  (tenths / 10).repr ++ "." ++ (tenths % 10).repr

/-- The share of look-ups that found their frame, in percent; 0 before the first look-up. -/
def CacheStats.hitRate (stats : CacheStats) : Float :=
  let lookups := stats.hits + stats.misses
  if lookups = 0 then 0 else Float.ofNat stats.hits / Float.ofNat lookups * 100

end CartridgeBank
