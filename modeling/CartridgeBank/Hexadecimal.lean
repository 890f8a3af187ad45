namespace CartridgeBank

/-- A number in lower-case hexadecimal behind `0x`, with at least `digits` digits. -/
def hexadecimal (digits value : Nat) : String :=
  let written := Nat.toDigits 16 value
  String.ofList ('0' :: 'x' :: (List.replicate (digits - written.length) '0' ++ written))

end CartridgeBank
