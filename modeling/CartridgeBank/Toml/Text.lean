namespace CartridgeBank.Toml

/-- Characters that stand in no comment and in no string: the controls other than the tab. -/
def isControl (c : Char) : Bool := (c.val < 32 && c != '\t') || c.val == 127

def isBlank (c : Char) : Bool := c == ' ' || c == '\t'

/-- The rest after a line break, which is a line feed alone or after a carriage return. -/
def newline? : List Char → Option (List Char)
  | '\n' :: rest => some rest
  | '\r' :: '\n' :: rest => some rest
  | _ => none

/-- The rest after blanks and line breaks. -/
def skipSpace : List Char → List Char
  | [] => []
  | '\r' :: '\n' :: rest => skipSpace rest
  | c :: rest => if isBlank c || c == '\n' then skipSpace rest else c :: rest

/-- The value of a digit in a base of at most 16. -/
def digit? (base : Nat) (c : Char) : Option Nat :=
  let value :=
    if '0' ≤ c ∧ c ≤ '9' then c.toNat - '0'.toNat
    else if 'a' ≤ c ∧ c ≤ 'f' then c.toNat - 'a'.toNat + 10
    else if 'A' ≤ c ∧ c ≤ 'F' then c.toNat - 'A'.toNat + 10
    else base
  if value < base then some value else none

/-- The character with a hexadecimal code, which has to be a scalar value. -/
def codePoint? (digits : List Char) : Option Char := do
  let values ← digits.mapM (digit? 16)
  let code := values.foldl (fun high digit => high * 16 + digit) 0
  if code.isValidChar then some (Char.ofNat code) else none

/-- The character that a letter behind a backslash stands for. -/
def shortEscape? : Char → Option Char
  | 'b' => some '\x08'
  | 't' => some '\t'
  | 'n' => some '\n'
  | 'f' => some '\x0c'
  | 'r' => some '\r'
  | '"' => some '"'
  | '\\' => some '\\'
  | _ => none

/-- The character that the next `digits` hexadecimal digits stand for, and the rest. -/
def coded? (digits : Nat) (cs : List Char) : Option (Char × List Char) :=
  if (cs.take digits).length < digits then none
  else (codePoint? (cs.take digits)).map (·, cs.drop digits)

/-- The character that an escape stands for, and the rest. The backslash is already taken. -/
def escape? : List Char → Option (Char × List Char)
  | [] => none
  | c :: rest =>
    if c = 'u' then coded? 4 rest
    else if c = 'U' then coded? 8 rest
    else (shortEscape? c).map (·, rest)

theorem length_coded?_le {digits : Nat} {cs rest : List Char} {c : Char}
    (found : coded? digits cs = some (c, rest)) : rest.length ≤ cs.length := by
  unfold coded? at found
  split at found
  · cases found
  · obtain ⟨_, _, same⟩ := Option.map_eq_some_iff.mp found
    cases same
    simp

theorem length_escape?_lt {cs rest : List Char} {c : Char} (found : escape? cs = some (c, rest)) :
    rest.length < cs.length := by
  cases cs with
  | nil => cases found
  | cons first tail =>
    simp only [escape?] at found
    rw [List.length_cons, Nat.lt_succ_iff]
    split at found
    · exact length_coded?_le found
    · split at found
      · exact length_coded?_le found
      · obtain ⟨_, _, same⟩ := Option.map_eq_some_iff.mp found
        cases same
        exact Nat.le_refl _

theorem length_newline?_lt {cs rest : List Char} (found : newline? cs = some rest) :
    rest.length < cs.length := by
  unfold newline? at found
  split at found <;> cases found <;> simp only [List.length_cons] <;> omega

theorem length_skipSpace_le (cs : List Char) : (skipSpace cs).length ≤ cs.length := by
  fun_induction skipSpace cs with
  | case1 => simp
  | case2 rest ih => simp only [List.length_cons]; omega
  | case3 c rest _ _ ih => simp only [List.length_cons]; omega
  | case4 => simp

/-- Reads a string in double quotes on one line. The opening quote is already taken. -/
def basicText (cs : List Char) : Option (List Char × List Char) :=
  match cs with
  | [] => none
  | '"' :: rest => some ([], rest)
  | '\\' :: rest =>
    match _ : escape? rest with
    | none => none
    | some (c, rest) => (basicText rest).map fun (text, rest) => (c :: text, rest)
  | c :: rest =>
    if isControl c then none
    else (basicText rest).map fun (text, rest) => (c :: text, rest)
termination_by cs.length
decreasing_by
  · have := length_escape?_lt ‹_›
    simp only [List.length_cons]
    omega
  · simp

/-- Reads a string in single quotes on one line. The opening quote is already taken. -/
def literalText : List Char → Option (List Char × List Char)
  | [] => none
  | '\'' :: rest => some ([], rest)
  | c :: rest =>
    if isControl c then none
    else (literalText rest).map fun (text, rest) => (c :: text, rest)

/-- Three to five quotes in a row close a string over several lines; those in front of the last
three belong to it. -/
def closing? (quote : Char) (cs : List Char) : Option (List Char × List Char) :=
  let run := min 5 (cs.takeWhile (· == quote)).length
  if run < 3 then none else some (List.replicate (run - 3) quote, cs.drop run)

/-- A backslash at the end of a line stands for nothing, and for no space behind it either. Returns
the rest if there is one. The backslash is already taken. -/
def continuation? (cs : List Char) : Option (List Char) :=
  (newline? (cs.dropWhile isBlank)).map skipSpace

theorem length_dropWhile_le {α : Type} (p : α → Bool) (l : List α) :
    (l.dropWhile p).length ≤ l.length := by
  induction l with
  | nil => simp
  | cons a l ih =>
    rw [List.dropWhile_cons]
    split
    · simp only [List.length_cons]
      omega
    · simp

theorem length_continuation?_lt {cs rest : List Char} (found : continuation? cs = some rest) :
    rest.length < cs.length := by
  obtain ⟨tail, broken, rfl⟩ := Option.map_eq_some_iff.mp found
  have := length_newline?_lt broken
  have := length_dropWhile_le isBlank cs
  have := length_skipSpace_le tail
  omega

/-- Reads a string in three double quotes. The opening quotes are already taken. -/
def multilineBasicText (cs : List Char) : Option (List Char × List Char) :=
  match closing? '"' cs with
  | some closed => some closed
  | none =>
    match cs with
    | [] => none
    | '\\' :: rest =>
      match _ : continuation? rest with
      | some rest => multilineBasicText rest
      | none =>
        match _ : escape? rest with
        | none => none
        | some (c, rest) => (multilineBasicText rest).map fun (text, rest) => (c :: text, rest)
    | '\r' :: '\n' :: rest => (multilineBasicText rest).map fun (text, rest) => ('\n' :: text, rest)
    | c :: rest =>
      if isControl c && c != '\n' then none
      else (multilineBasicText rest).map fun (text, rest) => (c :: text, rest)
termination_by cs.length
decreasing_by
  · have := length_continuation?_lt ‹_›
    simp only [List.length_cons]
    omega
  · have := length_escape?_lt ‹_›
    simp only [List.length_cons]
    omega
  · simp only [List.length_cons]
    omega
  · simp

/-- Reads a string in three single quotes. The opening quotes are already taken. -/
def multilineLiteralText (cs : List Char) : Option (List Char × List Char) :=
  match closing? '\'' cs with
  | some closed => some closed
  | none =>
    match cs with
    | [] => none
    | '\r' :: '\n' :: rest =>
      (multilineLiteralText rest).map fun (text, rest) => ('\n' :: text, rest)
    | c :: rest =>
      if isControl c && c != '\n' then none
      else (multilineLiteralText rest).map fun (text, rest) => (c :: text, rest)
termination_by cs.length

/-- The rest without one line break at its front. -/
def skipNewline (cs : List Char) : List Char := (newline? cs).getD cs

/-- Reads a string of any of the four forms. -/
def text? : List Char → Option (List Char × List Char)
  | '"' :: '"' :: '"' :: rest => multilineBasicText (skipNewline rest)
  | '\'' :: '\'' :: '\'' :: rest => multilineLiteralText (skipNewline rest)
  | '"' :: rest => basicText rest
  | '\'' :: rest => literalText rest
  | _ => none

end CartridgeBank.Toml
