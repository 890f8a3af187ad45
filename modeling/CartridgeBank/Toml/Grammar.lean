import CartridgeBank.Toml.Scalar

namespace CartridgeBank.Toml

/-- How many parts a key may have, and how deep brackets and braces may nest, plus one. -/
def maxDepth : Nat := 80

def skipBlanks (cs : List Char) : List Char := cs.dropWhile isBlank

/-- Characters of a key without quotes. -/
def isBareKeyChar (c : Char) : Bool := c.isAlphanum || c == '_' || c == '-'

/-- Reads one part of a key. -/
def keyPart? : List Char → Option (String × List Char)
  | '"' :: rest => (basicText rest).map fun (text, rest) => (String.ofList text, rest)
  | '\'' :: rest => (literalText rest).map fun (text, rest) => (String.ofList text, rest)
  | cs =>
    let part := cs.takeWhile isBareKeyChar
    if part = [] then none else some (String.ofList part, cs.drop part.length)

/-- Reads the parts of a key, at most `limit` of them, with blanks around them. -/
def keyParts? : Nat → List Char → Option (List String × List Char)
  | 0, _ => none
  | limit + 1, cs => do
    let (part, cs) ← keyPart? (skipBlanks cs)
    match skipBlanks cs with
    | '.' :: rest => (keyParts? limit rest).map fun (parts, rest) => (part :: parts, rest)
    | rest => return ([part], rest)

/-- Reads a key with the blanks around it. -/
def key? (cs : List Char) : Option (Key × List Char) := do
  let (parts, rest) ← keyParts? (maxDepth - 1) cs
  match parts.getLast? with
  | none => none
  | some last => return ({ path := parts.dropLast, last }, rest)

/-- The rest after blanks, line breaks and comments. -/
def skipGap (inComment : Bool) : List Char → List Char
  | [] => []
  | '\r' :: '\n' :: rest => skipGap false rest
  | c :: rest =>
    if inComment && !isControl c then skipGap true rest
    else if isBlank c || c == '\n' then skipGap false rest
    else if c == '#' then skipGap true rest
    else c :: rest

/-- Reads the items of an array up to its closing bracket. Each reading takes at least one
character, of which there are fewer than `limit`. -/
def items? (item? : List Char → Option (Node × List Char)) :
    Nat → List Char → Option (List Node × List Char)
  | 0, _ => none
  | limit + 1, cs =>
    match skipGap false cs with
    | ']' :: rest => some ([], rest)
    | cs => do
      let (item, cs) ← item? cs
      match skipGap false cs with
      | ',' :: rest => (items? item? limit rest).map fun (items, rest) => (item :: items, rest)
      | ']' :: rest => return ([item], rest)
      | _ => none

/-- Reads `key = value` without what follows. -/
def pair? (value? : List Char → Option (Node × List Char)) (cs : List Char) :
    Option ((Key × Node) × List Char) := do
  let (key, cs) ← key? cs
  let (value, cs) ← value? (skipBlanks (← expect? '=' cs))
  return ((key, value), cs)

/-- Reads the pairs of a table in braces up to the closing brace, of which there is at least one. -/
def pairs? (value? : List Char → Option (Node × List Char)) :
    Nat → List Char → Option (List (Key × Node) × List Char)
  | 0, _ => none
  | limit + 1, cs => do
    let (pair, cs) ← pair? value? cs
    match skipBlanks cs with
    | ',' :: rest => (pairs? value? limit rest).map fun (pairs, rest) => (pair :: pairs, rest)
    | '\x7d' :: rest => return ([pair], rest)
    | _ => none

/-- Reads a value without brackets or braces. -/
def leaf? : List Char → Option (Node × List Char)
  | '"' :: rest => (text? ('"' :: rest)).map fun (text, rest) => (.text (String.ofList text), rest)
  | '\'' :: rest => (text? ('\'' :: rest)).map fun (text, rest) => (.text (String.ofList text), rest)
  | cs =>
    let (written, rest) := scalarChars cs
    (scalar? written).map (·, rest)

/-- Reads a value in which brackets and braces nest at most `depth` deep. -/
def value? : Nat → List Char → Option (Node × List Char)
  | depth + 1, '[' :: rest =>
    (items? (value? depth) (rest.length + 1) rest).map fun (items, rest) => (.array items, rest)
  | depth + 1, '\x7b' :: rest =>
    match skipBlanks rest with
    | '\x7d' :: rest => some (.table .inline [], rest)
    | cs => do
      let (pairs, rest) ← pairs? (value? depth) (cs.length + 1) cs
      return (← Node.ofPairs? pairs, rest)
  | _, cs => leaf? cs

/-- The rest after the end of a line, in front of which only blanks and a comment may stand. -/
def lineEnd? (cs : List Char) : Option (List Char) :=
  let rest := match skipBlanks cs with
    | '#' :: comment => comment.dropWhile fun c => !isControl c
    | rest => rest
  if rest = [] then some [] else newline? rest

/-- Reads one statement without the end of its line. -/
def statement? : List Char → Option (Statement × List Char)
  | '[' :: '[' :: rest => do
    let (key, rest) ← key? rest
    return (.element key, ← expect? ']' (← expect? ']' rest))
  | '[' :: rest => do
    let (key, rest) ← key? rest
    return (.table key, ← expect? ']' rest)
  | cs => do
    let ((key, value), rest) ← pair? (value? (maxDepth - 1)) cs
    return (.assign key value, rest)

/-- Reads the statements of a document, line by line. There are fewer lines than `limit`. -/
def statements? : Nat → List Char → Option (List Statement)
  | 0, _ => none
  | limit + 1, cs =>
    match skipBlanks cs with
    | [] => some []
    | c :: rest =>
      if c = '#' ∨ c = '\n' ∨ c = '\r' then do statements? limit (← lineEnd? (c :: rest))
      else do
        let (statement, rest) ← statement? (c :: rest)
        return statement :: (← statements? limit (← lineEnd? rest))

/-- Reads a document. A byte order mark in front is ignored. -/
def document? (text : String) : Option Node :=
  let cs := match text.toList with
    | '\uFEFF' :: rest => rest
    | cs => cs
  (statements? (cs.length + 1) cs).bind Node.ofStatements?

end CartridgeBank.Toml
