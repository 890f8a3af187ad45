import CartridgeBank.Toml.Grammar
import CartridgeBank.Toml.Writer
import Mathlib

namespace CartridgeBank.Toml

variable {c quote : Char} {cs text rest : List Char}

theorem length_codeDigits : ∀ code < 128, (codeDigits code).length = 4 := by
  decide +kernel

theorem codePoint?_codeDigits :
    ∀ code < 128, codePoint? (codeDigits code) = some (Char.ofNat code) := by
  decide +kernel

theorem coded?_codeDigits {code : Nat} (ascii : code < 128) (rest : List Char) :
    coded? 4 (codeDigits code ++ rest) = some (Char.ofNat code, rest) := by
  have length := length_codeDigits code ascii
  unfold coded?
  rw [List.take_left' length, List.drop_left' length, length, if_neg (by decide),
    codePoint?_codeDigits code ascii]
  rfl

theorem newline?_cons (noFeed : c ≠ '\n') (noReturn : c ≠ '\r') : newline? (c :: cs) = none := by
  unfold newline?
  split
  · rename_i same
    exact absurd (List.cons_eq_cons.mp same).1 noFeed
  · rename_i same
    exact absurd (List.cons_eq_cons.mp same).1 noReturn
  · rfl

/-- How a character may be spelled between double quotes. -/
inductive Spelling (c : Char) : List Char → Prop
  | plain : isControl c = false → c ≠ '"' → c ≠ '\\' → Spelling c [c]
  | coded {code : List Char} : (∀ rest, escape? (code ++ rest) = some (c, rest)) →
      (∀ rest, continuation? (code ++ rest) = none) → Spelling c ('\\' :: code)

/-- A letter behind a backslash. -/
theorem Spelling.letter {letter : Char} (means : shortEscape? letter = some c)
    (noCode : letter ≠ 'u' ∧ letter ≠ 'U') (noBlank : isBlank letter = false)
    (noBreak : letter ≠ '\n' ∧ letter ≠ '\r') : Spelling c ['\\', letter] := by
  refine Spelling.coded (fun rest => ?_) fun rest => ?_
  · rw [List.singleton_append, escape?, if_neg noCode.1, if_neg noCode.2, means]
    rfl
  · unfold continuation?
    rw [List.singleton_append, List.dropWhile_cons_of_neg (by rw [noBlank]; decide),
      newline?_cons noBreak.1 noBreak.2]
    rfl

theorem spelling_escaped (c : Char) : Spelling c (escaped c) := by
  unfold escaped
  split
  case h_8 noQuote noBackslash =>
    split
    · rename_i control
      have ascii : c.toNat < 128 := by
        simp only [isControl, Bool.or_eq_true, Bool.and_eq_true, decide_eq_true_eq, beq_iff_eq]
          at control
        rcases control with ⟨low, _⟩ | delete
        · exact Nat.lt_trans (UInt32.lt_iff_toNat_lt.mp low) (by decide)
        · exact lt_of_eq_of_lt (congrArg UInt32.toNat delete) (by decide)
      refine Spelling.coded (fun rest => ?_) fun rest => rfl
      rw [List.cons_append, escape?, if_pos rfl, coded?_codeDigits ascii, Char.ofNat_toNat]
    · rename_i visible
      exact Spelling.plain (Bool.eq_false_iff.mpr visible) noQuote noBackslash
  all_goals exact Spelling.letter rfl (by decide) rfl (by decide)

theorem Spelling.head {spelled : List Char} (spelling : Spelling c spelled) :
    ∃ first more, spelled = first :: more ∧ first ≠ '"' ∧ first ≠ '\n' ∧ first ≠ '\r' := by
  cases spelling with
  | plain visible noQuote _ =>
    refine ⟨c, [], rfl, noQuote, ?_, ?_⟩ <;> rintro rfl <;> cases visible
  | coded _ _ => exact ⟨'\\', _, rfl, by decide⟩

theorem basicText_spelled {spelled : List Char} (spelling : Spelling c spelled)
    (cs : List Char) : basicText (spelled ++ cs) =
      (basicText cs).map fun (text, rest) => (c :: text, rest) := by
  cases spelling with
  | plain visible noQuote noBackslash =>
    rw [List.singleton_append, basicText, if_neg (by rw [visible]; decide)]
    · exact noQuote
    · exact noBackslash
  | coded means _ =>
    rw [List.cons_append, basicText]
    split
    · rename_i failed
      rw [means] at failed
      cases failed
    · rename_i found
      rw [means] at found
      cases found
      rfl

/-- A text with escapes is read back between double quotes. -/
theorem basicText_escaped (text rest : List Char) :
    basicText (text.flatMap escaped ++ '"' :: rest) = some (text, rest) := by
  induction text with
  | nil => rw [List.flatMap_nil, List.nil_append, basicText]
  | cons c text ih =>
    rw [List.flatMap_cons, List.append_assoc, basicText_spelled (spelling_escaped c), ih]
    rfl

theorem literalText_plain (visible : ∀ c ∈ text, isControl c = false) (noQuote : '\'' ∉ text)
    (rest : List Char) : literalText (text ++ '\'' :: rest) = some (text, rest) := by
  induction text with
  | nil => rfl
  | cons c text ih =>
    obtain ⟨here, others⟩ := List.forall_mem_cons.mp visible
    obtain ⟨different, without⟩ := List.ne_and_not_mem_of_not_mem_cons noQuote
    rw [List.cons_append, literalText, if_neg (by rw [here]; decide), ih others without]
    · rfl
    · exact fun same => different same.symm

/-- How many quotes stand at the front. -/
def leading (quote : Char) (cs : List Char) : Nat := (cs.takeWhile (· == quote)).length

theorem leading_cons_self (quote : Char) (cs : List Char) :
    leading quote (quote :: cs) = leading quote cs + 1 := by
  simp [leading]

theorem leading_cons_of_ne (different : c ≠ quote) : leading quote (c :: cs) = 0 := by
  simp [leading, different]

theorem leading_eq_zero (stop : rest.head? ≠ some quote) : leading quote rest = 0 := by
  cases rest with
  | nil => rfl
  | cons c rest => exact leading_cons_of_ne fun same => stop (by rw [same]; rfl)

theorem leading_replicate (stop : rest.head? ≠ some quote) (count : Nat) :
    leading quote (List.replicate count quote ++ rest) = count := by
  induction count with
  | zero => exact leading_eq_zero stop
  | succ count ih => rw [List.replicate_succ, List.cons_append, leading_cons_self, ih]

theorem closing?_few (few : leading quote cs < 3) : closing? quote cs = none := by
  unfold leading at few
  unfold closing?
  dsimp only
  rw [if_pos (by omega)]

/-- Two quotes may stand in front of the three that close a text. -/
theorem closing?_replicate {count : Nat} (few : count ≤ 2) (stop : rest.head? ≠ some quote) :
    closing? quote (List.replicate count quote ++ (List.replicate 3 quote ++ rest)) =
      some (List.replicate count quote, rest) := by
  have all := leading_replicate stop (count + 3)
  rw [← List.append_assoc, List.replicate_append_replicate]
  unfold leading at all
  unfold closing?
  dsimp only
  rw [all, Nat.min_eq_right (by omega), if_neg (by omega), Nat.add_sub_cancel,
    List.drop_left' List.length_replicate]

/-- A text that begins with at most two quotes is those quotes, or goes on past them. -/
theorem eq_replicate_or_few (few : leading quote text ≤ 2) :
    (∃ count ≤ 2, text = List.replicate count quote) ∨
      ∀ rest, leading quote (text ++ rest) ≤ 2 := by
  by_cases all : ∀ c ∈ text, (c == quote) = true
  · have quotes : text = List.replicate text.length quote :=
      List.eq_replicate_of_mem fun c member => eq_of_beq (all c member)
    have length : leading quote text = text.length := by
      unfold leading
      rw [List.takeWhile_eq_self_iff.mpr all]
    exact Or.inl ⟨text.length, length ▸ few, quotes⟩
  · have shorter : (text.takeWhile (· == quote)).length ≠ text.length := fun same =>
      all (List.takeWhile_eq_self_iff.mp
        ((List.takeWhile_prefix (· == quote)).eq_of_length same))
    refine Or.inr fun rest => ?_
    unfold leading
    rw [List.takeWhile_append, if_neg shorter]
    exact few

theorem multilineBasicText_closed {read : List Char × List Char}
    (closed : closing? '"' cs = some read) : multilineBasicText cs = some read := by
  unfold multilineBasicText
  rw [closed]

theorem multilineBasicText_visible (opened : closing? '"' (c :: cs) = none)
    (visible : isControl c = false ∨ c = '\n') (noBackslash : c ≠ '\\') :
    multilineBasicText (c :: cs) =
      (multilineBasicText cs).map fun (text, rest) => (c :: text, rest) := by
  have kept : ¬(isControl c && c != '\n') = true := by
    rcases visible with visible | rfl
    · simp [visible]
    · decide
  have noReturn : c ≠ '\r' := by
    rintro rfl
    exact kept rfl
  rw [multilineBasicText, opened]
  · dsimp only
    rw [if_neg kept]
  · exact noBackslash
  · exact fun _ same _ => noReturn same

theorem multilineBasicText_spelled {spelled : List Char} (spelling : Spelling c spelled)
    (cs : List Char) : multilineBasicText (spelled ++ cs) =
      (multilineBasicText cs).map fun (text, rest) => (c :: text, rest) := by
  obtain ⟨first, more, begins, noQuote, _⟩ := spelling.head
  have opened : closing? '"' (spelled ++ cs) = none :=
    closing?_few (by rw [begins, List.cons_append, leading_cons_of_ne noQuote]; decide)
  cases spelling with
  | plain visible _ noBackslash =>
    exact multilineBasicText_visible opened (Or.inl visible) noBackslash
  | coded means noContinuation =>
    rw [List.cons_append] at opened ⊢
    rw [multilineBasicText, opened]
    dsimp only
    split
    · rename_i found
      rw [noContinuation] at found
      cases found
    · split
      · rename_i failed
        rw [means] at failed
        cases failed
      · rename_i found
        rw [means] at found
        cases found
        rfl

/-- With the quotes just written, escaped lines never begin with a third one. -/
theorem leading_escapedLines (run : Nat) (bound : run ≤ 2) (text : List Char) :
    leading '"' (escapedLines run text) ≤ 2 - run := by
  fun_induction escapedLines run text with
  | case1 => exact Nat.zero_le _
  | case2 => exact (leading_cons_of_ne (by decide)).trans_le (Nat.zero_le _)
  | case3 => exact (leading_cons_of_ne (by decide)).trans_le (Nat.zero_le _)
  | case4 run rest below ih =>
    have := ih (by omega)
    rw [leading_cons_self]
    omega
  | case5 run c rest =>
    obtain ⟨first, more, begins, noQuote, _⟩ := (spelling_escaped c).head
    rw [begins, List.cons_append]
    exact (leading_cons_of_ne noQuote).trans_le (Nat.zero_le _)

/-- Only a line feed begins lines with one. -/
theorem escapedLines_cons (noFeed : c ≠ '\n') (run : Nat) (text : List Char) :
    ∃ first more, escapedLines run (c :: text) = first :: more ∧ first ≠ '\n' ∧ first ≠ '\r' := by
  unfold escapedLines
  split
  · rename_i same
    cases same
  · rename_i same
    exact absurd (List.cons_eq_cons.mp same).1 noFeed
  · split
    · exact ⟨'\\', _, rfl, by decide⟩
    · exact ⟨'"', _, rfl, by decide⟩
  · rename_i same
    cases same
    obtain ⟨first, more, begins, _, breaks⟩ := (spelling_escaped c).head
    rw [begins]
    exact ⟨first, _, rfl, breaks⟩

/-- Lines that come out as quotes alone are those quotes. -/
theorem eq_of_escapedLines_eq_replicate {count : Nat} (run : Nat) (text : List Char)
    (quotes : escapedLines run text = List.replicate count '"') :
    text = List.replicate count '"' := by
  fun_induction escapedLines run text generalizing count with
  | case1 => exact quotes
  | case2 | case3 => cases count <;> cases quotes
  | case4 run rest _ ih =>
    cases count with
    | zero => cases quotes
    | succ count => rw [ih (List.cons_eq_cons.mp quotes).2, List.replicate_succ]
  | case5 run c rest =>
    obtain ⟨first, more, begins, noQuote, _⟩ := (spelling_escaped c).head
    rw [begins, List.cons_append] at quotes
    cases count with
    | zero => cases quotes
    | succ count => exact absurd (List.cons_eq_cons.mp quotes).1 noQuote

/-- A text with line feeds is read back between three double quotes. Its last quotes may touch the
closing ones, and before those no three quotes stand in a row. -/
theorem multilineBasicText_escapedLines (stop : rest.head? ≠ some '"') (run : Nat)
    (bound : run ≤ 2) (text : List Char) :
    multilineBasicText (escapedLines run text ++ (List.replicate 3 '"' ++ rest)) =
      some (text, rest) := by
  -- Along what is written. The quotes that `run` counts are read already, each as a character of the
  -- text; they matter only in that fewer may follow.
  fun_induction escapedLines run text with
  | case1 => exact multilineBasicText_closed (closing?_replicate (Nat.zero_le 2) stop)
  | case2 run text ih =>
    have opened :
        closing? '"' ('\n' :: escapedLines 0 text ++ (List.replicate 3 '"' ++ rest)) = none :=
      closing?_few (by rw [List.cons_append, leading_cons_of_ne (by decide)]; decide)
    rw [List.cons_append] at opened ⊢
    rw [multilineBasicText_visible opened (Or.inr rfl) (by decide), ih (by decide)]
    rfl
  | case3 text ih =>
    have read := multilineBasicText_spelled (spelling_escaped '"')
      (escapedLines 0 text ++ (List.replicate 3 '"' ++ rest))
    rw [ih (by decide)] at read
    exact read
  | case4 run text below ih =>
    have next := leading_escapedLines (run + 1) (by omega) text
    have here : leading '"' ('"' :: escapedLines (run + 1) text) ≤ 2 := by
      rw [leading_cons_self]
      omega
    -- Where only quotes are left, they are taken together with the closing ones.
    rcases eq_replicate_or_few here with ⟨count, few, quotes⟩ | few
    · have same : '"' :: text = List.replicate count '"' :=
        eq_of_escapedLines_eq_replicate run _ (by rw [escapedLines, if_neg below, quotes])
      rw [quotes, same]
      exact multilineBasicText_closed (closing?_replicate few stop)
    · have opened := closing?_few (Nat.lt_succ_of_le (few (List.replicate 3 '"' ++ rest)))
      rw [List.cons_append] at opened ⊢
      rw [multilineBasicText_visible opened (Or.inl rfl) (by decide), ih (by omega)]
      rfl
  | case5 run c text noFeed noQuote ih =>
    rw [List.append_assoc, multilineBasicText_spelled (spelling_escaped c), ih (by decide)]
    rfl

theorem leading_of_not_hasTriple (apart : hasTriple quote text = false) :
    leading quote text ≤ 2 := by
  match text with
  | [] => exact Nat.zero_le 2
  | [_] => exact (List.takeWhile_prefix _).length_le.trans (Nat.le_succ 1)
  | [_, _] => exact (List.takeWhile_prefix _).length_le
  | a :: b :: c :: text =>
    simp only [leading, List.takeWhile_cons]
    cases first : a == quote <;> cases second : b == quote <;> cases third : c == quote <;>
      simp_all [hasTriple]

theorem hasTriple_tail (apart : hasTriple quote (c :: text) = false) :
    hasTriple quote text = false := by
  match text with
  | [] | [_] => rfl
  | _ :: _ :: _ => exact (Bool.or_eq_false_iff.mp apart).2

theorem multilineLiteralText_visible (opened : closing? '\'' (c :: cs) = none)
    (plain : needsEscape c = false) : multilineLiteralText (c :: cs) =
      (multilineLiteralText cs).map fun (text, rest) => (c :: text, rest) := by
  have kept : ¬(isControl c && c != '\n') = true := by
    unfold needsEscape at plain
    rw [plain]
    decide
  have noReturn : c ≠ '\r' := by
    rintro rfl
    exact kept rfl
  rw [multilineLiteralText, opened]
  · dsimp only
    rw [if_neg kept]
  · exact fun _ same _ => noReturn same

/-- A text without three single quotes in a row is read back between three of them. -/
theorem multilineLiteralText_plain (stop : rest.head? ≠ some '\'')
    (plain : ∀ c ∈ text, needsEscape c = false) (apart : hasTriple '\'' text = false) :
    multilineLiteralText (text ++ (List.replicate 3 '\'' ++ rest)) = some (text, rest) := by
  have closed {count : Nat} (few : count ≤ 2) :
      multilineLiteralText (List.replicate count '\'' ++ (List.replicate 3 '\'' ++ rest)) =
        some (List.replicate count '\'', rest) := by
    unfold multilineLiteralText
    rw [closing?_replicate few stop]
  induction text with
  | nil => exact closed (Nat.zero_le 2)
  | cons c text ih =>
    rcases eq_replicate_or_few (leading_of_not_hasTriple apart) with ⟨count, few, quotes⟩ | few
    · rw [quotes]
      exact closed few
    · have opened := closing?_few (Nat.lt_succ_of_le (few (List.replicate 3 '\'' ++ rest)))
      obtain ⟨here, others⟩ := List.forall_mem_cons.mp plain
      rw [List.cons_append] at opened ⊢
      rw [multilineLiteralText_visible opened here, ih others (hasTriple_tail apart)]
      rfl

theorem text?_basic (single : ∀ cs', cs ≠ '"' :: '"' :: cs') :
    text? ('"' :: cs) = basicText cs := by
  unfold text?
  split
  · rename_i same
    exact absurd (List.cons_eq_cons.mp same).2 (single _)
  · rename_i same
    cases same
  · rename_i same
    cases same
    rfl
  · rename_i same
    cases same
  · rename_i other _
    exact absurd rfl (other cs)

theorem text?_literal (single : ∀ cs', cs ≠ '\'' :: '\'' :: cs') :
    text? ('\'' :: cs) = literalText cs := by
  unfold text?
  split
  · rename_i same
    cases same
  · rename_i same
    exact absurd (List.cons_eq_cons.mp same).2 (single _)
  · rename_i same
    cases same
  · rename_i same
    cases same
    rfl
  · rename_i other
    exact absurd rfl (other cs)

/-- The line feed behind opening quotes is skipped, and it is there unless nothing else would be. -/
theorem skipNewline_opening (quote : Char) (whole : '\n' ∉ text → newline? cs = none) :
    ∃ front, opening (List.replicate 3 quote) text ++ cs = List.replicate 3 quote ++ front ∧
      skipNewline front = cs := by
  unfold opening
  split
  · exact ⟨'\n' :: cs, by rw [List.append_assoc]; rfl, rfl⟩
  · rename_i oneLine
    exact ⟨cs, rfl, by rw [skipNewline, whole oneLine]; rfl⟩

theorem text?_lines (noQuote : rest.head? ≠ some '"') (text : List Char) :
    text? (opening (List.replicate 3 '"') text ++
      (escapedLines 0 text ++ (List.replicate 3 '"' ++ rest))) = some (text, rest) := by
  have whole : '\n' ∉ text →
      newline? (escapedLines 0 text ++ (List.replicate 3 '"' ++ rest)) = none := by
    intro oneLine
    cases text with
    | nil => exact newline?_cons (by decide) (by decide)
    | cons c text =>
      obtain ⟨first, more, begins, noFeed, noReturn⟩ :=
        escapedLines_cons (List.ne_of_not_mem_cons oneLine).symm 0 text
      rw [begins, List.cons_append]
      exact newline?_cons noFeed noReturn
  obtain ⟨front, begins, skipped⟩ := skipNewline_opening '"' whole
  rw [begins]
  change multilineBasicText (skipNewline front) = _
  rw [skipped]
  exact multilineBasicText_escapedLines noQuote 0 (by decide) text

theorem text?_literalLines (noQuote : rest.head? ≠ some '\'')
    (plain : ∀ c ∈ text, needsEscape c = false) (apart : hasTriple '\'' text = false) :
    text? (opening (List.replicate 3 '\'') text ++
      (text ++ (List.replicate 3 '\'' ++ rest))) = some (text, rest) := by
  have whole : '\n' ∉ text → newline? (text ++ (List.replicate 3 '\'' ++ rest)) = none := by
    intro oneLine
    cases text with
    | nil => exact newline?_cons (by decide) (by decide)
    | cons c text =>
      refine newline?_cons (List.ne_of_not_mem_cons oneLine).symm ?_
      rintro rfl
      cases plain '\r' List.mem_cons_self
  obtain ⟨front, begins, skipped⟩ := skipNewline_opening '\'' whole
  rw [begins]
  change multilineLiteralText (skipNewline front) = _
  rw [skipped]
  exact multilineLiteralText_plain noQuote plain apart

theorem text?_escaped (noQuote : rest.head? ≠ some '"') (text : List Char) :
    text? ('"' :: (text.flatMap escaped ++ '"' :: rest)) = some (text, rest) := by
  rw [text?_basic, basicText_escaped]
  intro cs same
  cases text with
  | nil =>
    obtain ⟨_, after⟩ := List.cons_eq_cons.mp same
    exact noQuote (by rw [after]; rfl)
  | cons c text =>
    obtain ⟨first, more, begins, different, _⟩ := (spelling_escaped c).head
    rw [List.flatMap_cons, begins] at same
    exact different (List.cons_eq_cons.mp same).1

theorem text?_plain (noQuote : rest.head? ≠ some '\'')
    (visible : ∀ c ∈ text, isControl c = false) (apart : '\'' ∉ text) :
    text? ('\'' :: (text ++ '\'' :: rest)) = some (text, rest) := by
  rw [text?_literal, literalText_plain visible apart]
  intro cs same
  cases text with
  | nil =>
    obtain ⟨_, after⟩ := List.cons_eq_cons.mp same
    exact noQuote (by rw [after]; rfl)
  | cons c text => exact List.ne_of_not_mem_cons apart (List.cons_eq_cons.mp same).1.symm

/-- Every text is read back from the form it is written in. -/
theorem text?_writeText (noDouble : rest.head? ≠ some '"') (noSingle : rest.head? ≠ some '\'')
    (text : List Char) : text? (writeText text ++ rest) = some (text, rest) := by
  have basic := text?_escaped noDouble text
  have lines := text?_lines noDouble text
  unfold writeText
  dsimp only
  split
  · simpa using basic
  split
  · rename_i literal
    obtain ⟨plain, apart, oneLine⟩ := literal
    have visible : ∀ c ∈ text, isControl c = false := by
      intro c member
      have kept : needsEscape c = false := by
        simpa using List.any_eq_false.mp (by simpa using plain) c member
      have noFeed : c ≠ '\n' := fun same => oneLine (same ▸ member)
      simpa [needsEscape, noFeed] using kept
    simpa using text?_plain noSingle visible apart
  split
  · simpa using lines
  split
  · rename_i literal
    obtain ⟨plain, apart⟩ := literal
    have kept : ∀ c ∈ text, needsEscape c = false := by
      simpa using plain
    simpa using text?_literalLines noSingle kept (by simpa using apart)
  split
  · simpa using lines
  · simpa using basic

/-- A text is written with a quote in front. -/
theorem writeText_quoted (text : List Char) :
    ∃ more, writeText text = '"' :: more ∨ writeText text = '\'' :: more := by
  unfold writeText opening
  dsimp only
  split_ifs
  all_goals first | exact ⟨_, Or.inl rfl⟩ | exact ⟨_, Or.inr rfl⟩

end CartridgeBank.Toml
