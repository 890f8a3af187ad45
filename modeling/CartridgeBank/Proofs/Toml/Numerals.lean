import CartridgeBank.Toml.Grammar
import CartridgeBank.Toml.Writer
import Mathlib

namespace CartridgeBank.Toml

variable {c : Char} {cs rest : List Char} {n : Nat}

theorem ne_of_isDigit {d : Char} (digit : c.isDigit = true) (other : d.isDigit = false) : c ≠ d := by
  rintro rfl
  rw [digit] at other
  cases other

theorem digit?_of_isDigit (digit : c.isDigit = true) :
    digit? 10 c = some (c.toNat - '0'.toNat) := by
  have bounds : '0' ≤ c ∧ c ≤ '9' := by
    simpa [Char.isDigit, Char.le_def] using digit
  have upper : c.toNat ≤ 57 := bounds.2
  unfold digit?
  rw [if_pos bounds, if_pos]
  change c.toNat - 48 < 10
  omega

/-- Digits without underscores spell their number. -/
theorem moreDigits?_of_isDigit (digits : ∀ c ∈ cs, c.isDigit = true) (high : Nat) :
    moreDigits? 10 high cs = some (Nat.ofDigitChars 10 cs high) := by
  induction cs generalizing high with
  | nil => rfl
  | cons c cs ih =>
    obtain ⟨first, others⟩ := List.forall_mem_cons.mp digits
    have noUnderscore : c ≠ '_' := ne_of_isDigit first rfl
    rw [moreDigits?]
    · rw [digit?_of_isDigit first, Option.bind_eq_bind, Option.bind_some, ih others,
        Nat.ofDigitChars_cons, Nat.mul_comm]
    · rintro next tail same rfl
      exact absurd same noUnderscore

/-- No number but zero itself is written with a zero in front. -/
theorem head_toDigits (positive : 0 < n) : (Nat.toDigits 10 n).head? ≠ some '0' := by
  induction n using Nat.strong_induction_on with
  | _ n ih =>
    rw [Nat.toDigits_eq_if (by decide)]
    split
    · rename_i small
      interval_cases n <;> decide
    · rename_i large
      rw [List.head?_append_of_ne_nil _ Nat.toDigits_ne_nil]
      exact ih (n / 10) (by omega) (by omega)

theorem toDigits_eq_cons (n : Nat) : ∃ c rest, Nat.toDigits 10 n = c :: rest ∧
    c.isDigit = true ∧ (∀ d ∈ rest, d.isDigit = true) ∧ (c = '0' → n = 0) := by
  cases written : Nat.toDigits 10 n with
  | nil => exact absurd written Nat.toDigits_ne_nil
  | cons c rest =>
    have digits : ∀ d ∈ c :: rest, d.isDigit = true := fun d member =>
      Nat.isDigit_of_mem_toDigits (by decide) (by decide) (written ▸ member)
    obtain ⟨first, others⟩ := List.forall_mem_cons.mp digits
    refine ⟨c, rest, rfl, first, others, ?_⟩
    rintro rfl
    by_contra positive
    exact head_toDigits (Nat.pos_of_ne_zero positive) (by rw [written]; rfl)

/-- A number is read back from its decimal digits. -/
theorem decimal?_toDigits (n : Nat) : decimal? (Nat.toDigits 10 n) = some n := by
  obtain ⟨c, rest, written, first, others, zero⟩ := toDigits_eq_cons n
  by_cases nothing : n = 0
  · subst nothing
    rfl
  have value : digits? 10 (c :: rest) = some n := by
    have spelled : Nat.ofDigitChars 10 (Nat.toDigits 10 n) 0 = n := Nat.ofDigitChars_ten_toDigits
    rw [written, Nat.ofDigitChars_cons, Nat.mul_zero, Nat.zero_add] at spelled
    rw [digits?, digit?_of_isDigit first, Option.bind_eq_bind, Option.bind_some,
      moreDigits?_of_isDigit others]
    exact congrArg some spelled
  rw [written]
  unfold decimal?
  split
  · rename_i same
    exact absurd (zero (List.cons_eq_cons.mp same).1) nothing
  · exact value

theorem unsigned_of_isDigit (digit : c.isDigit = true) :
    unsigned (c :: rest) = (false, c :: rest) := by
  unfold unsigned
  split
  · rename_i same
    exact absurd (List.cons_eq_cons.mp same).1 (ne_of_isDigit digit rfl)
  · rename_i same
    exact absurd (List.cons_eq_cons.mp same).1 (ne_of_isDigit digit rfl)
  · rfl

/-- Without a zero in front, digits are no number in another base. -/
theorem integer?_of_isDigit (digit : c.isDigit = true) (nonzero : c ≠ '0') :
    integer? (c :: rest) = (decimal? (c :: rest)).bind fun value =>
      if value ≤ maxInteger then some (value : Int) else none := by
  unfold integer?
  split
  · rename_i same
    exact absurd (List.cons_eq_cons.mp same).1 nonzero
  · rename_i same
    exact absurd (List.cons_eq_cons.mp same).1 nonzero
  · rename_i same
    exact absurd (List.cons_eq_cons.mp same).1 nonzero
  · rw [unsigned_of_isDigit digit]
    dsimp only
    generalize decimal? (c :: rest) = found
    cases found with
    | none => rfl
    | some value =>
      have inRange : (-(maxInteger : Int) - 1 ≤ value ∧ (value : Int) ≤ maxInteger) ↔
          value ≤ maxInteger := by omega
      exact if_congr inRange rfl rfl

theorem integer?_toDigits (fits : n ≤ maxInteger) :
    integer? (Nat.toDigits 10 n) = some (n : Int) := by
  by_cases nothing : n = 0
  · subst nothing
    rfl
  have whole := decimal?_toDigits n
  obtain ⟨c, rest, written, first, _, zero⟩ := toDigits_eq_cons n
  rw [written] at whole ⊢
  rw [integer?_of_isDigit first fun same => nothing (zero same), whole, Option.bind_some,
    if_pos fits]

theorem isScalarChar_of_isDigit (digit : c.isDigit = true) : isScalarChar c = true := by
  simp [isScalarChar, Char.isAlphanum, digit]

theorem scalar?_toDigits (fits : n ≤ maxInteger) :
    scalar? (Nat.toDigits 10 n) = some (.integer n) := by
  obtain ⟨c, rest, written, first, _, _⟩ := toDigits_eq_cons n
  have notTrue : Nat.toDigits 10 n ≠ ['t', 'r', 'u', 'e'] := by
    rw [written]
    exact fun same => ne_of_isDigit first rfl (List.cons_eq_cons.mp same).1
  have notFalse : Nat.toDigits 10 n ≠ ['f', 'a', 'l', 's', 'e'] := by
    rw [written]
    exact fun same => ne_of_isDigit first rfl (List.cons_eq_cons.mp same).1
  rw [scalar?, if_neg notTrue, if_neg notFalse, integer?_toDigits fits]

/-- The characters of a value end with the line. -/
theorem scalarChars_line (scalars : ∀ c ∈ cs, isScalarChar c = true) (rest : List Char) :
    scalarChars (cs ++ '\n' :: rest) = (cs, '\n' :: rest) := by
  have front : (cs ++ '\n' :: rest).takeWhile isScalarChar = cs := by
    rw [List.takeWhile_append_of_pos scalars]
    simp [isScalarChar, Char.isAlphanum, Char.isAlpha, Char.isUpper, Char.isLower, Char.isDigit]
  unfold scalarChars
  dsimp only
  rw [front, List.drop_left]
  rfl

theorem leaf?_of_isDigit (digit : c.isDigit = true) :
    leaf? (c :: cs) = (scalar? (scalarChars (c :: cs)).1).map (·, (scalarChars (c :: cs)).2) := by
  unfold leaf?
  split
  · rename_i same
    exact absurd (List.cons_eq_cons.mp same).1 (ne_of_isDigit digit rfl)
  · rename_i same
    exact absurd (List.cons_eq_cons.mp same).1 (ne_of_isDigit digit rfl)
  · rfl

end CartridgeBank.Toml
