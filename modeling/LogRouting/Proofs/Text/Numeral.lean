import LogRouting.Text.Numeral

namespace LogRouting.Text

variable {c : Char} {n : Nat}

theorem isDigitIn_of_isDigit (h : c.isDigit = true) : isDigitIn 10 c = true := by
  have low : '0' ≤ c ∧ c ≤ '9' := by
    rw [Char.isDigit, Bool.and_eq_true, decide_eq_true_eq, decide_eq_true_eq] at h
    exact h
  have high : c.toNat ≤ 57 := UInt32.le_iff_toNat_le.1 low.2
  rw [isDigitIn, digitValue?, if_pos low, Option.any_some, decide_eq_true_eq]
  change c.toNat - 48 < 10
  omega

theorem isDigit_of_mem_decimal (mem : c ∈ decimal n) : c.isDigit = true :=
  Nat.isDigit_of_mem_toDigits (by decide) (by decide) mem

theorem isDigitIn_of_mem_decimal (mem : c ∈ decimal n) : isDigitIn 10 c = true :=
  isDigitIn_of_isDigit (isDigit_of_mem_decimal mem)

theorem ne_of_digit {d : Char} (digit : isDigitIn 10 d = true) (other : isDigitIn 10 c = false) : d ≠ c := by
  rintro rfl
  rw [digit] at other
  cases other

theorem decimal_eq_cons (n : Nat) : ∃ d ds, decimal n = d :: ds ∧ isDigitIn 10 d = true := by
  obtain ⟨d, ds, eq⟩ := List.exists_cons_of_ne_nil (Nat.toDigits_ne_nil (n := n) (b := 10))
  have first : d ∈ decimal n := by
    rw [decimal, eq]
    exact List.mem_cons_self
  exact ⟨d, ds, eq, isDigitIn_of_mem_decimal first⟩

theorem digitsValue_append (radix : Nat) (cs : List Char) (c : Char) :
    digitsValue radix (cs ++ [c]) = digitsValue radix cs * radix + (digitValue? c).getD 0 := by
  simp [digitsValue]

theorem digitValue?_digitChar (h : n < 10) : digitValue? n.digitChar = some n := by
  revert n
  decide

theorem digitsValue_decimal (n : Nat) : digitsValue 10 (decimal n) = n := by
  induction n using Nat.strongRecOn with
  | ind n ih =>
    rcases Nat.lt_or_ge n 10 with small | big
    · rw [decimal, Nat.toDigits_of_lt_base small]
      simp [digitsValue, digitValue?_digitChar small]
    · have rest : digitsValue 10 (Nat.toDigits 10 (n / 10)) = n / 10 := ih (n / 10) (by omega)
      rw [decimal, Nat.toDigits_of_base_le (by decide) big, digitsValue_append, rest,
        digitValue?_digitChar (Nat.mod_lt _ (by decide)), Option.getD_some]
      omega

theorem decimal_ne_zero_cons {cs : List Char} (ne : n ≠ 0) : decimal n ≠ '0' :: cs := by
  induction n using Nat.strongRecOn generalizing cs with
  | ind n ih =>
    intro zero
    rcases Nat.lt_or_ge n 10 with small | big
    · rw [decimal, Nat.toDigits_of_lt_base small, List.cons.injEq, Nat.digitChar_eq_zero] at zero
      exact ne zero.1
    · obtain ⟨d, ds, first⟩ := List.exists_cons_of_ne_nil (Nat.toDigits_ne_nil (n := n / 10) (b := 10))
      rw [decimal, Nat.toDigits_of_base_le (by decide) big, first, List.cons_append, List.cons.injEq] at zero
      exact ih (n / 10) (by omega) (by omega) (first.trans (by rw [zero.1]))

theorem exists_digitChar (digit : c.isDigit = true) : ∃ d < 10, c = d.digitChar := by
  obtain ⟨low, high⟩ := Char.isDigit_iff_toNat.1 digit
  change 48 ≤ c.toNat at low
  change c.toNat ≤ 57 at high
  refine ⟨c.toNat - 48, by omega, Char.toNat_inj.1 ?_⟩
  rw [Nat.toNat_digitChar_of_lt_ten (by omega)]
  omega

theorem decimal_ofDigitChars {ds : List Char} (digits : ∀ c ∈ ds, c.isDigit = true) (positive : 0 < n) :
    decimal (Nat.ofDigitChars 10 ds n) = decimal n ++ ds := by
  induction ds generalizing n with
  | nil => simp
  | cons c ds ih =>
    rw [List.forall_mem_cons] at digits
    obtain ⟨d, small, rfl⟩ := exists_digitChar digits.1
    calc decimal (Nat.ofDigitChars 10 (d.digitChar :: ds) n)
        = decimal (Nat.ofDigitChars 10 ds (10 * n + d)) := by rw [Nat.ofDigitChars_cons_digitChar_of_lt_ten small]
      _ = decimal (10 * n + d) ++ ds := ih digits.2 (by omega)
      _ = decimal n ++ [d.digitChar] ++ ds := by
          rw [decimal, ← Nat.toDigits_append_toDigits (by decide) positive small, Nat.toDigits_of_lt_base small,
            decimal]
      _ = decimal n ++ d.digitChar :: ds := by simp

def IsNumeral (ds : List Char) : Prop :=
  ds ≠ [] ∧ ds.all Char.isDigit ∧ (ds.head? = some '0' → ds = ['0'])

instance (ds : List Char) : Decidable (IsNumeral ds) := inferInstanceAs (Decidable (_ ∧ _))

theorem isNumeral_decimal (n : Nat) : IsNumeral (decimal n) := by
  refine ⟨Nat.toDigits_ne_nil, List.all_eq_true.2 fun c mem => isDigit_of_mem_decimal mem, fun zero => ?_⟩
  obtain ⟨ds, digits⟩ := List.head?_eq_some_iff.1 zero
  by_cases none : n = 0
  · rw [none]
    rfl
  · exact absurd digits (decimal_ne_zero_cons none)

theorem IsNumeral.decimal_eq {ds : List Char} (numeral : IsNumeral ds) :
    decimal (Nat.ofDigitChars 10 ds 0) = ds := by
  obtain ⟨ne, digits, flush⟩ := numeral
  cases ds with
  | nil => exact absurd rfl ne
  | cons c ds =>
    rw [List.all_eq_true, List.forall_mem_cons] at digits
    obtain ⟨d, small, rfl⟩ := exists_digitChar digits.1
    by_cases zero : d = 0
    · rw [flush (by rw [zero]; rfl)]
      rfl
    · rw [Nat.ofDigitChars_cons_digitChar_of_lt_ten small, decimal_ofDigitChars digits.2 (by omega), decimal,
        Nat.toDigits_of_lt_base (by omega)]
      simp

end LogRouting.Text
