import LogRouting.Toml.Scalar
import LogRouting.Proofs.Text.Numeral

namespace LogRouting

namespace Toml

variable {ds rest : List Char} {c : Char}

def AllDigits (ds : List Char) : Prop := ∀ c ∈ ds, Text.isDigitIn 10 c = true

theorem field?_digits (digits : AllDigits ds) (width least greatest : Nat) (rest : List Char) :
    field? width least greatest (ds ++ '\n' :: rest) = none ∨
      ∃ n ds', AllDigits ds' ∧ field? width least greatest (ds ++ '\n' :: rest) = some (n, ds' ++ '\n' :: rest) := by
  rw [field?]
  split
  · next taken =>
    -- the end of the line is no digit
    have enough : width ≤ ds.length := by
      refine Nat.le_of_not_lt fun few => ?_
      obtain ⟨k, eq⟩ := Nat.exists_eq_add_of_lt few
      have feed : '\n' ∈ (ds ++ '\n' :: rest).take width := by
        rw [eq, List.take_append, Nat.add_assoc, Nat.add_sub_cancel_left]
        simp
      exact absurd (List.all_eq_true.1 taken.2.1 _ feed) (by decide)
    rw [List.drop_append_of_le_length enough]
    exact .inr ⟨_, ds.drop width, fun c mem => digits c (List.mem_of_mem_drop mem), rfl⟩
  · exact .inl rfl

theorem skip?_digits (digits : AllDigits ds) (other : Text.isDigitIn 10 c = false) (feed : c ≠ '\n') :
    skip? c (ds ++ '\n' :: rest) = none := by
  cases ds with
  | nil => simp [skip?, feed]
  | cons d ds =>
    have ne := (Text.ne_of_digit (digits d List.mem_cons_self) other).symm
    simp [skip?, ne]

theorem date?_digits (digits : AllDigits ds) : date? (ds ++ '\n' :: rest) = none := by
  rcases field?_digits digits 4 0 9999 rest with none | ⟨n, ds', digits', some⟩
  · simp [date?, none]
  · have dash : skip? '-' (ds' ++ '\n' :: rest) = none := skip?_digits digits' (by decide) (by decide)
    simp [date?, some, dash]

theorem time?_digits (digits : AllDigits ds) : time? (ds ++ '\n' :: rest) = none := by
  rcases field?_digits digits 2 0 23 rest with none | ⟨n, ds', digits', some⟩
  · simp [time?, none]
  · have colon : skip? ':' (ds' ++ '\n' :: rest) = none := skip?_digits digits' (by decide) (by decide)
    simp [time?, some, colon]

theorem grouped_digits (digits : AllDigits ds) (rest : List Char) :
    grouped 10 (ds ++ '\n' :: rest) = (ds, '\n' :: rest) := by
  have feed : Text.isDigitIn 10 '\n' = false := by decide
  induction ds with
  | nil => simp [grouped, feed]
  | cons d ds ih =>
    have digit := digits d List.mem_cons_self
    have later := ih fun c mem => digits c (List.mem_cons_of_mem _ mem)
    have bar : d ≠ '_' := by
      rintro rfl
      exact absurd digit (by decide)
    rw [List.cons_append, grouped, if_pos digit, later]
    exact fun _ _ eq _ => bar eq

variable {n : Nat}

theorem allDigits_decimal : AllDigits (Text.decimal n) := fun _ mem => Text.isDigitIn_of_mem_decimal mem

theorem sign_decimal : sign (Text.decimal n ++ rest) = (false, Text.decimal n ++ rest) := by
  obtain ⟨d, ds, eq, digit⟩ := Text.decimal_eq_cons n
  rw [eq, List.cons_append, sign]
  · exact fun _ minus => Text.ne_of_digit digit (by decide) (List.cons.inj minus).1
  · exact fun _ plus => Text.ne_of_digit digit (by decide) (List.cons.inj plus).1

theorem whole?_decimal : whole? (Text.decimal n ++ '\n' :: rest) = some (Text.decimal n, '\n' :: rest) := by
  by_cases zero : n = 0
  · subst zero
    rfl
  · obtain ⟨d, ds, eq, digit⟩ := Text.decimal_eq_cons n
    have first : d ≠ '0' := by
      rintro rfl
      exact Text.decimal_ne_zero_cons zero eq
    have all := grouped_digits (allDigits_decimal (n := n)) rest
    rw [eq, List.cons_append] at all ⊢
    rw [whole?, digits?, List.head?_cons, Option.any_some, if_pos digit, all]
    exact fun _ eq => first (List.cons.inj eq).1

theorem float?_decimal : float? (Text.decimal n ++ '\n' :: rest) = none := by
  simp [float?, sign_decimal, whole?_decimal, exponent?]

theorem special?_decimal : special? (Text.decimal n ++ '\n' :: rest) = none := by
  obtain ⟨d, ds, eq, digit⟩ := Text.decimal_eq_cons n
  rw [special?, sign_decimal, eq]
  simp only [List.cons_append]
  split
  · next eq => exact absurd (List.cons.inj eq).1 (Text.ne_of_digit digit (by decide))
  · next eq => exact absurd (List.cons.inj eq).1 (Text.ne_of_digit digit (by decide))
  · rfl

theorem decimal_ne_radix {cs : List Char} (feed : c ≠ '\n') : Text.decimal n ++ '\n' :: rest ≠ '0' :: c :: cs := by
  by_cases zero : n = 0
  · subst zero
    intro eq
    exact feed (List.cons.inj (List.cons.inj eq).2).1.symm
  · obtain ⟨d, ds, eq, -⟩ := Text.decimal_eq_cons n
    rw [eq, List.cons_append]
    intro same
    exact Text.decimal_ne_zero_cons zero (eq.trans (by rw [(List.cons.inj same).1]))

theorem inRange?_of_lt (small : n < Nat.pow 2 63) (rest : List Char) : inRange? n rest = some (.int n, rest) := by
  have power : Int.pow 2 63 = (Nat.pow 2 63 : Nat) := rfl
  rw [inRange?, power, if_pos (by omega)]

/-- What is checked of a numeral. The bounds of the range are too large to be computed with, so here the check is
any check. -/
theorem whole?_bind (check : Int → List Char → Option (Value × List Char)) (rest : List Char) :
    (do
      let (ds, rest) ← whole? (Text.decimal n ++ '\n' :: rest)
      let n : Int := Text.digitsValue 10 ds
      check (if false = true then -n else n) rest) = check n ('\n' :: rest) := by
  simp [whole?_decimal, Text.digitsValue_decimal]

theorem integer?_decimal (small : n < Nat.pow 2 63) (rest : List Char) :
    integer? (Text.decimal n ++ '\n' :: rest) = some (.int n, '\n' :: rest) := by
  rw [integer?]
  · rw [sign_decimal]
    exact (whole?_bind inRange? rest).trans (inRange?_of_lt small _)
  all_goals exact fun _ => decimal_ne_radix (by decide)

theorem scalar?_decimal (small : n < Nat.pow 2 63) (rest : List Char) :
    scalar? (Text.decimal n ++ '\n' :: rest) = some (.int n, '\n' :: rest) := by
  obtain ⟨d, ds, eq, digit⟩ := Text.decimal_eq_cons n
  have first {e : Char} {cs : List Char} (other : Text.isDigitIn 10 e = false) :
      Text.decimal n ++ '\n' :: rest ≠ e :: cs := by
    rw [eq, List.cons_append]
    exact fun same => Text.ne_of_digit digit other (List.cons.inj same).1
  have moment : moment? (Text.decimal n ++ '\n' :: rest) = none := by
    rw [moment?, date?_digits allDigits_decimal]
    exact time?_digits allDigits_decimal
  have number := integer?_decimal small rest
  unfold scalar?
  split
  · next same => exact absurd same (first (by decide))
  · next same => exact absurd same (first (by decide))
  · rw [moment]
    simp [float?_decimal, special?_decimal, number]

end Toml
end LogRouting
