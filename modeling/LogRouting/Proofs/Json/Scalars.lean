import LogRouting.Json.Printer
import LogRouting.Json.Reader
import LogRouting.Proofs.Text.Numeral

namespace LogRouting.Json

variable {c : Char} {cs ds rest : List Char} {n m : Nat}

theorem digits_of_control (control : n < 0x20) :
    Text.hex 4 n = ['0', '0', (n / 16).digitChar, (n % 16).digitChar] ∧
      (Text.hex 4 n).all (Text.isDigitIn 16) ∧ Text.digitsValue 16 (Text.hex 4 n) = n := by
  revert n
  decide +kernel

theorem pieces?_control (control : c.toNat < 0x20) (tail : List Char) :
    pieces? ('\\' :: 'u' :: (Text.hex 4 c.toNat ++ tail)) =
      (pieces? tail).map fun (ps, after) => (.char c :: ps, after) := by
  obtain ⟨digits, all, value⟩ := digits_of_control control
  have unit : Piece.ofUnit c.toNat = .char c := by
    rw [Piece.ofUnit, if_neg (by omega), if_neg (by omega), Char.ofNat_toNat]
  rw [digits] at all value ⊢
  simp only [List.cons_append, List.nil_append]
  rw [pieces?, if_pos all, value, unit]

theorem pieces?_raw (visible : ¬ c.toNat < 0x20) (quote : c ≠ '"') (slash : c ≠ '\\') (tail : List Char) :
    pieces? (c :: tail) = (pieces? tail).map fun (ps, after) => (.char c :: ps, after) := by
  rw [pieces?, if_neg (not_or.2 ⟨visible, slash⟩)]
  · exact quote
  · exact fun _ _ _ _ _ same _ => slash same
  · exact fun _ _ same _ => slash same

theorem pieces?_escape (c : Char) (tail : List Char) :
    pieces? (escape c ++ tail) = (pieces? tail).map fun (ps, after) => (.char c :: ps, after) := by
  unfold escape
  split
  iterate 7 rfl
  next quote slash _ _ _ _ _ =>
    split
    · next control => exact pieces?_control control tail
    · next visible => exact pieces?_raw visible quote slash tail

theorem pieces?_escaped (cs rest : List Char) :
    pieces? (cs.flatMap escape ++ '"' :: rest) = some (cs.map .char, rest) := by
  induction cs with
  | nil => rfl
  | cons c cs ih =>
    rw [List.flatMap_cons, List.append_assoc, pieces?_escape, ih]
    rfl

theorem join?_char (cs : List Char) : Piece.join? (cs.map .char) = some cs := by
  induction cs with
  | nil => rfl
  | cons c cs ih =>
    rw [List.map_cons, Piece.join?, ih]
    rfl

theorem quoted_append (s : String) (rest : List Char) :
    quoted s ++ rest = '"' :: (s.toList.flatMap escape ++ '"' :: rest) := by
  rw [quoted, List.cons_append, List.append_assoc, List.cons_append, List.nil_append]

theorem string?_escaped (s : String) (rest : List Char) :
    string? (s.toList.flatMap escape ++ '"' :: rest) = some (s, rest) := by
  simp [string?, pieces?_escaped, join?_char]

/-- What does not go on with a number: the end of the text, or a character that ends a value. -/
def Apart (rest : List Char) : Prop := ∀ c ∈ rest.head?, c = ',' ∨ c = ']' ∨ c = '\x7d'

theorem Apart.nil : Apart [] := fun _ mem => by cases mem

theorem Apart.cons (h : c = ',' ∨ c = ']' ∨ c = '\x7d') : Apart (c :: rest) := by
  rintro _ ⟨⟩
  exact h

theorem Apart.ne {d : Char} (apart : Apart (d :: rest)) (other : c ≠ ',' ∧ c ≠ ']' ∧ c ≠ '\x7d') : d ≠ c := by
  rintro rfl
  rcases apart d rfl with rfl | rfl | rfl
  · exact other.1 rfl
  · exact other.2.1 rfl
  · exact other.2.2 rfl

theorem Apart.not_digit {d : Char} (apart : Apart (d :: rest)) : Text.isDigitIn 10 d = false := by
  rcases apart d rfl with rfl | rfl | rfl <;> decide

theorem spanDigits_append (digits : ∀ c ∈ ds, Text.isDigitIn 10 c = true) (apart : Apart rest) :
    Text.spanDigits 10 (ds ++ rest) = (ds, rest) := by
  rw [Text.spanDigits, List.takeWhile_append_of_pos digits, List.dropWhile_append_of_pos digits]
  cases rest with
  | nil => simp
  | cons d rest => simp [apart.not_digit]

theorem whole?_decimal (apart : Apart rest) : whole? (Text.decimal n ++ rest) = some (Text.decimal n, rest) := by
  have span : Text.spanDigits 10 (Text.decimal n ++ rest) = (Text.decimal n, rest) :=
    spanDigits_append (fun c mem => Text.isDigitIn_of_mem_decimal mem) apart
  rw [whole?, span]
  split
  · next none => exact absurd (Prod.mk.inj none).1 Nat.toDigits_ne_nil
  · next zeros =>
    have digits := (Prod.mk.inj zeros).1
    by_cases zero : n = 0
    · rw [zero] at digits
      cases digits
    · exact absurd digits (Text.decimal_ne_zero_cons zero)
  · rfl

theorem decimals?_of_apart (apart : Apart rest) : decimals? rest = some (none, rest) := by
  cases rest with
  | nil => rfl
  | cons d rest =>
    rw [decimals?]
    exact fun _ same => apart.ne (by decide) (List.cons.inj same).1

theorem exponent?_of_apart (apart : Apart rest) : exponent? rest = some (none, rest) := by
  cases rest with
  | nil => rfl
  | cons d rest =>
    have letter : ¬ (d = 'e' ∨ d = 'E') := not_or.2 ⟨apart.ne (by decide), apart.ne (by decide)⟩
    rw [exponent?.eq_def]
    exact if_neg letter

theorem read?_minus (apart : Apart rest) :
    Literal.read? ('-' :: (Text.decimal n ++ rest)) = some (⟨true, Text.decimal n, none, none⟩, rest) := by
  simp [Literal.read?, whole?_decimal apart, decimals?_of_apart apart, exponent?_of_apart apart]

theorem read?_decimal (apart : Apart rest) :
    Literal.read? (Text.decimal n ++ rest) = some (⟨false, Text.decimal n, none, none⟩, rest) := by
  have whole := whole?_decimal (n := n) apart
  obtain ⟨d, ds, eq, digit⟩ := Text.decimal_eq_cons n
  have plain : d ≠ '-' := Text.ne_of_digit digit (by decide)
  rw [eq, List.cons_append] at whole ⊢
  simp [Literal.read?, plain, whole, decimals?_of_apart apart, exponent?_of_apart apart]

theorem le_foldl_digits (radix : Nat) (positive : 0 < radix) (n : Nat) (ds : List Char) :
    n ≤ ds.foldl (fun n c => n * radix + (Text.digitValue? c).getD 0) n := by
  induction ds generalizing n with
  | nil => exact Nat.le_refl n
  | cons d ds ih =>
    have step : n ≤ n * radix + (Text.digitValue? d).getD 0 :=
      Nat.le_trans (Nat.le_mul_of_pos_right n positive) (Nat.le_add_right ..)
    exact Nat.le_trans step (ih _)

theorem absorb_eq (fits : ds.foldl (fun n c => n * 10 + (Text.digitValue? c).getD 0) n < Nat.pow 2 64) :
    absorb n ds = (ds.foldl (fun n c => n * 10 + (Text.digitValue? c).getD 0) n, []) := by
  induction ds generalizing n with
  | nil => rfl
  | cons d ds ih =>
    have first : n * 10 + (Text.digitValue? d).getD 0 < Nat.pow 2 64 :=
      Nat.lt_of_le_of_lt (le_foldl_digits 10 (by decide) _ ds) fits
    rw [absorb]
    simp only [if_pos first]
    exact ih fits

theorem absorb_decimal (fits : n < Nat.pow 2 64) : absorb 0 (Text.decimal n) = (n, []) := by
  have value : (Text.decimal n).foldl (fun n c => n * 10 + (Text.digitValue? c).getD 0) 0 = n :=
    Text.digitsValue_decimal n
  rw [absorb_eq (by rwa [value]), value]

/-- The whole numbers that a text says exactly: those of 64 bits, with a sign or without. -/
def IsWord (n : Int) : Prop := -Int.pow 2 63 ≤ n ∧ n < Int.pow 2 64

instance (n : Int) : Decidable (IsWord n) := inferInstanceAs (Decidable (_ ∧ _))

theorem value?_positive (fits : n < Nat.pow 2 64) :
    Literal.value? ⟨false, Text.decimal n, none, none⟩ = some (.int n) := by
  rw [Literal.value?, absorb_decimal fits]
  rfl

theorem value?_negative (ne : n ≠ 0) (fits : n ≤ Nat.pow 2 63) :
    Literal.value? ⟨true, Text.decimal n, none, none⟩ = some (.int (-n)) := by
  have bound : ¬ (n = 0 ∨ Nat.pow 2 63 < n) := by omega
  rw [Literal.value?, absorb_decimal (Nat.lt_of_le_of_lt fits (by decide))]
  exact if_neg bound

theorem number?_integer {n : Int} (word : IsWord n) (apart : Apart rest) :
    number? (Text.integer n ++ rest) = some (.int n, rest) := by
  obtain ⟨least, greatest⟩ := word
  rw [Text.integer]
  split
  · next negative =>
    have same : -(n.natAbs : Int) = n := by omega
    have power : Int.pow 2 63 = (Nat.pow 2 63 : Nat) := rfl
    have value : Literal.value? ⟨true, Text.decimal n.natAbs, none, none⟩ = some (.int n) := by
      rw [value?_negative (by omega) (by omega), same]
    rw [List.cons_append, number?, read?_minus apart]
    simp [value]
  · next positive =>
    have same : (n.natAbs : Int) = n := by omega
    have power : Int.pow 2 64 = (Nat.pow 2 64 : Nat) := rfl
    have value : Literal.value? ⟨false, Text.decimal n.natAbs, none, none⟩ = some (.int n) := by
      rw [value?_positive (by omega), same]
    rw [number?, read?_decimal apart]
    simp [value]

end LogRouting.Json
