import LogRouting.Message.Rendering

namespace LogRouting.Message

variable {limit : Option Nat} {cs : List Char} {m n : Nat}

def rendered (limit : Option Nat) (v : Value) : String := String.ofList (render limit v)

theorem rendered_string (limit : Option Nat) (s : String) :
    rendered limit (.string s) = String.ofList (truncate limit s.toList) := rfl

theorem rendered_rendered (limit limit' : Option Nat) (v : Value) :
    rendered limit (.string (rendered limit' v)) = String.ofList (truncate limit (truncate limit' (plain v))) := by
  rw [rendered_string, rendered, String.toList_ofList, render]

theorem truncate_of_le (fits : cs.length ≤ n) : truncate (some n) cs = cs := if_pos fits

theorem truncate_of_lt (long : n < cs.length) : truncate (some n) cs = cs.take n ++ dots :=
  if_neg (Nat.not_le.2 long)

theorem length_truncate_of_lt (long : n < cs.length) : (truncate (some n) cs).length = n + 3 := by
  rw [truncate_of_lt long, List.length_append, List.length_take_of_le (Nat.le_of_lt long)]
  rfl

theorem truncate_truncate (least : ∀ m ∈ limit, n ≤ m) :
    truncate (some n) (truncate limit cs) = truncate (some n) cs := by
  cases limit with
  | none => rfl
  | some m =>
    have le : n ≤ m := least m rfl
    rcases Nat.lt_or_ge m cs.length with long | fits
    · have further : n < (truncate (some m) cs).length := by
        rw [length_truncate_of_lt long]
        omega
      have kept : (truncate (some m) cs).take n = cs.take n := by
        have room : n ≤ (cs.take m).length := by rwa [List.length_take_of_le (Nat.le_of_lt long)]
        rw [truncate_of_lt long, List.take_append_of_le_length room, List.take_take, Nat.min_eq_left le]
      rw [truncate_of_lt further, kept, truncate_of_lt (Nat.lt_of_le_of_lt le long)]
    · rw [truncate_of_le fits]

theorem truncate_of_room (room : m + 3 ≤ n) :
    truncate (some n) (truncate (some m) cs) = truncate (some m) cs := by
  refine truncate_of_le ?_
  rcases Nat.lt_or_ge m cs.length with long | fits
  · rwa [length_truncate_of_lt long]
  · rw [truncate_of_le fits]
    omega

theorem truncate_self (limit : Option Nat) (cs : List Char) :
    truncate limit (truncate limit cs) = truncate limit cs := by
  cases limit with
  | none => rfl
  | some n => exact truncate_truncate fun _ same => Nat.le_of_eq (Option.some.inj same)

/-- A text beyond its limit is two texts, the first as long as the limit; characters stay whole. What is dropped may
be dots itself, and then the cut text is the whole text again. -/
theorem exists_kept (n : Nat) (v : Value) (long : n < (rendered none v).length) :
    ∃ kept dropped : String, kept.length = n ∧ dropped ≠ "" ∧ rendered none v = kept ++ dropped ∧
      rendered (some n) v = kept ++ "..." := by
  have long : n < (plain v).length := by rwa [rendered, String.length_ofList] at long
  refine ⟨String.ofList ((plain v).take n), String.ofList ((plain v).drop n), ?_, ?_, ?_, ?_⟩
  · rw [String.length_ofList, List.length_take_of_le (Nat.le_of_lt long)]
  · intro empty
    have none : ((plain v).drop n).length = 0 := by rw [← String.length_ofList, empty]; rfl
    rw [List.length_drop] at none
    omega
  · rw [← String.ofList_append, List.take_append_drop]
    rfl
  · rw [rendered, render, truncate_of_lt long, String.ofList_append]
    rfl

/-- A rendering is the whole text where that is within the limit, and otherwise as many characters as the limit says
and dots. Rendered again at a limit that is not greater it is what that limit alone gives. -/
theorem renderings_compose (v : Value) (n : Nat) :
    (∀ limit : Option Nat, (∀ m ∈ limit, n ≤ m) →
      rendered (some n) (.string (rendered limit v)) = rendered (some n) v) ∧
    (∀ limit : Option Nat, rendered limit (.string (rendered limit v)) = rendered limit v) ∧
    (∀ m, m + 3 ≤ n → rendered (some n) (.string (rendered (some m) v)) = rendered (some m) v) ∧
    ((rendered none v).length ≤ n ∧ rendered (some n) v = rendered none v ∨
      ∃ kept dropped : String, kept.length = n ∧ dropped ≠ "" ∧ rendered none v = kept ++ dropped ∧
        rendered (some n) v = kept ++ "...") := by
  refine ⟨fun limit least => ?_, fun limit => ?_, fun m room => ?_, ?_⟩
  · rw [rendered_rendered, truncate_truncate least]
    rfl
  · rw [rendered_rendered, truncate_self]
    rfl
  · rw [rendered_rendered, truncate_of_room room]
    rfl
  · rcases Nat.lt_or_ge n (rendered none v).length with long | fits
    · exact .inr (exists_kept n v long)
    · have short : (plain v).length ≤ n := by rwa [rendered, String.length_ofList] at fits
      refine .inl ⟨fits, ?_⟩
      rw [rendered, render, truncate_of_le short]
      rfl

/-- A text that ends in dots of its own, cut within them at six characters and once more at five. -/
theorem renderings_compose_dotted :
    let v : Value := .string "grün..."
    (∀ m ∈ some 6, 5 ≤ m) ∧ 2 + 3 ≤ 5 ∧ rendered (some 6) v = "grün....." ∧
      rendered (some 5) (.string (rendered (some 6) v)) = "grün...." ∧
      rendered (some 5) (.string (rendered (some 2) v)) = "gr..." := by
  intro v
  have least : ∀ m ∈ some 6, 5 ≤ m := by decide
  obtain ⟨smaller, -, room, -⟩ := renderings_compose v 5
  refine ⟨least, by decide, by decide +kernel, ?_, ?_⟩
  · rw [smaller (some 6) least]
    decide +kernel
  · rw [room 2 (by decide)]
    decide +kernel

end LogRouting.Message
