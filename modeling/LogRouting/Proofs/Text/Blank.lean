import LogRouting.Text.Blank
import Mathlib.Data.List.TakeWhile

namespace LogRouting.Text

variable {c : Char} {cs : List Char} {s : String}

def Flush (s : String) : Prop :=
  (∀ c ∈ s.toList.head?, isBlank c = false) ∧ ∀ c ∈ s.toList.getLast?, isBlank c = false

instance : Decidable (Flush s) := inferInstanceAs (Decidable (_ ∧ _))

theorem mem_dropWhile_of_not {p : Char → Bool} (mem : c ∈ cs) (not : p c = false) : c ∈ cs.dropWhile p := by
  rw [← List.takeWhile_append_dropWhile (p := p) (l := cs), List.mem_append] at mem
  refine mem.resolve_left fun skipped => ?_
  rw [List.mem_takeWhile_imp skipped] at not
  cases not

theorem mem_trim (mem : c ∈ cs) (visible : isBlank c = false) : c ∈ trim cs := by
  have kept : c ∈ (trimStart cs).reverse := List.mem_reverse.2 (mem_dropWhile_of_not mem visible)
  exact List.mem_reverse.2 (mem_dropWhile_of_not kept visible)

theorem trimStart_of_flush (flush : ∀ c ∈ cs.head?, isBlank c = false) : trimStart cs = cs := by
  cases cs with
  | nil => rfl
  | cons c cs => rw [trimStart, List.dropWhile_cons_of_neg (by simpa using flush)]

theorem trimEnd_of_flush (flush : ∀ c ∈ cs.getLast?, isBlank c = false) : trimEnd cs = cs := by
  have kept : trimStart cs.reverse = cs.reverse := trimStart_of_flush (by rwa [List.head?_reverse])
  rw [trimEnd]
  exact (congrArg List.reverse kept).trans (List.reverse_reverse cs)

theorem head?_trimStart (cs : List Char) : ∀ c ∈ (trimStart cs).head?, isBlank c = false := by
  intro c first
  have visible := List.head?_dropWhile_not isBlank cs
  rw [trimStart] at first
  rw [first] at visible
  simpa using visible

theorem getLast?_trimEnd (cs : List Char) : ∀ c ∈ (trimEnd cs).getLast?, isBlank c = false := by
  rw [trimEnd, List.getLast?_reverse]
  exact head?_trimStart cs.reverse

theorem head?_trimEnd (flush : ∀ c ∈ cs.head?, isBlank c = false) : ∀ c ∈ (trimEnd cs).head?, isBlank c = false := by
  obtain ⟨taken, whole⟩ : trimEnd cs <+: cs := by
    rw [trimEnd, ← List.reverse_suffix, List.reverse_reverse]
    exact List.dropWhile_suffix isBlank
  intro c first
  refine flush c ?_
  rw [← whole, List.head?_append, first]
  rfl

theorem trimmed_eq_self : trimmed s = s ↔ Flush s := by
  rw [trimmed, ← String.toList_inj, String.toList_ofList, trim]
  constructor
  · intro same
    rw [Flush, ← same]
    exact ⟨head?_trimEnd (head?_trimStart _), getLast?_trimEnd _⟩
  · rintro ⟨first, last⟩
    rw [trimStart_of_flush first, trimEnd_of_flush last]

end LogRouting.Text
