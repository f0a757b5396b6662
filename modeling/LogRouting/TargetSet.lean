
namespace LogRouting

structure TargetSet (α : Type) where
  members : List α := []
deriving DecidableEq, Inhabited

namespace TargetSet

variable {α : Type} [DecidableEq α]

def contains (s : TargetSet α) (t : α) : Bool := t ∈ s.members

/-- A target that is there keeps its place. -/
def add (t : α) (s : TargetSet α) : TargetSet α :=
  if s.contains t then s else ⟨s.members ++ [t]⟩

def remove (t : α) (s : TargetSet α) : TargetSet α := ⟨s.members.filter (· ≠ t)⟩

def insert (t : α) (s : TargetSet α) : Bool × TargetSet α := (!s.contains t, s.add t)

def withdraw (t : α) (s : TargetSet α) : Bool × TargetSet α := (s.contains t, s.remove t)

def isEmpty (s : TargetSet α) : Bool := s.members.isEmpty

def size (s : TargetSet α) : Nat := s.members.length

@[simp] theorem contains_iff {s : TargetSet α} {t : α} : s.contains t = true ↔ t ∈ s.members := by
  simp [contains]

@[simp] theorem insert_fst {s : TargetSet α} {t : α} : (s.insert t).1 = true ↔ t ∉ s.members := by
  simp [insert, contains]

@[simp] theorem insert_snd {s : TargetSet α} {t : α} : (s.insert t).2 = s.add t := rfl

@[simp] theorem withdraw_fst {s : TargetSet α} {t : α} : (s.withdraw t).1 = true ↔ t ∈ s.members := by
  simp [withdraw]

@[simp] theorem withdraw_snd {s : TargetSet α} {t : α} : (s.withdraw t).2 = s.remove t := rfl

theorem mem_add {s : TargetSet α} {t u : α} : u ∈ (s.add t).members ↔ u ∈ s.members ∨ u = t := by
  unfold add
  split
  · next h => exact ⟨Or.inl, fun hu => hu.elim id fun e => e ▸ contains_iff.1 h⟩
  · simp

theorem mem_remove {s : TargetSet α} {t u : α} : u ∈ (s.remove t).members ↔ u ∈ s.members ∧ u ≠ t := by
  simp [remove]

end TargetSet
end LogRouting
