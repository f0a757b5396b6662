import LogRouting.TargetSet
import Mathlib.Data.List.Nodup

namespace LogRouting.TargetSet

variable {α : Type} [DecidableEq α] {s : TargetSet α} {t u : α}

theorem add_of_mem (h : t ∈ s.members) : s.add t = s := by simp [add, h]

theorem members_add_of_not_mem (h : t ∉ s.members) : (s.add t).members = s.members ++ [t] := by
  simp [add, h]

theorem remove_of_not_mem (h : t ∉ s.members) : s.remove t = s := by
  have same : s.members.filter (· ≠ t) = s.members := by
    apply List.filter_eq_self.2
    intro u hu
    simpa using fun e : u = t => h (e ▸ hu)
  simp only [remove, same]

theorem nodup_add (h : s.members.Nodup) : (s.add t).members.Nodup := by
  by_cases ht : t ∈ s.members
  · rwa [add_of_mem ht]
  · rw [members_add_of_not_mem ht]
    exact h.append (List.nodup_singleton t) (by simpa using ht)

theorem nodup_remove (h : s.members.Nodup) : (s.remove t).members.Nodup := h.filter _

theorem members_foldl_add (ts : List α) (h : (s.members ++ ts).Nodup) :
    (ts.foldl (fun s t => s.add t) s).members = s.members ++ ts := by
  induction ts generalizing s with
  | nil => simp
  | cons t ts ih =>
    have new : t ∉ s.members := fun ht => (List.disjoint_of_nodup_append h) ht List.mem_cons_self
    have members := members_add_of_not_mem new
    rw [List.foldl_cons, ih (by rwa [members, List.append_assoc]), members, List.append_assoc]
    rfl

end LogRouting.TargetSet
