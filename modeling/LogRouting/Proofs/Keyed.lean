import Mathlib.Data.List.Count
import Mathlib.Data.List.InsertIdx
import Mathlib.Data.List.Nodup
import Mathlib.Data.List.Perm.Basic

namespace LogRouting

variable {β : Type} {ps qs : List (String × β)} {key other : String} {v : β} {i : Nat}

theorem lookup_eq_none : ps.lookup key = none ↔ key ∉ ps.map (·.1) := by
  simp only [List.lookup_eq_none_iff, bne_iff_ne, List.mem_map, not_exists, not_and]
  exact ⟨fun h e mem same => h e mem same.symm, fun h e mem same => h e mem same.symm⟩

theorem lookup_cons_of_ne (ne : other ≠ key) : ((other, v) :: ps).lookup key = ps.lookup key := by
  rw [List.lookup_cons, beq_false_of_ne ne.symm]

theorem lookup_filter_fst (keep : String → Bool) (ps : List (String × β)) :
    (ps.filter fun p => keep p.1).lookup key = if keep key then ps.lookup key else none := by
  induction ps with
  | nil => simp
  | cons p ps ih =>
    rw [List.filter_cons]
    split
    · rw [List.lookup_cons, List.lookup_cons, ih]
      grind
    · rw [List.lookup_cons, ih]
      grind

theorem lookup_insertIdx (ne : other ≠ key) (i : Nat) : (ps.insertIdx i (other, v)).lookup key = ps.lookup key := by
  induction ps generalizing i with
  | nil =>
    cases i with
    | zero => exact lookup_cons_of_ne ne
    | succ i => rfl
  | cons p ps ih =>
    cases i with
    | zero => exact lookup_cons_of_ne ne
    | succ i => rw [List.insertIdx_succ_cons, List.lookup_cons, List.lookup_cons, ih]

def change (key : String) (f : β → β) (ps : List (String × β)) : List (String × β) :=
  ps.map fun p => if p.1 = key then (p.1, f p.2) else p

theorem keys_change (key : String) (f : β → β) (ps : List (String × β)) :
    (change key f ps).map (·.1) = ps.map (·.1) := by
  rw [change, List.map_map]
  refine List.map_congr_left fun p _ => ?_
  dsimp only [Function.comp]
  split <;> rfl

theorem change_of_lookup (f : β → β) (found : ps.lookup key = some v) :
    ∃ before after, ps = before ++ (key, v) :: after ∧
      change key f ps = before ++ (key, f v) :: change key f after := by
  obtain ⟨before, after, rfl, apart⟩ := List.lookup_eq_some_iff.1 found
  refine ⟨before, after, rfl, ?_⟩
  have same : before.map (fun p => if p.1 = key then (p.1, f p.2) else p) = before := by
    refine (List.map_congr_left fun p mem => if_neg fun own => ?_).trans (List.map_id _)
    exact bne_iff_ne.1 (apart p mem) own.symm
  rw [change, List.map_append, same, List.map_cons, if_pos rfl, ← change]

theorem lookup_change_self (f : β → β) : (change key f ps).lookup key = (ps.lookup key).map f := by
  induction ps with
  | nil => rfl
  | cons p ps ih =>
    rw [change, List.map_cons, ← change]
    by_cases same : p.1 = key
    · subst same
      rw [if_pos rfl, List.lookup_cons_self, List.lookup_cons_self]
      rfl
    · rw [if_neg same, lookup_cons_of_ne same, lookup_cons_of_ne same, ih]

theorem lookup_change_of_ne (f : β → β) (ne : key ≠ other) : (change other f ps).lookup key = ps.lookup key := by
  induction ps with
  | nil => rfl
  | cons p ps ih =>
    rw [change, List.map_cons, ← change]
    by_cases same : p.1 = other
    · have apart : p.1 ≠ key := same.trans_ne ne.symm
      rw [if_pos same, lookup_cons_of_ne apart, lookup_cons_of_ne apart, ih]
    · rw [if_neg same, List.lookup_cons, List.lookup_cons, ih]

def Once (key : String) (ps : List (String × β)) : Prop := (ps.map (·.1)).count key ≤ 1

theorem once_of_nodup (distinct : (ps.map (·.1)).Nodup) (key : String) : Once key ps :=
  List.nodup_iff_count_le_one.1 distinct key

theorem Once.perm (once : Once key ps) (perm : ps.Perm qs) : Once key qs := by
  rw [Once, ← (perm.map (·.1)).count_eq]
  exact once

theorem Once.sublist (once : Once key ps) (sublist : qs.Sublist ps) : Once key qs :=
  Nat.le_trans ((sublist.map (·.1)).count_le key) once

theorem Once.insertIdx (once : Once key ps) (ne : other ≠ key) (i : Nat) : Once key (ps.insertIdx i (other, v)) := by
  rcases Nat.lt_or_ge ps.length i with beyond | within
  · rwa [List.insertIdx_of_length_lt beyond]
  · have added : Once key ((other, v) :: ps) := by
      rw [Once, List.map_cons, List.count_cons_of_ne ne]
      exact once
    exact added.perm (List.perm_insertIdx _ _ within).symm

theorem Once.change (once : Once key ps) (f : β → β) : Once key (change other f ps) := by
  rw [Once, keys_change]
  exact once

theorem Once.not_mem (once : Once key ((key, v) :: ps)) : key ∉ ps.map (·.1) := by
  rw [Once, List.map_cons, List.count_cons_self] at once
  exact List.count_eq_zero.1 (by omega)

theorem Once.lookup_eq_some (once : Once key ps) : ps.lookup key = some v ↔ (key, v) ∈ ps := by
  induction ps with
  | nil => simp
  | cons p ps ih =>
    obtain ⟨k, w⟩ := p
    by_cases same : k = key
    · subst same
      have later : (k, v) ∉ ps := fun mem => once.not_mem (List.mem_map_of_mem mem)
      rw [List.lookup_cons_self, List.mem_cons, Option.some.injEq, Prod.mk.injEq]
      exact ⟨fun eq => .inl ⟨rfl, eq.symm⟩, fun h => (h.resolve_right later).2.symm⟩
    · have apart : (key, v) ≠ (k, w) := fun eq => same (Prod.mk.inj eq).1.symm
      rw [lookup_cons_of_ne same, ih (once.sublist (List.sublist_cons_self ..)), List.mem_cons]
      exact ⟨.inr, fun h => h.resolve_left apart⟩

theorem Once.lookup_perm (once : Once key ps) (perm : ps.Perm qs) : qs.lookup key = ps.lookup key := by
  refine Option.ext fun v => ?_
  rw [(once.perm perm).lookup_eq_some, once.lookup_eq_some, perm.mem_iff]

end LogRouting
