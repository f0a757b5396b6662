import LogRouting.Binding
import LogRouting.Proofs.TargetSet

namespace LogRouting.TargetSet

variable {α : Type}

inductive Operation (α : Type)
  | add (t : α)
  | remove (t : α)
  | snapshot
deriving DecidableEq

/-- A set and the lists of its members that were handed out, the latest first. -/
structure Shared (α : Type) where
  set : TargetSet α := {}
  snapshots : List (List α) := []

namespace Operation

def target? : Operation α → Option α
  | .add t | .remove t => some t
  | .snapshot => none

def adds : Operation α → Bool
  | .add _ => true
  | _ => false

def removes : Operation α → Bool
  | .remove _ => true
  | _ => false

variable [DecidableEq α]

def perform : Operation α → Shared α → Bool × Shared α
  | .add t, u => ((u.set.insert t).1, { u with set := (u.set.insert t).2 })
  | .remove t, u => ((u.set.withdraw t).1, { u with set := (u.set.withdraw t).2 })
  | .snapshot, u => (false, { u with snapshots := u.set.members :: u.snapshots })

end Operation

variable [DecidableEq α]

def after : List (Operation α) → Shared α
  | [] => {}
  | o :: past => (o.perform (after past)).2

def addedLast (t : α) (ops : List (Operation α)) : Bool := ops.find? (·.target? = some t) = some (.add t)

/-- How many operations there were when a target was last added that was not there, this one included. -/
def entered (t : α) : List (Operation α) → Nat
  | [] => 0
  | o :: past => if o = .add t ∧ t ∉ (after past).set.members then past.length + 1 else entered t past

def changes (kind : Operation α → Bool) : List (Operation α) → Nat
  | [] => 0
  | o :: past => changes kind past + if kind o ∧ (o.perform (after past)).1 then 1 else 0

variable {s : TargetSet α} {t u : α} {o : Operation α} {ops past later : List (Operation α)}

theorem nodup_after (ops : List (Operation α)) : (after ops).set.members.Nodup := by
  induction ops with
  | nil => exact List.nodup_nil
  | cons o past ih =>
    cases o with
    | add t => exact nodup_add ih
    | remove t => exact nodup_remove ih
    | snapshot => exact ih

theorem addedLast_cons :
    addedLast t (o :: past) = if o.target? = some t then decide (o = .add t) else addedLast t past := by
  rw [addedLast, List.find?_cons]
  split <;> simp_all [addedLast]

theorem mem_after (ops : List (Operation α)) : t ∈ (after ops).set.members ↔ addedLast t ops = true := by
  induction ops with
  | nil => simp [after, addedLast]
  | cons o past ih =>
    rw [addedLast_cons]
    cases o with
    | add u =>
      rw [after, Operation.perform, insert_snd, mem_add, ih]
      by_cases same : u = t
      · simp [Operation.target?, same]
      · simp [Operation.target?, same, Ne.symm same]
    | remove u =>
      rw [after, Operation.perform, withdraw_snd, mem_remove, ih]
      by_cases same : u = t
      · simp [Operation.target?, same]
      · simp [Operation.target?, same, Ne.symm same]
    | snapshot =>
      rw [if_neg (by simp [Operation.target?])]
      exact ih

theorem entered_le (ops : List (Operation α)) : entered t ops ≤ ops.length := by
  induction ops with
  | nil => exact Nat.le_refl 0
  | cons o past ih =>
    rw [entered, List.length_cons]
    split
    · exact Nat.le_refl _
    · exact Nat.le_succ_of_le ih

theorem entered_cons_of_mem (mem : t ∈ (after past).set.members) : entered t (o :: past) = entered t past := by
  rw [entered, if_neg fun h => h.2 mem]

theorem entered_cons_of_not_mem (absent : t ∉ (after past).set.members) :
    entered t (.add t :: past) = past.length + 1 := by
  rw [entered, if_pos ⟨rfl, absent⟩]

theorem pairwise_entered_cons {ts : List α} (same : ∀ t ∈ ts, entered t (o :: past) = entered t past)
    (order : ts.Pairwise fun t u => entered t past < entered u past) :
    ts.Pairwise fun t u => entered t (o :: past) < entered u (o :: past) := by
  refine order.imp_of_mem fun ht hu lt => ?_
  rwa [same _ ht, same _ hu]

theorem pairwise_entered (ops : List (Operation α)) :
    (after ops).set.members.Pairwise fun t u => entered t ops < entered u ops := by
  induction ops with
  | nil => exact List.Pairwise.nil
  | cons o past ih =>
    have held : ∀ t ∈ (after past).set.members, entered t (o :: past) = entered t past :=
      fun t mem => entered_cons_of_mem mem
    cases o with
    | add t =>
      rw [after, Operation.perform, insert_snd]
      by_cases mem : t ∈ (after past).set.members
      · rw [add_of_mem mem]
        exact pairwise_entered_cons held ih
      -- the target comes last, and no other has entered since
      · rw [members_add_of_not_mem mem, List.pairwise_append]
        refine ⟨pairwise_entered_cons held ih, List.pairwise_singleton _ _, fun u hu v hv => ?_⟩
        rw [List.mem_singleton.1 hv, held u hu, entered_cons_of_not_mem mem]
        exact Nat.lt_succ_of_le (entered_le past)
    | remove t => exact (pairwise_entered_cons held ih).sublist List.filter_sublist
    | snapshot => exact pairwise_entered_cons held ih

theorem entered_pos (ops : List (Operation α)) (mem : t ∈ (after ops).set.members) : 0 < entered t ops := by
  induction ops with
  | nil => cases mem
  | cons o past ih =>
    rw [entered]
    split
    · exact Nat.succ_pos _
    · next old =>
      refine ih (by_contra fun absent => ?_)
      cases o with
      | add u =>
        rcases mem_add.1 mem with before | rfl
        · exact absent before
        · exact old ⟨rfl, absent⟩
      | remove u => exact absent (mem_remove.1 mem).1
      | snapshot => exact absent mem

theorem length_remove (nodup : s.members.Nodup) (mem : t ∈ s.members) :
    (s.remove t).members.length + 1 = s.members.length := by
  have without : (s.remove t).members = s.members.erase t := by
    rw [nodup.erase_eq_filter]
    exact List.filter_congr fun u _ => by simp [bne, beq_eq_decide]
  rw [without, List.length_erase_add_one mem]

theorem length_add_changes (ops : List (Operation α)) :
    (after ops).set.members.length + changes Operation.removes ops = changes Operation.adds ops := by
  induction ops with
  | nil => rfl
  | cons o past ih =>
    cases o with
    | add t =>
      simp only [after, changes, Operation.perform, Operation.adds, Operation.removes, insert_snd, insert_fst]
      by_cases mem : t ∈ (after past).set.members
      · rw [add_of_mem mem]
        simpa [mem] using ih
      · rw [members_add_of_not_mem mem, List.length_append, List.length_singleton]
        simp only [mem, not_false_eq_true, and_self, if_true, Bool.false_eq_true, false_and, if_false]
        omega
    | remove t =>
      simp only [after, changes, Operation.perform, Operation.adds, Operation.removes, withdraw_snd, withdraw_fst]
      by_cases mem : t ∈ (after past).set.members
      · have one_less := length_remove (nodup_after past) mem
        simp only [mem, and_self, if_true, Bool.false_eq_true, false_and, if_false]
        omega
      · rw [remove_of_not_mem mem]
        simpa [mem] using ih
    | snapshot => exact ih

theorem snapshots_suffix (later past : List (Operation α)) :
    (after past).snapshots <:+ (after (later ++ past)).snapshots := by
  induction later with
  | nil => exact List.suffix_refl _
  | cons o later ih =>
    cases o with
    | add t => exact ih
    | remove t => exact ih
    | snapshot => exact ih.trans (List.suffix_cons _ _)

/-- The members of a set are the targets whose last operation is an addition, in the order in which they entered; one
that is there and is added keeps its place. A snapshot stays as it was handed out, whatever is done later. -/
theorem members_in_order_of_entry (ops : List (Operation α)) :
    let u := after ops
    let held := u.set.members
    held.Nodup ∧
    (∀ t, t ∈ held ↔ addedLast t ops = true) ∧
    held.Pairwise (fun t u => entered t ops < entered u ops) ∧
    (∀ t ∈ held, 0 < entered t ops) ∧
    (∀ t, ((Operation.add t).perform u).1 = !addedLast t ops) ∧
    (∀ t, ((Operation.remove t).perform u).1 = addedLast t ops) ∧
    (changes Operation.adds ops : Int) - changes Operation.removes ops = u.set.size ∧
    (∀ t, u.set.contains t = addedLast t ops) ∧
    (u.set.isEmpty = true ↔ ∀ t, addedLast t ops = false) ∧
    (∀ t ∈ held, (after (.add t :: ops)).set = u.set) ∧
    (∀ t, (after (.add t :: .remove t :: ops)).set.members = held.filter (· ≠ t) ++ [t]) ∧
    (∀ later past, ops = later ++ .snapshot :: past →
      (after past).set.members :: (after past).snapshots <:+ u.snapshots) := by
  intro u held
  have contains (t : α) : u.set.contains t = addedLast t ops := by
    rw [Bool.eq_iff_iff, contains_iff]
    exact mem_after ops
  have absent (t : α) : t ∉ (u.set.remove t).members := by simp [mem_remove]
  have size : u.set.members.length + changes Operation.removes ops = changes Operation.adds ops :=
    length_add_changes ops
  refine ⟨nodup_after ops, fun t => mem_after ops, pairwise_entered ops, fun t => entered_pos ops,
    fun t => congrArg (!·) (contains t), contains, ?_, contains, ?_, fun t mem => add_of_mem mem,
    fun t => members_add_of_not_mem (absent t), ?_⟩
  · rw [TargetSet.size]
    omega
  · rw [TargetSet.isEmpty, List.isEmpty_iff, List.eq_nil_iff_forall_not_mem]
    exact forall_congr' fun t => by rw [mem_after ops, Bool.not_eq_true]
  · rintro later past rfl
    exact snapshots_suffix later (.snapshot :: past)

/-- Two targets of one name; the one that came first is taken out and comes back. -/
theorem members_in_order_of_entry_anew :
    let a : Target := ⟨0, "a"⟩
    let b : Target := ⟨1, "a"⟩
    let ops := [.add b, .add a, .remove a, .snapshot, .add b, .add a]
    let u := after ops
    u.set.members = [b, a] ∧ entered b ops = 2 ∧ entered a ops = 5 ∧ 0 < entered a ops ∧
    (after (.add b :: ops)).set = u.set ∧ [[a, b]] <:+ u.snapshots := by
  intro a b ops u
  obtain ⟨-, -, -, positive, -, -, -, -, -, kept, -, handed⟩ := members_in_order_of_entry ops
  exact ⟨by decide, by decide, by decide, positive a (by decide), kept b (by decide),
    handed [.add b, .add a, .remove a] [.add b, .add a] rfl⟩

end LogRouting.TargetSet
