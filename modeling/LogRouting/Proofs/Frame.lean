import LogRouting.Proofs.TargetSet
import LogRouting.Router

namespace LogRouting

def Logger.mapTargets (f : TargetSet Target → TargetSet Target) (l : Logger) : Logger :=
  { l with targets := f l.targets }

namespace Router

/-- Nothing but the loggers there are, and what was observed, may differ. -/
structure OnlyLoggers (s s' : Router) : Prop where
  targets : s'.targets = s.targets
  size : s'.loggers.size = s.loggers.size
  gates : s'.gates = s.gates
  registry : s'.registry = s.registry
  configured : s'.configured = s.configured
  names : s'.names = s.names

namespace OnlyLoggers

theorem refl (s : Router) : OnlyLoggers s s := ⟨rfl, rfl, rfl, rfl, rfl, rfl⟩

theorem trans {s s' s'' : Router} (h : OnlyLoggers s s') (h' : OnlyLoggers s' s'') : OnlyLoggers s s'' where
  targets := h'.targets.trans h.targets
  size := h'.size.trans h.size
  gates := h'.gates.trans h.gates
  registry := h'.registry.trans h.registry
  configured := h'.configured.trans h.configured
  names := h'.names.trans h.names

theorem foldl {α : Type} {f : Router → α → Router} (h : ∀ s x, OnlyLoggers s (f s x)) (xs : List α)
    (s : Router) : OnlyLoggers s (xs.foldl f s) := by
  induction xs generalizing s with
  | nil => exact refl s
  | cons x xs ih => exact (h s x).trans (ih (f s x))

theorem observe (o : Observation) (s : Router) : OnlyLoggers s (s.observe o) := ⟨rfl, rfl, rfl, rfl, rfl, rfl⟩

theorem modifyLogger (id : LoggerId) (f : Logger → Logger) (s : Router) :
    OnlyLoggers s (s.modifyLogger id f) := ⟨rfl, Array.size_modify, rfl, rfl, rfl, rfl⟩

theorem addTarget (id : LoggerId) (t : Target) (s : Router) : OnlyLoggers s (s.addTarget id t) := by
  rw [Router.addTarget]
  split
  · exact refl s
  · split
    · exact (modifyLogger ..).trans (observe ..)
    · exact refl s

theorem removeTarget (id : LoggerId) (t : Target) (s : Router) : OnlyLoggers s (s.removeTarget id t) := by
  rw [Router.removeTarget]
  split
  · exact refl s
  · split
    · exact (modifyLogger ..).trans (observe ..)
    · exact refl s

end OnlyLoggers

variable {s : Router} {id i : LoggerId} {t u : Target} {index : Nat} {level : Level}

theorem gates_setGate : (s.setGate index level).gates = s.gates.setIfInBounds index level := by
  simp only [setGate]
  split <;> rfl

theorem registry_setGate : (s.setGate index level).registry = s.registry := by
  simp only [setGate]
  split <;> rfl

theorem loggers_setGate : (s.setGate index level).loggers = s.loggers := by
  simp only [setGate]
  split <;> rfl

theorem targets_setGate : (s.setGate index level).targets = s.targets := by
  simp only [setGate]
  split <;> rfl

theorem configured_setGate : (s.setGate index level).configured = s.configured := by
  simp only [setGate]
  split <;> rfl

theorem gateLevel_setGate (h : index < s.gates.size) :
    (s.setGate index level).gateLevel (.shared index) = level := by
  simp [gateLevel, gates_setGate, h]

theorem logger?_modifyLogger {f : Logger → Logger} :
    (s.modifyLogger id f).logger? i = if id = i then (s.logger? i).map f else s.logger? i :=
  Array.getElem?_modify

theorem logger?_addTarget :
    (s.addTarget id t).logger? i =
      if id = i then (s.logger? i).map (·.mapTargets (·.add t)) else s.logger? i := by
  rw [addTarget]
  split
  · next none => split <;> simp_all
  · next l some =>
    split
    · exact logger?_modifyLogger
    · next held =>
      have same : l.mapTargets (·.add t) = l := by
        rw [Logger.mapTargets, TargetSet.add_of_mem (not_not.1 (mt TargetSet.insert_fst.2 held))]
      split <;> simp_all

theorem logger?_removeTarget :
    (s.removeTarget id t).logger? i =
      if id = i then (s.logger? i).map (·.mapTargets (·.remove t)) else s.logger? i := by
  rw [removeTarget]
  split
  · next none => split <;> simp_all
  · next l some =>
    split
    · exact logger?_modifyLogger
    · next absent =>
      have same : l.mapTargets (·.remove t) = l := by
        rw [Logger.mapTargets, TargetSet.remove_of_not_mem (mt TargetSet.withdraw_fst.2 absent)]
      split <;> simp_all

theorem logger?_rename {label : String} :
    (s.rename id label).logger? i =
      if id = i then (s.logger? i).map ({ · with category := label }) else s.logger? i :=
  logger?_modifyLogger

/-- Loggers may have changed in the targets they hold, not by doubling them, and in their name. -/
def Evolves (s s' : Router) : Prop :=
  ∀ i, s'.logger? i = s.logger? i ∨ ∃ change : Logger → Logger,
    (∀ l, (change l).context = l.context ∧ (l.targets.members.Nodup → (change l).targets.members.Nodup)) ∧
      s'.logger? i = (s.logger? i).map change

theorem Evolves.context {s' : Router} (h : Evolves s s') (i : LoggerId) :
    (s'.logger? i).map (·.context) = (s.logger? i).map (·.context) := by
  rcases h i with same | ⟨change, keeps, eq⟩
  · rw [same]
  · rw [eq, Option.map_map]
    exact congrArg (Option.map · (s.logger? i)) (funext fun l => (keeps l).1)

theorem Evolves.nodup {s' : Router} (h : Evolves s s')
    (held : ∀ i l, s.logger? i = some l → l.targets.members.Nodup) {l : Logger}
    (found : s'.logger? i = some l) : l.targets.members.Nodup := by
  rcases h i with same | ⟨change, keeps, eq⟩
  · exact held i l (same ▸ found)
  · rw [eq] at found
    obtain ⟨l, before, rfl⟩ := Option.map_eq_some_iff.1 found
    exact (keeps l).2 (held i l before)

theorem Evolves.of_one {s' : Router} {change : Logger → Logger}
    (h : ∀ i, s'.logger? i = if id = i then (s.logger? i).map change else s.logger? i)
    (keeps : ∀ l, (change l).context = l.context ∧
      (l.targets.members.Nodup → (change l).targets.members.Nodup)) : Evolves s s' := by
  intro i
  by_cases e : id = i
  · exact .inr ⟨change, keeps, (h i).trans (if_pos e)⟩
  · exact .inl ((h i).trans (if_neg e))

theorem Evolves.rename (id : LoggerId) (label : String) (s : Router) : Evolves s (s.rename id label) :=
  of_one (fun _ => logger?_rename) fun _ => ⟨rfl, fun h => h⟩

theorem Evolves.addTarget (id : LoggerId) (t : Target) (s : Router) : Evolves s (s.addTarget id t) :=
  of_one (fun _ => logger?_addTarget) fun _ => ⟨rfl, TargetSet.nodup_add⟩

theorem Evolves.removeTarget (id : LoggerId) (t : Target) (s : Router) : Evolves s (s.removeTarget id t) :=
  of_one (fun _ => logger?_removeTarget) fun _ => ⟨rfl, TargetSet.nodup_remove⟩

theorem targetsOf_eq (h : s.logger? id = some l) : s.targetsOf id = l.targets.members := by
  simp [targetsOf, h]

theorem logger?_isSome : (s.logger? id).isSome ↔ id < s.loggers.size := by
  simp [logger?]

section Walk

variable {step : String → LoggerId → Router → Router} {change : String → Logger → Logger}
  {ps : List (String × LoggerId)} {key : String}

theorem logger?_foldl_of_not_mem
    (h : ∀ key id s i, (step key id s).logger? i =
      if id = i then (s.logger? i).map (change key) else s.logger? i)
    (absent : i ∉ ps.map (·.2)) :
    (ps.foldl (fun s p => step p.1 p.2 s) s).logger? i = s.logger? i := by
  induction ps generalizing s with
  | nil => rfl
  | cons p ps ih =>
    rw [List.map_cons, List.mem_cons, not_or] at absent
    rw [List.foldl_cons, ih absent.2, h, if_neg (Ne.symm absent.1)]

theorem logger?_foldl_of_mem
    (h : ∀ key id s i, (step key id s).logger? i =
      if id = i then (s.logger? i).map (change key) else s.logger? i)
    (distinct : (ps.map (·.2)).Nodup) (mem : (key, i) ∈ ps) :
    (ps.foldl (fun s p => step p.1 p.2 s) s).logger? i = (s.logger? i).map (change key) := by
  induction ps generalizing s with
  | nil => cases mem
  | cons p ps ih =>
    rw [List.map_cons, List.nodup_cons] at distinct
    rw [List.foldl_cons]
    rcases List.mem_cons.1 mem with rfl | mem
    · rw [logger?_foldl_of_not_mem h distinct.1, h, if_pos rfl]
    · have ne : p.2 ≠ i := fun e => distinct.1 (e ▸ List.mem_map_of_mem mem)
      rw [ih distinct.2 mem, h, if_neg ne]

end Walk

end Router
end LogRouting
