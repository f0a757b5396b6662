import LogRouting.Proofs.Frame
import LogRouting.Router.Registry

namespace LogRouting

def Binding.settle (b : Binding) (key : String) (l : Logger) : Logger :=
  l.mapTargets fun ts => if b.covers key then ts.add b.target else ts.remove b.target

theorem Binding.mem_settle {b : Binding} {key : String} {l : Logger} {t : Target} :
    t ∈ (b.settle key l).targets.members ↔
      if t = b.target then b.covers key = true else t ∈ l.targets.members := by
  rw [Binding.settle, Logger.mapTargets]
  split
  · next covered => rw [TargetSet.mem_add]; grind
  · next not_covered => rw [TargetSet.mem_remove]; grind

theorem Binding.members_settle {b : Binding} {key : String} {l : Logger} : (b.settle key l).targets.members =
    if b.covers key then
      if b.target ∈ l.targets.members then l.targets.members else l.targets.members ++ [b.target]
    else l.targets.members.filter (· ≠ b.target) := by
  rw [settle, Logger.mapTargets]
  split
  · split
    · next held => rw [TargetSet.add_of_mem held]
    · next new => rw [TargetSet.members_add_of_not_mem new]
  · rfl

theorem Binding.nodup_settle {b : Binding} {key : String} {l : Logger} (h : l.targets.members.Nodup) :
    (b.settle key l).targets.members.Nodup := by
  rw [Binding.settle, Logger.mapTargets]
  split
  · exact TargetSet.nodup_add h
  · exact TargetSet.nodup_remove h

namespace Router

variable {s : Router} {t : Target} {categories : List String} {category key : String} {id i : LoggerId}

theorem OnlyLoggers.bind (t : Target) (categories : List String) (s : Router) :
    OnlyLoggers
      (s.setRegistry fun r => { r with bindings := r.bindings.filter (!·.isFor t) ++ [⟨t, categories⟩] })
      (s.bind t categories) := by
  refine OnlyLoggers.trans (OnlyLoggers.foldl (fun s p => ?_) _ _) (OnlyLoggers.observe ..)
  dsimp only
  split
  · exact OnlyLoggers.addTarget ..
  · exact OnlyLoggers.removeTarget ..

theorem OnlyLoggers.unbind (t : Target) (s : Router) :
    OnlyLoggers (s.setRegistry fun r => { r with bindings := r.bindings.filter (!·.isFor t) })
      (s.unbind t) :=
  .trans (.foldl (fun s (p : String × LoggerId) => .removeTarget p.2 t s) _ _) (.observe ..)

@[simp] theorem registry_bind : (s.bind t categories).registry =
    { s.registry with bindings := s.registry.bindings.filter (!·.isFor t) ++ [⟨t, categories⟩] } :=
  (OnlyLoggers.bind t categories s).registry

@[simp] theorem registry_unbind : (s.unbind t).registry =
    { s.registry with bindings := s.registry.bindings.filter (!·.isFor t) } :=
  (OnlyLoggers.unbind t s).registry

theorem logger?_settle (b : Binding) (key : String) (id : LoggerId) (s : Router) (i : LoggerId) :
    (if b.covers key then s.addTarget id b.target else s.removeTarget id b.target).logger? i =
      if id = i then (s.logger? i).map (b.settle key) else s.logger? i := by
  have settled : b.settle key =
      fun l => l.mapTargets fun ts => if b.covers key then ts.add b.target else ts.remove b.target := rfl
  rw [settled]
  split
  · exact logger?_addTarget
  · exact logger?_removeTarget

theorem logger?_bind_of_mem (distinct : (s.registry.loggers.map (·.2)).Nodup)
    (mem : (key, i) ∈ s.registry.loggers) :
    (s.bind t categories).logger? i = (s.logger? i).map (Binding.settle ⟨t, categories⟩ key) :=
  logger?_foldl_of_mem (logger?_settle ⟨t, categories⟩) distinct mem

theorem logger?_bind_of_not_mem (absent : i ∉ s.registry.loggers.map (·.2)) :
    (s.bind t categories).logger? i = s.logger? i :=
  logger?_foldl_of_not_mem (logger?_settle ⟨t, categories⟩) absent

theorem logger?_unbind_of_mem (distinct : (s.registry.loggers.map (·.2)).Nodup)
    (mem : (key, i) ∈ s.registry.loggers) :
    (s.unbind t).logger? i = (s.logger? i).map (·.mapTargets (·.remove t)) := by
  let change (_ : String) (l : Logger) : Logger := l.mapTargets (·.remove t)
  have step (key : String) (id : LoggerId) (s : Router) (i : LoggerId) : (s.removeTarget id t).logger? i =
      if id = i then (s.logger? i).map (change key) else s.logger? i := logger?_removeTarget
  exact logger?_foldl_of_mem step distinct mem

theorem logger?_unbind_of_not_mem (absent : i ∉ s.registry.loggers.map (·.2)) :
    (s.unbind t).logger? i = s.logger? i := by
  let change (_ : String) (l : Logger) : Logger := l.mapTargets (·.remove t)
  have step (key : String) (id : LoggerId) (s : Router) (i : LoggerId) : (s.removeTarget id t).logger? i =
      if id = i then (s.logger? i).map (change key) else s.logger? i := logger?_removeTarget
  exact logger?_foldl_of_not_mem step absent

theorem Evolves.bind (t : Target) (categories : List String) (distinct : (s.registry.loggers.map (·.2)).Nodup) :
    Evolves s (s.bind t categories) := by
  intro i
  by_cases known : i ∈ s.registry.loggers.map (·.2)
  · obtain ⟨⟨key, i⟩, entry, rfl⟩ := List.mem_map.1 known
    exact .inr ⟨Binding.settle ⟨t, categories⟩ key, fun _ => ⟨rfl, Binding.nodup_settle⟩,
      logger?_bind_of_mem distinct entry⟩
  · exact .inl (logger?_bind_of_not_mem known)

theorem Evolves.unbind (t : Target) (distinct : (s.registry.loggers.map (·.2)).Nodup) :
    Evolves s (s.unbind t) := by
  intro i
  by_cases known : i ∈ s.registry.loggers.map (·.2)
  · obtain ⟨⟨key, i⟩, entry, rfl⟩ := List.mem_map.1 known
    exact .inr ⟨(·.mapTargets (·.remove t)), fun _ => ⟨rfl, TargetSet.nodup_remove⟩,
      logger?_unbind_of_mem distinct entry⟩
  · exact .inl (logger?_unbind_of_not_mem known)

theorem logger?_newLogger {l : Logger} :
    (s.newLogger l).2.logger? i = if i = s.loggers.size then some l else s.logger? i :=
  Array.getElem?_push

theorem logger?_foldl_addTarget (bs : List Binding) :
    (bs.foldl (fun s b => s.addTarget id b.target) s).logger? i =
      if id = i then (s.logger? i).map (·.mapTargets fun ts => bs.foldl (fun ts b => ts.add b.target) ts)
      else s.logger? i := by
  induction bs generalizing s with
  | nil => simp [Logger.mapTargets]
  | cons b bs ih =>
    rw [List.foldl_cons, ih, logger?_addTarget]
    split
    · rw [Option.map_map]
      rfl
    · rfl

theorem lookup_of_some (h : s.registered? category = some id) : s.lookup category = (id, s) := by
  simp [lookup, h]

def furnish (category : String) (s : Router) : Router :=
  (s.registry.bindings.filter (·.covers category)).foldl (fun s' b => s'.addTarget s.loggers.size b.target)
    (s.newLogger ⟨category, {}, s.registry.context⟩).2

theorem OnlyLoggers.furnish (category : String) (s : Router) :
    OnlyLoggers (s.newLogger ⟨category, {}, s.registry.context⟩).2 (s.furnish category) :=
  OnlyLoggers.foldl (fun _ _ => OnlyLoggers.addTarget ..) _ _

theorem logger?_furnish : (s.furnish category).logger? i =
    if i = s.loggers.size then
      some ⟨category, (s.registry.bindings.filter (·.covers category)).foldl (fun ts b => ts.add b.target) {},
        s.registry.context⟩
    else s.logger? i := by
  rw [furnish, logger?_foldl_addTarget, logger?_newLogger]
  by_cases new : i = s.loggers.size
  · simp [new, Logger.mapTargets]
  · rw [if_neg (Ne.symm new), if_neg new, if_neg new]

theorem lookup_of_none (h : s.registered? category = none) :
    s.lookup category =
      (s.loggers.size, ((s.furnish category).note (.loggerCreated category)).setRegistry fun r =>
        { r with loggers := r.loggers ++ [(category, s.loggers.size)] }) := by
  rw [lookup, h]
  rfl

theorem registry_lookup_of_none (h : s.registered? category = none) : (s.lookup category).2.registry =
    { s.registry with loggers := s.registry.loggers ++ [(category, s.loggers.size)] } := by
  have same : (s.furnish category).registry = s.registry := (OnlyLoggers.furnish category s).registry
  rw [lookup_of_none h]
  simp only [setRegistry, note, observe, same]

theorem logger?_lookup_of_none (h : s.registered? category = none)
    (distinct : (s.registry.bindings.map (·.target)).Nodup) :
    (s.lookup category).2.logger? i =
      if i = s.loggers.size then
        some ⟨category, ⟨(s.registry.bindings.filter (·.covers category)).map (·.target)⟩, s.registry.context⟩
      else s.logger? i := by
  let bound := s.registry.bindings.filter (·.covers category)
  have held : bound.foldl (fun ts b => ts.add b.target) ({} : TargetSet Target) = ⟨bound.map (·.target)⟩ := by
    have distinct : (bound.map (·.target)).Nodup := distinct.sublist (List.filter_sublist.map _)
    have members := TargetSet.members_foldl_add (s := {}) _ (by simpa using distinct)
    rw [List.foldl_map] at members
    exact congrArg TargetSet.mk members
  rw [lookup_of_none h, ← held]
  exact logger?_furnish

theorem size_lookup_of_none (h : s.registered? category = none) :
    (s.lookup category).2.loggers.size = s.loggers.size + 1 := by
  rw [lookup_of_none h]
  exact (OnlyLoggers.furnish category s).size.trans (Array.size_push _)

theorem gates_lookup : (s.lookup category).2.gates = s.gates := by
  cases h : s.registered? category with
  | some id => rw [lookup_of_some h]
  | none =>
    rw [lookup_of_none h]
    exact (OnlyLoggers.furnish category s).gates

theorem targets_lookup : (s.lookup category).2.targets = s.targets := by
  cases h : s.registered? category with
  | some id => rw [lookup_of_some h]
  | none =>
    rw [lookup_of_none h]
    exact (OnlyLoggers.furnish category s).targets

end Router
end LogRouting
