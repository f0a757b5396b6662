import LogRouting.Proofs.Registry.Runs

namespace LogRouting

namespace Router

/-- What holds of a registry and its loggers whoever works on them. -/
structure Consistent (s : Router) : Prop where
  keys : (s.registry.loggers.map (·.1)).Nodup
  ids : (s.registry.loggers.map (·.2)).Nodup
  made : ∀ p ∈ s.registry.loggers, p.2 < s.loggers.size
  bound : (s.registry.bindings.map (·.target)).Nodup
  held : ∀ id l, s.logger? id = some l → l.targets.members.Nodup

/-- The known loggers hold a target when it is bound to their key. -/
def Agrees (t : Target) (s : Router) : Prop :=
  ∀ p ∈ s.registry.loggers, t ∈ s.targetsOf p.2 ↔ s.routes t p.1 = true

variable {s s' : Router} {t u : Target} {categories : List String} {category key label : String}
  {id i : LoggerId} {l : Logger} {level : Level}

theorem mem_of_registered (h : s.registered? key = some id) : (key, id) ∈ s.registry.loggers := by
  rw [registered?, List.lookup_eq_some_iff] at h
  obtain ⟨before, after, eq, -⟩ := h
  simp [eq]

theorem registered?_eq_none : s.registered? key = none ↔ key ∉ s.registry.loggers.map (·.1) := by
  rw [registered?, List.lookup_eq_none_iff]
  simp only [List.mem_map]
  grind

theorem registered?_lookup : (s.lookup key).2.registered? key = some (s.lookup key).1 := by
  cases h : s.registered? key with
  | some id => rwa [lookup_of_some h]
  | none =>
    have new : s.registry.loggers.lookup key = none := h
    rw [registered?, registry_lookup_of_none h, List.lookup_append, new, lookup_of_none h]
    simp

theorem targetsOf_congr (h : s'.logger? id = s.logger? id) : s'.targetsOf id = s.targetsOf id := by
  rw [targetsOf, h, targetsOf]

theorem mem_targetsOf_bind (hs : s.Consistent) (mem : (key, id) ∈ s.registry.loggers) :
    u ∈ (s.bind t categories).targetsOf id ↔
      if u = t then (⟨t, categories⟩ : Binding).covers key = true else u ∈ s.targetsOf id := by
  obtain ⟨l, found⟩ := Option.isSome_iff_exists.1 (logger?_isSome.2 (hs.made _ mem))
  have settled : (s.bind t categories).logger? id = (s.logger? id).map (Binding.settle ⟨t, categories⟩ key) :=
    logger?_bind_of_mem hs.ids mem
  rw [found, Option.map_some] at settled
  rw [targetsOf_eq settled, targetsOf_eq found, Binding.mem_settle]

theorem mem_targetsOf_unbind (hs : s.Consistent) (mem : (key, id) ∈ s.registry.loggers) :
    u ∈ (s.unbind t).targetsOf id ↔ u ∈ s.targetsOf id ∧ u ≠ t := by
  obtain ⟨l, found⟩ := Option.isSome_iff_exists.1 (logger?_isSome.2 (hs.made _ mem))
  have emptied := logger?_unbind_of_mem (t := t) hs.ids mem
  rw [found, Option.map_some] at emptied
  rw [targetsOf_eq emptied, targetsOf_eq found]
  exact TargetSet.mem_remove

theorem targetsOf_unbind (distinct : (s.registry.loggers.map (·.2)).Nodup) (mem : (key, id) ∈ s.registry.loggers) :
    (s.unbind t).targetsOf id = (s.targetsOf id).filter (· ≠ t) := by
  rw [targetsOf, logger?_unbind_of_mem distinct mem, targetsOf]
  cases s.logger? id <;> rfl

theorem targetsOf_lookup_of_none (hs : s.Consistent) (h : s.registered? category = none) :
    (s.lookup category).2.targetsOf id =
      if id = s.loggers.size then (s.registry.bindings.filter (·.covers category)).map (·.target)
      else s.targetsOf id := by
  rw [targetsOf]
  rw [logger?_lookup_of_none h hs.bound]
  split <;> rfl

theorem targetsOf_lookup_new (new : s.registered? key = none) (distinct : (s.registry.bindings.map (·.target)).Nodup) :
    (s.lookup key).2.targetsOf (s.lookup key).1 = (s.registry.bindings.filter (·.covers key)).map (·.target) := by
  have id : (s.lookup key).1 = s.loggers.size := by rw [lookup_of_none new]
  have made := logger?_lookup_of_none (i := s.loggers.size) new distinct
  rw [if_pos rfl] at made
  rw [id, targetsOf_eq made]

theorem targetsOf_rename : (s.rename id label).targetsOf i = s.targetsOf i := by
  simp only [targetsOf]
  rw [logger?_rename]
  split
  · cases s.logger? i <;> rfl
  · rfl

theorem mem_targetsOf_of_change {change : Logger → Logger}
    (h : ∀ i, s'.logger? i = if id = i then (s.logger? i).map change else s.logger? i)
    (keeps : ∀ l, u ∈ (change l).targets.members ↔ u ∈ l.targets.members) :
    u ∈ s'.targetsOf i ↔ u ∈ s.targetsOf i := by
  by_cases e : id = i
  · have changed := (h i).trans (if_pos e)
    cases found : s.logger? i with
    | none => simp [targetsOf, changed, found]
    | some l => simp [targetsOf, changed, found, keeps]
  · rw [targetsOf_congr ((h i).trans (if_neg e))]

theorem mem_targetsOf_addTarget (h : u ≠ t) : u ∈ (s.addTarget id t).targetsOf i ↔ u ∈ s.targetsOf i :=
  mem_targetsOf_of_change (fun _ => logger?_addTarget) fun _ => TargetSet.mem_add.trans (or_iff_left h)

theorem mem_targetsOf_removeTarget (h : u ≠ t) : u ∈ (s.removeTarget id t).targetsOf i ↔ u ∈ s.targetsOf i :=
  mem_targetsOf_of_change (fun _ => logger?_removeTarget) fun _ => TargetSet.mem_remove.trans (and_iff_left h)

theorem routes_congr (h : s'.registry.bindings = s.registry.bindings) : s'.routes t key = s.routes t key := by
  rw [routes, h, routes]

theorem routes_iff : s.routes t key = true ↔ ∃ b ∈ s.registry.bindings, b.target = t ∧ b.covers key = true := by
  simp [routes, Binding.isFor]

theorem routes_bind : (s.bind t categories).routes u key =
    if u = t then (⟨t, categories⟩ : Binding).covers key else s.routes u key := by
  rw [Bool.eq_iff_iff, routes_iff, registry_bind]
  simp only [List.mem_append, List.mem_filter, List.mem_singleton, Binding.isFor]
  split
  · grind
  · rw [routes_iff]; grind

theorem routes_unbind : (s.unbind t).routes u key = if u = t then false else s.routes u key := by
  rw [Bool.eq_iff_iff, routes_iff, registry_unbind]
  simp only [List.mem_filter, Binding.isFor]
  split
  · grind
  · rw [routes_iff]; grind

theorem Consistent.nodup_targetsOf (hs : s.Consistent) : (s.targetsOf id).Nodup := by
  cases found : s.logger? id with
  | none => simp [targetsOf, found]
  | some l => exact targetsOf_eq found ▸ hs.held id l found

theorem Consistent.fresh (targets : Array TargetState) (level : Level) (renderer : Renderer)
    (reporter : Reporter) : (fresh targets level renderer reporter).Consistent where
  keys := List.nodup_nil
  ids := List.nodup_nil
  made := fun _ h => nomatch h
  bound := List.nodup_nil
  held := fun _ _ found => nomatch found

theorem Consistent.of_onlyLoggers (hs : s.Consistent) (only : OnlyLoggers s s') (evolves : Evolves s s') :
    s'.Consistent where
  keys := only.registry ▸ hs.keys
  ids := only.registry ▸ hs.ids
  made := by rw [only.registry, only.size]; exact hs.made
  bound := only.registry ▸ hs.bound
  held _ _ := evolves.nodup hs.held

theorem Consistent.of_same (hs : s.Consistent) (registry : s'.registry = s.registry)
    (loggers : s'.loggers = s.loggers) : s'.Consistent where
  keys := registry ▸ hs.keys
  ids := registry ▸ hs.ids
  made := by rw [registry, loggers]; exact hs.made
  bound := registry ▸ hs.bound
  held := by
    have same (id : LoggerId) : s'.logger? id = s.logger? id := by rw [logger?, loggers, logger?]
    intro id l found
    exact hs.held id l (same id ▸ found)

theorem Consistent.silent (hs : s.Consistent) (same : SameRouting s s') : s'.Consistent :=
  hs.of_same same.registry same.loggers

theorem Consistent.setRegistryLevel (hs : s.Consistent) : (s.setRegistryLevel level).Consistent :=
  hs.of_same registry_setGate loggers_setGate

theorem Consistent.rename (hs : s.Consistent) : (s.rename id label).Consistent :=
  hs.of_onlyLoggers (.modifyLogger ..) (.rename _ _ _)

theorem Consistent.addTarget (hs : s.Consistent) : (s.addTarget id t).Consistent :=
  hs.of_onlyLoggers (.addTarget ..) (.addTarget _ _ _)

theorem Consistent.removeTarget (hs : s.Consistent) : (s.removeTarget id t).Consistent :=
  hs.of_onlyLoggers (.removeTarget ..) (.removeTarget _ _ _)

theorem Consistent.removeLogger (hs : s.Consistent) : (s.removeLogger category).Consistent where
  keys := hs.keys.sublist (List.filter_sublist.map _)
  ids := hs.ids.sublist (List.filter_sublist.map _)
  made := fun p h => hs.made p (List.mem_of_mem_filter h)
  bound := hs.bound
  held := hs.held

theorem nodup_others (h : (s.registry.bindings.map (·.target)).Nodup) :
    ((s.registry.bindings.filter (!·.isFor t)).map (·.target)).Nodup :=
  h.sublist (List.filter_sublist.map _)

theorem Consistent.bind (hs : s.Consistent) : (s.bind t categories).Consistent where
  keys := by rw [registry_bind]; exact hs.keys
  ids := by rw [registry_bind]; exact hs.ids
  made := by rw [registry_bind, (OnlyLoggers.bind t categories s).size]; exact hs.made
  bound := by
    rw [registry_bind, List.map_append, List.nodup_append]
    refine ⟨nodup_others hs.bound, List.nodup_singleton t, ?_⟩
    simp only [List.mem_map, List.mem_filter, Binding.isFor]
    grind
  held _ _ := (Evolves.bind t categories hs.ids).nodup hs.held

theorem Consistent.unbind (hs : s.Consistent) : (s.unbind t).Consistent where
  keys := by rw [registry_unbind]; exact hs.keys
  ids := by rw [registry_unbind]; exact hs.ids
  made := by rw [registry_unbind, (OnlyLoggers.unbind t s).size]; exact hs.made
  bound := by rw [registry_unbind]; exact nodup_others hs.bound
  held _ _ := (Evolves.unbind t hs.ids).nodup hs.held

theorem Consistent.lookup (hs : s.Consistent) : (s.lookup category).2.Consistent := by
  cases h : s.registered? category with
  | some id => rwa [lookup_of_some h]
  | none =>
    have registry := registry_lookup_of_none h
    have size := size_lookup_of_none h
    constructor
    · rw [registry, List.map_append, List.nodup_append]
      have new := registered?_eq_none.1 h
      refine ⟨hs.keys, List.nodup_singleton category, ?_⟩
      grind
    -- identities are given out in order, so none of the loggers made before has this one
    · rw [registry, List.map_append, List.nodup_append]
      refine ⟨hs.ids, List.nodup_singleton s.loggers.size, ?_⟩
      have made := hs.made
      grind
    · rw [registry, size]
      have made := hs.made
      grind
    · rw [registry]
      exact hs.bound
    · intro i l found
      rw [logger?_lookup_of_none h hs.bound] at found
      split at found
      · cases found
        exact hs.bound.sublist (List.filter_sublist.map _)
      · exact hs.held i l found

theorem Consistent.apply (o : Operation) (silent : o.handler? = none) (hs : s.Consistent) :
    (o.apply s).Consistent := by
  cases o with
  | lookup category => exact hs.lookup
  | removeLogger category => exact hs.removeLogger
  | bind t categories => exact hs.bind
  | unbind t => exact hs.unbind
  | setGate level => exact hs.setRegistryLevel
  | rename id label => exact hs.rename
  | add id t => exact hs.addTarget
  | remove id t => exact hs.removeTarget
  | log h id call => cases silent

theorem Reaches.consistent {allowed : Operation → Prop} (run : Reaches allowed s s') (hs : s.Consistent) :
    s'.Consistent :=
  run.preserves (fun _ _ same hs => hs.silent same) (fun o _ _ silent hs => hs.apply o silent) hs

theorem Agrees.fresh {targets : Array TargetState} {renderer : Renderer} {reporter : Reporter} :
    Agrees t (fresh targets level renderer reporter) :=
  fun _ h => nomatch h

theorem Agrees.of_same (h : Agrees t s) (registry : s'.registry = s.registry)
    (held : ∀ id, t ∈ s'.targetsOf id ↔ t ∈ s.targetsOf id) : Agrees t s' := by
  intro p mem
  rw [registry] at mem
  rw [held, routes, registry]
  exact h p mem

theorem Agrees.silent (h : Agrees t s) (same : SameRouting s s') : Agrees t s' := by
  refine h.of_same same.registry fun id => ?_
  have same : s'.logger? id = s.logger? id := by rw [logger?, same.loggers, logger?]
  rw [targetsOf_congr same]

theorem Agrees.bind (hs : s.Consistent) (h : u ≠ t → Agrees u s) : Agrees u (s.bind t categories) := by
  intro p mem
  rw [registry_bind] at mem
  rw [mem_targetsOf_bind hs mem, routes_bind]
  split
  · rfl
  · next ne => exact h ne p mem

theorem Agrees.unbind (hs : s.Consistent) (h : u ≠ t → Agrees u s) : Agrees u (s.unbind t) := by
  intro p mem
  rw [registry_unbind] at mem
  rw [mem_targetsOf_unbind hs mem, routes_unbind]
  split
  · next e => simp [e]
  · next ne => simpa [ne] using h ne p mem

theorem Agrees.lookup (hs : s.Consistent) (h : Agrees t s) : Agrees t (s.lookup category).2 := by
  cases known : s.registered? category with
  | some id => rwa [lookup_of_some known]
  | none =>
    intro p mem
    have registry := registry_lookup_of_none known
    have routes : (s.lookup category).2.routes t p.1 = s.routes t p.1 := routes_congr (by rw [registry])
    rw [registry, List.mem_append, List.mem_singleton] at mem
    rw [targetsOf_lookup_of_none hs known, routes]
    -- an old logger keeps its list, the new one has been filled from the bindings
    rcases mem with mem | rfl
    · rw [if_neg (hs.made p mem).ne]
      exact h p mem
    · rw [if_pos rfl, routes_iff]
      simp only [List.mem_map, List.mem_filter]
      grind

theorem Agrees.apply (o : Operation) (silent : o.handler? = none) (indirect : o.direct? ≠ some t)
    (hs : s.Consistent) (h : Agrees t s) : Agrees t (o.apply s) := by
  cases o with
  | lookup category => exact h.lookup hs
  | removeLogger category => exact fun p mem => h p (List.mem_of_mem_filter mem)
  | bind u categories => exact .bind hs fun _ => h
  | unbind u => exact .unbind hs fun _ => h
  | setGate level =>
    refine h.of_same registry_setGate fun id => ?_
    rw [Operation.apply, Router.setRegistryLevel, targetsOf, logger?, loggers_setGate]
    rfl
  | rename id label => exact h.of_same rfl fun i => by rw [Operation.apply, targetsOf_rename]
  | add id u =>
    have ne : t ≠ u := fun e => indirect (congrArg some e.symm)
    exact h.of_same (OnlyLoggers.addTarget ..).registry fun _ => mem_targetsOf_addTarget ne
  | remove id u =>
    have ne : t ≠ u := fun e => indirect (congrArg some e.symm)
    exact h.of_same (OnlyLoggers.removeTarget ..).registry fun _ => mem_targetsOf_removeTarget ne
  | log h id call => cases silent

theorem count_targetsOf_bind (hs : s.Consistent) (known : s.registered? key = some id) :
    ((s.bind t categories).targetsOf id).count t = if categories = [] ∨ key ∈ categories then 1 else 0 := by
  have held : t ∈ (s.bind t categories).targetsOf id ↔ (⟨t, categories⟩ : Binding).covers key = true :=
    (mem_targetsOf_bind hs (mem_of_registered known)).trans (by rw [if_pos rfl])
  rw [hs.bind.nodup_targetsOf.count]
  simp only [held, Binding.covers, List.isEmpty_iff, Bool.or_eq_true, decide_eq_true_eq]

theorem Reaches.agrees (run : Reaches (fun o => o.direct? ≠ some t) s s') (hs : s.Consistent)
    (h : Agrees t s) : Agrees t s' := by
  have both : s'.Consistent ∧ Agrees t s' := by
    refine run.preserves (P := fun s => s.Consistent ∧ Agrees t s) ?_ ?_ ⟨hs, h⟩
    · exact fun _ _ same ⟨hs, h⟩ => ⟨hs.silent same, h.silent same⟩
    · intro o s indirect silent ⟨hs, h⟩
      exact ⟨hs.apply o silent, h.apply o silent indirect hs⟩
  exact both.2

/-- No target is bound twice or held twice. The known loggers hold a target that nobody touched directly when it is
bound to their key, and binding or unbinding a target, touched or not, settles which of them hold it. -/
theorem members_match_bindings (touched : Target → Prop) (targets : Array TargetState) (level : Level)
    (renderer : Renderer) (reporter : Reporter) (s : Router)
    (run : Reaches (fun o => ∀ t, o.direct? = some t → touched t) (fresh targets level renderer reporter) s) :
    (s.registry.bindings.map (·.target)).Nodup ∧
    (∀ id, (s.targetsOf id).Nodup) ∧
    (∀ t, ¬ touched t → ∀ key id, s.registered? key = some id →
      (t ∈ s.targetsOf id ↔ s.routes t key = true)) ∧
    (∀ t categories key id, (s.bind t categories).registered? key = some id →
      ((s.bind t categories).targetsOf id).count t = if categories = [] ∨ key ∈ categories then 1 else 0) ∧
    (∀ t key id, (s.unbind t).registered? key = some id → t ∉ (s.unbind t).targetsOf id) ∧
    (∀ key, (s.lookup key).2.registered? key = some (s.lookup key).1) ∧
    (∀ id label, (s.rename id label).registered? = s.registered? ∧
      (s.rename id label).routes = s.routes ∧ (s.rename id label).targetsOf = s.targetsOf) := by
  have hs : s.Consistent := run.consistent (.fresh ..)
  refine ⟨hs.bound, fun _ => hs.nodup_targetsOf, fun t untouched key id known => ?_,
    fun t categories key id known => ?_, fun t key id known => ?_, fun key => ?_, fun id label => ?_⟩
  · have run := run.mono fun o allowed => fun direct : o.direct? = some t => untouched (allowed t direct)
    exact run.agrees (.fresh ..) .fresh (key, id) (mem_of_registered known)
  · rw [registered?, registry_bind] at known
    exact count_targetsOf_bind hs known
  · rw [registered?, registry_unbind] at known
    rw [mem_targetsOf_unbind hs (mem_of_registered known)]
    exact fun h => h.2 rfl
  · exact registered?_lookup
  · exact ⟨rfl, rfl, funext fun _ => targetsOf_rename⟩

/-- In the course of a log call one target is unbound by another; a third was added past the bindings, to a
logger that has been renamed. -/
theorem members_match_bindings_reentrant :
    let a : Target := ⟨0, "a"⟩
    let b : Target := ⟨1, "b"⟩
    let c : Target := ⟨2, "c"⟩
    let h : Handler := fun t _ s => (.accepted, if t = a then s.unbind b else s)
    let s := [.lookup "net", .bind a ["net"], .bind b [], .rename 0 "db", .add 0 c,
      .log h 0 ⟨.info, "up", {}, true⟩].foldl (fun s o => Operation.apply o s) (fresh #[] .all {} .noting)
    s.registered? "net" = some 0 ∧ s.targetsOf 0 = [a, c] ∧
    (a ∈ s.targetsOf 0 ↔ s.routes a "net" = true) ∧
    (b ∈ s.targetsOf 0 ↔ s.routes b "net" = true) ∧
    ((s.bind c ["db"]).targetsOf 0).count c = 0 := by
  intro a b c h s
  have answers (t e r) : Reaches (fun o => ∀ t, o.direct? = some t → t = c) r (h t e r).2 := by
    by_cases first : t = a
    · have unbinds : (h t e r).2 = Operation.apply (.unbind b) r := if_pos first
      rw [unbinds]
      exact .step (.refl r) (fun _ direct => nomatch direct) (fun _ calls => nomatch calls)
    · have idles : (h t e r).2 = r := if_neg first
      rw [idles]
      exact .refl r
  have run : Reaches (fun o => ∀ t, o.direct? = some t → t = c) (fresh #[] .all {} .noting) s := by
    refine .foldl _ ?_ _
    simpa [Operation.direct?, Operation.handler?] using answers
  obtain ⟨-, -, agree, settled, -⟩ := members_match_bindings (· = c) #[] .all {} .noting s run
  have known : s.registered? "net" = some 0 := by decide
  refine ⟨known, by decide, agree a (by decide) "net" 0 known, agree b (by decide) "net" 0 known, ?_⟩
  exact settled c ["db"] "net" 0 (by decide)

end Router
end LogRouting
