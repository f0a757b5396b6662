import LogRouting.Proofs.Configuration.Enrolled

/-!
The bindings that settings ask for, as a whole. One after the other, they move to the end of the bindings, and what
they make of a logger is a matter of which of its targets they cover and which it does not hold yet.
-/

namespace LogRouting

namespace Binding

/-- Whether none of the bindings takes a target out of the loggers of a category. -/
def spare (bs : List Binding) (key : String) (t : Target) : Bool :=
  bs.all fun b => b.target ≠ t || b.covers key

def heard (bs : List Binding) (key : String) : List Target := (bs.filter (·.covers key)).map (·.target)

variable {b : Binding} {bs : List Binding} {key : String} {t : Target} {l : Logger}

theorem spare_cons : spare (b :: bs) key t = ((b.target ≠ t || b.covers key) && spare bs key t) := List.all_cons

theorem spare_of_not_mem (absent : t ∉ bs.map (·.target)) : spare bs key t = true := by
  refine List.all_eq_true.2 fun b mem => ?_
  have other : b.target ≠ t := fun same => absent (same ▸ List.mem_map_of_mem mem)
  simp [other]

theorem heard_cons : heard (b :: bs) key = if b.covers key then b.target :: heard bs key else heard bs key := by
  rw [heard, List.filter_cons]
  split <;> rfl

theorem heard_subset (bs : List Binding) (key : String) : heard bs key ⊆ bs.map (·.target) :=
  List.map_subset _ (List.filter_subset_self bs)

theorem members_foldl_settle (distinct : (bs.map (·.target)).Nodup) (l : Logger) :
    (bs.foldl (fun l b => b.settle key l) l).targets.members =
      l.targets.members.filter (spare bs key) ++ (heard bs key).filter (· ∉ l.targets.members) := by
  induction bs generalizing l with
  | nil => exact ((List.append_nil _).trans (List.filter_eq_self.2 fun _ _ => rfl)).symm
  | cons b bs ih =>
    rw [List.map_cons, List.nodup_cons] at distinct
    obtain ⟨absent, distinct⟩ := distinct
    have others : ∀ t ∈ heard bs key, t ≠ b.target := fun t mem same => absent (same ▸ heard_subset bs key mem)
    rw [List.foldl_cons, ih distinct, members_settle, heard_cons]
    by_cases covers : b.covers key = true
    · have same : spare (b :: bs) key = spare bs key := by
        funext t
        rw [spare_cons, covers, Bool.or_true, Bool.true_and]
      rw [if_pos covers, if_pos covers, same]
      by_cases held : b.target ∈ l.targets.members
      · rw [if_pos held, List.filter_cons_of_neg (by simpa using held)]
      -- the target comes in before those of the bindings that follow
      · have unheard : (heard bs key).filter (· ∉ l.targets.members ++ [b.target]) =
            (heard bs key).filter (· ∉ l.targets.members) := by
          refine List.filter_congr fun t mem => ?_
          simp [others t mem]
        rw [if_neg held, List.filter_append, List.filter_singleton, spare_of_not_mem absent, unheard,
          List.filter_cons_of_pos (by simpa using held), List.append_assoc]
        rfl
    · have fewer : (l.targets.members.filter (· ≠ b.target)).filter (spare bs key) =
          l.targets.members.filter (spare (b :: bs) key) := by
        rw [List.filter_filter]
        refine List.filter_congr fun t _ => ?_
        rw [spare_cons, Bool.eq_false_iff.2 covers, Bool.or_false, Bool.and_comm]
        simp only [ne_comm]
      have unheard : (heard bs key).filter (· ∉ l.targets.members.filter (· ≠ b.target)) =
          (heard bs key).filter (· ∉ l.targets.members) := by
        refine List.filter_congr fun t mem => ?_
        simp [others t mem]
      rw [if_neg covers, if_neg covers, fewer, unheard]

end Binding

namespace Router

def bindingsFor (ts : List TargetSettings) (s : Router) : List Binding :=
  ts.filterMap fun t => (s.targetFor t.name).map (⟨·, t.categories⟩)

variable {s s' : Router} {t : Target} {key name : String} {i : LoggerId} {settings : TargetSettings}
  {ts : List TargetSettings} {b : Binding} {c : Settings} {level : Level} {wanted : List String}

theorem bindingsFor_cons (known : s.targetFor settings.name = some t) :
    bindingsFor (settings :: ts) s = ⟨t, settings.categories⟩ :: bindingsFor ts s := by
  rw [bindingsFor, List.filterMap_cons, known]
  rfl

theorem mem_bindingsFor : b ∈ bindingsFor ts s ↔
    ∃ settings ∈ ts, s.targetFor settings.name = some b.target ∧ b.categories = settings.categories := by
  rw [bindingsFor, List.mem_filterMap]
  refine exists_congr fun settings => and_congr_right fun _ => ?_
  rw [Option.map_eq_some_iff]
  constructor
  · rintro ⟨t, known, rfl⟩
    exact ⟨known, rfl⟩
  · rintro ⟨known, same⟩
    exact ⟨b.target, known, by rw [← same]⟩

theorem bindingsFor_congr (same : ∀ t ∈ ts, s'.targetFor t.name = s.targetFor t.name) :
    bindingsFor ts s' = bindingsFor ts s :=
  List.filterMap_congr fun t mem => by rw [same t mem]

theorem heard_bindingsFor (ts : List TargetSettings) (key : String) (s : Router) :
    Binding.heard (bindingsFor ts s) key = (ts.filter (·.covers key)).filterMap (s.targetFor ·.name) := by
  rw [Binding.heard, bindingsFor, List.filter_filterMap, List.map_filterMap, List.filterMap_filter]
  refine List.filterMap_congr fun t _ => ?_
  cases known : s.targetFor t.name <;> cases covers : t.covers key <;> simp_all [TargetSettings.covers, Binding.covers]

theorem Enrolled.names_bindingsFor (h : s.Enrolled) (known : ∀ t ∈ ts, (s.targetFor t.name).isSome) :
    (bindingsFor ts s).map (fun b => (b.target.name, b.categories)) = ts.map fun t => (t.name, t.categories) := by
  induction ts with
  | nil => rfl
  | cons settings ts ih =>
    obtain ⟨t, given⟩ := Option.isSome_iff_exists.1 (known settings List.mem_cons_self)
    rw [bindingsFor_cons given, List.map_cons, List.map_cons, ih fun t mem => known t (List.mem_cons_of_mem _ mem),
      h.named_of_targetFor given]

theorem Enrolled.nodup_bindingsFor (h : s.Enrolled) (known : ∀ t ∈ ts, (s.targetFor t.name).isSome)
    (distinct : (ts.map (·.name)).Nodup) : ((bindingsFor ts s).map (·.target)).Nodup := by
  have names : ((bindingsFor ts s).map (·.target)).map (·.name) = ts.map (·.name) := by
    have both := congrArg (List.map Prod.fst) (h.names_bindingsFor known)
    rw [List.map_map, List.map_map] at both
    rw [List.map_map]
    exact both
  exact List.Nodup.of_map _ (names ▸ distinct)

theorem targetFor_foldl_cons : ((settings :: ts).foldl (fun s t => s.configureTarget t) s).targetFor settings.name =
    some (s.chosen settings.name) := by
  rw [List.foldl_cons]
  exact targetFor_foldl_of_some (targetFor_configureTarget.trans (if_pos rfl))

theorem targetFor_isSome_of_mem (mem : settings ∈ ts) :
    ((ts.foldl (fun s t => s.configureTarget t) s).targetFor settings.name).isSome :=
  targetFor_isSome_foldl.2 (.inr (List.mem_map_of_mem mem))

theorem Enrolled.bindings_foldl_configureTarget (h : s.Enrolled) (distinct : (ts.map (·.name)).Nodup) :
    let s' := ts.foldl (fun s t => s.configureTarget t) s
    s'.registry.bindings =
      s.registry.bindings.filter (·.target ∉ (bindingsFor ts s').map (·.target)) ++ bindingsFor ts s' := by
  intro s'
  induction ts generalizing s with
  | nil => exact ((List.append_nil _).trans (List.filter_eq_self.2 fun _ _ => rfl)).symm
  | cons settings ts ih =>
    have known : s'.targetFor settings.name = some (s.chosen settings.name) := targetFor_foldl_cons
    have apart : ((bindingsFor (settings :: ts) s').map (·.target)).Nodup :=
      (h.foldl_configureTarget _).nodup_bindingsFor (fun _ mem => targetFor_isSome_of_mem mem) distinct
    rw [bindingsFor_cons known, List.map_cons, List.nodup_cons] at apart
    -- what is bound for the first of them stays where it is put
    have first : s'.registry.bindings =
        (s.configureTarget settings).registry.bindings.filter (·.target ∉ (bindingsFor ts s').map (·.target)) ++
          bindingsFor ts s' := ih h.configureTarget (List.nodup_cons.1 distinct).2
    rw [first, configureTarget_eq, registry_bind, registry_prepared, bindingsFor_cons known, List.filter_append,
      List.filter_singleton, List.filter_filter, List.append_assoc]
    congr 1
    · refine List.filter_congr fun b _ => ?_
      simp [Binding.isFor, Bool.and_comm]
    · simp [apart.1]

theorem logger?_configureTarget (distinct : (s.registry.loggers.map (·.2)).Nodup)
    (mem : (key, i) ∈ s.registry.loggers) : (s.configureTarget settings).logger? i =
      (s.logger? i).map (Binding.settle ⟨s.chosen settings.name, settings.categories⟩ key) := by
  have registry : (s.prepared settings).registry = s.registry := registry_prepared
  have same : (s.prepared settings).logger? i = s.logger? i := by
    rw [logger?, (SameRouting.prepared settings s).loggers, logger?]
  rw [← registry] at distinct mem
  rw [configureTarget_eq, logger?_bind_of_mem distinct mem, same]

theorem logger?_configureTarget_of_not_mem (absent : i ∉ s.registry.loggers.map (·.2)) :
    (s.configureTarget settings).logger? i = s.logger? i := by
  have registry : (s.prepared settings).registry = s.registry := registry_prepared
  rw [← registry] at absent
  rw [configureTarget_eq, logger?_bind_of_not_mem absent, logger?, (SameRouting.prepared settings s).loggers, logger?]

theorem logger?_foldl_configureTarget (distinct : (s.registry.loggers.map (·.2)).Nodup)
    (mem : (key, i) ∈ s.registry.loggers) :
    let s' := ts.foldl (fun s t => s.configureTarget t) s
    s'.logger? i = (s.logger? i).map fun l => (bindingsFor ts s').foldl (fun l b => b.settle key l) l := by
  intro s'
  induction ts generalizing s with
  | nil => exact Option.map_id'.symm
  | cons settings ts ih =>
    have known : s'.targetFor settings.name = some (s.chosen settings.name) := targetFor_foldl_cons
    have rest : s'.logger? i = ((s.configureTarget settings).logger? i).map fun l =>
        (bindingsFor ts s').foldl (fun l b => b.settle key l) l :=
      ih (by rwa [keys_configureTarget]) (by rwa [keys_configureTarget])
    rw [rest, logger?_configureTarget distinct mem, Option.map_map, bindingsFor_cons known]
    rfl

theorem logger?_foldl_configureTarget_of_not_mem (absent : i ∉ s.registry.loggers.map (·.2)) :
    (ts.foldl (fun s t => s.configureTarget t) s).logger? i = s.logger? i := by
  induction ts generalizing s with
  | nil => rfl
  | cons settings ts ih =>
    have same : (s.configureTarget settings).registry.loggers = s.registry.loggers := keys_configureTarget
    rw [List.foldl_cons, ih (same ▸ absent), logger?_configureTarget_of_not_mem absent]

theorem Enrolled.targetsOf_foldl_configureTarget (h : s.Enrolled) (hs : s.Consistent)
    (names : (ts.map (·.name)).Nodup) (mem : (key, i) ∈ s.registry.loggers) :
    let s' := ts.foldl (fun s t => s.configureTarget t) s
    s'.targetsOf i = (s.targetsOf i).filter (Binding.spare (bindingsFor ts s') key) ++
      ((ts.filter (·.covers key)).filterMap (s'.targetFor ·.name)).filter (· ∉ s.targetsOf i) := by
  intro s'
  obtain ⟨l, found⟩ := Option.isSome_iff_exists.1 (logger?_isSome.2 (hs.made _ mem))
  have settled : s'.logger? i = some ((bindingsFor ts s').foldl (fun l b => b.settle key l) l) := by
    rw [logger?_foldl_configureTarget hs.ids mem, found]
    rfl
  have apart : ((bindingsFor ts s').map (·.target)).Nodup :=
    (h.foldl_configureTarget ts).nodup_bindingsFor (fun _ mem => targetFor_isSome_of_mem mem) names
  rw [targetsOf_eq settled, targetsOf_eq found, Binding.members_foldl_settle apart, heard_bindingsFor]

def staleTargets (s : Router) (wanted : List String) : List Target :=
  (s.configuredTargets.filter (·.1 ∉ wanted)).map (·.2)

theorem mem_staleTargets : t ∈ s.staleTargets wanted ↔ ∃ name, (name, t) ∈ s.configuredTargets ∧ name ∉ wanted := by
  simp [staleTargets]

theorem targetsOf_foldl_unbind (ps : List (String × Target)) (distinct : (s.registry.loggers.map (·.2)).Nodup)
    (mem : (key, i) ∈ s.registry.loggers) :
    (ps.foldl (fun s p => s.unbind p.2) s).targetsOf i = (s.targetsOf i).filter (· ∉ ps.map (·.2)) := by
  induction ps generalizing s with
  | nil => exact (List.filter_eq_self.2 fun _ _ => rfl).symm
  | cons p ps ih =>
    rw [List.foldl_cons, ih (by rwa [registry_unbind]) (by rwa [registry_unbind]), targetsOf_unbind distinct mem,
      List.filter_filter]
    refine List.filter_congr fun t _ => ?_
    simp only [List.map_cons, List.mem_cons]
    grind

theorem targetsOf_dropTargets (distinct : (s.registry.loggers.map (·.2)).Nodup)
    (mem : (key, i) ∈ s.registry.loggers) :
    (s.dropTargets wanted).targetsOf i = (s.targetsOf i).filter (· ∉ s.staleTargets wanted) := by
  rw [dropTargets, staleTargets]
  exact targetsOf_foldl_unbind (s := { s with configured := _ }) _ distinct mem

/-- A state when the gate and the targets to drop are as settings ask, but not yet the targets to come. -/
def pruned (s : Router) (c : Settings) : Router := (s.setRegistryLevel c.level).dropTargets (c.targets.map (·.name))

theorem configure_eq : s.configure c = c.targets.foldl (fun s t => s.configureTarget t) (s.pruned c) := rfl

theorem Enrolled.pruned (h : s.Enrolled) (c : Settings) : (s.pruned c).Enrolled := h.setRegistryLevel.dropTargets

theorem Consistent.pruned (hs : s.Consistent) (c : Settings) : (s.pruned c).Consistent := by
  have gated : Reaches (fun _ => True) s (s.setRegistryLevel c.level) :=
    .step (o := .setGate c.level) (.refl s) trivial fun _ calls => nomatch calls
  exact (gated.dropTargets fun _ _ => trivial).consistent hs

theorem keys_pruned : (s.pruned c).registry.loggers = s.registry.loggers := by
  rw [Router.pruned, keys_dropTargets, registry_setRegistryLevel]

theorem configuredTargets_setRegistryLevel : (s.setRegistryLevel level).configuredTargets = s.configuredTargets := by
  rw [configuredTargets, configured_setRegistryLevel, configuredTargets]

theorem bindings_pruned : (s.pruned c).registry.bindings =
    s.registry.bindings.filter (·.target ∉ s.staleTargets (c.targets.map (·.name))) := by
  rw [Router.pruned, bindings_dropTargets, configuredTargets_setRegistryLevel, registry_setRegistryLevel]
  rfl

theorem targetsOf_pruned (hs : s.Consistent) (mem : (key, i) ∈ s.registry.loggers) :
    (s.pruned c).targetsOf i = (s.targetsOf i).filter (· ∉ s.staleTargets (c.targets.map (·.name))) := by
  have same : (s.setRegistryLevel c.level).targetsOf i = s.targetsOf i :=
    targetsOf_congr (by rw [logger?, setRegistryLevel, loggers_setGate, logger?])
  have stale : (s.setRegistryLevel c.level).staleTargets = s.staleTargets := by
    funext wanted
    rw [staleTargets, configuredTargets_setRegistryLevel, staleTargets]
  rw [Router.pruned, targetsOf_dropTargets (by rw [registry_setRegistryLevel]; exact hs.ids)
    (by rwa [registry_setRegistryLevel]), same, stale]

theorem targetFor_pruned :
    (s.pruned c).targetFor name = if name ∈ c.targets.map (·.name) then s.targetFor name else none := by
  rw [Router.pruned, targetFor_dropTargets, targetFor, configuredTargets_setRegistryLevel, targetFor]

end Router
end LogRouting
