import LogRouting.Proofs.Configuration.Enrolled

namespace LogRouting.Router

/-- The order among configured targets that every configuration keeps. -/
structure Managed (s : Router) : Prop where
  settled : s.Settled
  forwarding : ∀ (i : Nat) (state : TargetState), s.targets[i]? = some state → state.sink = .forwarding
  names : (s.configuredTargets.map (·.1)).Nodup
  serials : (s.configuredTargets.map (·.2.serial)).Nodup
  named : ∀ p ∈ s.configuredTargets, p.2.name = p.1
  made : ∀ p ∈ s.configuredTargets, p.2.serial < s.targets.size
  bound : ∀ b ∈ s.registry.bindings, b.target ∈ s.configuredTargets.map (·.2)

variable {s s' : Router} {t : Target} {name key : String} {level : Level} {settings : TargetSettings}
  {wanted : List String}

theorem Managed.enrolled (h : s.Managed) : s.Enrolled := ⟨h.names, h.serials, h.named, h.made⟩

theorem Managed.of_same (h : s.Managed) (settled : s'.Settled) (targets : s'.targets = s.targets)
    (configured : s'.configured = s.configured) (bindings : s'.registry.bindings = s.registry.bindings) :
    s'.Managed := by
  obtain ⟨names, serials, named, made⟩ := h.enrolled.of_same configured (by rw [targets])
  refine ⟨settled, ?_, names, serials, named, made, ?_⟩
  · rw [targets]; exact h.forwarding
  · rw [bindings, configuredTargets, configured]; exact h.bound

theorem Managed.setRegistryLevel (h : s.Managed) : (s.setRegistryLevel level).Managed := by
  refine h.of_same (h.settled.apply (.setGate level) rfl rfl) (by simp) (by simp) ?_
  rw [registry_setRegistryLevel]

theorem Managed.dropTargets (h : s.Managed) : (s.dropTargets wanted).Managed := by
  obtain ⟨names, serials, named, made⟩ : (s.dropTargets wanted).Enrolled := h.enrolled.dropTargets
  refine ⟨?_, ?_, names, serials, named, made, ?_⟩
  · exact (Reaches.dropTargets (fun _ indirect => indirect) (.refl s)).settled_of_indirect h.settled
  · rw [targets_dropTargets]; exact h.forwarding
  -- what is still bound belongs to a configured target that is not stale
  · intro b mem
    rw [bindings_dropTargets, List.mem_filter] at mem
    obtain ⟨p, listed, eq⟩ := List.mem_map.1 (h.bound b mem.1)
    have fresh := mem.2
    simp only [List.mem_map, List.mem_filter, decide_eq_true_eq, not_exists, not_and] at fresh
    rw [configuredTargets_dropTargets, List.mem_map]
    refine ⟨p, List.mem_filter.2 ⟨listed, ?_⟩, eq⟩
    by_contra stale
    exact fresh p ⟨listed, by simpa using stale⟩ eq

theorem forwarding_configureTarget
    (forwarding : ∀ (i : Nat) (state : TargetState), s.targets[i]? = some state → state.sink = .forwarding) (i : Nat)
    (state : TargetState) (found : (s.configureTarget settings).targets[i]? = some state) :
    state.sink = .forwarding := by
  have before (j : Nat) (old : TargetState) (was : (if (s.targetFor settings.name).isSome then s.targets
      else s.targets.push ⟨settings.level, .forwarding⟩)[j]? = some old) : old.sink = .forwarding := by
    split at was
    · exact forwarding j old was
    · rw [Array.getElem?_push] at was
      split at was
      · cases was
        rfl
      · exact forwarding j old was
  rw [configureTarget_eq, targets_bind, targets_prepared, Array.getElem?_modify] at found
  split at found
  · obtain ⟨old, was, rfl⟩ := Option.map_eq_some_iff.1 found
    exact before i old was
  · exact before i state found

theorem Managed.configureTarget (h : s.Managed) : (s.configureTarget settings).Managed := by
  obtain ⟨names, serials, named, made⟩ : (s.configureTarget settings).Enrolled := h.enrolled.configureTarget
  have listed : (settings.name, s.chosen settings.name) ∈ (s.configureTarget settings).configuredTargets :=
    mem_of_targetFor (targetFor_configureTarget.trans (if_pos rfl))
  refine ⟨?_, ?_, names, serials, named, made, ?_⟩
  · exact (Reaches.configureTarget (fun _ indirect => indirect) (.refl s)).settled_of_indirect h.settled
  · exact forwarding_configureTarget h.forwarding
  · intro b mem
    rw [configureTarget_eq, registry_bind, registry_prepared] at mem
    rcases List.mem_append.1 mem with old | new
    · have bound := h.bound b (List.mem_of_mem_filter old)
      exact List.map_subset _ configuredTargets_subset bound
    · rw [List.mem_singleton.1 new]
      exact List.mem_map_of_mem listed

theorem Managed.foldl_configureTarget (h : s.Managed) (ts : List TargetSettings) :
    (ts.foldl (fun s t => s.configureTarget t) s).Managed :=
  List.foldlRecOn (motive := Managed) _ _ h fun _ h _ _ => h.configureTarget

/-- The settings alone say what the gate, the targets and their bindings are. -/
structure Follows (s : Router) (c : Settings) : Prop where
  managed : s.Managed
  level : s.registryLevel = c.level
  names : ∀ name, (s.targetFor name).isSome ↔ name ∈ c.targets.map (·.name)
  serves : ∀ t ∈ c.targets, s.Serves t

variable {c next : Settings} {ts : List TargetSettings}

theorem Managed.follows_configure (h : s.Managed) (distinct : (next.targets.map (·.name)).Nodup) :
    (s.configure next).Follows next := by
  have begun : ((s.setRegistryLevel next.level).dropTargets (next.targets.map (·.name))).Managed :=
    h.setRegistryLevel.dropTargets
  refine ⟨begun.foldl_configureTarget _, registryLevel_configure h.settled.gated.index, fun name => ?_,
    fun t mem => h.enrolled.serves_configure distinct mem⟩
  rw [configure, targetFor_isSome_foldl, targetFor_dropTargets]
  split
  · next asked => exact iff_of_true (.inr asked) asked
  · simp

theorem targetFor_foldl_of_none (unknown : s.targetFor name = none)
    (given : (ts.foldl (fun s t => s.configureTarget t) s).targetFor name = some t) :
    s.targets.size ≤ t.serial := by
  have later : s.targets.size ≤ (ts.foldl (fun s t => s.configureTarget t) s).targets.size ∧
      ∀ u, (ts.foldl (fun s t => s.configureTarget t) s).targetFor name = some u →
        s.targets.size ≤ u.serial := by
    refine List.foldlRecOn (motive := fun s' : Router => s.targets.size ≤ s'.targets.size ∧
      ∀ u, s'.targetFor name = some u → s.targets.size ≤ u.serial) _ _ ⟨Nat.le_refl _, ?_⟩ ?_
    · simp [unknown]
    · rintro s' ⟨size, new⟩ settings -
      refine ⟨size.trans size_configureTarget, fun u given => ?_⟩
      rw [targetFor_configureTarget] at given
      split at given
      · next e =>
        cases known : s'.targetFor settings.name with
        | some v =>
          rw [chosen_of_some known] at given
          exact new u (e ▸ known.trans given)
        | none =>
          rw [chosen_of_none known] at given
          exact Option.some.inj given ▸ size
      · exact new u given
  exact later.2 t given

theorem targetFor_setRegistryLevel : (s.setRegistryLevel level).targetFor name = s.targetFor name := by
  simp [targetFor, configuredTargets]

theorem targetFor_configure_of_some (known : s.targetFor name = some t)
    (wanted : name ∈ next.targets.map (·.name)) : (s.configure next).targetFor name = some t := by
  refine targetFor_foldl_of_some ?_
  rw [targetFor_dropTargets, if_pos wanted, targetFor_setRegistryLevel, known]

theorem targetFor_configure_of_none (unknown : s.targetFor name = none)
    (given : (s.configure next).targetFor name = some t) : s.targets.size ≤ t.serial := by
  have begun : ((s.setRegistryLevel next.level).dropTargets (next.targets.map (·.name))).targetFor name =
      none := by
    rw [targetFor_dropTargets, targetFor_setRegistryLevel, unknown, ite_self]
  have size := targetFor_foldl_of_none begun given
  rwa [targets_dropTargets, targets_setRegistryLevel] at size

theorem Follows.of_same (h : s.Follows c) (settled : s'.Settled) (targets : s'.targets = s.targets)
    (configured : s'.configured = s.configured) (setup : SameSetup s s') : s'.Follows c := by
  have same (name : String) : s'.targetFor name = s.targetFor name := by
    rw [targetFor, configuredTargets, configured, targetFor, configuredTargets]
  refine ⟨h.managed.of_same settled targets configured setup.bindings, setup.level.trans h.level,
    fun name => ?_, fun t mem => ?_⟩
  · rw [same]
    exact h.names name
  · obtain ⟨u, known, level, bound⟩ := h.serves t mem
    refine ⟨u, (same t.name).trans known, ?_, fun key => (routes_congr setup.bindings).trans (bound key)⟩
    rw [levelOf, target?, targets]
    exact level

theorem Follows.lookup (h : s.Follows c) (key : String) : (s.lookup key).2.Follows c :=
  h.of_same (h.managed.settled.apply (.lookup key) rfl rfl) targets_lookup configured_lookup (.lookup key s)

theorem Follows.removeLogger (h : s.Follows c) (key : String) : (s.removeLogger key).Follows c :=
  h.of_same (h.managed.settled.apply (.removeLogger key) rfl rfl) rfl rfl ⟨rfl, rfl⟩

theorem Follows.observe (h : s.Follows c) (o : Observation) : (s.observe o).Follows c :=
  h.of_same (h.managed.settled.silent (.observe o s)) rfl rfl ⟨rfl, rfl⟩

theorem follows_start (blank : SameRouting empty s) (targets : s.targets = #[])
    (distinct : (c.targets.map (·.name)).Nodup) : (s.start c).Follows c := by
  let made := s.newRegistry c.level ⟨c.printer.maxLen, false⟩ .tracing
  have same : SameRouting (fresh #[] c.level ⟨c.printer.maxLen, false⟩ .tracing)
      { made with configured := some [] } := by
    constructor <;> simp [made, fresh, newRegistry, newGate, blank.gates, blank.loggers]
  have settled : (fresh #[] c.level ⟨c.printer.maxLen, false⟩ .tracing).Settled :=
    ⟨.fresh .., fun _ => .fresh, .fresh ..⟩
  have managed : Managed { made with configured := some [] } := by
    refine ⟨settled.silent same, fun i state found => ?_, List.nodup_nil, List.nodup_nil, ?_, ?_, ?_⟩
    · have none : made.targets = #[] := targets
      simp [none] at found
    all_goals exact fun _ mem => absurd mem List.not_mem_nil
  exact (managed.follows_configure distinct).observe _

theorem Follows.levels (h : s.Follows c) (name : String) :
    (s.targetFor name).map s.levelOf = (c.targets.find? (·.name = name)).map (·.level) := by
  cases found : c.targets.find? (·.name = name) with
  | some t =>
    have named : t.name = name := by simpa using List.find?_some found
    obtain ⟨u, known, level, -⟩ := h.serves t (List.mem_of_find?_eq_some found)
    rw [← named, known, Option.map_some, Option.map_some, level]
  | none =>
    have absent : ¬ (s.targetFor name).isSome := by
      rw [h.names, List.mem_map]
      simpa using found
    rw [Option.not_isSome_iff_eq_none.1 absent]
    rfl

theorem Follows.configuredNames_eq (h : s.Follows c) (h' : s'.Follows c) :
    s'.configuredNames = s.configuredNames := by
  have same : (s'.configuredTargets.map (·.1)).Perm (s.configuredTargets.map (·.1)) := by
    rw [List.perm_ext_iff_of_nodup h'.managed.names h.managed.names]
    intro name
    rw [← targetFor_isSome, ← targetFor_isSome, h.names, h'.names]
  have sorted (names : List String) : (names.mergeSort (· ≤ ·)).Pairwise (· ≤ ·) := by
    have pairwise : (names.mergeSort (· ≤ ·)).Pairwise fun a b => decide (a ≤ b) = true :=
      List.pairwise_mergeSort (by simpa using fun a b c => String.le_trans) (by simpa using String.le_total) names
    simpa using pairwise
  exact ((List.mergeSort_perm _ _).trans (same.trans (List.mergeSort_perm _ _).symm)).eq_of_pairwise
    (fun _ _ _ _ => String.le_antisymm) (sorted _) (sorted _)

end LogRouting.Router
