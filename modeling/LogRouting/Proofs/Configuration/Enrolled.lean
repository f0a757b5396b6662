import LogRouting.Proofs.Configuration.Effects
import LogRouting.Proofs.Keyed

/-!
The order among configured targets, whatever other targets there are: every name has one target that bears it, and
two names have two targets. Every configuration keeps it, and it is all that a configuration needs to be put into
force.
-/

namespace LogRouting.Router

structure Enrolled (s : Router) : Prop where
  names : (s.configuredTargets.map (·.1)).Nodup
  serials : (s.configuredTargets.map (·.2.serial)).Nodup
  named : ∀ p ∈ s.configuredTargets, p.2.name = p.1
  made : ∀ p ∈ s.configuredTargets, p.2.serial < s.targets.size

/-- The target of this name has the level and the bindings that its settings say. -/
def Serves (s : Router) (settings : TargetSettings) : Prop :=
  ∃ t, s.targetFor settings.name = some t ∧ s.levelOf t = settings.level ∧
    ∀ key, s.routes t key = settings.covers key

variable {s s' : Router} {t u : Target} {name key : String} {level : Level} {settings other : TargetSettings}
  {wanted : List String}

theorem mem_of_targetFor (h : s.targetFor name = some t) : (name, t) ∈ s.configuredTargets := by
  rw [targetFor, List.lookup_eq_some_iff] at h
  obtain ⟨before, after, eq, -⟩ := h
  simp [eq]

theorem targetFor_isSome : (s.targetFor name).isSome ↔ name ∈ s.configuredTargets.map (·.1) := by
  rw [targetFor, List.lookup_isSome_iff]
  simp only [List.mem_map]
  grind

theorem targetFor_dropTargets :
    (s.dropTargets wanted).targetFor name = if name ∈ wanted then s.targetFor name else none := by
  rw [targetFor, configuredTargets_dropTargets, lookup_filter_fst (fun name => name ∈ wanted), targetFor]
  simp

theorem Enrolled.targetFor_of_mem (h : s.Enrolled) (mem : (name, t) ∈ s.configuredTargets) :
    s.targetFor name = some t := by
  have known : (s.targetFor name).isSome := targetFor_isSome.2 (List.mem_map_of_mem mem)
  obtain ⟨u, hu⟩ := Option.isSome_iff_exists.1 known
  have one : (name, u) = (name, t) := List.inj_on_of_nodup_map h.names (mem_of_targetFor hu) mem rfl
  exact hu.trans (congrArg (some ·.2) one)

theorem Enrolled.named_of_targetFor (h : s.Enrolled) (known : s.targetFor name = some t) : t.name = name :=
  h.named _ (mem_of_targetFor known)

theorem Enrolled.made_of_targetFor (h : s.Enrolled) (known : s.targetFor name = some t) :
    t.serial < s.targets.size := h.made _ (mem_of_targetFor known)

theorem Enrolled.of_same (h : s.Enrolled) (configured : s'.configured = s.configured)
    (size : s.targets.size ≤ s'.targets.size) : s'.Enrolled := by
  have same : s'.configuredTargets = s.configuredTargets := by
    rw [configuredTargets, configured, configuredTargets]
  constructor
  · rw [same]; exact h.names
  · rw [same]; exact h.serials
  · rw [same]; exact h.named
  · rw [same]; exact fun p mem => (h.made p mem).trans_le size

theorem Enrolled.setRegistryLevel (h : s.Enrolled) : (s.setRegistryLevel level).Enrolled :=
  h.of_same (by simp) (by simp)

theorem Enrolled.dropTargets (h : s.Enrolled) : (s.dropTargets wanted).Enrolled := by
  have kept : (s.dropTargets wanted).configuredTargets.Sublist s.configuredTargets := by
    rw [configuredTargets_dropTargets]
    exact List.filter_sublist
  constructor
  · exact h.names.sublist (kept.map _)
  · exact h.serials.sublist (kept.map _)
  · exact fun p mem => h.named p (kept.subset mem)
  · rw [targets_dropTargets]; exact fun p mem => h.made p (kept.subset mem)

theorem configuredTargets_subset : s.configuredTargets ⊆ (s.configureTarget settings).configuredTargets := by
  rw [configuredTargets_configureTarget]
  split
  · exact List.Subset.refl _
  · exact List.subset_append_left _ _

theorem mem_configureTarget {p : String × Target} (mem : p ∈ (s.configureTarget settings).configuredTargets) :
    p ∈ s.configuredTargets ∨ p = (settings.name, s.chosen settings.name) := by
  rw [configuredTargets_configureTarget] at mem
  split at mem
  · exact .inl mem
  · simpa using mem

theorem Enrolled.serial_ne (h : s.Enrolled) (known : s.targetFor name = some t) (ne : name ≠ settings.name) :
    t.serial ≠ (s.chosen settings.name).serial := by
  intro same
  cases chosen : s.targetFor settings.name with
  | some u =>
    rw [chosen_of_some chosen] at same
    have one := List.inj_on_of_nodup_map h.serials (mem_of_targetFor known) (mem_of_targetFor chosen) same
    exact ne (congrArg (·.1) one)
  | none =>
    rw [chosen_of_none chosen] at same
    exact (h.made_of_targetFor known).ne same

theorem Enrolled.configureTarget (h : s.Enrolled) : (s.configureTarget settings).Enrolled := by
  have made : ∀ p ∈ (s.configureTarget settings).configuredTargets,
      p.2.serial < (s.configureTarget settings).targets.size := by
    intro p mem
    rcases mem_configureTarget mem with old | rfl
    · exact (h.made p old).trans_le size_configureTarget
    · exact chosen_made fun t known => h.made_of_targetFor known
  have named : ∀ p ∈ (s.configureTarget settings).configuredTargets, p.2.name = p.1 := by
    intro p mem
    rcases mem_configureTarget mem with old | rfl
    · exact h.named p old
    · cases known : s.targetFor settings.name with
      | some t => rw [chosen_of_some known]; exact h.named_of_targetFor known
      | none => rw [chosen_of_none known]
  refine ⟨?_, ?_, named, made⟩
  · rw [configuredTargets_configureTarget]
    split
    · exact h.names
    · next new =>
      rw [targetFor_isSome] at new
      rw [List.map_append, List.nodup_append]
      refine ⟨h.names, List.nodup_singleton _, ?_⟩
      intro held mem given last same
      rw [same, List.mem_singleton.1 last] at mem
      exact new mem
  · rw [configuredTargets_configureTarget]
    split
    · exact h.serials
    · next new =>
      have fresh : s.chosen settings.name = ⟨s.targets.size, settings.name⟩ :=
        chosen_of_none (by simpa using new)
      rw [List.map_append, List.nodup_append]
      refine ⟨h.serials, List.nodup_singleton _, ?_⟩
      simp only [List.mem_map, List.map_cons, List.map_nil, List.mem_singleton, fresh]
      rintro _ ⟨p, mem, rfl⟩ _ rfl
      exact (h.made p mem).ne

theorem Enrolled.serves_configureTarget (h : s.Enrolled) : (s.configureTarget settings).Serves settings := by
  have made (t : Target) (known : s.targetFor settings.name = some t) : t.serial < s.targets.size :=
    h.made_of_targetFor known
  refine ⟨s.chosen settings.name, targetFor_configureTarget.trans (if_pos rfl), ?_, fun key => ?_⟩
  · exact (levelOf_configureTarget made (.inr rfl)).trans (if_pos rfl)
  · rw [configureTarget_eq, routes_bind, if_pos rfl]
    rfl

theorem Enrolled.serves_other (h : s.Enrolled) (serves : s.Serves other) (ne : other.name ≠ settings.name) :
    (s.configureTarget settings).Serves other := by
  obtain ⟨t, known, level, bound⟩ := serves
  have apart := h.serial_ne known ne
  have made (t : Target) (known : s.targetFor settings.name = some t) : t.serial < s.targets.size :=
    h.made_of_targetFor known
  refine ⟨t, targetFor_configureTarget.trans ((if_neg ne).trans known), ?_, fun key => ?_⟩
  · rw [levelOf_configureTarget made (.inl (h.made_of_targetFor known)), if_neg apart, level]
  · have same : (s.prepared settings).routes t key = s.routes t key :=
      routes_congr (congrArg (·.bindings) registry_prepared)
    rw [configureTarget_eq, routes_bind, if_neg fun e => apart (congrArg (·.serial) e), same, bound]

theorem Enrolled.foldl_configureTarget (h : s.Enrolled) (ts : List TargetSettings) :
    (ts.foldl (fun s t => s.configureTarget t) s).Enrolled :=
  List.foldlRecOn (motive := Enrolled) _ _ h fun _ h _ _ => h.configureTarget

theorem Enrolled.serves_foldl (h : s.Enrolled) (ts : List TargetSettings) (distinct : (ts.map (·.name)).Nodup)
    (asked : settings ∈ ts ∨ s.Serves settings ∧ settings.name ∉ ts.map (·.name)) :
    (ts.foldl (fun s t => s.configureTarget t) s).Serves settings := by
  induction ts generalizing s with
  | nil => exact (asked.resolve_left List.not_mem_nil).1
  | cons t ts ih =>
    rw [List.map_cons, List.nodup_cons] at distinct
    refine ih h.configureTarget distinct.2 ?_
    rcases asked with mem | ⟨serves, absent⟩
    · rcases List.mem_cons.1 mem with rfl | later
      -- the names of the targets to come differ from this one's
      · exact .inr ⟨h.serves_configureTarget, distinct.1⟩
      · exact .inl later
    · rw [List.map_cons, List.mem_cons, not_or] at absent
      exact .inr ⟨h.serves_other serves absent.1, absent.2⟩

variable {next : Settings} {ts : List TargetSettings}

theorem targetFor_foldl_of_some (known : s.targetFor name = some t) :
    (ts.foldl (fun s t => s.configureTarget t) s).targetFor name = some t := by
  refine List.foldlRecOn (motive := fun s' : Router => s'.targetFor name = some t) _ _ known ?_
  intro s' same u _
  rw [targetFor_configureTarget]
  split
  · next e => rw [← e, chosen_of_some same]
  · exact same

theorem targetFor_isSome_foldl : ((ts.foldl (fun s t => s.configureTarget t) s).targetFor name).isSome ↔
    (s.targetFor name).isSome ∨ name ∈ ts.map (·.name) := by
  induction ts generalizing s with
  | nil => simp
  | cons t ts ih =>
    rw [List.foldl_cons, ih, targetFor_configureTarget, List.map_cons, List.mem_cons]
    by_cases same : name = t.name
    · simp [same]
    · simp [same]

theorem registryLevel_foldl :
    (ts.foldl (fun s t => s.configureTarget t) s).registryLevel = s.registryLevel := by
  refine List.foldlRecOn (motive := fun s' : Router => s'.registryLevel = s.registryLevel) _ _ rfl ?_
  intro s' same t _
  rw [configureTarget_eq, registryLevel_bind, registryLevel_prepared, same]

theorem registryLevel_configure (index : s.registry.gate < s.gates.size) :
    (s.configure next).registryLevel = next.level := by
  have gated : (s.setRegistryLevel next.level).registryLevel = next.level := by
    rw [registryLevel, registry_setRegistryLevel]
    exact gateLevel_setGate index
  rw [configure, registryLevel_foldl, registryLevel_dropTargets, gated]

theorem Enrolled.configure (h : s.Enrolled) : (s.configure next).Enrolled :=
  h.setRegistryLevel.dropTargets.foldl_configureTarget _

theorem Enrolled.serves_configure (h : s.Enrolled) (distinct : (next.targets.map (·.name)).Nodup)
    (mem : settings ∈ next.targets) : (s.configure next).Serves settings :=
  h.setRegistryLevel.dropTargets.serves_foldl _ distinct (.inl mem)

end LogRouting.Router
