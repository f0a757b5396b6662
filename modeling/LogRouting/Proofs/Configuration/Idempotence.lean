import LogRouting.Proofs.Arising
import LogRouting.Proofs.Configuration.Rebinding
import LogRouting.Proofs.Journal
import LogRouting.Proofs.Settings.Validation

namespace LogRouting

namespace Binding

variable {bs : List Binding} {key : String} {t : Target}

theorem spare_of_mem_heard (distinct : (bs.map (·.target)).Nodup) (mem : t ∈ heard bs key) :
    spare bs key t = true := by
  obtain ⟨b, listed, rfl⟩ := List.mem_map.1 mem
  obtain ⟨listed, covers⟩ := List.mem_filter.1 listed
  refine List.all_eq_true.2 fun other mem => ?_
  by_cases same : other.target = b.target
  · rw [List.inj_on_of_nodup_map distinct mem listed same, covers, Bool.or_true]
  · simp [same]

theorem foldl_settle_eq (bs : List Binding) (key : String) (l : Logger) :
    bs.foldl (fun l b => b.settle key l) l =
      { l with targets := (bs.foldl (fun l b => b.settle key l) l).targets } := by
  induction bs generalizing l with
  | nil => rfl
  | cons b bs ih => exact ih (b.settle key l)

theorem foldl_settle_foldl_settle (distinct : (bs.map (·.target)).Nodup) (l : Logger) :
    bs.foldl (fun l b => b.settle key l) (bs.foldl (fun l b => b.settle key l) l) =
      bs.foldl (fun l b => b.settle key l) l := by
  generalize settled : bs.foldl (fun l b => b.settle key l) l = l'
  have members : l'.targets.members =
      l.targets.members.filter (spare bs key) ++ (heard bs key).filter (· ∉ l.targets.members) := by
    rw [← settled, members_foldl_settle distinct]
  have kept : l'.targets.members.filter (spare bs key) = l'.targets.members := by
    refine List.filter_eq_self.2 fun t held => ?_
    rw [members, List.mem_append] at held
    rcases held with old | new
    · exact (List.mem_filter.1 old).2
    · exact spare_of_mem_heard distinct (List.mem_of_mem_filter new)
  have known : (heard bs key).filter (· ∉ l'.targets.members) = [] := by
    refine List.filter_eq_nil_iff.2 fun t mem => ?_
    suffices held : t ∈ l'.targets.members by simpa using held
    rw [members, List.mem_append, List.mem_filter, List.mem_filter]
    by_cases held : t ∈ l.targets.members
    · exact .inl ⟨held, spare_of_mem_heard distinct mem⟩
    · exact .inr ⟨mem, by simpa using held⟩
  have same : (bs.foldl (fun l b => b.settle key l) l').targets = l'.targets :=
    congrArg TargetSet.mk ((members_foldl_settle distinct l').trans (by rw [kept, known, List.append_nil]))
  rw [foldl_settle_eq, same]

end Binding

namespace Router

variable {s s' s'' r : Router} {t : Target} {settings : TargetSettings} {ts : List TargetSettings} {c : Settings}
  {wanted : List String} {level : Level} {index : Nat}

/-- Nothing but the bindings, what loggers hold and what was observed may differ. -/
def OnlyBound (s s' : Router) : Prop :=
  OnlyLoggers (s.setRegistry fun r => { r with bindings := s'.registry.bindings }) s'

theorem OnlyBound.refl (s : Router) : OnlyBound s s := ⟨rfl, rfl, rfl, rfl, rfl, rfl⟩

theorem OnlyBound.trans (first : OnlyBound s s') (next : OnlyBound s' s'') : OnlyBound s s'' where
  targets := next.targets.trans first.targets
  size := next.size.trans first.size
  gates := next.gates.trans first.gates
  registry := by
    have before : s'.registry = { s.registry with bindings := s'.registry.bindings } := first.registry
    have after : s''.registry = { s'.registry with bindings := s''.registry.bindings } := next.registry
    rw [after, before]
    rfl
  configured := next.configured.trans first.configured
  names := next.names.trans first.names

theorem OnlyBound.bind (t : Target) (categories : List String) (s : Router) : OnlyBound s (s.bind t categories) := by
  rw [OnlyBound, registry_bind]
  exact .bind t categories s

theorem OnlyBound.unbind (t : Target) (s : Router) : OnlyBound s (s.unbind t) := by
  rw [OnlyBound, registry_unbind]
  exact .unbind t s

theorem OnlyLoggers.eq_withJournal (only : OnlyLoggers r s) (only' : OnlyLoggers r s')
    (loggers : ∀ i, s'.logger? i = s.logger? i) : s' = s.withJournal s'.journal := by
  have loggers : s'.loggers = s.loggers := Array.ext_getElem? loggers
  obtain ⟨targets, -, gates, registry, configured, names⟩ := only
  obtain ⟨targets', -, gates', registry', configured', names'⟩ := only'
  cases s'
  simp_all [withJournal]

theorem OnlyBound.eq_withJournal (only : OnlyBound s s') (bindings : s'.registry.bindings = s.registry.bindings)
    (loggers : ∀ i, s'.logger? i = s.logger? i) : s' = s.withJournal s'.journal := by
  rw [OnlyBound, bindings] at only
  exact OnlyLoggers.eq_withJournal (.refl s) only loggers

theorem setGate_eq_self (made : index < s.gates.size) (same : s.gateLevel (.shared index) = level) :
    s.setGate index level = s := by
  have current : level = s.gates[index] := by
    rw [← same, gateLevel, Array.getElem?_eq_getElem made, Option.getD_some]
  have set : s.gates.set! index level = s.gates := by
    rw [current, Array.set!_eq_setIfInBounds, Array.setIfInBounds_def, dif_pos made, Array.set_getElem_self]
  simp only [setGate]
  rw [if_pos same, set]

theorem dropTargets_eq_self (configured : s.configured = some s.configuredTargets)
    (asked : ∀ p ∈ s.configuredTargets, p.1 ∈ wanted) : s.dropTargets wanted = s := by
  have none : s.configuredTargets.filter (·.1 ∉ wanted) = [] :=
    List.filter_eq_nil_iff.2 fun p mem => by simpa using asked p mem
  have all : s.configuredTargets.filter (·.1 ∈ wanted) = s.configuredTargets :=
    List.filter_eq_self.2 fun p mem => by simpa using asked p mem
  rw [dropTargets, none, all, ← configured]
  rfl

theorem modifyTarget_eq_self {f : TargetState → TargetState}
    (same : ∀ state, s.target? t = some state → f state = state) : s.modifyTarget t f = s := by
  have targets : s.targets.modify t.serial f = s.targets := by
    refine Array.ext_getElem? fun i => ?_
    rw [Array.getElem?_modify]
    split
    · next here =>
      subst here
      cases found : s.targets[t.serial]? with
      | none => rfl
      | some state => rw [Option.map_some, same state found]
    · rfl
  rw [modifyTarget, targets]

theorem configureTarget_eq_bind (known : s.targetFor settings.name = some t) (level : s.levelOf t = settings.level) :
    s.configureTarget settings = s.bind t settings.categories := by
  have found : s.configuredTargets.lookup settings.name = some t := known
  have levelled : s.setLevel t settings.level = s := by
    refine modifyTarget_eq_self fun state found => ?_
    rw [levelOf, found, Option.elim_some] at level
    rw [← level]
  rw [configureTarget, configuredTarget, found]
  exact congrArg (Router.bind t settings.categories) levelled

theorem OnlyBound.foldl_configureTarget
    (current : ∀ settings ∈ ts, ∃ t, s.targetFor settings.name = some t ∧ s.levelOf t = settings.level) :
    OnlyBound s (ts.foldl (fun s t => s.configureTarget t) s) := by
  refine List.foldlRecOn (motive := OnlyBound s) _ _ (.refl s) fun s' only settings mem => ?_
  obtain ⟨t, known, level⟩ := current settings mem
  have known' : s'.targetFor settings.name = some t := by
    rwa [targetFor, configuredTargets, only.configured]
  have level' : s'.levelOf t = settings.level := by
    rwa [levelOf, target?, only.targets]
  rw [configureTarget_eq_bind known' level']
  exact only.trans (.bind _ _ _)

/-- All that settings ask for is there already. -/
structure InForce (s : Router) (c : Settings) : Prop where
  gate : s.registry.gate < s.gates.size
  level : s.registryLevel = c.level
  configured : s.configured = some s.configuredTargets
  asked : ∀ p ∈ s.configuredTargets, p.1 ∈ c.targets.map (·.name)
  current : ∀ settings ∈ c.targets, ∃ t, s.targetFor settings.name = some t ∧ s.levelOf t = settings.level
  bound : ∃ others, s.registry.bindings = others ++ bindingsFor c.targets s ∧
    ∀ b ∈ others, b.target ∉ (bindingsFor c.targets s).map (·.target)
  settled : ∀ p ∈ s.registry.loggers, ∀ l, s.logger? p.2 = some l →
    (bindingsFor c.targets s).foldl (fun l b => b.settle p.1 l) l = l

theorem InForce.withJournal (h : s.InForce c) (j : List Observation) : (s.withJournal j).InForce c :=
  ⟨h.gate, h.level, h.configured, h.asked, h.current, h.bound, h.settled⟩

theorem InForce.configure_eq (h : s.InForce c) (enrolled : s.Enrolled) (ids : (s.registry.loggers.map (·.2)).Nodup)
    (names : (c.targets.map (·.name)).Nodup) : s.configure c = s.withJournal (s.configure c).journal := by
  have pruned : s.pruned c = s := by
    rw [Router.pruned, setRegistryLevel, setGate_eq_self h.gate h.level, dropTargets_eq_self h.configured h.asked]
  rw [Router.configure_eq, pruned]
  let s' := c.targets.foldl (fun s t => s.configureTarget t) s
  have only : OnlyBound s s' := .foldl_configureTarget h.current
  have same : bindingsFor c.targets s' = bindingsFor c.targets s := by
    refine bindingsFor_congr fun t _ => ?_
    rw [targetFor, configuredTargets, only.configured]
    rfl
  refine only.eq_withJournal ?_ fun i => ?_
  · obtain ⟨others, bound, apart⟩ := h.bound
    have rebound : s'.registry.bindings = s.registry.bindings.filter
        (·.target ∉ (bindingsFor c.targets s').map (·.target)) ++ bindingsFor c.targets s' :=
      enrolled.bindings_foldl_configureTarget names
    have stay : others.filter (·.target ∉ (bindingsFor c.targets s).map (·.target)) = others :=
      List.filter_eq_self.2 fun b mem => decide_eq_true (apart b mem)
    have come : (bindingsFor c.targets s).filter (·.target ∉ (bindingsFor c.targets s).map (·.target)) = [] :=
      List.filter_eq_nil_iff.2 fun b mem => by simpa using ⟨b, mem, rfl⟩
    rw [rebound, same, bound, List.filter_append, stay, come, List.append_nil]
  · by_cases known : i ∈ s.registry.loggers.map (·.2)
    · obtain ⟨⟨key, i⟩, mem, rfl⟩ := List.mem_map.1 known
      refine (logger?_foldl_configureTarget ids mem).trans ?_
      cases found : s.logger? i with
      | none => rfl
      | some l =>
        rw [Option.map_some]
        exact congrArg some (same ▸ h.settled _ mem l found)
    · exact logger?_foldl_configureTarget_of_not_mem known

theorem configured_configureTarget (configured : s.configured = some s.configuredTargets) :
    (s.configureTarget settings).configured = some (s.configureTarget settings).configuredTargets := by
  have kept : (s.configureTarget settings).configured ≠ none := by
    rw [configureTarget_eq, configured_bind, prepared, setLevel, modifyTarget, configuredTarget]
    cases s.configuredTargets.lookup settings.name <;> simp [configured]
  obtain ⟨ps, same⟩ := Option.ne_none_iff_exists'.1 kept
  rw [configuredTargets, same, Option.getD_some]

theorem inForce_configure (consistent : s.Consistent) (gated : s.Gated) (enrolled : s.Enrolled)
    (names : (c.targets.map (·.name)).Nodup) : (s.configure c).InForce c := by
  have apart : ((bindingsFor c.targets (s.configure c)).map (·.target)).Nodup :=
    enrolled.configure.nodup_bindingsFor (fun _ mem => targetFor_isSome_of_mem mem) names
  refine ⟨(gated.configure consistent c).index, registryLevel_configure gated.index, ?_, fun p mem => ?_,
    fun settings mem => ?_, ?_, fun p mem l found => ?_⟩
  · have kept : (s.pruned c).configured = some (s.pruned c).configuredTargets := by
      rw [pruned, configured_dropTargets, configuredTargets_dropTargets]
    exact List.foldlRecOn (motive := fun s : Router => s.configured = some s.configuredTargets) _ _ kept
      fun _ configured _ _ => configured_configureTarget configured
  · rcases targetFor_isSome_foldl.1 (targetFor_isSome.2 (List.mem_map_of_mem mem)) with old | asked
    · rw [← pruned, targetFor_pruned] at old
      split at old
      · assumption
      · cases old
    · exact asked
  · obtain ⟨t, known, level, -⟩ := enrolled.serves_configure names mem
    exact ⟨t, known, level⟩
  · exact ⟨_, (enrolled.pruned c).bindings_foldl_configureTarget names,
      fun b mem => of_decide_eq_true (List.mem_filter.1 mem).2⟩
  · rw [configure_eq, keys_foldl_configureTarget] at mem
    rw [configure_eq, logger?_foldl_configureTarget (consistent.pruned c).ids mem] at found
    obtain ⟨l, -, rfl⟩ := Option.map_eq_some_iff.1 found
    exact Binding.foldl_settle_foldl_settle apart l

/-- Settings that are applied any number of times leave what they leave when they are applied once: the gate, the
targets of the names with their levels, the bindings and what every logger holds, in their order. Only the journal
tells of it. -/
theorem configure_repeated (s : Router) (arises : s.Arises) (c : Settings) (valid : c.defects = []) (n : Nat) :
    ∃ told, (Router.configure c)^[n + 1] s = (s.configure c).withJournal told := by
  obtain ⟨consistent, gated, enrolled⟩ := arises.in_order
  have names := Settings.nodup_names valid
  have inForce : (s.configure c).InForce c := inForce_configure consistent gated enrolled names
  induction n with
  | zero => exact ⟨_, rfl⟩
  | succ n ih =>
    obtain ⟨told, same⟩ := ih
    have enrolled' : ((s.configure c).withJournal told).Enrolled := enrolled.configure.of_same rfl (Nat.le_refl _)
    rw [Function.iterate_succ_apply', same]
    exact ⟨_, (inForce.withJournal told).configure_eq enrolled' (consistent.configure c).ids names⟩

/-- A target that a program binds itself is among those that a logger holds, and the settings are applied three times.
Settings that have a name twice are not accepted, and to apply them again changes the order in the logger. -/
theorem configure_repeated_foreign :
    let before : Settings := { targets := [{ name := "a" }, { name := "b", categories := ["net"] }] }
    let s := [.forwarder "own" "b" .error, .start before, .bind "own" ["net"], .lookup "net" "log"].foldl
      (fun s a => (s.run a).2) empty
    let c : Settings := { targets := [{ name := "d", level := .warn }, { name := "b" }] }
    let doubled : Settings :=
      { targets := [{ name := "a", categories := ["db"] }, { name := "a", categories := ["net"] }, { name := "d" }] }
    s.Arises ∧ c.defects = [] ∧ ((s.configure c).configure c).targetsOf 0 = [⟨2, "b"⟩, ⟨0, "b"⟩, ⟨3, "d"⟩] ∧
    (∃ told, (Router.configure c)^[3] s = (s.configure c).withJournal told) ∧
    (s.configure doubled).targetsOf 0 = [⟨0, "b"⟩, ⟨1, "a"⟩, ⟨3, "d"⟩] ∧
    ((s.configure doubled).configure doubled).targetsOf 0 = [⟨0, "b"⟩, ⟨3, "d"⟩, ⟨1, "a"⟩] := by
  intro before s c doubled
  obtain ⟨past, run⟩ := foldl_run_recorded
    [.forwarder "own" "b" .error, .start before, .bind "own" ["net"], .lookup "net" "log"] empty
  have arises : s.Arises := run.arises .empty
  have valid : c.defects = [] := by decide +kernel
  refine ⟨arises, valid, by decide +kernel, configure_repeated s arises c valid 2, ?_, ?_⟩
  · decide +kernel
  · decide +kernel

end Router
end LogRouting
