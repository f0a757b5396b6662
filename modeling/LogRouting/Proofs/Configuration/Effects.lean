import LogRouting.Proofs.Registry.Routing
import LogRouting.Router.Configuration

namespace LogRouting

def TargetSettings.covers (t : TargetSettings) (category : String) : Bool :=
  t.categories.isEmpty || category ∈ t.categories

namespace Router

def targetFor (s : Router) (name : String) : Option Target := s.configuredTargets.lookup name

def chosen (s : Router) (name : String) : Target := (s.targetFor name).getD ⟨s.targets.size, name⟩

def cleared (c : Settings) (s : Router) : Router :=
  { s.newRegistry c.level ⟨c.printer.maxLen, false⟩ .tracing with configured := some [] }

variable {s s' : Router} {t u : Target} {name key : String} {level : Level} {settings : TargetSettings}
  {wanted : List String} {allowed : Operation → Prop}

theorem Reaches.configuredTarget (run : Reaches allowed s s') :
    Reaches allowed s (s'.configuredTarget name level).2 := by
  rw [Router.configuredTarget]
  split
  · exact run
  · exact .silent run ⟨rfl, rfl, rfl⟩

theorem Reaches.configureTarget (indirect : ∀ o : Operation, o.direct? = none → allowed o)
    (run : Reaches allowed s s') : Reaches allowed s (s'.configureTarget settings) := by
  have levelled : Reaches allowed s ((s'.configuredTarget settings.name settings.level).2.setLevel
      (s'.configuredTarget settings.name settings.level).1 settings.level) :=
    .silent run.configuredTarget ⟨rfl, rfl, rfl⟩
  exact .step levelled (indirect (.bind _ _) rfl) fun _ calls => nomatch calls

theorem Reaches.dropTargets (indirect : ∀ o : Operation, o.direct? = none → allowed o)
    (run : Reaches allowed s s') : Reaches allowed s (s'.dropTargets wanted) := by
  refine List.foldlRecOn (motive := Reaches allowed s) _ _ (.silent run ⟨rfl, rfl, rfl⟩) ?_
  exact fun _ run p _ => .step run (indirect (.unbind p.2) rfl) fun _ calls => nomatch calls

theorem Reaches.configure (indirect : ∀ o : Operation, o.direct? = none → allowed o) (next : Settings)
    (run : Reaches allowed s s') : Reaches allowed s (s'.configure next) := by
  have gated : Reaches allowed s (s'.setRegistryLevel next.level) :=
    .step run (indirect (.setGate _) rfl) fun _ calls => nomatch calls
  refine List.foldlRecOn (motive := Reaches allowed s) _ _ (gated.dropTargets indirect) ?_
  exact fun _ run _ _ => run.configureTarget indirect

theorem Reaches.settled_of_indirect (run : Reaches (fun o => o.direct? = none) s s') (hs : s.Settled) :
    s'.Settled :=
  run.preserves (fun _ _ same hs => hs.silent same) (fun o _ indirect silent hs => hs.apply o silent indirect) hs

@[simp] theorem targets_setRegistryLevel : (s.setRegistryLevel level).targets = s.targets := targets_setGate

@[simp] theorem configured_setRegistryLevel : (s.setRegistryLevel level).configured = s.configured :=
  configured_setGate

@[simp] theorem registry_setRegistryLevel : (s.setRegistryLevel level).registry = s.registry := registry_setGate

@[simp] theorem targets_bind {categories : List String} : (s.bind t categories).targets = s.targets :=
  (OnlyLoggers.bind t categories s).targets

@[simp] theorem configured_bind {categories : List String} :
    (s.bind t categories).configured = s.configured := (OnlyLoggers.bind t categories s).configured

@[simp] theorem targets_unbind : (s.unbind t).targets = s.targets := (OnlyLoggers.unbind t s).targets

@[simp] theorem configured_unbind : (s.unbind t).configured = s.configured := (OnlyLoggers.unbind t s).configured

theorem configured_lookup : (s.lookup key).2.configured = s.configured := by
  cases known : s.registered? key with
  | some id => rw [lookup_of_some known]
  | none =>
    rw [lookup_of_none known]
    exact (OnlyLoggers.furnish key s).configured

theorem registryLevel_bind {categories : List String} :
    (s.bind t categories).registryLevel = s.registryLevel := by
  simp only [registryLevel, gateLevel]
  rw [registry_bind, (OnlyLoggers.bind t categories s).gates]
  rfl

theorem registryLevel_unbind : (s.unbind t).registryLevel = s.registryLevel := by
  simp only [registryLevel, gateLevel]
  rw [registry_unbind, (OnlyLoggers.unbind t s).gates]
  rfl

theorem configured_dropTargets :
    (s.dropTargets wanted).configured = some (s.configuredTargets.filter (·.1 ∈ wanted)) :=
  List.foldlRecOn (motive := fun s' : Router => s'.configured = some _) _ _ rfl
    fun _ same _ _ => configured_unbind.trans same

theorem configuredTargets_dropTargets :
    (s.dropTargets wanted).configuredTargets = s.configuredTargets.filter (·.1 ∈ wanted) := by
  rw [configuredTargets, configured_dropTargets, Option.getD_some]

theorem targets_dropTargets : (s.dropTargets wanted).targets = s.targets :=
  List.foldlRecOn (motive := fun s' : Router => s'.targets = s.targets) _ _ rfl
    fun _ same _ _ => targets_unbind.trans same

theorem registryLevel_dropTargets : (s.dropTargets wanted).registryLevel = s.registryLevel :=
  List.foldlRecOn (motive := fun s' : Router => s'.registryLevel = s.registryLevel) _ _ rfl
    fun _ same _ _ => registryLevel_unbind.trans same

theorem bindings_foldl_unbind (ps : List (String × Target)) (s : Router) :
    (ps.foldl (fun s p => s.unbind p.2) s).registry.bindings =
      s.registry.bindings.filter fun b => b.target ∉ ps.map (·.2) := by
  induction ps generalizing s with
  | nil => simp
  | cons p ps ih =>
    rw [List.foldl_cons, ih, registry_unbind, List.filter_filter]
    refine List.filter_congr fun b _ => ?_
    simp only [Binding.isFor, List.map_cons, List.mem_cons]
    grind

theorem bindings_dropTargets : (s.dropTargets wanted).registry.bindings =
    s.registry.bindings.filter fun b => b.target ∉ (s.configuredTargets.filter (·.1 ∉ wanted)).map (·.2) :=
  bindings_foldl_unbind _ _

/-- A wanted target when it has its level, before it is bound. -/
def prepared (s : Router) (settings : TargetSettings) : Router :=
  (s.configuredTarget settings.name settings.level).2.setLevel (s.chosen settings.name) settings.level

theorem configuredTarget_fst : (s.configuredTarget name level).1 = s.chosen name := by
  rw [configuredTarget, chosen, targetFor]
  cases s.configuredTargets.lookup name <;> rfl

theorem configureTarget_eq :
    s.configureTarget settings = (s.prepared settings).bind (s.chosen settings.name) settings.categories := by
  have fst : (s.configuredTarget settings.name settings.level).1 = s.chosen settings.name := configuredTarget_fst
  rw [configureTarget, prepared, ← fst]

theorem configuredTargets_prepared : (s.prepared settings).configuredTargets =
    if (s.targetFor settings.name).isSome then s.configuredTargets
    else s.configuredTargets ++ [(settings.name, s.chosen settings.name)] := by
  rw [prepared, setLevel, modifyTarget, configuredTarget, chosen, targetFor]
  cases s.configuredTargets.lookup settings.name <;> rfl

theorem registry_prepared : (s.prepared settings).registry = s.registry := by
  rw [prepared, setLevel, modifyTarget, configuredTarget]
  cases s.configuredTargets.lookup settings.name <;> rfl

theorem registryLevel_prepared : (s.prepared settings).registryLevel = s.registryLevel := by
  rw [prepared, setLevel, modifyTarget, configuredTarget]
  cases s.configuredTargets.lookup settings.name <;> rfl

theorem SameRouting.prepared (settings : TargetSettings) (s : Router) : SameRouting s (s.prepared settings) := by
  rw [Router.prepared, setLevel, modifyTarget, configuredTarget]
  cases s.configuredTargets.lookup settings.name <;> exact ⟨rfl, rfl, rfl⟩

theorem targets_prepared : (s.prepared settings).targets =
    ((if (s.targetFor settings.name).isSome then s.targets
      else s.targets.push ⟨settings.level, .forwarding⟩).modify (s.chosen settings.name).serial
        fun state => { state with level := settings.level }) := by
  rw [prepared, setLevel, modifyTarget, configuredTarget, targetFor]
  cases s.configuredTargets.lookup settings.name <;> rfl

theorem configuredTargets_configureTarget : (s.configureTarget settings).configuredTargets =
    if (s.targetFor settings.name).isSome then s.configuredTargets
    else s.configuredTargets ++ [(settings.name, s.chosen settings.name)] := by
  rw [configureTarget_eq, ← configuredTargets_prepared, configuredTargets, configured_bind, configuredTargets]

theorem chosen_of_some (known : s.targetFor name = some t) : s.chosen name = t := by
  rw [chosen, known, Option.getD_some]

theorem chosen_of_none (unknown : s.targetFor name = none) : s.chosen name = ⟨s.targets.size, name⟩ := by
  rw [chosen, unknown, Option.getD_none]

theorem targetFor_configureTarget : (s.configureTarget settings).targetFor name =
    if name = settings.name then some (s.chosen settings.name) else s.targetFor name := by
  rw [targetFor, configuredTargets_configureTarget]
  cases known : s.targetFor settings.name with
  | some t =>
    rw [Option.isSome_some, if_pos rfl, chosen_of_some known, ← targetFor]
    split
    · next same => rw [same, known]
    · rfl
  | none =>
    rw [Option.isSome_none, if_neg Bool.false_ne_true, List.lookup_append, ← targetFor]
    split
    · next same => rw [same, known, Option.none_or, List.lookup_cons_self]
    · next other =>
      have last : [(settings.name, s.chosen settings.name)].lookup name = none := by
        simp [List.lookup_eq_none_iff, other]
      rw [last, Option.or_none]

theorem size_configureTarget : s.targets.size ≤ (s.configureTarget settings).targets.size := by
  rw [configureTarget_eq, targets_bind, targets_prepared, Array.size_modify]
  split
  · exact Nat.le_refl _
  · simp

theorem chosen_made (made : ∀ t, s.targetFor settings.name = some t → t.serial < s.targets.size) :
    (s.chosen settings.name).serial < (s.configureTarget settings).targets.size := by
  rw [configureTarget_eq, targets_bind, targets_prepared, Array.size_modify, chosen]
  cases known : s.targetFor settings.name with
  | some t => exact made t known
  | none => simp

theorem target?_configureTarget (old : u.serial < s.targets.size)
    (other : u.serial ≠ (s.chosen settings.name).serial) :
    (s.configureTarget settings).target? u = s.target? u := by
  rw [configureTarget_eq, target?, targets_bind, targets_prepared, Array.getElem?_modify, if_neg (Ne.symm other),
    target?]
  split
  · rfl
  · rw [Array.getElem?_push_lt old]
    simp [old]

theorem levelOf_configureTarget (made : ∀ t, s.targetFor settings.name = some t → t.serial < s.targets.size)
    (known : u.serial < s.targets.size ∨ u.serial = (s.chosen settings.name).serial) :
    (s.configureTarget settings).levelOf u =
      if u.serial = (s.chosen settings.name).serial then settings.level else s.levelOf u := by
  have size := chosen_made made
  rw [configureTarget_eq, targets_bind] at size
  split
  · next same =>
    rw [configureTarget_eq, levelOf, target?, targets_bind, same, Array.getElem?_eq_getElem size]
    simp only [targets_prepared, Array.getElem_modify_self, Option.elim_some]
  · next other => rw [levelOf, target?_configureTarget (known.resolve_right other) other, levelOf]

theorem keys_dropTargets : (s.dropTargets wanted).registry.loggers = s.registry.loggers := by
  refine List.foldlRecOn (motive := fun s' : Router => s'.registry.loggers = s.registry.loggers) _ _ rfl ?_
  intro s' same p _
  rw [registry_unbind]
  exact same

theorem keys_configureTarget : (s.configureTarget settings).registry.loggers = s.registry.loggers := by
  rw [configureTarget_eq, registry_bind, registry_prepared]

theorem keys_foldl_configureTarget (ts : List TargetSettings) :
    (ts.foldl (fun s t => s.configureTarget t) s).registry.loggers = s.registry.loggers :=
  List.foldlRecOn (motive := fun s' : Router => s'.registry.loggers = s.registry.loggers) _ _ rfl
    fun _ same _ _ => keys_configureTarget.trans same

theorem keys_configure {next : Settings} : (s.configure next).registry.loggers = s.registry.loggers := by
  rw [configure, keys_foldl_configureTarget, keys_dropTargets, registry_setRegistryLevel]

theorem registered?_configure {next : Settings} : (s.configure next).registered? key = s.registered? key := by
  rw [registered?, keys_configure, registered?]

def rebindings : List TargetSettings → Router → List Operation
  | [], _ => []
  | settings :: ts, s =>
    rebindings ts (s.configureTarget settings) ++ [.bind (s.chosen settings.name) settings.categories]

/-- What settings that are put into force ask of the registry, the latest first. -/
def reconfiguration (c : Settings) (s : Router) : List Operation :=
  let wanted := c.targets.map (·.name)
  rebindings c.targets ((s.setRegistryLevel c.level).dropTargets wanted) ++
    ((s.configuredTargets.filter (·.1 ∉ wanted)).map fun p => .unbind p.2).reverse ++ [.setGate c.level]

variable {s₀ : Router} {ops : List Operation}

theorem Ran.foldl_unbind (run : Ran ops s₀ s) (ps : List (String × Target)) :
    Ran ((ps.map fun p => .unbind p.2).reverse ++ ops) s₀ (ps.foldl (fun s p => s.unbind p.2) s) := by
  induction ps generalizing s ops with
  | nil => exact run
  | cons p ps ih =>
    rw [List.map_cons, List.reverse_cons, List.append_assoc]
    exact ih (.step run ⟨rfl, fun _ calls => nomatch calls⟩)

theorem Ran.dropTargets (run : Ran ops s₀ s) (wanted : List String) :
    Ran (((s.configuredTargets.filter (·.1 ∉ wanted)).map fun p => .unbind p.2).reverse ++ ops) s₀
      (s.dropTargets wanted) := by
  let kept : Router := { s with configured := some (s.configuredTargets.filter (·.1 ∈ wanted)) }
  have silent : Ran ops s₀ kept := .silent run ⟨rfl, rfl, rfl⟩
  exact silent.foldl_unbind _

theorem Ran.foldl_configureTarget (run : Ran ops s₀ s) (ts : List TargetSettings) :
    Ran (rebindings ts s ++ ops) s₀ (ts.foldl (fun s t => s.configureTarget t) s) := by
  induction ts generalizing s ops with
  | nil => exact run
  | cons settings ts ih =>
    rw [rebindings, List.append_assoc]
    refine ih ?_
    rw [configureTarget_eq]
    exact .step (.silent run (.prepared settings s)) ⟨rfl, fun _ calls => nomatch calls⟩

theorem Ran.configure (run : Ran ops s₀ s) (c : Settings) :
    Ran (s.reconfiguration c ++ ops) s₀ (s.configure c) := by
  have gated : Ran (.setGate c.level :: ops) s₀ (s.setRegistryLevel c.level) :=
    .step run ⟨rfl, fun _ calls => nomatch calls⟩
  have same : (s.setRegistryLevel c.level).configuredTargets = s.configuredTargets := by
    rw [configuredTargets, configured_setRegistryLevel, configuredTargets]
  have whole := (gated.dropTargets (c.targets.map (·.name))).foldl_configureTarget c.targets
  rw [same] at whole
  rw [reconfiguration, List.append_assoc, List.append_assoc]
  exact whole

end Router
end LogRouting
