import LogRouting.Proofs.Configuration.Rebinding
import LogRouting.Proofs.Configuration.Running
import LogRouting.Proofs.Reached
import LogRouting.Proofs.Settings.Validation

namespace LogRouting.Router

variable {s : Router} {t : Target} {key : String} {i : LoggerId} {settings : TargetSettings} {c : Settings}
  {wanted : List String}

def isForeign (s : Router) (t : Target) : Bool := t ∉ s.configuredTargets.map (·.2)

/-- Whether settings leave a target to the loggers of a category that hold it. -/
def stays (s : Router) (c : Settings) (key : String) (t : Target) : Bool :=
  s.isForeign t || c.targets.any fun settings => s.targetFor settings.name = some t && settings.covers key

theorem isForeign_iff : s.isForeign t = true ↔ ∀ name, (name, t) ∉ s.configuredTargets := by
  simp [isForeign]

theorem stays_iff : s.stays c key t = true ↔
    s.isForeign t = true ∨
      ∃ settings ∈ c.targets, s.targetFor settings.name = some t ∧ settings.covers key = true := by
  simp [stays]

theorem Enrolled.mem_staleTargets (h : s.Enrolled) (configured : s.isForeign t = false) :
    t ∈ s.staleTargets (c.targets.map (·.name)) ↔ ∀ settings ∈ c.targets, s.targetFor settings.name ≠ some t := by
  rw [Router.mem_staleTargets]
  constructor
  · rintro ⟨name, mem, unwanted⟩ settings wanted known
    have same : settings.name = name :=
      (h.named_of_targetFor known).symm.trans (h.named _ mem)
    exact unwanted (same ▸ List.mem_map_of_mem wanted)
  · intro unasked
    have known : ¬ ∀ name, (name, t) ∉ s.configuredTargets := by
      rw [← isForeign_iff, configured]
      exact Bool.false_ne_true
    obtain ⟨name, mem⟩ := not_forall_not.1 known
    refine ⟨name, mem, fun wanted => ?_⟩
    obtain ⟨settings, asked, rfl⟩ := List.mem_map.1 wanted
    exact unasked settings asked (h.targetFor_of_mem mem)

theorem not_mem_staleTargets (foreign : s.isForeign t = true) : t ∉ s.staleTargets wanted := by
  rw [mem_staleTargets]
  rintro ⟨name, mem, -⟩
  exact isForeign_iff.1 foreign name mem

theorem Enrolled.not_mem_staleTargets_of_name (h : s.Enrolled) (name : t.name ∈ wanted) :
    t ∉ s.staleTargets wanted := by
  rw [Router.mem_staleTargets]
  rintro ⟨name', mem, unwanted⟩
  have named : t.name = name' := h.named _ mem
  exact unwanted (named ▸ name)

theorem mem_bindingsFor_configure (made : t.serial < s.targets.size) :
    t ∈ (bindingsFor c.targets (s.configure c)).map (·.target) ↔
      ∃ settings ∈ c.targets, s.targetFor settings.name = some t := by
  simp only [List.mem_map, mem_bindingsFor]
  constructor
  · rintro ⟨b, ⟨settings, mem, given, -⟩, rfl⟩
    refine ⟨settings, mem, ?_⟩
    cases known : s.targetFor settings.name with
    | some u => exact (targetFor_configure_of_some known (List.mem_map_of_mem mem)).symm.trans given
    | none => exact absurd (targetFor_configure_of_none known given) (Nat.not_le.2 made)
  · rintro ⟨settings, mem, known⟩
    have given := targetFor_configure_of_some known (List.mem_map_of_mem mem : settings.name ∈ c.targets.map (·.name))
    exact ⟨⟨t, settings.categories⟩, ⟨settings, mem, given, rfl⟩, rfl⟩

theorem Enrolled.isForeign_iff_untouched (h : s.Enrolled) (c : Settings) (made : t.serial < s.targets.size) :
    s.isForeign t = true ↔
      t ∉ s.staleTargets (c.targets.map (·.name)) ∧ t ∉ (bindingsFor c.targets (s.configure c)).map (·.target) := by
  rw [mem_bindingsFor_configure made]
  cases foreign : s.isForeign t with
  | true =>
    refine iff_of_true rfl ⟨not_mem_staleTargets foreign, ?_⟩
    rintro ⟨settings, -, known⟩
    exact isForeign_iff.1 foreign _ (mem_of_targetFor known)
  | false =>
    refine iff_of_false Bool.false_ne_true ?_
    rw [h.mem_staleTargets foreign]
    rintro ⟨asked, unasked⟩
    exact asked fun settings mem known => unasked ⟨settings, mem, known⟩

theorem Enrolled.spare_iff_covers (h : s.Enrolled) (names : (c.targets.map (·.name)).Nodup)
    (mem : settings ∈ c.targets) (known : s.targetFor settings.name = some t) :
    Binding.spare (bindingsFor c.targets (s.configure c)) key t = true ↔ settings.covers key = true := by
  have given : (s.configure c).targetFor settings.name = some t :=
    targetFor_configure_of_some known (List.mem_map_of_mem mem)
  rw [Binding.spare, List.all_eq_true]
  constructor
  · intro spare
    let b : Binding := ⟨t, settings.categories⟩
    have listed : b ∈ bindingsFor c.targets (s.configure c) := mem_bindingsFor.2 ⟨settings, mem, given, rfl⟩
    have covers : b.covers key = true := by simpa [b] using spare b listed
    exact covers
  · intro covers b listed
    obtain ⟨other, asked, given', same⟩ := mem_bindingsFor.1 listed
    by_cases of : b.target = t
    -- the name of the target leads back to its settings
    · have named : other.name = settings.name :=
        (h.configure.named_of_targetFor (given'.trans (congrArg some of))).symm.trans (h.named_of_targetFor known)
      rw [List.inj_on_of_nodup_map names asked mem named] at same
      rw [Binding.covers, same]
      exact Bool.or_eq_true_iff.2 (.inr covers)
    · simp [of]

theorem Enrolled.spare_iff_stays (h : s.Enrolled) (names : (c.targets.map (·.name)).Nodup)
    (made : t.serial < s.targets.size) :
    (t ∉ s.staleTargets (c.targets.map (·.name)) ∧
      Binding.spare (bindingsFor c.targets (s.configure c)) key t = true) ↔ s.stays c key t = true := by
  rw [stays_iff]
  cases foreign : s.isForeign t with
  | true =>
    obtain ⟨fresh, unbound⟩ := (h.isForeign_iff_untouched c made).1 foreign
    exact iff_of_true ⟨fresh, Binding.spare_of_not_mem unbound⟩ (.inl rfl)
  | false =>
    rw [h.mem_staleTargets foreign]
    constructor
    · rintro ⟨asked, spare⟩
      push Not at asked
      obtain ⟨settings, mem, known⟩ := asked
      exact .inr ⟨settings, mem, known, (h.spare_iff_covers names mem known).1 spare⟩
    · rintro (no | ⟨settings, mem, known, covers⟩)
      · cases no
      · exact ⟨fun unasked => unasked settings mem known, (h.spare_iff_covers names mem known).2 covers⟩

theorem Enrolled.targetsOf_configure (h : s.Enrolled) (hs : s.Consistent)
    (made : ∀ t ∈ s.targetsOf i, t.serial < s.targets.size) (names : (c.targets.map (·.name)).Nodup)
    (mem : (key, i) ∈ s.registry.loggers) :
    (s.configure c).targetsOf i = (s.targetsOf i).filter (s.stays c key) ++
      ((c.targets.filter (·.covers key)).filterMap ((s.configure c).targetFor ·.name)).filter
        (· ∉ s.targetsOf i) := by
  have known : (key, i) ∈ (s.pruned c).registry.loggers := by rwa [keys_pruned]
  have rebound := (h.pruned c).targetsOf_foldl_configureTarget (hs.pruned c) names known
  rw [targetsOf_pruned hs mem] at rebound
  refine rebound.trans (congrArg₂ (· ++ ·) ?_ ?_)
  · rw [List.filter_filter]
    refine List.filter_congr fun t held => ?_
    rw [Bool.eq_iff_iff, Bool.and_eq_true, decide_eq_true_eq, and_comm]
    exact h.spare_iff_stays names (made t held)
  · refine List.filter_congr fun t listed => ?_
    obtain ⟨settings, asked, given⟩ := List.mem_filterMap.1 listed
    have wanted : t.name ∈ c.targets.map (·.name) := by
      rw [h.configure.named_of_targetFor given]
      exact List.mem_map_of_mem (List.mem_of_mem_filter asked)
    simp [h.not_mem_staleTargets_of_name wanted]

theorem Enrolled.bindings_configure (h : s.Enrolled)
    (made : ∀ b ∈ s.registry.bindings, b.target.serial < s.targets.size) (names : (c.targets.map (·.name)).Nodup) :
    (s.configure c).registry.bindings =
      s.registry.bindings.filter (s.isForeign ·.target) ++ bindingsFor c.targets (s.configure c) := by
  refine ((h.pruned c).bindings_foldl_configureTarget names).trans ?_
  rw [← configure_eq, bindings_pruned, List.filter_filter]
  congr 1
  refine List.filter_congr fun b mem => ?_
  rw [Bool.eq_iff_iff, Bool.and_eq_true, decide_eq_true_eq, decide_eq_true_eq, and_comm]
  exact (h.isForeign_iff_untouched c (made b mem)).symm

theorem Enrolled.filter_isFor_configure (h : s.Enrolled)
    (made : ∀ b ∈ s.registry.bindings, b.target.serial < s.targets.size) (names : (c.targets.map (·.name)).Nodup)
    (old : t.serial < s.targets.size) (foreign : s.isForeign t = true) :
    (s.configure c).registry.bindings.filter (·.isFor t) = s.registry.bindings.filter (·.isFor t) := by
  obtain ⟨-, unbound⟩ := (h.isForeign_iff_untouched c old).1 foreign
  have unasked : (bindingsFor c.targets (s.configure c)).filter (·.isFor t) = [] :=
    List.filter_eq_nil_iff.2 fun b mem same => unbound (List.mem_map.2 ⟨b, mem, of_decide_eq_true same⟩)
  rw [h.bindings_configure made names, List.filter_append, unasked, List.append_nil, List.filter_filter]
  refine List.filter_congr fun b _ => ?_
  by_cases same : b.target = t
  · simp [Binding.isFor, same, foreign]
  · simp [Binding.isFor, same]

theorem target?_pruned : (s.pruned c).target? t = s.target? t := by
  rw [target?, pruned, targets_dropTargets, targets_setRegistryLevel, target?]

theorem target?_configure (made : t.serial < s.targets.size)
    (apart : ∀ p ∈ s.configuredTargets, p.2.serial ≠ t.serial) : (s.configure c).target? t = s.target? t := by
  let Untouched (s' : Router) : Prop := s'.target? t = s.target? t ∧ t.serial < s'.targets.size ∧
    ∀ p ∈ s'.configuredTargets, p.2.serial ≠ t.serial
  have begun : Untouched (s.pruned c) := by
    refine ⟨target?_pruned, ?_, fun p mem => apart p ?_⟩
    · rwa [pruned, targets_dropTargets, targets_setRegistryLevel]
    · rw [pruned, configuredTargets_dropTargets, configuredTargets_setRegistryLevel] at mem
      exact List.mem_of_mem_filter mem
  refine (List.foldlRecOn (motive := Untouched) c.targets _ begun ?_).1
  rintro s' ⟨same, size, apart⟩ settings -
  have other : (s'.chosen settings.name).serial ≠ t.serial := by
    cases known : s'.targetFor settings.name with
    | some u => exact chosen_of_some known ▸ apart _ (mem_of_targetFor known)
    | none => exact chosen_of_none known ▸ size.ne'
  refine ⟨(target?_configureTarget size other.symm).trans same, size.trans_le size_configureTarget, fun p mem => ?_⟩
  rcases mem_configureTarget mem with old | rfl
  · exact apart p old
  · exact other

/-- After a reload a logger holds its foreign targets and those that the settings keep for its category, in their
places, and then the others that listen to the category, in the order of the settings. -/
theorem reload_settles_loggers (s : Router) (reached : s.Reached) (c : Settings) (valid : c.defects = []) :
    let s' := s.configure c
    let listening (key : String) := (c.targets.filter (·.covers key)).filterMap (s'.targetFor ·.name)
    (∀ settings ∈ c.targets, ∃ t, s'.targetFor settings.name = some t ∧ s'.levelOf t = settings.level ∧
      if s.targetFor settings.name = none then s.target? t = none else s.targetFor settings.name = some t) ∧
    (∀ key, s'.registered? key = s.registered? key) ∧
    (∀ key id, s.registered? key = some id →
      s'.targetsOf id = (s.targetsOf id).filter (s.stays c key) ++ (listening key).filter (· ∉ s.targetsOf id)) ∧
    (∀ r : Router, r.registry.bindings = s'.registry.bindings → ∀ key, r.registered? key = none →
      (r.lookup key).2.targetsOf (r.lookup key).1 =
        (s.registry.bindings.filter fun b => s.isForeign b.target && b.covers key).map (·.target) ++
          listening key) ∧
    ∀ t, s.Knows t → s.isForeign t = true →
      s'.target? t = s.target? t ∧
      s'.registry.bindings.filter (·.isFor t) = s.registry.bindings.filter (·.isFor t) := by
  intro s' listening
  obtain ⟨consistent, -, enrolled⟩ := reached.arises.in_order
  have genuine := reached.genuine
  have names := Settings.nodup_names valid
  have made (b : Binding) (mem : b ∈ s.registry.bindings) : b.target.serial < s.targets.size :=
    genuine.made _ (.bound b mem rfl)
  have bindings : s'.registry.bindings =
      s.registry.bindings.filter (s.isForeign ·.target) ++ bindingsFor c.targets s' :=
    enrolled.bindings_configure made names
  refine ⟨fun settings mem => ?_, fun _ => registered?_configure, fun key id known => ?_,
    fun r same key new => ?_, fun t known foreign => ⟨?_, ?_⟩⟩
  · obtain ⟨t, given, level, -⟩ := enrolled.serves_configure names mem
    refine ⟨t, given, level, ?_⟩
    split
    · next unknown => exact Array.getElem?_eq_none (targetFor_configure_of_none unknown given)
    · next known =>
      obtain ⟨u, known⟩ := Option.ne_none_iff_exists'.1 known
      exact known.trans ((targetFor_configure_of_some known (List.mem_map_of_mem mem)).symm.trans given)
  · exact enrolled.targetsOf_configure consistent (fun t held => genuine.made t (.held id held)) names
      (mem_of_registered known)
  · have distinct : (r.registry.bindings.map (·.target)).Nodup := same ▸ (consistent.configure c).bound
    rw [targetsOf_lookup_new new distinct, same, bindings, List.filter_append, List.map_append, List.filter_filter]
    refine congrArg₂ (· ++ ·) ?_ (heard_bindingsFor c.targets key s')
    simp only [Bool.and_comm]
  · refine target?_configure (genuine.made t known) fun p mem same => ?_
    have one : p.2 = t := genuine.one p.2 t (.configured p.1 mem) known same
    exact isForeign_iff.1 foreign p.1 (one ▸ mem)
  · exact enrolled.filter_isFor_configure made names (genuine.made t known) foreign

/-- A target that a program binds itself shares its name with a configured one; of the configured ones one stays, one
moves to another category, one goes and one is new. -/
theorem reload_settles_loggers_shared_name :
    let before : Settings := { targets := [{ name := "a" }, { name := "b", categories := ["net"] }, { name := "c" }] }
    let s := [.forwarder "own" "b" .error, .start before, .bind "own" ["net"], .lookup "net" "log"].foldl
      (fun s a => (s.run a).2) empty
    let c : Settings :=
      { targets := [{ name := "d" }, { name := "b", level := .warn }, { name := "a", categories := ["db"] }] }
    let r := (s.configure c).removeLogger "net"
    s.Reached ∧ c.defects = [] ∧
    s.targetsOf 0 = [⟨1, "a"⟩, ⟨2, "b"⟩, ⟨3, "c"⟩, ⟨0, "b"⟩] ∧
    (s.configure c).targetsOf 0 = [⟨2, "b"⟩, ⟨0, "b"⟩, ⟨4, "d"⟩] ∧
    (r.lookup "net").2.targetsOf (r.lookup "net").1 = [⟨0, "b"⟩, ⟨4, "d"⟩, ⟨2, "b"⟩] ∧
    (r.lookup "db").2.targetsOf (r.lookup "db").1 = [⟨4, "d"⟩, ⟨2, "b"⟩, ⟨1, "a"⟩] ∧
    (s.configure c).target? ⟨0, "b"⟩ = s.target? ⟨0, "b"⟩ := by
  intro before s c r
  have reached : s.Reached := foldl_run_reached _ .empty
  have valid : c.defects = [] := by decide +kernel
  obtain ⟨-, -, held, later, foreign⟩ := reload_settles_loggers s reached c valid
  have same (s : Router) : (s.removeLogger "net").registry.bindings = s.registry.bindings := rfl
  have own : s.Knows ⟨0, "b"⟩ := .named "own" (by decide +kernel)
  refine ⟨reached, valid, by decide +kernel, ?_, ?_, ?_, (foreign _ own (by decide +kernel)).1⟩
  · exact (held "net" 0 (by decide +kernel)).trans (by decide +kernel)
  · exact (later r (same (s.configure c)) "net" (by decide +kernel)).trans (by decide +kernel)
  · exact (later r (same (s.configure c)) "db" (by decide +kernel)).trans (by decide +kernel)

end LogRouting.Router
