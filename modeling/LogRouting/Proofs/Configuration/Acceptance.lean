import LogRouting.Proofs.Arising
import LogRouting.Proofs.Configuration.Rebinding
import LogRouting.Proofs.Settings.Validation

namespace LogRouting

namespace Router

variable {s : Router} {c : Settings} {ts : List TargetSettings}

theorem Enrolled.nodup_serials_bindingsFor (h : s.Enrolled) (known : ∀ t ∈ ts, (s.targetFor t.name).isSome)
    (distinct : (ts.map (·.name)).Nodup) : ((bindingsFor ts s).map (·.target.serial)).Nodup := by
  have listed (b : Binding) (mem : b ∈ bindingsFor ts s) : ∃ name, (name, b.target) ∈ s.configuredTargets := by
    obtain ⟨settings, -, given, -⟩ := mem_bindingsFor.1 mem
    exact ⟨settings.name, mem_of_targetFor given⟩
  have apart := h.nodup_bindingsFor known distinct
  refine (List.Nodup.of_map _ apart).map_on fun b mem b' mem' same => ?_
  obtain ⟨name, configured⟩ := listed b mem
  obtain ⟨name', configured'⟩ := listed b' mem'
  have one := List.inj_on_of_nodup_map h.serials configured configured' same
  exact List.inj_on_of_nodup_map apart mem mem' (congrArg Prod.snd one)

theorem bindings_start (distinct : (c.targets.map (·.name)).Nodup) (s : Router) :
    (s.start c).registry.bindings = bindingsFor c.targets ((s.cleared c).configure c) := by
  have enrolled : ((s.cleared c).pruned c).Enrolled := (Enrolled.of_nil rfl).pruned c
  have nothing : ((s.cleared c).pruned c).registry.bindings = [] := by
    rw [bindings_pruned]
    rfl
  have bound := enrolled.bindings_foldl_configureTarget distinct
  rw [nothing, ← configure_eq] at bound
  exact bound

theorem enrolled_start (c : Settings) (s : Router) : ((s.cleared c).configure c).Enrolled :=
  (Enrolled.of_nil rfl).configure

theorem targetFor_start {t : TargetSettings} (s : Router) (mem : t ∈ c.targets) :
    (((s.cleared c).configure c).targetFor t.name).isSome := targetFor_isSome_of_mem mem

theorem names_bindings_start (distinct : (c.targets.map (·.name)).Nodup) (s : Router) :
    (s.start c).registry.bindings.map (fun b => (b.target.name, b.categories)) =
      c.targets.map fun t => (t.name, t.categories) := by
  rw [bindings_start distinct]
  exact (enrolled_start c s).names_bindingsFor fun _ => targetFor_start s

theorem nodup_serials_start (distinct : (c.targets.map (·.name)).Nodup) (s : Router) :
    ((s.start c).registry.bindings.map (·.target.serial)).Nodup := by
  rw [bindings_start distinct]
  exact (enrolled_start c s).nodup_serials_bindingsFor (fun _ => targetFor_start s) distinct

end Router

namespace Settings

/-- Settings are accepted when they make sense; otherwise the defects are listed in the order of the targets, that of
the metrics last. Accepted settings give each of their targets a target of its own. -/
theorem validate_eq_ok_iff (c : Settings) :
    (c.validate = .ok c ↔ c.WellFormed) ∧
    (¬ c.WellFormed → ∃ first others, c.validate = .error (.invalid first others) ∧ c.defects = first :: others) ∧
    (∀ name, name ≠ "" →
      c.defects.count (.duplicateTargetName name) = c.targets.countP (Text.trimmed ·.name = name) - 1) ∧
    (∃ parts, c.defects = parts.flatten ++ c.observability.defects ∧
      List.Forall₂ (fun part p => ∀ d ∈ part, Defect.Concerns p.2 p.1 d) parts c.targets.zipIdx ∧
      ∀ d ∈ c.observability.defects, d = .invalidMetricsAddress c.observability.metricsAddress) ∧
    (c.validate = .ok c → ∀ s : Router,
      let bound := (s.start c).registry.bindings
      (s.start c).targetCount = c.targets.length ∧ (bound.map (·.target.serial)).Nodup ∧
      bound.map (fun b => (b.target.name, b.categories)) = c.targets.map fun t => (t.name, t.categories)) := by
  have accepts : c.validate = .ok c ↔ c.WellFormed :=
    validate_eq_ok.trans ((and_iff_right rfl).trans defects_eq_nil_iff)
  refine ⟨accepts, fun wrong => ?_, fun name ne => ?_, ?_, fun accepted s => ?_⟩
  · obtain ⟨first, others, some⟩ := List.exists_cons_of_ne_nil (mt defects_eq_nil_iff.1 wrong)
    exact ⟨first, others, by rw [validate, some], some⟩
  · have apart : c.observability.defects.count (.duplicateTargetName name) = 0 :=
      List.count_eq_zero.2 fun mem => by cases Observability.eq_of_mem_defects mem
    rw [defects, List.count_append, apart, TargetSettings.count_allDefects ne, if_neg List.not_mem_nil, Nat.add_zero]
  · obtain ⟨parts, whole, concern⟩ := TargetSettings.allDefects_in_order [] 0 c.targets
    exact ⟨parts, by rw [defects, whole], concern, fun d => Observability.eq_of_mem_defects⟩
  · have distinct := nodup_names (validate_eq_ok.1 accepted).2
    have named := Router.names_bindings_start distinct s
    refine ⟨?_, Router.nodup_serials_start distinct s, named⟩
    simpa [Router.targetCount] using congrArg List.length named

/-- Three names differ in their blanks alone, one is nothing else, and a category and a level are of no use; in other
settings the blanks are within the names. -/
theorem validate_eq_ok_iff_padded :
    let bad : Settings :=
      { targets := [{ name := "a", categories := ["net", "\u3000"] }, { name := "\u2003" }, { name := " a" },
          { name := "a\t", level := .none }],
        observability := { metricsEnabled := true, metricsAddress := "localhost:80" } }
    let good : Settings :=
      { targets := [{ name := "a b" }, { name := "c", categories := ["x y"] }],
        observability := { metricsEnabled := true, metricsAddress := "[::1]:80" } }
    let s := (Router.empty.start {}).start good
    bad.defects = [.emptyCategory "a", .emptyTargetName 1, .paddedTargetName " a", .duplicateTargetName "a",
      .paddedTargetName "a\t", .duplicateTargetName "a", .unreachableTarget "a",
      .invalidMetricsAddress "localhost:80"] ∧
    bad.defects.count (.duplicateTargetName "a") = 2 ∧ ¬ bad.WellFormed ∧
    good.WellFormed ∧ s.targetCount = 2 ∧ s.registry.bindings.map (·.target.serial) = [1, 2] := by
  intro bad good s
  obtain ⟨accepts, -, count, -⟩ := validate_eq_ok_iff bad
  obtain ⟨accepts', -, -, -, binds⟩ := validate_eq_ok_iff good
  have accepted : good.validate = .ok good := validate_eq_ok.2 ⟨rfl, by decide +kernel⟩
  have refused : bad.validate ≠ .ok bad := fun accepted => absurd (validate_eq_ok.1 accepted).2 (by decide +kernel)
  refine ⟨by decide +kernel, (count "a" (by decide)).trans (by decide +kernel), mt accepts.2 refused,
    accepts'.1 accepted, (binds accepted (Router.empty.start {})).1, by decide +kernel⟩

end Settings
end LogRouting
