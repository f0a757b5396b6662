import LogRouting.Proofs.Text.Blank
import LogRouting.Settings.Reader
import Mathlib.Data.List.Nodup

namespace LogRouting

structure TargetSettings.WellFormed (t : TargetSettings) : Prop where
  named : t.name ≠ ""
  flush : Text.Flush t.name
  categories : ∀ category ∈ t.categories, category ≠ "" ∧ Text.Flush category
  reachable : t.level < .none

structure Settings.WellFormed (c : Settings) : Prop where
  targets : ∀ t ∈ c.targets, t.WellFormed
  distinct : (c.targets.map (·.name)).Nodup
  address : c.observability.metricsEnabled = true →
    (Net.SocketAddress.parse? c.observability.metricsAddress).isSome = true

variable {s name : String} {t : TargetSettings} {ts : List TargetSettings} {seen : List String} {index : Nat}
  {c : Settings}

theorem isPadded_eq_false : isPadded s = false ↔ Text.Flush s := by
  rw [isPadded, decide_eq_false_iff_not, not_not, Text.trimmed_eq_self]

theorem sound_iff : isBlankText s = false ∧ isPadded s = false ↔ s ≠ "" ∧ Text.Flush s := by
  rw [isPadded_eq_false]
  refine and_congr_left fun flush => ?_
  rw [isBlankText, Text.trimmed_eq_self.2 flush, decide_eq_false_iff_not]

namespace TargetSettings

theorem categories_iff : (t.categories.any isBlankText = false ∧
    (t.categories.filter fun c => !isBlankText c && isPadded c) = []) ↔
      ∀ category ∈ t.categories, category ≠ "" ∧ Text.Flush category := by
  rw [List.any_eq_false, List.filter_eq_nil_iff]
  constructor
  · rintro ⟨visible, unpadded⟩ category mem
    have visible : isBlankText category = false := Bool.eq_false_iff.2 (visible category mem)
    have unpadded : isPadded category = false := by simpa [visible] using unpadded category mem
    exact sound_iff.1 ⟨visible, unpadded⟩
  · intro sound
    have sound (category : String) (mem : category ∈ t.categories) := sound_iff.2 (sound category mem)
    refine ⟨fun category mem => ?_, fun category mem => ?_⟩
    · rw [(sound category mem).1]
      exact Bool.false_ne_true
    · rw [(sound category mem).2, Bool.and_false]
      exact Bool.false_ne_true

theorem defects_eq_nil_iff (visible : isBlankText t.name = false) :
    t.defects seen = [] ↔ t.WellFormed ∧ t.name ∉ seen := by
  simp only [defects, List.append_eq_nil_iff, ite_eq_right_iff, List.cons_ne_nil, imp_false, List.map_eq_nil_iff,
    Bool.not_eq_true]
  constructor
  · rintro ⟨⟨⟨⟨unpadded, new⟩, visible'⟩, unpadded'⟩, reachable⟩
    obtain ⟨named, flush⟩ := sound_iff.1 ⟨visible, unpadded⟩
    rw [Text.trimmed_eq_self.2 flush] at new
    exact ⟨⟨named, flush, categories_iff.1 ⟨visible', unpadded'⟩, Level.not_le.1 reachable⟩, new⟩
  · rintro ⟨⟨named, flush, categories, reachable⟩, new⟩
    obtain ⟨visible', unpadded'⟩ := categories_iff.2 categories
    rw [Text.trimmed_eq_self.2 flush]
    exact ⟨⟨⟨⟨isPadded_eq_false.2 flush, new⟩, visible'⟩, unpadded'⟩, Level.not_le.2 reachable⟩

theorem allDefects_eq_nil_iff : allDefects seen index ts = [] ↔
    (∀ t ∈ ts, t.WellFormed) ∧ (ts.map (·.name)).Nodup ∧ ∀ t ∈ ts, t.name ∉ seen := by
  induction ts generalizing seen index with
  | nil => simp [allDefects]
  | cons t ts ih =>
    rw [allDefects, List.forall_mem_cons, List.map_cons, List.nodup_cons, List.forall_mem_cons]
    cases visible : isBlankText t.name with
    | true =>
      rw [if_pos rfl]
      refine iff_of_false (List.cons_ne_nil _ _) fun ⟨⟨here, _⟩, _⟩ => ?_
      rw [(sound_iff.2 ⟨here.named, here.flush⟩).1] at visible
      cases visible
    | false =>
      rw [if_neg Bool.false_ne_true, List.append_eq_nil_iff, defects_eq_nil_iff visible, ih]
      -- the names to come must differ from this one, which is seen from now on
      constructor
      · rintro ⟨⟨here, new⟩, later, distinct, apart⟩
        rw [Text.trimmed_eq_self.2 here.flush] at apart
        refine ⟨⟨here, later⟩, ⟨fun mem => ?_, distinct⟩, new, fun u mem held => ?_⟩
        · obtain ⟨u, mem, same⟩ := List.mem_map.1 mem
          exact apart u mem (same ▸ List.mem_cons_self)
        · exact apart u mem (List.mem_cons_of_mem _ held)
      · rintro ⟨⟨here, later⟩, ⟨apart, distinct⟩, new, others⟩
        rw [Text.trimmed_eq_self.2 here.flush]
        refine ⟨⟨here, new⟩, later, distinct, fun u mem held => ?_⟩
        rcases List.mem_cons.1 held with same | held
        · exact apart (same ▸ List.mem_map_of_mem mem)
        · exact others u mem held

end TargetSettings

theorem Observability.defects_eq_nil_iff {o : Observability} : o.defects = [] ↔
    (o.metricsEnabled = true → (Net.SocketAddress.parse? o.metricsAddress).isSome = true) := by
  rw [defects, ite_eq_right_iff, Option.isSome_iff_ne_none]
  simp

theorem Settings.defects_eq_nil_iff : c.defects = [] ↔ c.WellFormed := by
  rw [defects, List.append_eq_nil_iff, TargetSettings.allDefects_eq_nil_iff, Observability.defects_eq_nil_iff]
  constructor
  · rintro ⟨⟨targets, distinct, -⟩, address⟩
    exact ⟨targets, distinct, address⟩
  · rintro ⟨targets, distinct, address⟩
    exact ⟨⟨targets, distinct, fun _ _ => List.not_mem_nil⟩, address⟩

theorem Settings.nodup_names (valid : c.defects = []) : (c.targets.map (·.name)).Nodup :=
  (defects_eq_nil_iff.1 valid).distinct

def Defect.Concerns (index : Nat) (t : TargetSettings) : Defect → Prop
  | .emptyTargetName i => i = index ∧ isBlankText t.name = true
  | .duplicateTargetName name => name = Text.trimmed t.name
  | .emptyCategory target => target = Text.trimmed t.name ∧ t.categories.any isBlankText = true
  | .paddedTargetName name => name = t.name ∧ isPadded name = true
  | .paddedCategory target category =>
    target = Text.trimmed t.name ∧ category ∈ t.categories ∧ isPadded category = true
  | .unreachableTarget name => name = Text.trimmed t.name ∧ ¬ t.level < .none
  | .invalidMetricsAddress _ => False

theorem TargetSettings.concerns_of_mem_defects {d : Defect} (mem : d ∈ t.defects seen) : d.Concerns index t := by
  simp only [defects, List.mem_append, List.mem_map, List.mem_filter, List.mem_ite_nil_right, List.mem_singleton] at mem
  rcases mem with (((⟨padded, rfl⟩ | ⟨-, rfl⟩) | ⟨blank, rfl⟩) | ⟨category, ⟨listed, odd⟩, rfl⟩) | ⟨closed, rfl⟩
  · exact ⟨rfl, padded⟩
  · rfl
  · exact ⟨rfl, blank⟩
  · exact ⟨rfl, listed, (Bool.and_eq_true_iff.1 odd).2⟩
  · exact ⟨rfl, fun reachable => Level.not_le.2 reachable closed⟩

theorem TargetSettings.allDefects_in_order (seen : List String) (index : Nat) (ts : List TargetSettings) :
    ∃ parts, allDefects seen index ts = parts.flatten ∧
      List.Forall₂ (fun part p => ∀ d ∈ part, Defect.Concerns p.2 p.1 d) parts (ts.zipIdx index) := by
  induction ts generalizing seen index with
  | nil => exact ⟨[], rfl, .nil⟩
  | cons t ts ih =>
    rw [allDefects, List.zipIdx_cons]
    split
    · next blank =>
      obtain ⟨parts, whole, concern⟩ := ih seen (index + 1)
      refine ⟨[.emptyTargetName index] :: parts, by rw [whole]; rfl, .cons ?_ concern⟩
      intro d mem
      rw [List.mem_singleton.1 mem]
      exact ⟨rfl, blank⟩
    · obtain ⟨parts, whole, concern⟩ := ih (Text.trimmed t.name :: seen) (index + 1)
      exact ⟨t.defects seen :: parts, by rw [whole]; rfl, .cons (fun d => concerns_of_mem_defects) concern⟩

theorem Observability.eq_of_mem_defects {o : Observability} {d : Defect} (mem : d ∈ o.defects) :
    d = .invalidMetricsAddress o.metricsAddress := by
  rw [defects, List.mem_ite_nil_right] at mem
  exact List.mem_singleton.1 mem.2

theorem TargetSettings.count_defects : (t.defects seen).count (.duplicateTargetName name) =
    if Text.trimmed t.name = name ∧ name ∈ seen then 1 else 0 := by
  have padded : Defect.duplicateTargetName name ∉
      (t.categories.filter fun c => !isBlankText c && isPadded c).map (.paddedCategory (Text.trimmed t.name)) := by
    simp
  simp only [defects, List.count_append, apply_ite (List.count _), List.count_singleton, List.count_nil,
    List.count_eq_zero.2 padded, beq_iff_eq, reduceCtorEq, if_false, ite_self, Nat.zero_add, Nat.add_zero,
    Defect.duplicateTargetName.injEq]
  by_cases same : Text.trimmed t.name = name
  · simp [same]
  · simp [same]

theorem TargetSettings.count_allDefects (ne : name ≠ "") (seen : List String) (index : Nat)
    (ts : List TargetSettings) : (allDefects seen index ts).count (.duplicateTargetName name) =
      ts.countP (Text.trimmed ·.name = name) - if name ∈ seen then 0 else 1 := by
  induction ts generalizing seen index with
  | nil => simp [allDefects]
  | cons t ts ih =>
    rw [allDefects]
    split
    · next blank =>
      have other : Text.trimmed t.name ≠ name := fun same => ne (same ▸ of_decide_eq_true blank)
      rw [List.count_cons_of_ne (by simp), ih, List.countP_cons_of_neg (by simpa using other)]
    · rw [List.count_append, count_defects, ih]
      by_cases same : Text.trimmed t.name = name
      · rw [List.countP_cons_of_pos (by simpa using same), same, if_pos List.mem_cons_self]
        by_cases held : name ∈ seen
        · rw [if_pos ⟨rfl, held⟩, if_pos held]
          omega
        · rw [if_neg fun both => held both.2, if_neg held]
          omega
      · have held : name ∈ Text.trimmed t.name :: seen ↔ name ∈ seen := by simp [Ne.symm same]
        rw [List.countP_cons_of_neg (by simpa using same), if_neg fun both => same both.1, Nat.zero_add]
        simp only [held]

theorem Settings.validate_eq_ok {c c' : Settings} : c.validate = .ok c' ↔ c = c' ∧ c.defects = [] := by
  rw [validate]
  cases c.defects with
  | nil => simp
  | cons first others => exact iff_of_false nofun fun both => List.cons_ne_nil _ _ both.2

theorem Settings.read_eq_ok {document : String} {c : Settings} (h : Settings.read document = .ok c) :
    Settings.decode document = .ok c ∧ c.defects = [] := by
  rw [Settings.read] at h
  cases decoded : Settings.decode document with
  | error e => rw [decoded] at h; cases h
  | ok c' =>
    have checked : c'.validate = .ok c := by rw [decoded] at h; exact h
    obtain ⟨rfl, valid⟩ := validate_eq_ok.1 checked
    exact ⟨rfl, valid⟩

theorem Settings.defects_getLastD {c : Settings} {cs : List Settings} (valid : c.defects = [])
    (each : ∀ next ∈ cs, next.defects = []) : (cs.getLastD c).defects = [] := by
  rcases List.mem_cons.1 (List.getLastD_mem_cons : cs.getLastD c ∈ c :: cs) with same | mem
  · rw [same]; exact valid
  · exact each _ mem

end LogRouting
