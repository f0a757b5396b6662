import LogRouting.Proofs.Settings.Validation
import Mathlib.Algebra.GroupWithZero.Nat

namespace LogRouting

inductive Defect.Kind
  | emptyTargetName
  | duplicateTargetName
  | emptyCategory
  | paddedTargetName
  | paddedCategory
  | unreachableTarget
  | invalidMetricsAddress
deriving DecidableEq

def Defect.kind : Defect → Kind
  | .emptyTargetName _ => .emptyTargetName
  | .duplicateTargetName _ => .duplicateTargetName
  | .emptyCategory _ => .emptyCategory
  | .paddedTargetName _ => .paddedTargetName
  | .paddedCategory .. => .paddedCategory
  | .unreachableTarget _ => .unreachableTarget
  | .invalidMetricsAddress _ => .invalidMetricsAddress

/-- How many defects of a kind a target has by itself. It takes another target to make it a duplicate. -/
def TargetSettings.flaws (k : Defect.Kind) (t : TargetSettings) : Nat :=
  match k with
  | .emptyTargetName => if isBlankText t.name then 1 else 0
  | .paddedTargetName => if isPadded t.name then 1 else 0
  | .emptyCategory => if t.categories.any isBlankText then 1 else 0
  | .paddedCategory => t.categories.countP fun c => !isBlankText c && isPadded c
  | .unreachableTarget => if Level.none ≤ t.level then 1 else 0
  | .duplicateTargetName | .invalidMetricsAddress => 0

/-- A target without a name to be seen shows that it has none, and hides all else. -/
def TargetSettings.shows (k : Defect.Kind) (t : TargetSettings) : Bool := k = .emptyTargetName || !isBlankText t.name

variable {t : TargetSettings} {ts : List TargetSettings} {seen : List String} {index : Nat} {k : Defect.Kind}
  {c : Settings}

theorem sum_map_ite {α : Type} (p : α → Bool) (xs : List α) :
    (xs.map fun x => if p x then 1 else 0).sum = xs.countP p := by
  induction xs with
  | nil => rfl
  | cons x xs ih => rw [List.map_cons, List.sum_cons, List.countP_cons, ih, Nat.add_comm]

namespace TargetSettings

theorem countP_defects (visible : isBlankText t.name = false) (alone : k ≠ .duplicateTargetName) :
    (t.defects seen).countP (·.kind = k) = t.flaws k := by
  have padded : ((t.categories.filter fun c => !isBlankText c && isPadded c).map
      (Defect.paddedCategory (Text.trimmed t.name))).countP (·.kind = k) =
        if k = .paddedCategory then t.flaws k else 0 := by
    rw [List.countP_map]
    split
    · next same =>
      subst same
      exact (congrFun List.countP_true _).trans List.countP_eq_length_filter.symm
    · next other => exact List.countP_eq_zero.2 fun _ _ same => other (of_decide_eq_true same).symm
  simp only [defects, List.countP_append, apply_ite (List.countP _), List.countP_singleton, List.countP_nil, padded]
  cases k with
  | duplicateTargetName => exact absurd rfl alone
  | _ => simp [flaws, visible, Defect.kind]

theorem countP_allDefects (alone : k ≠ .duplicateTargetName) : (allDefects seen index ts).countP (·.kind = k) =
    ((ts.filter (shows k)).map (flaws k)).sum := by
  induction ts generalizing seen index with
  | nil => rfl
  | cons t ts ih =>
    rw [allDefects, List.filter_cons, shows]
    cases visible : isBlankText t.name with
    | true =>
      rw [if_pos rfl, List.countP_cons, ih, Defect.kind]
      by_cases first : k = .emptyTargetName
      · subst first; simp [flaws, visible, Nat.add_comm]
      · simp [first, Ne.symm first]
    | false =>
      rw [if_neg Bool.false_ne_true, List.countP_append, countP_defects visible alone, ih]
      simp

end TargetSettings

namespace Settings

def reported (c : Settings) : List Defect :=
  match c.validate with
  | .error (.invalid first others) => first :: others
  | _ => []

theorem reported_eq : c.reported = c.defects := by
  rw [reported, validate]
  cases c.defects <;> rfl

theorem countP_reported (alone : k ≠ .duplicateTargetName) (aside : k ≠ .invalidMetricsAddress) :
    c.reported.countP (·.kind = k) =
      ((c.targets.filter (TargetSettings.shows k)).map (TargetSettings.flaws k)).sum := by
  have others : c.observability.defects.countP (·.kind = k) = 0 := List.countP_eq_zero.2 fun d mem same => by
    rw [Observability.eq_of_mem_defects mem] at same
    exact aside (of_decide_eq_true same).symm
  rw [reported_eq, defects, List.countP_append, others, TargetSettings.countP_allDefects alone]
  rfl

theorem countP_reported_of_visible (alone : k ≠ .duplicateTargetName) (aside : k ≠ .invalidMetricsAddress)
    (hidden : k ≠ .emptyTargetName) : c.reported.countP (·.kind = k) =
      ((c.targets.filter (!isBlankText ·.name)).map (TargetSettings.flaws k)).sum := by
  have shown : TargetSettings.shows k = (!isBlankText ·.name) := by
    funext t
    rw [TargetSettings.shows, decide_eq_false hidden, Bool.false_or]
  rw [countP_reported alone aside, shown]

/-- No defect of one target hides those of another, and none but a blank name those of the same target. -/
theorem reported_unless_nameless (c : Settings) :
    let named := c.targets.filter (!isBlankText ·.name)
    c.reported.countP (·.kind = .emptyTargetName) = c.targets.countP (isBlankText ·.name) ∧
    c.reported.countP (·.kind = .unreachableTarget) = named.countP (Level.none ≤ ·.level) ∧
    c.reported.countP (·.kind = .emptyCategory) = named.countP (·.categories.any isBlankText) ∧
    c.reported.countP (·.kind = .paddedCategory) =
      (named.map (·.categories.countP fun category => !isBlankText category && isPadded category)).sum ∧
    c.reported.countP (·.kind = .paddedTargetName) = named.countP (isPadded ·.name) := by
  have counted (k : Defect.Kind) := countP_reported_of_visible (c := c) (k := k)
  refine ⟨?_, ?_, ?_, counted .paddedCategory (by decide) (by decide) (by decide), ?_⟩
  · have all : c.targets.filter (TargetSettings.shows .emptyTargetName) = c.targets :=
      List.filter_eq_self.2 fun _ _ => rfl
    rw [countP_reported (by decide) (by decide), all]
    exact sum_map_ite _ _
  · rw [counted .unreachableTarget (by decide) (by decide) (by decide), ← sum_map_ite]
    simp only [decide_eq_true_eq]
    rfl
  · rw [counted .emptyCategory (by decide) (by decide) (by decide)]
    exact sum_map_ite _ _
  · rw [counted .paddedTargetName (by decide) (by decide) (by decide)]
    exact sum_map_ite _ _

/-- All that is wrong with a target is lost with its name. -/
theorem nameless_hides_all :
    let c : Settings := { targets := [{ name := "", level := .none, categories := ["", " net"] }] }
    c.reported = [.emptyTargetName 0] ∧
    c.reported.countP (·.kind = .unreachableTarget) ≠ c.targets.countP (Level.none ≤ ·.level) ∧
    c.reported.countP (·.kind = .emptyCategory) ≠ c.targets.countP (·.categories.any isBlankText) ∧
    c.reported.countP (·.kind = .paddedCategory) ≠
      (c.targets.map (·.categories.countP fun category => !isBlankText category && isPadded category)).sum := by
  decide +kernel

end Settings
end LogRouting
