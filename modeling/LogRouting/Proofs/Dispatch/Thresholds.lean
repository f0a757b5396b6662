import LogRouting.Proofs.Arising
import LogRouting.Proofs.Settings.Validation

namespace LogRouting.Router

/-- The gate of the known loggers and the levels of the configured targets are what settings say. -/
structure HasThresholds (s : Router) (c : Settings) : Prop where
  gate : ∀ category id l, s.registered? category = some id → s.logger? id = some l →
    s.gateLevel l.context.gate = c.level
  levels : ∀ settings ∈ c.targets, ∃ t, s.targetFor settings.name = some t ∧ s.levelOf t = settings.level

variable {s : Router} {t u : Target} {level : Level} {index : Nat} {gate : Gate} {c : Settings}

theorem levelOf_setLevel_of_ne (ne : u.serial ≠ t.serial) : (s.setLevel t level).levelOf u = s.levelOf u := by
  rw [levelOf, target?, setLevel, modifyTarget, Array.getElem?_modify, if_neg (Ne.symm ne), levelOf, target?]

theorem levelOf_setLevel (made : s.target? t ≠ none) :
    (s.setLevel t level).levelOf u = if u.serial = t.serial then level else s.levelOf u := by
  split
  · next same =>
    obtain ⟨state, found⟩ := Option.ne_none_iff_exists'.1 made
    rw [target?] at found
    rw [levelOf, target?, setLevel, modifyTarget, Array.getElem?_modify, if_pos same.symm, same, found]
    rfl
  · next ne => exact levelOf_setLevel_of_ne ne

theorem levelOf_setGate : (s.setGate index level).levelOf u = s.levelOf u := by
  rw [levelOf, target?, targets_setGate, levelOf, target?]

theorem gateLevel_setGate_of_made (made : index < s.gates.size) :
    (s.setGate index level).gateLevel gate = if gate = .shared index then level else s.gateLevel gate := by
  cases gate with
  | fixed => rw [if_neg nofun]; rfl
  | shared other =>
    by_cases same : other = index
    · rw [same, if_pos rfl, gateLevel_setGate made]
    · rw [if_neg fun e => same (Gate.shared.inj e), gateLevel, gates_setGate,
        Array.getElem?_setIfInBounds_ne (Ne.symm same)]
      rfl

theorem Arises.hasThresholds (arises : s.Arises) (valid : c.defects = []) : (s.configure c).HasThresholds c := by
  obtain ⟨consistent, gated, enrolled⟩ := arises.in_order
  constructor
  · intro category id l known found
    have shared := (gated.configure consistent c).loggers _ (mem_of_registered known) l found
    rw [shared]
    exact registryLevel_configure gated.index
  · intro settings mem
    obtain ⟨t, known, level, -⟩ := enrolled.serves_configure (Settings.nodup_names valid) mem
    exact ⟨t, known, level⟩

/-- A log call asks the gate at its beginning and each target for its level at its turn. The levels at the beginning
decide, unless a target that is called moves that of a later one across the level of the call. -/
theorem thresholds_hold_from_start (h : Handler) (s : Router) (id : LoggerId) (l : Logger) (call : Call)
    (found : s.logger? id = some l) :
    let ts := l.targets.members
    let e := l.event call
    let passes := call.verified = false ∨ s.gateLevel l.context.gate ≤ call.level
    let called := (s.invocations h id call).map (·.target)
    let turn : Nat → Router := atTurn h l.context.reporter call.verified e ts (s.begun l call)
    (¬ passes → called = [] ∧ s.dispatch h id call = s) ∧
    (passes → called =
      ((List.finRange ts.length).filter fun k : Fin ts.length =>
        !call.verified || (turn k).levelOf (ts.get k) ≤ call.level).map ts.get) ∧
    ((∀ i ∈ s.invocations h id call, ∀ t, [i.target, t].Sublist ts → call.verified = true →
        ((h i.target i.event i.found).2.levelOf t ≤ call.level ↔ i.found.levelOf t ≤ call.level)) →
      passes → called = ts.filter fun t => !call.verified || s.levelOf t ≤ call.level) ∧
    (∀ t level, s.target? t ≠ none → (s.setLevel t level).gateLevel = s.gateLevel ∧
      ∀ u, (s.setLevel t level).levelOf u = if u.serial = t.serial then level else s.levelOf u) ∧
    (∀ index level, index < s.gates.size → (s.setGate index level).levelOf = s.levelOf ∧
      ∀ gate, (s.setGate index level).gateLevel gate = if gate = .shared index then level else s.gateLevel gate) ∧
    (s.Arises → ∀ c : Settings, c.defects = [] → (s.configure c).HasThresholds c) ∧
    (s.Arises → (∀ t e r, Recorded r (h t e r).2) → ∀ i ∈ s.invocations h id call, i.found.Arises) ∧
    s.IsTrace h id call (s.invocations h id call) := by
  intro ts e passes called turn
  refine ⟨fun closed => ?_, fun open' => ?_, fun steady open' => ?_,
    fun t level made => ⟨rfl, fun u => levelOf_setLevel made⟩,
    fun index level made => ⟨funext fun u => levelOf_setGate, fun gate => gateLevel_setGate_of_made made⟩,
    fun arises c valid => arises.hasThresholds valid, fun arises nested => arises.found nested, isTrace_invocations⟩
  · have idle : s.isIdle l call = true := by
      by_contra busy
      exact closed (isIdle_eq_false.1 busy).2
    exact ⟨congrArg _ (invocations_of_idle found idle), dispatch_of_idle found idle⟩
  · have turns : s.invocations h id call =
        invocationsFrom h l.context.reporter call.verified e ts (s.begun l call) := by
      by_cases nobody : l.targets.members = []
      · simp only [invocations_of_idle found (isIdle_iff.2 (.inl nobody)), ts, nobody]
        rfl
      · exact invocations_of_busy found (isIdle_eq_false.2 ⟨nobody, open'⟩)
    simp only [called]
    rw [turns, invocationsFrom_eq_map, List.map_map]
    rfl
  · have admits_iff (r : Router) (t : Target) : r.admits call.verified e t =
        (!call.verified || decide (r.levelOf t ≤ call.level)) := rfl
    refine (targets_invocations found fun i mem t after => ?_).trans (if_pos open')
    rw [admits_iff, admits_iff]
    cases verified : call.verified with
    | false => rfl
    | true => rw [decide_eq_decide.2 (steady i mem t after verified)]

/-- Every target closes the gate, and the first one for itself. Both are called all the same, and nobody is in the
call after that. -/
theorem thresholds_hold_until_closed :
    let a : Target := ⟨0, "a"⟩
    let b : Target := ⟨1, "b"⟩
    let l : Logger := ⟨"net", ⟨[a, b]⟩, ⟨.shared 0, {}, .noting⟩⟩
    let s : Router := { empty with targets := #[⟨.all, .forwarding⟩, ⟨.warn, .forwarding⟩], loggers := #[l] }
    let h : Handler := fun _ _ s => (.accepted, (s.setGate 0 .none).setLevel a .none)
    let call : Call := ⟨.warn, "up", {}, true⟩
    s.logger? 0 = some l ∧ (s.invocations h 0 call).map (·.target) = [a, b] ∧
    (s.dispatch h 0 call).logger? 0 = some l ∧ ((s.dispatch h 0 call).invocations h 0 call).map (·.target) = [] := by
  intro a b l s h call
  have steady : ∀ i ∈ s.invocations h 0 call, ∀ t, [i.target, t].Sublist [a, b] → call.verified = true →
      ((h i.target i.event i.found).2.levelOf t ≤ call.level ↔ i.found.levelOf t ≤ call.level) := by
    intro i _ t after _
    obtain ⟨-, rfl⟩ : i.target = a ∧ t = b := by simpa using after.eq_of_length rfl
    rw [levelOf_setLevel_of_ne (by decide), levelOf_setGate]
  obtain ⟨-, -, served, -⟩ := thresholds_hold_from_start h s 0 l call rfl
  obtain ⟨dropped, -⟩ := thresholds_hold_from_start h (s.dispatch h 0 call) 0 l call (by decide)
  exact ⟨rfl, (served steady (by decide)).trans (by decide), by decide, (dropped (by decide)).1⟩

/-- The first target raises the level of the second, which would have been called. -/
theorem threshold_moves_midway :
    let a : Target := ⟨0, "a"⟩
    let b : Target := ⟨1, "b"⟩
    let l : Logger := ⟨"net", ⟨[a, b]⟩, ⟨.shared 0, {}, .noting⟩⟩
    let s : Router := { empty with
      targets := #[⟨.all, .scripted "a" .accept [.setLevel "b" .error] 1⟩, ⟨.all, .forwarding⟩]
      loggers := #[l]
      names := { targets := [("a", a), ("b", b)] } }
    let call : Call := ⟨.warn, "up", {}, true⟩
    s.gateLevel l.context.gate ≤ call.level ∧
    l.targets.members.filter (fun t => s.levelOf t ≤ call.level) = [a, b] ∧
    (s.invocations (handler s.weight) 0 call).map (·.target) = [a] := by
  decide

end LogRouting.Router
