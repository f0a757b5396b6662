import LogRouting.Proofs.Configuration.Running
import LogRouting.Proofs.Journal
import LogRouting.Relay

namespace LogRouting

def Settings.heard (c : Settings) (category : String) : List String :=
  (c.targets.filter (·.covers category)).map (·.name)

def Settings.reached (c : Settings) (category : String) (level : Level) : List String :=
  if c.level ≤ level then (c.targets.filter fun t => t.covers category && t.level ≤ level).map (·.name) else []

namespace Router

def forward : Handler := fun t e s => (.accepted, if (s.target? t).isSome then s.note (.forwarded e) else s)

variable {s : Router} {id : LoggerId} {l : Logger} {call : Call} {t u : Target} {e : Event} {h h' : Handler}
  {reporter : Reporter} {verified : Bool} {c : Settings} {category : String}

section

variable {P : Router → Prop} (noting : ∀ o s, P s → P (s.observe o))
  (handling : ∀ t e s, P s → P (h t e s).2) (agree : ∀ t e s, P s → h' t e s = h t e s)

include agree in
theorem turn_congr (hs : P s) : s.turn h' reporter verified e t = s.turn h reporter verified e t := by
  rw [turn, turn, deliver, deliver, agree t e s hs]

include noting handling agree in
theorem turns_congr (ts : List Target) (hs : P s) :
    ts.foldl (turn h' reporter verified e) s = ts.foldl (turn h reporter verified e) s ∧
      invocationsFrom h' reporter verified e ts s = invocationsFrom h reporter verified e ts s := by
  induction ts generalizing s with
  | nil => exact ⟨rfl, rfl⟩
  | cons t ts ih =>
    have later : P (s.turn h reporter verified e t) := turn_preserves noting handling hs
    rw [List.foldl_cons, List.foldl_cons, invocationsFrom, invocationsFrom, turn_congr agree hs, (ih later).1,
      (ih later).2]
    exact ⟨rfl, rfl⟩

include noting handling agree in
theorem dispatch_congr (hs : P s) :
    s.dispatch h' id call = s.dispatch h id call ∧ s.invocations h' id call = s.invocations h id call := by
  cases found : s.logger? id with
  | none =>
    rw [dispatch_of_none found, dispatch_of_none found, invocations_of_none found, invocations_of_none found]
    exact ⟨rfl, rfl⟩
  | some l =>
    by_cases idle : s.isIdle l call = true
    · rw [dispatch_of_idle found idle, dispatch_of_idle found idle, invocations_of_idle found idle,
        invocations_of_idle found idle]
      exact ⟨rfl, rfl⟩
    · rw [dispatch_of_busy found idle, dispatch_of_busy found idle, invocations_of_busy found idle,
        invocations_of_busy found idle]
      exact turns_congr noting handling agree _ (begun_preserves noting hs)

end

theorem handler_eq_forward (forwarding : ∀ (i : Nat) state, s.targets[i]? = some state → state.sink = .forwarding)
    (depth : Nat) : handler depth t e s = forward t e s := by
  have response (run : Action → Router → Answer × Router) : respond run t e s = forward t e s := by
    rw [respond, forward]
    cases found : s.target? t with
    | none => simp
    | some state =>
      obtain ⟨level, sink⟩ := state
      cases forwarding t.serial _ found
      rfl
  cases depth <;> exact response _

theorem levelOf_forward : (forward t e s).2.levelOf u = s.levelOf u := by
  rw [forward]
  split <;> rfl

theorem journal_only_forward : (forward t e s).2 = s.withJournal (forward t e s).2.journal := by
  rw [forward]
  split <;> rfl

theorem Managed.dispatch_eq (hs : s.Managed) (depth : Nat) :
    s.dispatch (handler depth) id call = s.dispatch forward id call ∧
      s.invocations (handler depth) id call = s.invocations forward id call := by
  refine dispatch_congr (P := fun r => r.targets = s.targets) (fun _ _ same => same) ?_ ?_ rfl
  · intro t e r same
    rw [journal_only_forward]
    exact same
  · intro t e r same
    exact handler_eq_forward (same ▸ hs.forwarding) depth

theorem dispatch_forward : s.dispatch forward id call = s.withJournal (s.dispatch forward id call).journal := by
  refine dispatch_preserves (P := fun r => r = s.withJournal r.journal) (fun o r same => ?_)
    (fun t e r same => ?_) rfl
  · rw [same]; rfl
  · rw [journal_only_forward, same]; rfl

theorem Managed.log_eq (hs : s.Managed) : s.log id call = s.withJournal (s.log id call).journal := by
  rw [log, (hs.dispatch_eq _).1]
  exact dispatch_forward

theorem targets_invocations_of_keeps (found : s.logger? id = some l) (verified : call.verified = true)
    (keeps : ∀ u t e r, (h t e r).2.levelOf u = r.levelOf u) :
    (s.invocations h id call).map (·.target) =
      if s.gateLevel l.context.gate ≤ call.level then
        l.targets.members.filter fun t => s.levelOf t ≤ call.level
      else [] := by
  have admitted : s.admits true (l.event call) = fun t => decide (s.levelOf t ≤ call.level) := rfl
  rw [targets_invocations found fun i _ t _ => by rw [admits, keeps, admits], verified, admitted]
  simp only [Bool.true_eq_false, false_or]

theorem Follows.log (h : s.Follows c) (id : LoggerId) (call : Call) : (s.log id call).Follows c := by
  have same : SameRouting s (s.withJournal (s.log id call).journal) := ⟨rfl, rfl, rfl⟩
  rw [h.managed.log_eq]
  exact h.of_same (h.managed.settled.silent same) rfl rfl ⟨rfl, rfl⟩

theorem Follows.name_chosen (h : s.Follows c) {settings : TargetSettings} (mem : settings ∈ c.targets) :
    (s.chosen settings.name).name = settings.name := by
  obtain ⟨t, known, -⟩ := h.serves settings mem
  rw [chosen_of_some known]
  exact h.managed.enrolled.named_of_targetFor known

theorem Follows.levelOf_chosen (h : s.Follows c) {settings : TargetSettings} (mem : settings ∈ c.targets) :
    s.levelOf (s.chosen settings.name) = settings.level := by
  obtain ⟨t, known, level, -⟩ := h.serves settings mem
  rw [chosen_of_some known, level]

theorem Follows.routes_iff (h : s.Follows c) : s.routes t category = true ↔
    ∃ settings ∈ c.targets, settings.covers category = true ∧ s.chosen settings.name = t := by
  constructor
  · intro bound
    obtain ⟨b, mem, rfl, -⟩ := Router.routes_iff.1 bound
    obtain ⟨⟨name, t⟩, listed, eq⟩ := List.mem_map.1 (h.managed.bound b mem)
    have known := h.managed.enrolled.targetFor_of_mem listed
    obtain ⟨settings, mem, rfl⟩ := List.mem_map.1 ((h.names name).1 (Option.isSome_of_eq_some known))
    obtain ⟨u, known', -, covers⟩ := h.serves settings mem
    have chosen : s.chosen settings.name = b.target := (chosen_of_some known).trans eq
    rw [← chosen, chosen_of_some known', covers] at bound
    exact ⟨settings, mem, bound, chosen⟩
  · rintro ⟨settings, mem, covers, rfl⟩
    obtain ⟨t, known, -, bound⟩ := h.serves settings mem
    rw [chosen_of_some known, bound, covers]

theorem Follows.targetsOf_perm (h : s.Follows c) (distinct : (c.targets.map (·.name)).Nodup)
    (known : s.registered? category = some id) : (s.targetsOf id).Perm
      ((c.targets.filter (·.covers category)).map fun settings => s.chosen settings.name) := by
  have names : ((c.targets.filter (·.covers category)).map fun settings => s.chosen settings.name).map
      (·.name) = c.heard category := by
    rw [List.map_map]
    exact List.map_congr_left fun settings mem => h.name_chosen (List.mem_of_mem_filter mem)
  have chosen : ((c.targets.filter (·.covers category)).map fun settings => s.chosen settings.name).Nodup := by
    refine .of_map (·.name) (names ▸ ?_)
    exact distinct.sublist (List.filter_sublist.map _)
  rw [List.perm_ext_iff_of_nodup h.managed.settled.consistent.nodup_targetsOf chosen]
  intro t
  rw [h.managed.settled.agrees t _ (mem_of_registered known), h.routes_iff]
  simp only [List.mem_map, List.mem_filter, and_assoc]

theorem Follows.targetNames_perm (h : s.Follows c) (distinct : (c.targets.map (·.name)).Nodup)
    (known : s.registered? category = some id) : (s.targetNames id).Perm (c.heard category) := by
  refine ((h.targetsOf_perm distinct known).map _).trans (.of_eq ?_)
  rw [List.map_map]
  exact List.map_congr_left fun settings mem => h.name_chosen (List.mem_of_mem_filter mem)

theorem Follows.targets_invocations (h : s.Follows c) (known : s.registered? category = some id)
    (verified : call.verified = true) (depth : Nat) :
    (s.invocations (handler depth) id call).map (·.target) =
      if c.level ≤ call.level then (s.targetsOf id).filter fun t => s.levelOf t ≤ call.level else [] := by
  have mem := mem_of_registered known
  obtain ⟨l, found⟩ := Option.isSome_iff_exists.1 (logger?_isSome.2 (h.managed.settled.consistent.made _ mem))
  have gate : s.gateLevel l.context.gate = c.level := by
    rw [h.managed.settled.gated.loggers _ mem l found]
    exact h.level
  rw [(h.managed.dispatch_eq depth).2, targets_invocations_of_keeps found verified fun _ _ _ _ => levelOf_forward,
    gate, targetsOf_eq found]

theorem Follows.invocations_perm (h : s.Follows c) (distinct : (c.targets.map (·.name)).Nodup)
    (known : s.registered? category = some id) (verified : call.verified = true) (depth : Nat) :
    ((s.invocations (handler depth) id call).map fun i => i.target.name).Perm
      (c.reached category call.level) := by
  have called : (s.invocations (handler depth) id call).map (fun i => i.target.name) =
      ((s.invocations (handler depth) id call).map (·.target)).map (·.name) := by
    rw [List.map_map]
    rfl
  rw [called, h.targets_invocations known verified, Settings.reached]
  split
  · refine (((h.targetsOf_perm distinct known).filter _).map _).trans (.of_eq ?_)
    rw [List.filter_map, List.filter_filter, List.map_map]
    have same : ∀ settings ∈ c.targets,
        (decide (s.levelOf (s.chosen settings.name) ≤ call.level) && settings.covers category) =
          (settings.covers category && decide (settings.level ≤ call.level)) := by
      intro settings mem
      rw [h.levelOf_chosen mem, Bool.and_comm]
    refine (congrArg (List.map _) (List.filter_congr same)).trans ?_
    exact List.map_congr_left fun settings mem => h.name_chosen (List.mem_of_mem_filter mem)
  · exact .refl _

theorem Follows.configured_of_invoked (h : s.Follows c) (known : s.registered? category = some id)
    (verified : call.verified = true) (depth : Nat) {i : Invocation}
    (mem : i ∈ s.invocations (handler depth) id call) : s.targetFor i.target.name = some i.target := by
  have invoked : i.target ∈ (s.invocations (handler depth) id call).map (·.target) := List.mem_map_of_mem mem
  rw [h.targets_invocations known verified] at invoked
  have held : i.target ∈ s.targetsOf id := by
    split at invoked
    · exact List.mem_of_mem_filter invoked
    · cases invoked
  have bound := (h.managed.settled.agrees i.target _ (mem_of_registered known)).1 held
  obtain ⟨settings, mem, -, chosen⟩ := h.routes_iff.1 bound
  obtain ⟨t, known, -⟩ := h.serves settings mem
  rw [← chosen, h.name_chosen mem, known, chosen_of_some known]

end Router
end LogRouting
