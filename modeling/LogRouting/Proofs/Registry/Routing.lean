import LogRouting.Proofs.Dispatch.Deliveries
import LogRouting.Proofs.Registry.Membership

namespace LogRouting.Router

def lastBinding (t : Target) : List Operation → Option (List String)
  | [] => none
  | .bind u categories :: past => if u = t then some categories else lastBinding t past
  | .unbind u :: past => if u = t then none else lastBinding t past
  | _ :: past => lastBinding t past

def lastGate (level : Level) : List Operation → Level
  | [] => level
  | .setGate level :: _ => level
  | _ :: past => lastGate level past

/-- An operation that leaves the lists of loggers to the registry, with targets that do not reconfigure. -/
def Operation.Restrained (o : Operation) : Prop :=
  o.direct? = none ∧ ∀ h ∈ o.handler?, ∀ t e r, Reaches Operation.Harmless r (h t e r).2

/-- Runs of restrained operations, with a record of them. Targets may change by themselves in between. -/
inductive Ran : List Operation → Router → Router → Prop
  | refl (s : Router) : Ran [] s s
  | silent : Ran ops s s' → SameRouting s' s'' → Ran ops s s''
  | step : Ran ops s s' → o.Restrained → Ran (o :: ops) s (o.apply s')

variable {s s' : Router} {t u : Target} {o : Operation} {ops : List Operation} {category : String}
  {id : LoggerId} {l : Logger} {level start : Level}

structure Gated (s : Router) : Prop where
  index : s.registry.gate < s.gates.size
  shared : s.registry.context.gate = .shared s.registry.gate
  loggers : ∀ p ∈ s.registry.loggers, ∀ l, s.logger? p.2 = some l → l.context.gate = .shared s.registry.gate

theorem Gated.of_contexts (h : s.Gated) (gates : s'.gates.size = s.gates.size)
    (gate : s'.registry.gate = s.registry.gate) (context : s'.registry.context = s.registry.context)
    (loggers : s'.registry.loggers ⊆ s.registry.loggers)
    (contexts : ∀ id, (s'.logger? id).map (·.context) = (s.logger? id).map (·.context)) : s'.Gated where
  index := by rw [gate, gates]; exact h.index
  shared := by rw [gate, context]; exact h.shared
  loggers := by
    intro p mem l' found'
    have same := contexts p.2
    rw [found', Option.map_some] at same
    obtain ⟨l, found, eq⟩ := Option.map_eq_some_iff.1 same.symm
    rw [gate, ← eq]
    exact h.loggers p (loggers mem) l found

theorem Gated.newRegistry (level : Level) (renderer : Renderer) (reporter : Reporter) (s : Router) :
    (s.newRegistry level renderer reporter).Gated :=
  ⟨by simp [Router.newRegistry, newGate], rfl, nofun⟩

theorem Gated.fresh (targets : Array TargetState) (level : Level) (renderer : Renderer) (reporter : Reporter) :
    (fresh targets level renderer reporter).Gated := .newRegistry level renderer reporter _

theorem Gated.silent (h : s.Gated) (same : SameRouting s s') : s'.Gated := by
  refine h.of_contexts (by rw [same.gates]) ?_ ?_ ?_ fun id => by rw [logger?, same.loggers, logger?]
  all_goals rw [same.registry]
  exact List.Subset.refl _

theorem Gated.bind {categories : List String} (hs : s.Consistent) (h : s.Gated) :
    (s.bind t categories).Gated := by
  refine h.of_contexts ?_ ?_ ?_ ?_ (Evolves.bind t categories hs.ids).context
  · rw [(OnlyLoggers.bind t categories s).gates]; rfl
  · rw [registry_bind]
  · rw [registry_bind]
  · rw [registry_bind]; exact List.Subset.refl _

theorem Gated.unbind (hs : s.Consistent) (h : s.Gated) : (s.unbind t).Gated := by
  refine h.of_contexts ?_ ?_ ?_ ?_ (Evolves.unbind t hs.ids).context
  · rw [(OnlyLoggers.unbind t s).gates]; rfl
  · rw [registry_unbind]
  · rw [registry_unbind]
  · rw [registry_unbind]; exact List.Subset.refl _

theorem Gated.lookup (hs : s.Consistent) (h : s.Gated) : (s.lookup category).2.Gated := by
  cases known : s.registered? category with
  | some id => rwa [lookup_of_some known]
  | none =>
    have registry := registry_lookup_of_none known
    refine ⟨?_, ?_, fun p mem l found => ?_⟩
    · rw [registry, gates_lookup]; exact h.index
    · rw [registry]; exact h.shared
    · rw [registry, List.mem_append, List.mem_singleton] at mem
      rw [logger?_lookup_of_none known hs.bound] at found
      rw [registry]
      rcases mem with mem | rfl
      · rw [if_neg (hs.made p mem).ne] at found
        exact h.loggers p mem l found
      -- the new logger has taken its context from the registry
      · rw [if_pos rfl] at found
        cases found
        exact h.shared

theorem Gated.of_onlyLoggers (h : s.Gated) (only : OnlyLoggers s s') (evolves : Evolves s s') : s'.Gated := by
  refine h.of_contexts (by rw [only.gates]) ?_ ?_ ?_ evolves.context
  all_goals rw [only.registry]
  exact List.Subset.refl _

theorem Gated.apply (o : Operation) (silent : o.handler? = none) (hs : s.Consistent) (h : s.Gated) :
    (o.apply s).Gated := by
  cases o with
  | lookup category => exact h.lookup hs
  | removeLogger category => exact h.of_contexts rfl rfl rfl List.filter_sublist.subset fun _ => rfl
  | bind t categories => exact h.bind hs
  | unbind t => exact h.unbind hs
  | setGate level =>
    have registry : (s.setRegistryLevel level).registry = s.registry := registry_setGate
    have gates : (s.setRegistryLevel level).gates.size = s.gates.size := by
      rw [setRegistryLevel, gates_setGate, Array.size_setIfInBounds]
    have loggers (id : LoggerId) : (s.setRegistryLevel level).logger? id = s.logger? id := by
      rw [logger?, setRegistryLevel, loggers_setGate, logger?]
    refine h.of_contexts gates ?_ ?_ ?_ fun id => congrArg _ (loggers id)
    all_goals rw [Operation.apply, registry]
    exact List.Subset.refl _
  | rename id label => exact h.of_onlyLoggers (.modifyLogger ..) (.rename id label s)
  | add id t => exact h.of_onlyLoggers (.addTarget ..) (.addTarget id t s)
  | remove id t => exact h.of_onlyLoggers (.removeTarget ..) (.removeTarget id t s)
  | log h id call => cases silent

/-- The state in which a registry alone decides what its loggers do. -/
structure Settled (s : Router) : Prop where
  consistent : s.Consistent
  agrees : ∀ t, Agrees t s
  gated : s.Gated

theorem Settled.silent (hs : s.Settled) (same : SameRouting s s') : s'.Settled where
  consistent := hs.consistent.silent same
  agrees t := (hs.agrees t).silent same
  gated := hs.gated.silent same

theorem Settled.apply (o : Operation) (silent : o.handler? = none) (indirect : o.direct? = none)
    (hs : s.Settled) : (o.apply s).Settled where
  consistent := hs.consistent.apply o silent
  agrees t := (hs.agrees t).apply o silent (by simp [indirect]) hs.consistent
  gated := hs.gated.apply o silent hs.consistent

theorem Operation.Harmless.direct? (h : o.Harmless) : o.direct? = none := by
  cases o <;> first | rfl | cases h

theorem Reaches.settled (run : Reaches Operation.Harmless s s') (hs : s.Settled) : s'.Settled :=
  run.preserves (fun _ _ same hs => hs.silent same)
    (fun o _ harmless silent hs => hs.apply o silent harmless.direct?) hs

structure SameSetup (s s' : Router) : Prop where
  bindings : s'.registry.bindings = s.registry.bindings
  level : s'.registryLevel = s.registryLevel

theorem SameSetup.trans {s'' : Router} (h : SameSetup s s') (h' : SameSetup s' s'') : SameSetup s s'' :=
  ⟨h'.bindings.trans h.bindings, h'.level.trans h.level⟩

theorem SameRouting.sameSetup (same : SameRouting s s') : SameSetup s s' where
  bindings := by rw [same.registry]
  level := by simp only [registryLevel, gateLevel]; rw [same.registry, same.gates]

theorem SameSetup.lookup (category : String) (s : Router) : SameSetup s (s.lookup category).2 := by
  cases known : s.registered? category with
  | some id => rw [lookup_of_some known]; exact ⟨rfl, rfl⟩
  | none =>
    have registry := registry_lookup_of_none known
    constructor
    · rw [registry]
    · simp only [registryLevel, gateLevel]
      rw [registry, gates_lookup]

theorem Reaches.sameSetup (run : Reaches Operation.Harmless s s') : SameSetup s s' := by
  refine run.preserves (P := SameSetup s) (fun _ _ same h => h.trans same.sameSetup) ?_ ⟨rfl, rfl⟩
  intro o s' harmless silent h
  cases o with
  | lookup category => exact h.trans (.lookup category s')
  | log h id call => cases silent
  | _ => cases harmless

theorem Settled.operate (hs : s.Settled) (restrained : o.Restrained) : (o.apply s).Settled := by
  cases o with
  | log h id call =>
    exact dispatch_preserves (fun o s hs => hs.silent (.observe o s))
      (fun t e r hr => (restrained.2 h rfl t e r).settled hr) hs
  | _ => exact hs.apply _ rfl restrained.1

theorem SameSetup.dispatch {h : Handler} (call : Call)
    (harmless : ∀ t e r, Reaches Operation.Harmless r (h t e r).2) : SameSetup s (s.dispatch h id call) :=
  dispatch_preserves (P := SameSetup s) (fun o s h => h.trans (SameRouting.observe o s).sameSetup)
    (fun t e r h => h.trans (harmless t e r).sameSetup) ⟨rfl, rfl⟩

structure Recalls (start : Level) (ops : List Operation) (s : Router) : Prop where
  routes : ∀ t key, s.routes t key = true ↔
    ∃ categories, lastBinding t ops = some categories ∧ (categories = [] ∨ key ∈ categories)
  level : s.registryLevel = lastGate start ops

theorem Recalls.of_sameSetup {ops' : List Operation} (h : Recalls start ops s) (same : SameSetup s s')
    (bindings : ∀ t, lastBinding t ops' = lastBinding t ops) (gate : lastGate start ops' = lastGate start ops) :
    Recalls start ops' s' where
  routes t key := by rw [routes_congr same.bindings, bindings]; exact h.routes t key
  level := by rw [same.level, gate]; exact h.level

theorem Recalls.newRegistry (level : Level) (renderer : Renderer) (reporter : Reporter) (s : Router) :
    Recalls level [] (s.newRegistry level renderer reporter) where
  routes := by simp [Router.newRegistry, Router.routes, lastBinding]
  level := by simp [Router.newRegistry, newGate, registryLevel, gateLevel, lastGate]

theorem Recalls.fresh (targets : Array TargetState) (level : Level) (renderer : Renderer) (reporter : Reporter) :
    Recalls level [] (fresh targets level renderer reporter) := .newRegistry level renderer reporter _

theorem Recalls.bind {categories : List String} (h : Recalls start ops s) :
    Recalls start (.bind t categories :: ops) (s.bind t categories) where
  routes u key := by
    rw [routes_bind, lastBinding]
    by_cases e : u = t
    · simp [e, Binding.covers]
    · rw [if_neg e, if_neg (Ne.symm e)]
      exact h.routes u key
  level := by
    rw [registryLevel, gateLevel]
    rw [registry_bind, (OnlyLoggers.bind t categories s).gates]
    exact h.level

theorem Recalls.unbind (h : Recalls start ops s) : Recalls start (.unbind t :: ops) (s.unbind t) where
  routes u key := by
    rw [routes_unbind, lastBinding]
    by_cases e : u = t
    · simp [e]
    · rw [if_neg e, if_neg (Ne.symm e)]
      exact h.routes u key
  level := by
    rw [registryLevel, gateLevel]
    rw [registry_unbind, (OnlyLoggers.unbind t s).gates]
    exact h.level

theorem Recalls.setRegistryLevel (hs : s.Gated) (h : Recalls start ops s) :
    Recalls start (.setGate level :: ops) (s.setRegistryLevel level) where
  routes t key := by
    have same : (s.setRegistryLevel level).routes t key = s.routes t key :=
      routes_congr (congrArg (·.bindings) registry_setGate)
    rw [same, h.routes]
    rfl
  level := by
    rw [registryLevel, Router.setRegistryLevel, registry_setGate]
    exact gateLevel_setGate hs.index

theorem Recalls.operate (hs : s.Settled) (h : Recalls start ops s) (restrained : o.Restrained) :
    Recalls start (o :: ops) (o.apply s) := by
  cases o with
  | lookup category => exact h.of_sameSetup (.lookup category s) (fun _ => rfl) rfl
  | removeLogger category => exact h.of_sameSetup ⟨rfl, rfl⟩ (fun _ => rfl) rfl
  | bind t categories => exact h.bind
  | unbind t => exact h.unbind
  | setGate level => exact h.setRegistryLevel hs.gated
  | rename id label => exact h.of_sameSetup ⟨rfl, rfl⟩ (fun _ => rfl) rfl
  | add id t => cases restrained.1
  | remove id t => cases restrained.1
  | log h' id call => exact h.of_sameSetup (.dispatch call (restrained.2 h' rfl)) (fun _ => rfl) rfl

theorem Ran.settled (run : Ran ops s s') (hs : s.Settled) : s'.Settled := by
  induction run with
  | refl s => exact hs
  | silent _ same ih => exact (ih hs).silent same
  | step _ restrained ih => exact (ih hs).operate restrained

theorem Ran.foldr (ops : List Operation) (restrained : ∀ o ∈ ops, o.Restrained) (s : Router) :
    Ran ops s (ops.foldr Operation.apply s) := by
  induction ops with
  | nil => exact .refl s
  | cons o ops ih =>
    exact .step (ih fun o mem => restrained o (List.mem_cons_of_mem _ mem)) (restrained o List.mem_cons_self)

theorem Ran.recalls (run : Ran ops s s') (hs : s.Settled) (h : Recalls start [] s) : Recalls start ops s' := by
  induction run with
  | refl s => exact h
  | silent _ same ih => exact (ih hs h).of_sameSetup same.sameSetup (fun _ => rfl) rfl
  | step run restrained ih => exact (ih hs h).operate (run.settled hs) restrained

theorem targets_report {reporter : Reporter} {e : Event} {error : TargetError} :
    (s.report reporter t e error).targets = s.targets := by
  cases reporter <;> rfl

theorem levelOf_turn {h : Handler} {reporter : Reporter} {verified : Bool} {e : Event}
    (keeps : ∀ t e r, (h t e r).2.levelOf u = r.levelOf u) :
    (s.turn h reporter verified e t).levelOf u = s.levelOf u := by
  rw [turn, deliver]
  split
  · dsimp only
    split
    · exact keeps t e s
    · rw [levelOf, target?, targets_report]
      exact keeps t e s
  · rfl

theorem admits_turn {h : Handler} {reporter : Reporter} {verified : Bool} {e : Event}
    (admitted : s.admits verified e t = true) :
    (s.turn h reporter verified e t).admits verified e u = (h t e s).2.admits verified e u := by
  rw [turn_of_admits admitted, deliver]
  dsimp only
  split
  · rfl
  · rw [admits, levelOf, target?, targets_report]
    rfl

theorem targets_invocationsFrom {h : Handler} {reporter : Reporter} {verified : Bool} {e : Event}
    (ts : List Target) (s : Router)
    (steady : ∀ i ∈ invocationsFrom h reporter verified e ts s, ∀ t, [i.target, t].Sublist ts →
      (h i.target i.event i.found).2.admits verified e t = i.found.admits verified e t) :
    (invocationsFrom h reporter verified e ts s).map (·.target) = ts.filter (s.admits verified e) := by
  induction ts generalizing s with
  | nil => rfl
  | cons t ts ih =>
    rw [invocationsFrom] at steady ⊢
    rw [List.filter_cons]
    by_cases admitted : s.admits verified e t = true
    · rw [if_pos admitted] at steady ⊢
      rw [if_pos admitted, List.map_cons, ih]
      · refine congrArg (t :: ·) (List.filter_congr fun u mem => ?_)
        have first := steady _ List.mem_cons_self u ((List.singleton_sublist.2 mem).cons_cons t)
        rw [admits_turn admitted, first]
      · exact fun i mem u later => steady i (List.mem_cons_of_mem _ mem) u (later.cons t)
    · rw [if_neg admitted] at steady ⊢
      rw [if_neg admitted]
      rw [turn_of_not_admits admitted] at steady ⊢
      exact ih s fun i mem u later => steady i mem u (later.cons t)

theorem levelOf_begun {call : Call} : (s.begun l call).levelOf u = s.levelOf u :=
  begun_preserves (P := fun r => r.levelOf u = s.levelOf u) (fun _ _ same => same) rfl

theorem admits_begun {verified : Bool} {e : Event} {call : Call} :
    (s.begun l call).admits verified e = s.admits verified e := by
  funext u
  rw [admits, levelOf_begun, admits]

theorem isIdle_eq_false {call : Call} : ¬ s.isIdle l call = true ↔
    l.targets.members ≠ [] ∧ (call.verified = false ∨ s.gateLevel l.context.gate ≤ call.level) := by
  rw [isIdle_iff, not_or, not_and, Level.not_lt, Bool.eq_false_iff, imp_iff_not_or]

theorem targets_invocations {h : Handler} {call : Call} (found : s.logger? id = some l)
    (steady : ∀ i ∈ s.invocations h id call, ∀ t, [i.target, t].Sublist l.targets.members →
      (h i.target i.event i.found).2.admits call.verified (l.event call) t =
        i.found.admits call.verified (l.event call) t) :
    (s.invocations h id call).map (·.target) =
      if call.verified = false ∨ s.gateLevel l.context.gate ≤ call.level then
        l.targets.members.filter (s.admits call.verified (l.event call))
      else [] := by
  by_cases idle : s.isIdle l call = true
  · rw [invocations_of_idle found idle]
    by_cases nobody : l.targets.members = []
    · simp [nobody]
    · rw [if_neg fun pass => isIdle_eq_false.2 ⟨nobody, pass⟩ idle]
      rfl
  · rw [invocations_of_busy found idle] at steady ⊢
    rw [targets_invocationsFrom _ _ steady, if_pos (isIdle_eq_false.1 idle).2, admits_begun]

theorem count_invocationsFrom {h : Handler} {reporter : Reporter} {e : Event} (ts : List Target) (s : Router)
    (keeps : ∀ t e r, (h t e r).2.levelOf u = r.levelOf u) :
    ((invocationsFrom h reporter true e ts s).map (·.target)).count u =
      if s.levelOf u ≤ e.level then ts.count u else 0 := by
  induction ts generalizing s with
  | nil => simp [invocationsFrom]
  | cons t ts ih =>
    rw [invocationsFrom, List.count_cons]
    have rest := ih (s.turn h reporter true e t)
    rw [levelOf_turn keeps] at rest
    by_cases admitted : s.admits true e t = true
    · rw [if_pos admitted, List.map_cons, List.count_cons, rest]
      have low : s.levelOf t ≤ e.level := by simpa [admits] using admitted
      grind
    · rw [if_neg admitted, rest]
      have high : ¬ s.levelOf t ≤ e.level := by simpa [admits] using admitted
      grind

theorem Settled.found (hs : (s.lookup category).2.Settled) :
    ∃ l, (s.lookup category).2.logger? (s.lookup category).1 = some l ∧
      l.context.gate = .shared (s.lookup category).2.registry.gate ∧
      ∀ t, t ∈ l.targets.members ↔ (s.lookup category).2.routes t category = true := by
  have mem : (category, (s.lookup category).1) ∈ (s.lookup category).2.registry.loggers :=
    mem_of_registered registered?_lookup
  obtain ⟨l, found⟩ := Option.isSome_iff_exists.1 (logger?_isSome.2 (hs.consistent.made _ mem))
  refine ⟨l, found, hs.gated.loggers _ mem l found, fun t => ?_⟩
  rw [← targetsOf_eq found]
  exact hs.agrees t _ mem

theorem count_invocations {h : Handler} {call : Call} (found : s.logger? id = some l)
    (distinct : l.targets.members.Nodup) (verified : call.verified = true)
    (keeps : ∀ u e r, (h u e r).2.levelOf t = r.levelOf t) :
    ((s.invocations h id call).map (·.target)).count t =
      if t ∈ l.targets.members ∧ s.gateLevel l.context.gate ≤ call.level ∧ s.levelOf t ≤ call.level then 1
      else 0 := by
  by_cases idle : s.isIdle l call = true
  · rw [invocations_of_idle found idle, if_neg]
    · rfl
    · rintro ⟨mem, pass, -⟩
      rcases isIdle_iff.1 idle with nobody | ⟨-, low⟩
      · exact List.not_mem_nil (nobody ▸ mem)
      · exact Level.not_lt.2 pass low
  · have pass : s.gateLevel l.context.gate ≤ call.level :=
      Level.not_lt.1 fun low => idle (isIdle_iff.2 (.inr ⟨verified, low⟩))
    have level : (l.event call).level = call.level := rfl
    rw [invocations_of_busy found idle, verified, count_invocationsFrom _ _ keeps, levelOf_begun,
      distinct.count, level]
    grind

/-- A log call through the logger of a category, made now or long ago, calls once each the targets whose last binding
stands and covers the category, if neither the level last set nor their own is above the call's, and no others. -/
theorem log_reaches_bound (targets : Array TargetState) (start : Level) (renderer : Renderer)
    (reporter : Reporter) (ops : List Operation) (s : Router)
    (run : Ran ops (fresh targets start renderer reporter) s) (category : String) (h : Handler) (call : Call)
    (verified : call.verified = true) (t : Target) (keeps : ∀ u e r, (h u e r).2.levelOf t = r.levelOf t) :
    let id := (s.lookup category).1
    let s' := (s.lookup category).2
    let called := (s'.invocations h id call).map (·.target)
    let reached := (∃ categories, lastBinding t ops = some categories ∧
        (categories = [] ∨ category ∈ categories)) ∧
      lastGate start ops ≤ call.level ∧ s.levelOf t ≤ call.level
    (reached → called.count t = 1) ∧ (¬ reached → called.count t = 0) ∧
      s'.IsTrace h id call (s'.invocations h id call) := by
  intro id s' called reached
  have settled : (fresh targets start renderer reporter).Settled := ⟨.fresh .., fun _ => .fresh, .fresh ..⟩
  have run : Ran (.lookup category :: ops) (fresh targets start renderer reporter) s' :=
    .step run ⟨rfl, fun _ calls => nomatch calls⟩
  -- the lookup is one more operation of the run, so a logger made by it is no different from an old one
  have hs := run.settled settled
  have recalls := run.recalls settled (.fresh targets start renderer reporter)
  obtain ⟨l, found, shared, held⟩ := hs.found
  have gate : s'.gateLevel l.context.gate = lastGate start ops := by rw [shared]; exact recalls.level
  have level : s'.levelOf t = s.levelOf t := by simp only [levelOf, target?]; rw [targets_lookup]
  have members : t ∈ l.targets.members ↔ ∃ categories, lastBinding t ops = some categories ∧
      (categories = [] ∨ category ∈ categories) := (held t).trans (recalls.routes t category)
  have same : reached ↔ t ∈ l.targets.members ∧ s'.gateLevel l.context.gate ≤ call.level ∧
      s'.levelOf t ≤ call.level := by rw [gate, level, members]
  have count := count_invocations (t := t) found (hs.consistent.held _ l found) verified keeps
  exact ⟨fun yes => count.trans (if_pos (same.1 yes)), fun no => count.trans (if_neg (mt same.2 no)),
    isTrace_invocations⟩

/-- A logger is made, bound, removed, made again and renamed, and the gate is closed and opened; the target
that was unbound is not called. -/
theorem log_reaches_rebound :
    let a : Target := ⟨0, "a"⟩
    let b : Target := ⟨1, "b"⟩
    let h : Handler := fun _ e s => (.accepted, s.note (.forwarded e))
    let ops := [.setGate .info, .unbind b, .rename 1 "db", .lookup "net", .removeLogger "net", .bind b [],
      .log h 0 ⟨.warn, "up", {}, true⟩, .setGate .error, .bind a ["net"], .lookup "net"]
    let s := ops.foldr Operation.apply (fresh #[⟨.all, .forwarding⟩, ⟨.all, .forwarding⟩] .all {} .noting)
    let called := (s.invocations h 1 ⟨.info, "up", {}, true⟩).map (·.target)
    (s.lookup "net").1 = 1 ∧ s.categoryOf 1 = "db" ∧ called.count a = 1 ∧ called.count b = 0 := by
  intro a b h ops s called
  have answers (t e r) : Reaches Operation.Harmless r (h t e r).2 := .silent (.refl r) ⟨rfl, rfl, rfl⟩
  have run : Ran ops (fresh #[⟨.all, .forwarding⟩, ⟨.all, .forwarding⟩] .all {} .noting) s := by
    refine .foldr ops ?_ _
    simpa [ops, Operation.Restrained, Operation.direct?, Operation.handler?] using answers
  have reached := log_reaches_bound _ _ _ _ ops s run "net" h ⟨.info, "up", {}, true⟩ rfl
  have known : s.lookup "net" = (1, s) := lookup_of_some (by decide)
  have bound : lastBinding a ops = some ["net"] := by decide
  have unbound : lastBinding b ops = none := by decide
  simp only [known] at reached
  refine ⟨by rw [known], by decide, (reached a fun _ _ _ => rfl).1 ?_,
    (reached b fun _ _ _ => rfl).2.1 ?_⟩
  · exact ⟨⟨["net"], bound, by decide⟩, by decide, by decide⟩
  · simp [unbound]

end LogRouting.Router
