import LogRouting.Proofs.Configuration.Effects
import LogRouting.Relay

namespace LogRouting

theorem Level.le_none_of_parse? {text : String} {l : Level} (h : Level.parse? text = some l) : l ≤ .none := by
  have bound : ∀ p ∈ Level.named, p.2 ≤ Level.none := by decide
  obtain ⟨p, found, rfl⟩ := Option.map_eq_some_iff.1 h
  exact bound p (List.mem_of_find?_eq_some found)

theorem Relay.splitLevel_named {fallback : Level} (line : List Char)
    (named : ∃ text, Level.parse? text = some fallback) :
    ∃ text, Level.parse? text = some (Relay.splitLevel fallback line).1 := by
  unfold Relay.splitLevel
  split
  · next rest =>
    cases Text.splitAt? ']' rest with
    | none => exact named
    | some parts =>
      obtain ⟨name, message⟩ := parts
      cases found : Level.ofName? (Text.trim name) with
      | none => simpa [found] using named
      | some level => exact ⟨String.ofList name, by simp [Level.parse?, found]⟩
  · exact named

namespace Router

/-- All loggers there are, also those that left the registry, have the registry's gate. -/
structure OneGate (s : Router) : Prop where
  registry : s.registry.context.gate = .shared s.registry.gate
  loggers : ∀ id l, s.logger? id = some l → l.context.gate = .shared s.registry.gate

variable {s s' : Router} {id : LoggerId} {l : Logger} {call : Call} {h : Handler}

theorem OneGate.of_contexts (hs : s.OneGate) (gate : s'.registry.gate = s.registry.gate)
    (context : s'.registry.context = s.registry.context)
    (contexts : ∀ id, (s'.logger? id).map (·.context) = (s.logger? id).map (·.context)) : s'.OneGate where
  registry := by rw [context, gate]; exact hs.registry
  loggers := by
    intro id l' found'
    have same := contexts id
    rw [found', Option.map_some] at same
    obtain ⟨l, found, eq⟩ := Option.map_eq_some_iff.1 same.symm
    rw [gate, ← eq]
    exact hs.loggers id l found

theorem OneGate.lookup {category : String} (consistent : s.Consistent) (hs : s.OneGate) :
    (s.lookup category).2.OneGate := by
  cases known : s.registered? category with
  | some id => rwa [lookup_of_some known]
  | none =>
    have registry := registry_lookup_of_none known
    refine ⟨by rw [registry]; exact hs.registry, fun i l found => ?_⟩
    rw [logger?_lookup_of_none known consistent.bound] at found
    rw [registry]
    split at found
    · cases found
      exact hs.registry
    · exact hs.loggers i l found

theorem OneGate.apply (o : Operation) (silent : o.handler? = none) (consistent : s.Consistent)
    (hs : s.OneGate) : (o.apply s).OneGate := by
  cases o with
  | lookup category => exact hs.lookup consistent
  | removeLogger category => exact hs.of_contexts rfl rfl fun _ => rfl
  | bind t categories =>
    refine hs.of_contexts ?_ ?_ (Evolves.bind t categories consistent.ids).context
    all_goals rw [Operation.apply, registry_bind]
  | unbind t =>
    refine hs.of_contexts ?_ ?_ (Evolves.unbind t consistent.ids).context
    all_goals rw [Operation.apply, registry_unbind]
  | setGate level =>
    refine hs.of_contexts ?_ ?_ fun id => ?_
    · rw [Operation.apply, registry_setRegistryLevel]
    · rw [Operation.apply, registry_setRegistryLevel]
    · rw [Operation.apply, logger?, setRegistryLevel, loggers_setGate, logger?]
  | rename id label => exact hs.of_contexts rfl rfl (Evolves.rename id label s).context
  | add id t =>
    have same := (OnlyLoggers.addTarget id t s).registry
    exact hs.of_contexts (congrArg (·.gate) same) (congrArg (·.context) same) (Evolves.addTarget id t s).context
  | remove id t =>
    have same := (OnlyLoggers.removeTarget id t s).registry
    exact hs.of_contexts (congrArg (·.gate) same) (congrArg (·.context) same)
      (Evolves.removeTarget id t s).context
  | log h id call => cases silent

theorem Reaches.oneGate {allowed : Operation → Prop} (run : Reaches allowed s s') (consistent : s.Consistent)
    (hs : s.OneGate) : s'.OneGate := by
  refine (run.preserves (P := fun s => s.Consistent ∧ s.OneGate) ?_ ?_ ⟨consistent, hs⟩).2
  · intro r r' same ⟨consistent, hs⟩
    refine ⟨consistent.silent same, hs.of_contexts ?_ ?_ fun id => ?_⟩
    · rw [same.registry]
    · rw [same.registry]
    · rw [logger?, same.loggers, logger?]
  · exact fun o r _ silent ⟨consistent, hs⟩ =>
      ⟨consistent.apply o silent, hs.apply o silent consistent⟩

theorem OneGate.fresh (targets : Array TargetState) (level : Level) (renderer : Renderer)
    (reporter : Reporter) : (fresh targets level renderer reporter).OneGate :=
  ⟨rfl, fun _ _ found => nomatch found⟩

theorem reaches_start {allowed : Operation → Prop} (indirect : ∀ o : Operation, o.direct? = none → allowed o)
    (c : Settings) : Reaches allowed (fresh #[] c.level ⟨c.printer.maxLen, false⟩ .tracing) (empty.start c) := by
  refine .silent (.configure indirect c (.silent (.refl _) ⟨?_, ?_, ?_⟩)) (.observe ..)
  all_goals rfl

theorem admitted_of_mem_invocations (verified : call.verified = true) :
    ∀ i ∈ s.invocations h id call, i.found.levelOf i.target ≤ call.level := by
  intro i mem
  cases found : s.logger? id with
  | none => simp [invocations_of_none found] at mem
  | some l =>
    by_cases idle : s.isIdle l call = true
    · simp [invocations_of_idle found idle] at mem
    · rw [invocations_of_busy found idle, invocationsFrom_eq_map, List.mem_map] at mem
      obtain ⟨k, taken, rfl⟩ := mem
      have admitted := admits_iff.1 (List.mem_filter.1 taken).2
      exact Level.not_lt.1 fun low => admitted ⟨verified, low⟩

/-- A gate at the highest level that has a name drops all verified calls and lines at other levels that can be written
by name, and a target whose own level is so high is reached at no other level. -/
theorem closed_gate_admits_none (targets : Array TargetState) (start : Level) (renderer : Renderer)
    (reporter : Reporter) (s : Router)
    (run : Reaches (fun _ => True) (fresh targets start renderer reporter) s) (h : Handler) (id : LoggerId)
    (l : Logger) (found : s.logger? id = some l) :
    (s.registryLevel = .none → ∀ call text, call.verified = true → Level.parse? text = some call.level →
      (call.level ≠ .none → s.dispatch h id call = s ∧ s.invocations h id call = []) ∧
      (call.level = .none → (s.isIdle l call = true ↔ l.targets.members = []))) ∧
    (s.registryLevel = .none → ∀ relay : Relay.State, relay.router = s → relay.logger = id →
      ∀ text, Level.parse? text = some relay.fallback →
      ∀ line : String, (Relay.splitLevel relay.fallback line.toList).1 ≠ .none →
        relay.relay line = { relay with relayed := relay.relayed + 1 }) ∧
    (∀ call text, call.verified = true → Level.parse? text = some call.level →
      ∀ i ∈ s.invocations h id call, .none ≤ i.found.levelOf i.target →
        call.level = .none ∧ i.found.levelOf i.target = .none) ∧
    (∀ call, s.IsTrace h id call (s.invocations h id call)) := by
  have gate : s.gateLevel l.context.gate = s.registryLevel := by
    rw [(run.oneGate (.fresh ..) (.fresh ..)).loggers id l found]
    rfl
  have dropped (closed : s.registryLevel = .none) (call : Call) (verified : call.verified = true)
      (text : String) (named : Level.parse? text = some call.level) (below : call.level ≠ .none) :
      s.isIdle l call = true := by
    refine isIdle_iff.2 (.inr ⟨verified, ?_⟩)
    rw [gate, closed]
    exact Level.not_le.1 fun reaches => below (Level.le_antisymm (Level.le_none_of_parse? named) reaches)
  refine ⟨fun closed call text verified named => ⟨fun below => ?_, fun level => ?_⟩,
    fun closed relay here same text named line below => ?_, fun call text verified named i mem high => ?_,
    fun _ => isTrace_invocations⟩
  · have idle := dropped closed call verified text named below
    exact ⟨dispatch_of_idle found idle, invocations_of_idle found idle⟩
  · rw [isIdle_iff, gate, closed, level]
    simp only [or_iff_left_iff_imp, and_imp]
    exact fun _ low => absurd low (by decide)
  · obtain ⟨text, named⟩ := Relay.splitLevel_named line.toList ⟨text, named⟩
    subst here same
    rw [Relay.State.relay]
    exact congrArg (fun router => { relay with router := router, relayed := relay.relayed + 1 })
      (dispatch_of_idle found (dropped closed ⟨_, _, {}, true⟩ rfl text named below))
  · have low := admitted_of_mem_invocations verified i mem
    have bound := Level.le_none_of_parse? named
    have level : call.level = .none := Level.le_antisymm bound (UInt16.le_trans high low)
    exact ⟨level, Level.le_antisymm (level ▸ low) high⟩

/-- A runtime with its gate closed, and a relay whose lines are written at a level below. -/
theorem closed_gate_drops_info :
    let s := Relay.begin (empty.start { level := .none }) "stdin" .info
    s.router.registryLevel = .none ∧ Level.parse? "info" = some s.fallback ∧
    s.relay "[error] lost" = { s with relayed := 1 } := by
  intro s
  have run : Reaches (fun _ => True) (fresh #[] .none ⟨none, false⟩ .tracing) s.router :=
    .step (o := .lookup "stdin") (reaches_start (fun _ _ => trivial) { level := .none }) trivial
      (fun _ given => nomatch given)
  have closed : s.router.registryLevel = .none := by decide +kernel
  have named : Level.parse? "info" = some s.fallback := by decide +kernel
  obtain ⟨l, found⟩ := Option.isSome_iff_exists.1 (by decide +kernel : (s.router.logger? s.logger).isSome)
  exact ⟨closed, named, (closed_gate_admits_none #[] .none ⟨none, false⟩ .tracing s.router run (handler 0) s.logger l
    found).2.1 closed s rfl rfl "info" named "[error] lost" (by decide +kernel)⟩

/-- The gate is no bar to its own level, which a line can give as well. -/
theorem closed_gate_passes_none :
    let c : Settings := { level := .none }
    let s := Relay.begin (empty.start c) "stdin" .info
    c.defects = [] ∧ s.router.registryLevel = .none ∧ Level.parse? "none" = some .none ∧
    (s.router.invocations (handler s.router.weight) s.logger ⟨.none, "boom", {}, true⟩).length = 1 ∧
    (s.relay "[none] boom").router.journal =
      .noted (.forwarded ⟨"stdin", "boom", .none, none⟩) :: .counted (.events .none) :: s.router.journal := by
  decide +kernel

end Router
end LogRouting
