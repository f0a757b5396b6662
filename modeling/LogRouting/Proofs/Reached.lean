import LogRouting.Proofs.Arising

namespace LogRouting.Router

inductive Knows (s : Router) (t : Target) : Prop
  | bound (b : Binding) : b ∈ s.registry.bindings → b.target = t → Knows s t
  | held (id : LoggerId) : t ∈ s.targetsOf id → Knows s t
  | configured (name : String) : (name, t) ∈ s.configuredTargets → Knows s t
  | named (id : String) : (id, t) ∈ s.names.targets → Knows s t

/-- A serial number is enough to tell the known targets from each other and from those to come. -/
structure Genuine (s : Router) : Prop where
  made : ∀ t, s.Knows t → t.serial < s.targets.size
  one : ∀ t u, s.Knows t → s.Knows u → t.serial = u.serial → t = u

/-- Afterwards nothing stands anywhere but what stood there before and the targets of a list. -/
structure Learns (ts : List Target) (s s' : Router) : Prop where
  size : s.targets.size ≤ s'.targets.size
  bound : ∀ b ∈ s'.registry.bindings, b ∈ s.registry.bindings ∨ b.target ∈ ts
  held : ∀ id, ∀ t ∈ s'.targetsOf id, t ∈ s.targetsOf id ∨ t ∈ ts
  configured : ∀ p ∈ s'.configuredTargets, p ∈ s.configuredTargets ∨ p.2 ∈ ts
  named : ∀ p ∈ s'.names.targets, p ∈ s.names.targets ∨ p.2 ∈ ts

def idle : Handler := fun _ _ s => (.accepted, s)

/-- The states in which a program finds itself between actions, and a target in the course of them. -/
inductive Reached : Router → Prop
  | empty : Reached empty
  | perform (a : Action) : Reached s → Reached (perform idle a s).2
  | observe (o : Observation) : Reached s → Reached (s.observe o)
  | react (t : Target) (sink : Sink) :
      Reached s → Reached (s.modifyTarget t fun state => { state with sink := sink })

variable {s s' s'' : Router} {t : Target} {ts ts' : List Target} {id : LoggerId} {name : String} {h : Handler}
  {call : Call} {settings : TargetSettings}

theorem Learns.knows (learns : Learns ts s s') (known : s'.Knows t) : s.Knows t ∨ t ∈ ts := by
  cases known with
  | bound b mem same => exact (learns.bound b mem).imp (.bound b · same) (same ▸ ·)
  | held id mem => exact (learns.held id t mem).imp_left (.held id)
  | configured name mem => exact (learns.configured _ mem).imp_left (.configured name)
  | named id mem => exact (learns.named _ mem).imp_left (.named id)

theorem Learns.of_same (size : s.targets.size ≤ s'.targets.size)
    (bound : s'.registry.bindings = s.registry.bindings) (loggers : s'.loggers = s.loggers)
    (configured : s'.configured = s.configured) (named : s'.names.targets = s.names.targets) :
    Learns ts s s' where
  size := size
  bound b mem := .inl (bound ▸ mem)
  held id t mem := by
    rw [targetsOf, logger?, loggers] at mem
    exact .inl mem
  configured p mem := by
    rw [configuredTargets, configured] at mem
    exact .inl mem
  named p mem := .inl (named ▸ mem)

theorem Learns.refl (s : Router) : Learns ts s s := .of_same (Nat.le_refl _) rfl rfl rfl rfl

theorem Learns.mono (learns : Learns ts s s') (sub : ts ⊆ ts') : Learns ts' s s' where
  size := learns.size
  bound b mem := (learns.bound b mem).imp_right (sub ·)
  held id t mem := (learns.held id t mem).imp_right (sub ·)
  configured p mem := (learns.configured p mem).imp_right (sub ·)
  named p mem := (learns.named p mem).imp_right (sub ·)

theorem Learns.trans (first : Learns ts s s') (next : Learns ts s' s'') : Learns ts s s'' where
  size := first.size.trans next.size
  bound b mem := (next.bound b mem).elim (first.bound b) .inr
  held id t mem := (next.held id t mem).elim (first.held id t) .inr
  configured p mem := (next.configured p mem).elim (first.configured p) .inr
  named p mem := (next.named p mem).elim (first.named p) .inr

theorem Learns.foldl {α : Type} {f : Router → α → Router} (xs : List α)
    (each : ∀ x ∈ xs, ∀ s, Learns ts s (f s x)) : Learns ts s (xs.foldl f s) :=
  List.foldlRecOn (motive := Learns ts s) _ _ (.refl s) fun s' learns x mem => learns.trans (each x mem s')

theorem Learns.of_onlyLoggers (only : OnlyLoggers s s')
    (held : ∀ id, ∀ t ∈ s'.targetsOf id, t ∈ s.targetsOf id ∨ t ∈ ts) : Learns ts s s' where
  size := only.targets ▸ Nat.le_refl _
  bound b mem := .inl (only.registry ▸ mem)
  held := held
  configured p mem := by
    rw [configuredTargets, only.configured] at mem
    exact .inl mem
  named p mem := .inl (only.names ▸ mem)

theorem Learns.addTarget (id : LoggerId) (t : Target) (s : Router) : Learns [t] s (s.addTarget id t) := by
  refine .of_onlyLoggers (.addTarget id t s) fun i u mem => ?_
  by_cases same : u = t
  · exact .inr (List.mem_singleton.2 same)
  · exact .inl ((mem_targetsOf_addTarget same).1 mem)

theorem Learns.removeTarget (id : LoggerId) (t : Target) (s : Router) : Learns ts s (s.removeTarget id t) := by
  refine .of_onlyLoggers (.removeTarget id t s) fun i u mem => .inl ?_
  rw [targetsOf, logger?_removeTarget] at mem
  split at mem
  · cases found : s.logger? i with
    | none => simp [found] at mem
    | some l =>
      rw [found] at mem
      exact targetsOf_eq found ▸ (TargetSet.mem_remove.1 mem).1
  · exact mem

theorem Learns.rename (id : LoggerId) (label : String) (s : Router) : Learns ts s (s.rename id label) :=
  .of_onlyLoggers (.modifyLogger ..) fun _ _ mem => .inl (targetsOf_rename ▸ mem)

theorem Learns.observe (o : Observation) (s : Router) : Learns ts s (s.observe o) :=
  .of_onlyLoggers (.observe o s) fun _ _ => .inl

theorem Learns.modifyTarget (t : Target) (f : TargetState → TargetState) (s : Router) :
    Learns ts s (s.modifyTarget t f) :=
  .of_same Array.size_modify.ge rfl rfl rfl rfl

theorem Learns.newTarget (name : String) (state : TargetState) (s : Router) :
    Learns ts s (s.newTarget name state).2 :=
  .of_same (by simp [Router.newTarget]) rfl rfl rfl rfl

theorem Learns.nameTarget (id : String) (t : Target) (s : Router) : Learns [t] s (s.nameTarget id t) := by
  refine ⟨Nat.le_refl _, fun _ => .inl, fun _ _ => .inl, fun _ => .inl, fun p mem => ?_⟩
  exact (List.mem_cons.1 mem).elim (fun same => .inr (same ▸ List.mem_singleton_self t)) .inl

theorem Learns.newLogger (category : String) (context : Context) (s : Router) :
    Learns ts s (s.newLogger ⟨category, {}, context⟩).2 := by
  refine ⟨Nat.le_refl _, fun _ => .inl, fun id t mem => .inl ?_, fun _ => .inl, fun _ => .inl⟩
  rw [targetsOf, logger?_newLogger] at mem
  split at mem
  · cases mem
  · exact mem

theorem Learns.setGate (index : Nat) (level : Level) (s : Router) : Learns ts s (s.setGate index level) := by
  have set : Learns ts s { s with gates := s.gates.set! index level } := .of_same (Nat.le_refl _) rfl rfl rfl rfl
  rw [Router.setGate]
  split
  · exact set
  · exact set.trans (.observe _ _)

theorem Learns.newRegistry (level : Level) (renderer : Renderer) (reporter : Reporter) (s : Router) :
    Learns ts s (s.newRegistry level renderer reporter) :=
  ⟨Nat.le_refl _, nofun, fun _ _ => .inl, nofun, fun _ => .inl⟩

theorem Learns.setBindings (t : Target) (categories : List String) (s : Router) :
    Learns [t] s
      (s.setRegistry fun r => { r with bindings := r.bindings.filter (!·.isFor t) ++ [⟨t, categories⟩] }) := by
  refine ⟨Nat.le_refl _, fun b mem => ?_, fun _ _ => .inl, fun _ => .inl, fun _ => .inl⟩
  rcases List.mem_append.1 mem with old | new
  · exact .inl (List.mem_of_mem_filter old)
  · exact .inr (List.mem_singleton.1 new ▸ List.mem_singleton_self t)

theorem Learns.bind (t : Target) (categories : List String) (s : Router) :
    Learns [t] s (s.bind t categories) := by
  refine (Learns.setBindings t categories s).trans (.trans (.foldl _ fun p _ s => ?_) (.observe _ _))
  dsimp only
  split
  · exact .addTarget p.2 t s
  · exact .removeTarget p.2 t s

theorem Learns.unbind (t : Target) (s : Router) : Learns ts s (s.unbind t) := by
  have fewer : Learns ts s (s.setRegistry fun r => { r with bindings := r.bindings.filter (!·.isFor t) }) :=
    ⟨Nat.le_refl _, fun _ mem => .inl (List.mem_of_mem_filter mem), fun _ _ => .inl, fun _ => .inl, fun _ => .inl⟩
  exact fewer.trans (.trans (.foldl _ fun p _ s => .removeTarget p.2 t s) (.observe _ _))

theorem Learns.lookup (key : String) (s : Router) :
    Learns (s.registry.bindings.map (·.target)) s (s.lookup key).2 := by
  cases known : s.registered? key with
  | some id => exact lookup_of_some known ▸ .refl s
  | none =>
    have furnished : Learns (s.registry.bindings.map (·.target)) s (s.furnish key) :=
      (Learns.newLogger key s.registry.context s).trans <| .foldl _ fun b mem s' =>
        (Learns.addTarget s.loggers.size b.target s').mono <|
          List.cons_subset.2 ⟨List.mem_map_of_mem (List.mem_of_mem_filter mem), List.nil_subset _⟩
    rw [lookup_of_none known]
    exact furnished.trans (.of_same (Nat.le_refl _) rfl rfl rfl rfl)

theorem Learns.dropTargets (wanted : List String) (s : Router) : Learns ts s (s.dropTargets wanted) := by
  have fewer : Learns ts s { s with configured := some (s.configuredTargets.filter (·.1 ∈ wanted)) } :=
    ⟨Nat.le_refl _, fun _ => .inl, fun _ _ => .inl, fun _ mem => .inl (List.mem_of_mem_filter mem), fun _ => .inl⟩
  exact fewer.trans (.foldl _ fun p _ s => .unbind p.2 s)

theorem Learns.configuredTarget (name : String) (level : Level) (s : Router) :
    Learns [s.chosen name] s (s.configuredTarget name level).2 := by
  rw [Router.configuredTarget, chosen, targetFor]
  cases s.configuredTargets.lookup name with
  | some t => exact .refl s
  | none =>
    refine (Learns.newTarget name ⟨level, .forwarding⟩ s).trans
      ⟨Nat.le_refl _, fun _ => .inl, fun _ _ => .inl, fun p mem => ?_, fun _ => .inl⟩
    refine (List.mem_append.1 mem).imp_right fun new => ?_
    rw [List.mem_singleton.1 new]
    exact List.mem_singleton_self _

theorem Learns.configureTarget (settings : TargetSettings) (s : Router) :
    Learns [s.chosen settings.name] s (s.configureTarget settings) := by
  have made := Learns.configuredTarget settings.name settings.level s
  rw [configureTarget_eq]
  exact (made.trans (.modifyTarget _ _ _)).trans (.bind _ _ _)

theorem Genuine.learn (hs : s.Genuine) (learns : Learns ts s s') (known : ∀ t ∈ ts, s.Knows t) : s'.Genuine := by
  have old (t : Target) (now : s'.Knows t) : s.Knows t := (learns.knows now).elim (fun old => old) (known t)
  constructor
  · exact fun t now => (hs.made t (old t now)).trans_le learns.size
  · exact fun t u now now' => hs.one t u (old t now) (old u now')

theorem Genuine.keep (hs : s.Genuine) (learns : Learns [] s s') : s'.Genuine :=
  hs.learn learns fun _ mem => absurd mem List.not_mem_nil

theorem Genuine.renew (hs : s.Genuine) (learns : Learns [⟨s.targets.size, name⟩] s s')
    (more : s.targets.size < s'.targets.size) : s'.Genuine := by
  have cases (t : Target) (now : s'.Knows t) : s.Knows t ∨ t = ⟨s.targets.size, name⟩ :=
    (learns.knows now).imp_right List.mem_singleton.1
  constructor
  · intro t now
    rcases cases t now with old | rfl
    · exact (hs.made t old).trans_le learns.size
    · exact more
  · intro t u now now' same
    rcases cases t now with old | rfl <;> rcases cases u now' with old' | rfl
    · exact hs.one t u old old' same
    · exact absurd same (hs.made t old).ne
    · exact absurd same.symm (hs.made u old').ne
    · rfl

theorem Genuine.target (hs : s.Genuine) (id name : String) (state : TargetState) :
    ((s.newTarget name state).2.nameTarget id (s.newTarget name state).1).Genuine := by
  have learns : Learns [⟨s.targets.size, name⟩] s
      ((s.newTarget name state).2.nameTarget id (s.newTarget name state).1) :=
    (Learns.newTarget name state s).trans (.nameTarget id _ _)
  refine hs.renew learns ?_
  simp [Router.nameTarget, Router.newTarget]

theorem Genuine.configureTarget (hs : s.Genuine) : (s.configureTarget settings).Genuine := by
  have learns := Learns.configureTarget settings s
  cases known : s.targetFor settings.name with
  | some t =>
    rw [chosen_of_some known] at learns
    exact hs.learn learns (by simpa using .configured settings.name (mem_of_targetFor known))
  | none =>
    rw [chosen_of_none known] at learns
    refine hs.renew learns ?_
    rw [configureTarget_eq, targets_bind, targets_prepared, Array.size_modify]
    simp [known]

theorem Genuine.configure (hs : s.Genuine) (c : Settings) : (s.configure c).Genuine := by
  have dropped : ((s.setRegistryLevel c.level).dropTargets (c.targets.map (·.name))).Genuine :=
    (hs.keep (.setGate _ _ s)).keep (.dropTargets _ _)
  exact List.foldlRecOn (motive := Genuine) _ _ dropped fun _ hs _ _ => hs.configureTarget

theorem Genuine.start (hs : s.Genuine) (c : Settings) : (s.start c).Genuine := by
  have cleared : (s.cleared c).Genuine := by
    refine (hs.keep (.newRegistry c.level ⟨c.printer.maxLen, false⟩ .tracing s)).keep ?_
    exact ⟨Nat.le_refl _, fun _ => .inl, fun _ _ => .inl, nofun, fun _ => .inl⟩
  exact (cleared.configure c).keep (.observe _ _)

theorem Genuine.withLogger (hs : s.Genuine) {handle : String} {f : LoggerId → Logger → Answer × Router}
    (each : ∀ id l, s.logger? id = some l → (f id l).2.Genuine) : (s.withLogger handle f).2.Genuine := by
  rw [Router.withLogger]
  split
  · exact hs
  · split
    · exact hs
    · next found => exact each _ _ found

theorem Genuine.withTarget (hs : s.Genuine) {id : String} {f : Target → Answer × Router}
    (each : ∀ t, s.Knows t → (f t).2.Genuine) : (s.withTarget id f).2.Genuine := by
  rw [Router.withTarget]
  split
  · exact hs
  · next known =>
    obtain ⟨before, after, split, -⟩ := List.lookup_eq_some_iff.1 known
    exact each _ (.named id (by rw [split]; simp))

theorem Genuine.perform (hs : s.Genuine) (a : Action) : (perform idle a s).2.Genuine := by
  have anew (t : Target) (known : s.Knows t) : ∀ u ∈ [t], s.Knows u := by simpa using known
  cases a with
  | scripted id name level reaction script times => exact hs.target id name _
  | forwarder id name level => exact hs.target id name _
  | newLogger handle category gate limit reporter =>
    have gated : (s.newGateOf gate).2.Genuine := by
      cases gate with
      | fixed level => exact hs
      | adjustable level => exact hs.keep (.of_same (Nat.le_refl _) rfl rfl rfl rfl)
    exact (gated.keep (.newLogger category _ _)).keep
      (.of_same (Nat.le_refl _) rfl rfl rfl rfl)
  | newRegistry level limit reporter => exact hs.keep (.newRegistry level _ reporter s)
  | usePrinter | useReporter => exact hs.keep (.of_same (Nat.le_refl _) rfl rfl rfl rfl)
  | add logger target =>
    exact hs.withLogger fun id _ _ => hs.withTarget fun t known => hs.learn (.addTarget id t s) (anew t known)
  | remove logger target =>
    exact hs.withLogger fun id _ _ => hs.withTarget fun t _ => hs.keep (.removeTarget id t s)
  | hasTarget logger | targets logger | category logger | gateOf logger | describe logger =>
    exact hs.withLogger fun _ _ _ => hs
  | rename logger label => exact hs.withLogger fun id _ _ => hs.keep (.rename id label s)
  | setGate logger level =>
    refine hs.withLogger fun id l _ => ?_
    cases l.context.gate with
    | fixed => exact hs
    | shared index => exact hs.keep (.setGate index level s)
  | sameLogger a b => exact hs.withLogger fun _ _ _ => hs.withLogger fun _ _ _ => hs
  | keep logger snapshot =>
    exact hs.withLogger fun id _ _ =>
      hs.keep (.of_same (Nat.le_refl _) rfl rfl rfl rfl)
  | kept snapshot =>
    rw [Router.perform]
    split <;> exact hs
  | log logger call =>
    exact hs.withLogger fun id _ _ =>
      dispatch_preserves (fun o s hs => hs.keep (.observe o s)) (fun _ _ _ hs => hs) hs
  | setLevel target level => exact hs.withTarget fun t _ => hs.keep (.modifyTarget t _ s)
  | levelOf target | routes target category => exact hs.withTarget fun _ _ => hs
  | sameTarget a b => exact hs.withTarget fun _ _ => hs.withTarget fun _ _ => hs
  | takeTarget logger index id =>
    refine hs.withLogger fun i l found => ?_
    cases taken : l.targets.members[index]? with
    | none => exact hs
    | some t =>
      have held : t ∈ s.targetsOf i := targetsOf_eq found ▸ List.mem_of_getElem? taken
      exact hs.learn (.nameTarget id t s) (anew t (.held i held))
  | lookup category handle =>
    have looked : (s.lookup category).2.Genuine := by
      refine hs.learn (.lookup category s) fun t mem => ?_
      obtain ⟨b, bound, same⟩ := List.mem_map.1 mem
      exact .bound b bound same
    exact looked.keep (.of_same (Nat.le_refl _) rfl rfl rfl rfl)
  | removeLogger category =>
    rw [Router.perform]
    split
    · exact hs
    · exact hs.keep (.of_same (Nat.le_refl _) rfl rfl rfl rfl)
  | categories | routing | targetCount | registryGate | refused => exact hs
  | bind target categories => exact hs.withTarget fun t known => hs.learn (.bind t categories s) (anew t known)
  | unbind target => exact hs.withTarget fun t _ => hs.keep (.unbind t s)
  | setRegistryGate level => exact hs.keep (.setGate _ level s)
  | start settings => exact hs.start settings
  | apply settings =>
    rw [Router.perform]
    split
    · exact hs
    · exact hs.configure settings
  | targetNames =>
    rw [Router.perform]
    split <;> exact hs

theorem Reached.arises (reached : s.Reached) : s.Arises := by
  induction reached with
  | empty => exact .empty
  | perform a _ ih =>
    obtain ⟨past, run⟩ := perform_recorded (h := idle) (fun _ _ r => .refl r) a _
    exact run.arises ih
  | observe o _ ih => exact .observe o ih
  | react t sink _ ih =>
    have aside := Aside.modifyTarget (t := t) (f := fun state => { state with sink := sink }) fun _ => rfl
    exact .step ih (.aside (aside _))

theorem Reached.genuine (reached : s.Reached) : s.Genuine := by
  induction reached with
  | empty =>
    have blank (t : Target) : ¬ Router.empty.Knows t := by
      intro known
      cases known with
      | held id mem => simp [targetsOf, logger?, Router.empty] at mem
      | bound b mem | configured name mem | named id mem => cases mem
    exact ⟨fun t known => absurd known (blank t), fun t _ known => absurd known (blank t)⟩
  | perform a _ ih => exact ih.perform a
  | observe o _ ih => exact ih.keep (.observe o _)
  | react t sink _ ih => exact ih.keep (.modifyTarget t _ _)

theorem perform_eq_idle (a : Action) (silent : ∀ logger call, a ≠ .log logger call) (s : Router) :
    perform h a s = perform idle a s := by
  cases a with
  | log logger call => exact absurd rfl (silent logger call)
  | _ => rfl

theorem perform_reached (nested : ∀ t e r, r.Reached → (h t e r).2.Reached) (a : Action) (reached : s.Reached) :
    (perform h a s).2.Reached := by
  by_cases logs : ∃ logger call, a = .log logger call
  · obtain ⟨logger, call, rfl⟩ := logs
    rw [perform, withLogger]
    split
    · exact reached
    · split
      · exact reached
      · exact dispatch_preserves (fun o _ reached => .observe o reached) nested reached
  · exact perform_eq_idle a (fun logger call same => logs ⟨logger, call, same⟩) s ▸ .perform a reached

variable {run : Action → Router → Answer × Router}

theorem performScript_reached (each : ∀ a s, s.Reached → (run a s).2.Reached) (script : List Action)
    (reached : s.Reached) : (performScript run script s).Reached := by
  induction script generalizing s with
  | nil => exact reached
  | cons a script ih => exact ih (.observe _ (each a s reached))

theorem respond_reached (each : ∀ a s, s.Reached → (run a s).2.Reached) (t : Target) (e : Event)
    (reached : s.Reached) : (respond run t e s).2.Reached := by
  rw [respond]
  rcases s.target? t with _ | ⟨level, _ | ⟨name, reaction, script, _ | times⟩⟩
  · exact reached
  · exact .observe _ reached
  · exact .observe _ reached
  · exact performScript_reached each script (.react t _ (.observe _ reached))

theorem handler_reached (depth : Nat) (t : Target) (e : Event) (reached : s.Reached) :
    (handler depth t e s).2.Reached := by
  induction depth generalizing t e s with
  | zero => exact respond_reached (fun _ _ reached => reached) t e reached
  | succ depth ih =>
    exact respond_reached (fun a _ reached => perform_reached (fun t e _ => ih t e) a reached) t e reached

theorem run_reached (a : Action) (reached : s.Reached) : (s.run a).2.Reached :=
  perform_reached (fun t e _ reached => handler_reached _ t e reached) a reached

theorem foldl_run_reached (actions : List Action) (reached : s.Reached) :
    (actions.foldl (fun s a => (s.run a).2) s).Reached :=
  List.foldlRecOn (motive := Reached) _ _ reached fun _ reached a _ => run_reached a reached

theorem Reached.found (depth : Nat) (reached : s.Reached) :
    ∀ i ∈ s.invocations (handler depth) id call, i.found.Reached :=
  found_preserves (fun o _ => .observe o) (fun t e _ => handler_reached depth t e) reached

end LogRouting.Router
