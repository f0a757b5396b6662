import LogRouting.Proofs.Registry.Effects
import LogRouting.Router.Perform

/-! The journal is written and never read. An action other than a log call adds notes to it which depend on
the rest of the state alone, and which report no failures. -/

namespace LogRouting

def Observation.isReport : Observation → Bool
  | .reported .. | .counted (.failures _) | .noted (.deliveryFailed ..) => true
  | _ => false

namespace Router

variable {α β : Type}

def withJournal (j : List Observation) (s : Router) : Router := { s with journal := j }

def Quiet (f : Router → Router) : Prop :=
  ∀ s, ∃ notes : List Observation, (∀ o ∈ notes, o.isReport = false) ∧
    ∀ j, f (s.withJournal j) = (f s).withJournal (notes ++ j)

structure Discreet (f : Router → α × Router) : Prop where
  answer : ∀ s j, (f (s.withJournal j)).1 = (f s).1
  state : Quiet fun s => (f s).2

section

variable {s : Router} {j : List Observation}

@[simp] theorem withJournal_self : s.withJournal s.journal = s := rfl

@[simp] theorem logger?_withJournal {id : LoggerId} : (s.withJournal j).logger? id = s.logger? id := rfl

@[simp] theorem registered?_withJournal {category : String} :
    (s.withJournal j).registered? category = s.registered? category := rfl

@[simp] theorem gateLevel_withJournal {gate : Gate} : (s.withJournal j).gateLevel gate = s.gateLevel gate := rfl

@[simp] theorem configuredTargets_withJournal :
    (s.withJournal j).configuredTargets = s.configuredTargets := rfl

end

namespace Quiet

variable {f g : Router → Router}

theorem update (h : ∀ s j, f (s.withJournal j) = (f s).withJournal j) : Quiet f :=
  fun s => ⟨[], by simp, h s⟩

theorem id : Quiet fun s => s := update fun _ _ => rfl

theorem observe {o : Observation} (h : o.isReport = false) : Quiet (Router.observe o) :=
  fun _ => ⟨[o], by simpa using h, fun _ => rfl⟩

theorem note {n : Notice} (h : (Observation.noted n).isReport = false) : Quiet (Router.note n) := observe h

theorem comp (hg : Quiet g) (hf : Quiet f) : Quiet fun s => g (f s) := by
  intro s
  obtain ⟨before, silent, hf⟩ := hf s
  obtain ⟨after, silent', hg⟩ := hg (f s)
  refine ⟨after ++ before, fun o mem => (List.mem_append.1 mem).elim (silent' o) (silent o), fun j => ?_⟩
  dsimp only
  rw [hf, hg, List.append_assoc]

theorem cases (h : ∀ s : Router, ∃ g, Quiet g ∧ ∀ j, f (s.withJournal j) = g (s.withJournal j)) : Quiet f := by
  intro s
  obtain ⟨g, quiet, eq⟩ := h s
  obtain ⟨notes, silent, h⟩ := quiet s
  exact ⟨notes, silent, fun j => by rw [eq, h, ← withJournal_self (s := s), eq]⟩

theorem foldl {f : Router → β → Router} (h : ∀ x, Quiet (f · x)) (xs : List β) :
    Quiet fun s => xs.foldl f s := by
  induction xs with
  | nil => exact id
  | cons x xs ih => exact comp ih (h x)

theorem addTarget (id : LoggerId) (t : Target) : Quiet (addTarget id t) := by
  refine cases fun s => ?_
  cases found : s.logger? id with
  | none => exact ⟨_, Quiet.id, fun j => by simp [Router.addTarget, found]⟩
  | some l =>
    by_cases held : t ∈ l.targets.members
    · exact ⟨_, Quiet.id, fun j => by simp [Router.addTarget, found, held]⟩
    · have told : Quiet (Router.note (.targetAdded l.category t.name)) := note rfl
      have added : Quiet (modifyLogger id fun l => { l with targets := l.targets.add t }) := update fun _ _ => rfl
      refine ⟨_, comp told added, fun j => ?_⟩
      simp [Router.addTarget, found, held]

theorem removeTarget (id : LoggerId) (t : Target) : Quiet (removeTarget id t) := by
  refine cases fun s => ?_
  cases found : s.logger? id with
  | none => exact ⟨_, Quiet.id, fun j => by simp [Router.removeTarget, found]⟩
  | some l =>
    by_cases held : t ∈ l.targets.members
    · have told : Quiet (Router.note (.targetRemoved l.category t.name)) := note rfl
      have removed : Quiet (modifyLogger id fun l => { l with targets := l.targets.remove t }) :=
        update fun _ _ => rfl
      refine ⟨_, comp told removed, fun j => ?_⟩
      simp [Router.removeTarget, found, held]
    · exact ⟨_, Quiet.id, fun j => by simp [Router.removeTarget, found, held]⟩

theorem setGate (index : Nat) (level : Level) : Quiet (setGate index level) := by
  have sets : Quiet fun s : Router => { s with gates := s.gates.set! index level } := update fun _ _ => rfl
  refine cases fun s => ?_
  by_cases same : s.gateLevel (.shared index) = level
  · exact ⟨_, sets, fun j => by simp [Router.setGate, same]⟩
  · have told : Quiet (Router.note (.gateChanged (s.gateLevel (.shared index)) level)) := note rfl
    refine ⟨_, comp told sets, fun j => ?_⟩
    simp [Router.setGate, same]

theorem setRegistryLevel (level : Level) : Quiet (setRegistryLevel level) :=
  cases fun s => ⟨_, setGate s.registry.gate level, fun _ => rfl⟩

theorem setRegistry (f : Registry → Registry) : Quiet (setRegistry f) := update fun _ _ => rfl

theorem walk {f : Router → String × LoggerId → Router} (h : ∀ p, Quiet (f · p)) :
    Quiet fun s => s.registry.loggers.foldl f s :=
  cases fun s => ⟨_, foldl h s.registry.loggers, fun _ => rfl⟩

theorem bind (t : Target) (categories : List String) : Quiet (bind t categories) := by
  have told : Quiet (Router.note (.targetBound t.name categories)) := note rfl
  have step (p : String × LoggerId) : Quiet fun s =>
      if (⟨t, categories⟩ : Binding).covers p.1 then s.addTarget p.2 t else s.removeTarget p.2 t := by
    split
    · exact addTarget p.2 t
    · exact removeTarget p.2 t
  exact (comp told (comp (walk step) (setRegistry _)) :)

theorem unbind (t : Target) : Quiet (unbind t) := by
  have told : Quiet (Router.note (.targetUnbound t.name)) := note rfl
  exact (comp told (comp (walk fun p => removeTarget p.2 t) (setRegistry _)) :)

theorem furnish (category : String) : Quiet (furnish category) := by
  refine cases fun s => ?_
  let bound := s.registry.bindings.filter (·.covers category)
  let l : Logger := ⟨category, {}, s.registry.context⟩
  have made : Quiet fun s => (s.newLogger l).2 := update fun _ _ => rfl
  exact ⟨_, comp (foldl (fun b => addTarget s.loggers.size b.target) bound) made, fun _ => rfl⟩

end Quiet

namespace Discreet

variable {f : Router → α × Router}

theorem cases (h : ∀ s : Router, ∃ g, Discreet g ∧ ∀ j, f (s.withJournal j) = g (s.withJournal j)) :
    Discreet f where
  answer s j := by
    obtain ⟨g, discreet, eq⟩ := h s
    rw [eq, discreet.answer, ← withJournal_self (s := s), eq]
  state := by
    refine .cases fun s => ?_
    obtain ⟨g, discreet, eq⟩ := h s
    exact ⟨_, discreet.state, fun j => by rw [eq]⟩

theorem pure (a : α) : Discreet fun s => (a, s) := ⟨fun _ _ => rfl, .id⟩

theorem read {answer : Router → α} (h : ∀ s j, answer (s.withJournal j) = answer s) :
    Discreet fun s => (answer s, s) := ⟨h, .id⟩

theorem update {f : Router → Router} (a : α) (hf : Quiet f) : Discreet fun s => (a, f s) := ⟨fun _ _ => rfl, hf⟩

theorem change {f : Router → Router} (answer : Router → α)
    (h : ∀ s j, answer (s.withJournal j) = answer s) (hf : Quiet f) :
    Discreet fun s => (answer (f s), f s) where
  answer s j := by
    obtain ⟨notes, -, eq⟩ := hf s
    dsimp only
    rw [eq, h]
  state := hf

theorem bind {g : α → Router → β × Router} (hf : Discreet f) (hg : ∀ a, Discreet (g a)) :
    Discreet fun s => g (f s).1 (f s).2 where
  answer s j := by
    obtain ⟨notes, -, eq⟩ := hf.state s
    dsimp only at eq ⊢
    rw [hf.answer, eq, (hg (f s).1).answer]
  state := by
    refine .cases fun s => ⟨_, (Quiet.comp (hg (f s).1).state hf.state :), fun j => ?_⟩
    rw [hf.answer]

theorem withLogger {F : Router → LoggerId → Logger → Answer × Router} (handle : String)
    (h : ∀ id l, Discreet fun s => F s id l) : Discreet fun s => s.withLogger handle (F s) := by
  refine cases fun s => ?_
  have same (j : List Observation) : (s.withJournal j).handle? handle = s.handle? handle := rfl
  cases named : s.handle? handle with
  | none => exact ⟨_, pure (.refused .unknown), fun j => by simp [Router.withLogger, same, named]⟩
  | some id =>
    cases found : s.logger? id with
    | none => exact ⟨_, pure (.refused .unknown), fun j => by simp [Router.withLogger, same, named, found]⟩
    | some l => exact ⟨_, h id l, fun j => by simp [Router.withLogger, same, named, found]⟩

theorem withTarget {F : Router → Target → Answer × Router} (name : String)
    (h : ∀ t, Discreet fun s => F s t) : Discreet fun s => s.withTarget name (F s) := by
  refine cases fun s => ?_
  have same (j : List Observation) : (s.withJournal j).named? name = s.named? name := rfl
  cases named : s.named? name with
  | none => exact ⟨_, pure (.refused .unknown), fun j => by simp [Router.withTarget, same, named]⟩
  | some t => exact ⟨_, h t, fun j => by simp [Router.withTarget, same, named]⟩

theorem lookup (category : String) : Discreet (lookup category) := by
  refine cases fun s => ?_
  cases known : s.registered? category with
  | some id => exact ⟨_, pure id, fun j => lookup_of_some (s := s.withJournal j) known⟩
  | none =>
    have told : Quiet (Router.note (.loggerCreated category)) := .note rfl
    have kept := Quiet.setRegistry fun r => { r with loggers := r.loggers ++ [(category, s.loggers.size)] }
    have made := Quiet.comp kept (Quiet.comp told (Quiet.furnish category))
    exact ⟨_, update s.loggers.size made, fun j => lookup_of_none (s := s.withJournal j) known⟩

theorem configuredTarget (name : String) (level : Level) : Discreet (configuredTarget name level) := by
  refine cases fun s => ?_
  cases known : s.configuredTargets.lookup name with
  | some t => exact ⟨_, pure t, fun j => by simp [Router.configuredTarget, known]⟩
  | none =>
    have made : Discreet fun s =>
        let made := s.newTarget name ⟨level, .forwarding⟩
        (made.1, { made.2 with configured := some (made.2.configuredTargets ++ [(name, made.1)]) }) :=
      ⟨fun _ _ => rfl, .update fun _ _ => rfl⟩
    exact ⟨_, made, fun j => by simp [Router.configuredTarget, known]⟩

end Discreet

namespace Quiet

theorem dropTargets (wanted : List String) : Quiet (dropTargets wanted) := by
  refine cases fun s => ?_
  have kept : Quiet fun s =>
      { s with configured := some (s.configuredTargets.filter (·.1 ∈ wanted)) } := update fun _ _ => rfl
  exact ⟨_, comp (foldl (fun p => unbind p.2) (s.configuredTargets.filter (·.1 ∉ wanted))) kept, fun _ => rfl⟩

theorem configureTarget (settings : TargetSettings) : Quiet (configureTarget settings) := by
  have bound (t : Target) : Quiet fun s => (s.setLevel t settings.level).bind t settings.categories :=
    (comp (bind t settings.categories) (update fun _ _ => rfl : Quiet (setLevel t settings.level)) :)
  exact ((Discreet.configuredTarget settings.name settings.level).bind fun t => .update () (bound t)).state

theorem configure (settings : Settings) : Quiet (configure settings) := by
  have each : Quiet fun s => settings.targets.foldl (fun s t => s.configureTarget t) s :=
    foldl configureTarget settings.targets
  exact (comp each (comp (dropTargets (settings.targets.map (·.name))) (setRegistryLevel settings.level)) :)

theorem start (settings : Settings) : Quiet (start settings) := by
  have fresh : Quiet fun s =>
      { s.newRegistry settings.level ⟨settings.printer.maxLen, false⟩ .tracing with configured := some [] } :=
    update fun _ _ => rfl
  have told : Quiet (Router.note (.started settings.level settings.targets.length)) := note rfl
  exact (comp told (comp (configure settings) fresh) :)

end Quiet

theorem perform_discreet (h : Handler) (a : Action) (silent : ∀ logger call, a ≠ .log logger call) :
    Discreet (perform h a) := by
  cases a with
  | scripted | forwarder => exact ⟨fun _ _ => rfl, .update fun _ _ => rfl⟩
  | newLogger handle category gate limit reporter =>
    cases gate <;> exact ⟨fun _ _ => rfl, .update fun _ _ => rfl⟩
  | newRegistry | usePrinter | useReporter => exact ⟨fun _ _ => rfl, .update fun _ _ => rfl⟩
  | add logger target =>
    exact .withLogger logger fun id _ => .withTarget target fun t =>
      .change (fun s => Answer.names (s.targetNames id)) (fun _ _ => rfl) (.addTarget id t)
  | remove logger target =>
    exact .withLogger logger fun id _ => .withTarget target fun t =>
      .change (fun s => Answer.names (s.targetNames id)) (fun _ _ => rfl) (.removeTarget id t)
  | hasTarget logger | targets logger | category logger | gateOf logger | describe logger =>
    exact .withLogger logger fun _ _ => .read fun _ _ => rfl
  | rename logger label => exact .withLogger logger fun id _ => ⟨fun _ _ => rfl, .update fun _ _ => rfl⟩
  | setGate logger level =>
    refine .withLogger logger fun id l => ?_
    cases l.context.gate with
    | fixed => exact .read fun _ _ => rfl
    | shared index => exact ⟨fun _ _ => rfl, .setGate index level⟩
  | sameLogger a b => exact .withLogger a fun _ _ => .withLogger b fun _ _ => .read fun _ _ => rfl
  | keep logger snapshot => exact .withLogger logger fun id _ => ⟨fun _ _ => rfl, .update fun _ _ => rfl⟩
  | kept snapshot =>
    refine .cases fun s => ?_
    have same (j : List Observation) : (s.withJournal j).names = s.names := rfl
    cases kept : s.names.snapshots.lookup snapshot with
    | none => exact ⟨_, .pure .nothing, fun j => by simp [perform, same, kept]⟩
    | some ts => exact ⟨_, .pure (.names (ts.map (·.name))), fun j => by simp [perform, same, kept]⟩
  | log logger call => exact absurd rfl (silent logger call)
  | setLevel target level => exact .withTarget target fun t => ⟨fun _ _ => rfl, .update fun _ _ => rfl⟩
  | levelOf target | routes target category => exact .withTarget target fun _ => .read fun _ _ => rfl
  | sameTarget a b => exact .withTarget a fun _ => .withTarget b fun _ => .read fun _ _ => rfl
  | takeTarget logger index name =>
    refine .withLogger logger fun _ l => ?_
    cases l.targets.members[index]? with
    | none => exact .read fun _ _ => rfl
    | some t => exact ⟨fun _ _ => rfl, .update fun _ _ => rfl⟩
  | lookup category handle =>
    have answers (id : LoggerId) :
        Discreet fun s => (Answer.logger (s.categoryOf id) (s.targetNames id), s.nameLogger handle id) :=
      ⟨fun _ _ => rfl, .update fun _ _ => rfl⟩
    exact (Discreet.lookup category).bind answers
  | removeLogger category =>
    refine .cases fun s => ?_
    cases known : s.registered? category with
    | none => exact ⟨_, .pure .nothing, fun j => by simp [perform, known]⟩
    | some id =>
      have removed : Discreet fun s =>
          (Answer.removed (s.categoryOf id) (s.targetNames id), s.removeLogger category) :=
        ⟨fun _ _ => rfl, .update fun _ _ => rfl⟩
      exact ⟨_, removed, fun j => by simp [perform, known]⟩
  | categories | routing | targetCount | registryGate | refused => exact .read fun _ _ => rfl
  | bind target categories =>
    exact .withTarget target fun t => .change boundAnswer (fun _ _ => rfl) (.bind t categories)
  | unbind target => exact .withTarget target fun t => .change boundAnswer (fun _ _ => rfl) (.unbind t)
  | setRegistryGate level => exact ⟨fun _ _ => rfl, .setRegistryLevel level⟩
  | start settings => exact .change configuredAnswer (fun _ _ => rfl) (.start settings)
  | apply settings =>
    refine .cases fun s => ?_
    have same (j : List Observation) : (s.withJournal j).configured = s.configured := rfl
    cases running : s.configured with
    | none => exact ⟨_, .pure (.refused .unknown), fun j => by simp [perform, same, running]⟩
    | some ts =>
      have applied := Discreet.change configuredAnswer (fun _ _ => rfl) (.configure settings)
      exact ⟨_, applied, fun j => by simp [perform, same, running]⟩
  | targetNames =>
    refine .cases fun s => ?_
    have same (j : List Observation) : (s.withJournal j).configured = s.configured := rfl
    cases running : s.configured with
    | none => exact ⟨_, .pure (.refused .unknown), fun j => by simp [perform, same, running]⟩
    | some ts =>
      have listed : Discreet fun s => (Answer.names s.configuredNames, s) := .read fun _ _ => rfl
      exact ⟨_, listed, fun j => by simp [perform, same, running]⟩

theorem perform_congr (h h' : Handler) (a : Action) (silent : ∀ logger call, a ≠ .log logger call) :
    perform h a = perform h' a := by
  cases a with
  | log logger call => exact absurd rfl (silent logger call)
  | _ => rfl

end Router
end LogRouting
