import LogRouting.Proofs.Registry.Runs
import LogRouting.Router.Perform

/-!
Histories of a system: what was done to loggers, targets, gates, the registry and the running configuration, with
a record of the log calls and of the deliveries that they made. A target may do all of it in the course of a
delivery.
-/

namespace LogRouting

def Observation.counter? : Observation → Option Counter
  | .counted c => some c
  | _ => none

namespace Router

/-- What goes on within a target, unnoticed but for what is observed. -/
structure Aside (s s' : Router) : Prop where
  routing : SameRouting s s'
  configured : s'.configured = s.configured
  levels : s'.targets.map (·.level) = s.targets.map (·.level)
  journal : ∃ told : List Observation, (∀ o ∈ told, o.counter? = none) ∧ s'.journal = told ++ s.journal

inductive Step (s : Router) : Router → Prop
  | operate (o : Operation) : o.handler? = none → Step s (o.apply s)
  | start (c : Settings) : Step s (s.start c)
  | configure (c : Settings) : Step s (s.configure c)
  | newRegistry (level : Level) (renderer : Renderer) (reporter : Reporter) :
      Step s (s.newRegistry level renderer reporter)
  | useContext (renderer : Renderer) (reporter : Reporter) :
      Step s (s.setRegistry fun r => { r with context := ⟨r.context.gate, renderer, reporter⟩ })
  | newLogger (category : String) (context : Context) : Step s (s.newLogger ⟨category, {}, context⟩).2
  | newGate (level : Level) : Step s (s.newGate level).2
  | setGate (index : Nat) (level : Level) : Step s (s.setGate index level)
  | newTarget (name : String) (state : TargetState) : Step s (s.newTarget name state).2
  | setLevel (t : Target) (level : Level) : Step s (s.setLevel t level)
  | aside : Aside s s' → Step s s'

inductive Incident
  | called (l : Logger) (gate : Level) (call : Call)
  | served (reporter : Reporter) (t : Target) (outcome : Outcome)

def dispatchIncidents (h : Handler) (during : Target → Event → Router → List Incident) (id : LoggerId)
    (call : Call) (s : Router) : List Incident :=
  match s.logger? id with
  | none => []
  | some l =>
    .called l (s.gateLevel l.context.gate) call ::
      (s.invocations h id call).flatMap fun i =>
        during i.target i.event i.found ++
          [.served l.context.reporter i.target (h i.target i.event i.found).1]

/-- What has happened between two states, the earliest first. -/
inductive History : List Incident → Router → Router → Prop
  | refl (s : Router) : History [] s s
  | step : History past s s' → Step s' s'' → History past s s''
  | log (id : LoggerId) (call : Call) : History past s s' →
      (∀ t e r, History (during t e r) r (h t e r).2) →
      History (past ++ dispatchIncidents h during id call s') s (s'.dispatch h id call)

variable {s s' s'' : Router} {past later : List Incident} {h : Handler}

theorem Step.history (step : Step s s') : History [] s s' := .step (.refl s) step

theorem History.trans (run : History past s s') (next : History later s' s'') :
    History (past ++ later) s s'' := by
  induction next with
  | refl s' => rwa [List.append_nil]
  | step _ step ih => exact .step (ih run) step
  | log id call _ course ih _ => rw [← List.append_assoc]; exact .log id call (ih run) course

theorem History.preserves {P : Router → Prop} (run : History past s s') (noting : ∀ o s, P s → P (s.observe o))
    (step : ∀ s s', Step s s' → P s → P s') (start : P s) : P s' := by
  induction run with
  | refl s => exact start
  | step _ taken ih => exact step _ _ taken (ih start)
  | log _ _ _ _ ih nested => exact dispatch_preserves noting nested (ih start)

def Recorded (s s' : Router) : Prop := ∃ past, History past s s'

theorem Recorded.refl (s : Router) : Recorded s s := ⟨[], .refl s⟩

theorem Recorded.trans (first : Recorded s s') (next : Recorded s' s'') : Recorded s s'' :=
  ⟨_, first.choose_spec.trans next.choose_spec⟩

theorem Step.recorded (step : Step s s') : Recorded s s' := ⟨[], step.history⟩

theorem Aside.recorded (aside : Aside s s') : Recorded s s' := (Step.aside aside).recorded

theorem Aside.names (names : Names) (s : Router) : Aside s { s with names } :=
  ⟨⟨rfl, rfl, rfl⟩, rfl, rfl, [], nofun, rfl⟩

theorem Aside.observe {o : Observation} (uncounted : o.counter? = none) (s : Router) : Aside s (s.observe o) :=
  ⟨.observe o s, rfl, rfl, [o], by simpa using uncounted, rfl⟩

theorem Aside.modifyTarget {t : Target} {f : TargetState → TargetState} (level : ∀ state, (f state).level = state.level)
    (s : Router) : Aside s (s.modifyTarget t f) := by
  refine ⟨⟨rfl, rfl, rfl⟩, rfl, ?_, [], nofun, rfl⟩
  refine Array.ext_getElem? fun i => ?_
  rw [Router.modifyTarget, Array.getElem?_map, Array.getElem?_modify, Array.getElem?_map]
  split
  · cases s.targets[i]? <;> simp [level]
  · rfl

theorem Recorded.withLogger {handle : String} {f : LoggerId → Logger → Answer × Router}
    (each : ∀ id l, Recorded s (f id l).2) : Recorded s (s.withLogger handle f).2 := by
  rw [Router.withLogger]
  split
  · exact .refl s
  · split
    · exact .refl s
    · exact each _ _

theorem Recorded.withTarget {id : String} {f : Target → Answer × Router} (each : ∀ t, Recorded s (f t).2) :
    Recorded s (s.withTarget id f).2 := by
  rw [Router.withTarget]
  split
  · exact .refl s
  · exact each _

theorem Recorded.dispatch (nested : ∀ t e r, Recorded r (h t e r).2) (id : LoggerId) (call : Call) :
    Recorded s (s.dispatch h id call) := by
  choose during course using nested
  exact ⟨_, .log id call (.refl s) course⟩

theorem perform_recorded (nested : ∀ t e r, Recorded r (h t e r).2) (a : Action) (s : Router) :
    Recorded s (perform h a s).2 := by
  cases a with
  | scripted id name level reaction script times =>
    exact (Step.newTarget name _).recorded.trans (Aside.names _ _).recorded
  | forwarder id name level => exact (Step.newTarget name _).recorded.trans (Aside.names _ _).recorded
  | newLogger handle category gate limit reporter =>
    refine .trans ?_ ((Step.newLogger category ⟨(s.newGateOf gate).1, ⟨limit, true⟩, reporter⟩).recorded.trans
      (Aside.names _ _).recorded)
    cases gate with
    | fixed level => exact .refl s
    | adjustable level => exact (Step.newGate level).recorded
  | newRegistry level limit reporter => exact (Step.newRegistry level _ reporter).recorded
  | usePrinter limit => exact (Step.useContext ⟨limit, true⟩ s.registry.context.reporter).recorded
  | useReporter reporter => exact (Step.useContext s.registry.context.renderer reporter).recorded
  | add logger target =>
    exact .withLogger fun id _ => .withTarget fun t => (Step.operate (.add id t) rfl).recorded
  | remove logger target =>
    exact .withLogger fun id _ => .withTarget fun t => (Step.operate (.remove id t) rfl).recorded
  | hasTarget logger | targets logger | category logger | gateOf logger | describe logger =>
    exact .withLogger fun _ _ => .refl s
  | rename logger label => exact .withLogger fun id _ => (Step.operate (.rename id label) rfl).recorded
  | setGate logger level =>
    refine .withLogger fun id l => ?_
    cases l.context.gate with
    | fixed => exact .refl s
    | shared index => exact (Step.setGate index level).recorded
  | sameLogger a b => exact .withLogger fun _ _ => .withLogger fun _ _ => .refl s
  | keep logger snapshot => exact .withLogger fun id _ => (Aside.names _ s).recorded
  | kept snapshot =>
    rw [perform]
    split <;> exact .refl s
  | log logger call => exact .withLogger fun id _ => .dispatch nested id call
  | setLevel target level => exact .withTarget fun t => (Step.setLevel t level).recorded
  | levelOf target | routes target category => exact .withTarget fun _ => .refl s
  | sameTarget a b => exact .withTarget fun _ => .withTarget fun _ => .refl s
  | takeTarget logger index id =>
    refine .withLogger fun _ l => ?_
    cases l.targets.members[index]? with
    | none => exact .refl s
    | some t => exact (Aside.names _ s).recorded
  | lookup category handle =>
    exact (Step.operate (.lookup category) rfl).recorded.trans (Aside.names _ _).recorded
  | removeLogger category =>
    rw [perform]
    split
    · exact .refl s
    · exact (Step.operate (.removeLogger category) rfl).recorded
  | categories | routing | targetCount | registryGate | refused => exact .refl s
  | bind target categories => exact .withTarget fun t => (Step.operate (.bind t categories) rfl).recorded
  | unbind target => exact .withTarget fun t => (Step.operate (.unbind t) rfl).recorded
  | setRegistryGate level => exact (Step.operate (.setGate level) rfl).recorded
  | start settings => exact (Step.start settings).recorded
  | apply settings =>
    rw [perform]
    split
    · exact .refl s
    · exact (Step.configure settings).recorded
  | targetNames =>
    rw [perform]
    split <;> exact .refl s

variable {run : Action → Router → Answer × Router}

theorem performScript_recorded (each : ∀ a s, Recorded s (run a s).2) (script : List Action) (s : Router) :
    Recorded s (performScript run script s) := by
  induction script generalizing s with
  | nil => exact .refl s
  | cons a script ih => exact ((each a s).trans (Aside.observe rfl _).recorded).trans (ih _)

theorem respond_recorded (each : ∀ a s, Recorded s (run a s).2) (t : Target) (e : Event) (s : Router) :
    Recorded s (respond run t e s).2 := by
  rw [respond]
  rcases s.target? t with _ | ⟨level, _ | ⟨name, reaction, script, _ | times⟩⟩
  · exact .refl s
  · exact (Aside.observe rfl s).recorded
  · exact (Aside.observe rfl s).recorded
  · have entered := (Aside.observe (o := .delivered name e) rfl s).recorded.trans
      (Aside.modifyTarget (t := t) (f := fun state => { state with sink := .scripted name reaction script times })
        (fun _ => rfl) _).recorded
    exact entered.trans (performScript_recorded each script _)

theorem handler_recorded (depth : Nat) (t : Target) (e : Event) (s : Router) :
    Recorded s (handler depth t e s).2 := by
  induction depth generalizing t e s with
  | zero => exact respond_recorded (fun _ s => .refl s) t e s
  | succ depth ih => exact respond_recorded (perform_recorded ih) t e s

theorem foldl_run_recorded (actions : List Action) (s : Router) :
    Recorded s (actions.foldl (fun s a => (s.run a).2) s) := by
  refine List.foldlRecOn (motive := Recorded s) _ _ (.refl s) fun s' recorded a _ => ?_
  exact recorded.trans (perform_recorded (handler_recorded _) a s')

end Router
end LogRouting
