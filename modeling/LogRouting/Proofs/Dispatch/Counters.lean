import LogRouting.Proofs.Dispatch.Deliveries
import LogRouting.Proofs.Histories
import LogRouting.Proofs.Notices
import LogRouting.Proofs.Registry.Routing

namespace LogRouting.Router

namespace Incident

def counter? : Incident → Option Counter
  | .called l gate call =>
    if l.targets.members ≠ [] ∧ (call.verified = false ∨ gate ≤ call.level) then some (.events call.level) else none
  | .served reporter t outcome =>
    if reporter = .tracing ∧ outcome ≠ .accepted then some (.failures t.name) else none

def isEvent (label : String) : Incident → Bool
  | .called l gate call =>
    (l.targets.members ≠ [] ∧ (call.verified = false ∨ gate ≤ call.level)) ∧ call.level.name?.getD "OTHER" = label
  | .served .. => false

def isFailure (name : String) : Incident → Bool
  | .called .. => false
  | .served reporter t outcome => (reporter = .tracing ∧ outcome ≠ .accepted) ∧ t.name = name

variable {i : Incident}

theorem isEvent_eq (label : String) :
    i.isEvent label = i.counter?.any (·.series = ("fanout_log_events_total", label)) := by
  cases i with
  | called l gate call => rw [isEvent, counter?]; split <;> simp_all [Counter.series]
  | served reporter t outcome => rw [isEvent, counter?]; split <;> simp [Counter.series]

theorem isFailure_eq (name : String) :
    i.isFailure name = i.counter?.any (·.series = ("fanout_log_target_failures_total", name)) := by
  cases i with
  | called l gate call => rw [isFailure, counter?]; split <;> simp [Counter.series]
  | served reporter t outcome => rw [isFailure, counter?]; split <;> simp_all [Counter.series]

end Incident

def counters (s : Router) : List Counter := s.journal.filterMap Observation.counter?

def tally (s : Router) (series : String × String) : Nat := s.counters.countP (·.series = series)

variable {s s' : Router} {past : List Incident} {h : Handler} {reporter : Reporter} {verified : Bool} {e : Event}
  {t : Target} {l : Logger} {id : LoggerId} {call : Call}

theorem counters_of_journal {told : List Observation} (uncounted : ∀ o ∈ told, o.counter? = none)
    (journal : s'.journal = told ++ s.journal) : s'.counters = s.counters := by
  rw [counters, journal, List.filterMap_append, List.filterMap_eq_nil_iff.2 uncounted]
  rfl

theorem Notes.counters (notes : Notes s s') : s'.counters = s.counters := by
  obtain ⟨ns, -, journal⟩ := notes
  refine counters_of_journal (fun o mem => ?_) journal
  obtain ⟨n, -, rfl⟩ := List.mem_map.1 mem
  rfl

theorem Notes.apply (o : Operation) (silent : o.handler? = none) (s : Router) : Notes s (o.apply s) := by
  cases o with
  | lookup category => exact .lookup category s
  | removeLogger category => exact .of_journal rfl
  | bind t categories => exact .bind t categories s
  | unbind t => exact .unbind t s
  | setGate level => exact .setGate s.registry.gate level s
  | rename id label => exact .of_journal rfl
  | add id t => exact .addTarget id t s
  | remove id t => exact .removeTarget id t s
  | log h id call => cases silent

theorem Step.counters (step : Step s s') : s'.counters = s.counters := by
  cases step with
  | operate o silent => exact (Notes.apply o silent s).counters
  | start c => exact (Notes.start c s).counters
  | configure c => exact (Notes.configure c s).counters
  | setGate index level => exact (Notes.setGate index level s).counters
  | aside aside =>
    obtain ⟨told, uncounted, journal⟩ := aside.journal
    exact counters_of_journal uncounted journal
  | _ => rfl

/-- The counters have been raised as the incidents between two states say, and in their order. -/
def Accounts (past : List Incident) (s s' : Router) : Prop :=
  s'.counters = (past.filterMap Incident.counter?).reverse ++ s.counters

theorem Accounts.trans {s'' : Router} {later : List Incident} (first : Accounts past s s')
    (next : Accounts later s' s'') : Accounts (past ++ later) s s'' := by
  rw [Accounts, next, first, List.filterMap_append, List.reverse_append, List.append_assoc]

theorem Accounts.one (i : Incident) (counters : s'.counters = i.counter?.toList ++ s.counters) :
    Accounts [i] s s' := by
  rw [Accounts, counters, List.filterMap_cons, List.filterMap_nil]
  cases i.counter? <;> rfl

theorem filterMap_reports {outcome : Outcome} : (outcome.reports reporter t e).filterMap Observation.counter? =
    (Incident.served reporter t outcome).counter?.toList := by
  cases outcome with
  | accepted => cases reporter <;> rfl
  | failed error => cases reporter <;> rfl
  | panic payload => cases payload <;> cases reporter <;> rfl

theorem Accounts.begun {gate : Level} (busy : l.targets.members ≠ [] ∧ (call.verified = false ∨ gate ≤ call.level)) :
    Accounts [.called l gate call] s (s.begun l call) := by
  have rendered : ((l.renderings call).foldl (fun s r => s.observe (.rendered r)) s).counters = s.counters :=
    List.foldlRecOn (motive := fun s' : Router => s'.counters = s.counters) _ _ rfl fun _ same _ _ => same
  refine .one _ ?_
  rw [Incident.counter?, if_pos busy]
  exact congrArg (.events call.level :: ·) rendered

variable {during : Target → Event → Router → List Incident}
  (nested : ∀ t e r, Accounts (during t e r) r (h t e r).2)

include nested

theorem Accounts.deliver : Accounts (during t e s ++ [.served reporter t (h t e s).1]) s
    (s.deliver h reporter e t) := by
  refine (nested t e s).trans (.one _ ?_)
  rw [deliver_eq, ← filterMap_reports]
  exact List.filterMap_append ..

theorem Accounts.turns (ts : List Target) (s : Router) :
    Accounts ((invocationsFrom h reporter verified e ts s).flatMap fun i =>
        during i.target i.event i.found ++ [.served reporter i.target (h i.target i.event i.found).1])
      s (ts.foldl (turn h reporter verified e) s) := by
  induction ts generalizing s with
  | nil => rfl
  | cons t ts ih =>
    have rest := ih (s.turn h reporter verified e t)
    rw [invocationsFrom, List.foldl_cons]
    split
    · next admitted =>
      rw [turn_of_admits admitted] at rest ⊢
      rw [List.flatMap_cons]
      exact (Accounts.deliver nested).trans rest
    · next passed => rwa [turn_of_not_admits passed] at rest ⊢

theorem Accounts.dispatch (id : LoggerId) (call : Call) (s : Router) :
    Accounts (dispatchIncidents h during id call s) s (s.dispatch h id call) := by
  rw [dispatchIncidents]
  cases found : s.logger? id with
  | none => rw [dispatch_of_none found]; rfl
  | some l =>
    by_cases idle : s.isIdle l call = true
    · rw [dispatch_of_idle found idle, invocations_of_idle found idle]
      refine .one _ ?_
      rw [Incident.counter?, if_neg fun busy => isIdle_eq_false.2 busy idle]
      rfl
    · rw [dispatch_of_busy found idle, invocations_of_busy found idle]
      exact (Accounts.begun (isIdle_eq_false.1 idle)).trans (.turns nested _ _)

omit nested

theorem History.accounts (run : History past s s') : Accounts past s s' := by
  induction run with
  | refl s => rfl
  | step _ taken ih => exact taken.counters.trans ih
  | log id call _ _ ih nested => exact ih.trans (.dispatch nested id call _)

theorem Accounts.tally_eq (h : Accounts past s s') {series : String × String} {p : Incident → Bool}
    (eq : ∀ i : Incident, p i = i.counter?.any (·.series = series)) :
    s'.tally series = s.tally series + past.countP p := by
  have counted : (past.filterMap Incident.counter?).countP (·.series = series) = past.countP p := by
    rw [List.countP_filterMap]
    refine List.countP_congr fun i _ => ?_
    rw [eq]
    cases i.counter? <;> simp
  rw [tally, h, List.countP_append, List.countP_reverse, counted, Nat.add_comm, tally]

/-- The counter of events rises by the log calls that found a target and an open gate, or were forced, and the counter
of failures by the deliveries that failed through loggers that tell the tracing system, nested ones included. -/
theorem counters_account_for_history (past : List Incident) (s s' : Router) (run : History past s s') :
    (∀ label, s'.tally ("fanout_log_events_total", label) =
      s.tally ("fanout_log_events_total", label) + past.countP (·.isEvent label)) ∧
    (∀ name, s'.tally ("fanout_log_target_failures_total", name) =
      s.tally ("fanout_log_target_failures_total", name) + past.countP (·.isFailure name)) ∧
    (∀ actions : List Action, ∃ past, History past s (actions.foldl (fun s a => (s.run a).2) s)) :=
  ⟨fun label => run.accounts.tally_eq fun _ => Incident.isEvent_eq label,
    fun name => run.accounts.tally_eq fun _ => Incident.isFailure_eq name, fun actions => foldl_run_recorded actions s⟩

/-- In the course of a delivery the first target forces a call at a level without a name through a logger that
tells the tracing system; there a target of the second one's name panics. The second one fails untold. -/
theorem counters_account_for_nested :
    let a : Target := ⟨0, "a"⟩
    let b : Target := ⟨1, "b"⟩
    let b' : Target := ⟨2, "b"⟩
    let net : Logger := ⟨"net", ⟨[a, b]⟩, ⟨.fixed .warn, {}, .noting⟩⟩
    let aux : Logger := ⟨"aux", ⟨[b']⟩, ⟨.fixed .none, {}, .tracing⟩⟩
    let s : Router := { empty with targets := #[⟨.all, .forwarding⟩, ⟨.all, .forwarding⟩, ⟨.all, .forwarding⟩]
                                   loggers := #[net, aux] }
    let inner : Handler := fun _ _ s => (.panic none, s)
    let h : Handler := fun t _ s =>
      if t = a then (.accepted, s.dispatch inner 1 ⟨⟨5⟩, "in", {}, false⟩) else (.failed (.io "disk"), s)
    let s' := (s.dispatch h 0 ⟨.warn, "up", {}, true⟩).dispatch h 0 ⟨.info, "no", {}, true⟩
    (∃ past, History past s s' ∧ past.length = 6) ∧
    s'.tally ("fanout_log_events_total", "WARN") = 1 ∧ s'.tally ("fanout_log_events_total", "INFO") = 0 ∧
    s'.tally ("fanout_log_events_total", "OTHER") = 1 ∧ s'.tally ("fanout_log_target_failures_total", "b") = 1 := by
  intro a b b' net aux s inner h s'
  let course : Target → Event → Router → List Incident := fun t _ r =>
    if t = a then dispatchIncidents inner (fun _ _ _ => []) 1 ⟨⟨5⟩, "in", {}, false⟩ r else []
  have idle (t e r) : History [] r (inner t e r).2 := .refl r
  have nested (t e r) : History (course t e r) r (h t e r).2 := by
    by_cases first : t = a
    · simp only [course, h, if_pos first]
      have logged := History.log 1 ⟨⟨5⟩, "in", {}, false⟩ (.refl r) idle
      exact logged
    · simp only [course, h, if_neg first]
      exact .refl r
  have run := History.log 0 ⟨.info, "no", {}, true⟩ (.log 0 ⟨.warn, "up", {}, true⟩ (.refl s) nested) nested
  obtain ⟨events, failures, -⟩ := counters_account_for_history _ s s' run
  exact ⟨⟨_, run, by decide⟩, (events "WARN").trans (by decide), (events "INFO").trans (by decide),
    (events "OTHER").trans (by decide), (failures "b").trans (by decide)⟩

end LogRouting.Router
