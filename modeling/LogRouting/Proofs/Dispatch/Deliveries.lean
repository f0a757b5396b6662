import LogRouting.Proofs.Dispatch.Snapshot
import LogRouting.Proofs.Journal

namespace LogRouting

def Reporter.told (t : Target) (e : Event) (error : TargetError) : Reporter → List Observation
  | .noting | .panicking => [.reported t.name e.category e.level error]
  | .tracing => [.noted (.deliveryFailed t.name e.category e.level error), .counted (.failures t.name)]

def Outcome.reports (reporter : Reporter) (t : Target) (e : Event) : Outcome → List Observation
  | .accepted => []
  | .failed error => reporter.told t e error
  | .panic (some text) => reporter.told t e (.panicked text)
  | .panic none => reporter.told t e (.panicked "unknown panic payload")

namespace Router

def entered (s : Router) (t : Target) (e : Event) (id : String) (sink : Sink) : Router :=
  (s.observe (.delivered id e)).modifyTarget t fun state => { state with sink }

abbrev Judge := Target → Event → Router → Outcome

def overruled (judge : Judge) (h : Handler) : Handler :=
  fun t e s => (judge t e s, (h t e s).2)

/-- Targets that perform their scripts, with the outcomes of a judge, in nested deliveries too. -/
def judged (judge : Judge) : Nat → Handler
  | 0 => overruled judge (respond fun _ s => (.nothing, s))
  | depth + 1 => overruled judge (respond (perform (judged judge depth)))

def allAccepted : Judge := fun _ _ _ => .accepted

def reaction (t : Target) (_ : Event) (s : Router) : Outcome :=
  match s.target? t with
  | some ⟨_, .scripted _ reaction _ _⟩ => reaction.outcome
  | _ => .accepted

def unreported (s : Router) : Router := s.withJournal (s.journal.filter (!·.isReport))

structure Delivery where
  reporter : Reporter
  target : Target
  event : Event
  found : Router

def Delivery.call (d : Delivery) : Reporter × Target × Event := (d.reporter, d.target, d.event)

def Delivery.reports (judge : Judge) (d : Delivery) : List Observation :=
  (judge d.target d.event d.found).reports d.reporter d.target d.event

/-- The deliveries in the course of one to a target. -/
abbrev Course := Target → Event → Router → List Delivery

def servedDeliveries (course : Course) (reporter : Reporter) : List Invocation → List Delivery
  | [] => []
  | i :: is =>
    servedDeliveries course reporter is ++
      ⟨reporter, i.target, i.event, i.found⟩ :: course i.target i.event i.found

def dispatchDeliveries (h : Handler) (course : Course) (id : LoggerId) (call : Call) (s : Router) :
    List Delivery :=
  match s.logger? id with
  | none => []
  | some l => servedDeliveries course l.context.reporter (s.invocations h id call)

def actionDeliveries (h : Handler) (course : Course) (a : Action) (s : Router) : List Delivery :=
  match a with
  | .log logger call => (s.handle? logger).elim [] fun id => dispatchDeliveries h course id call s
  | _ => []

def scriptDeliveries (run : Action → Router → Answer × Router) (of : Action → Router → List Delivery) :
    List Action → Router → List Delivery
  | [], _ => []
  | a :: script, s =>
    scriptDeliveries run of script ((run a s).2.observe (.performed a.verb (run a s).1)) ++ of a s

def respondDeliveries (run : Action → Router → Answer × Router) (of : Action → Router → List Delivery) :
    Course :=
  fun t e s =>
    match s.target? t with
    | some ⟨_, .scripted id reaction script (times + 1)⟩ =>
      scriptDeliveries run of script (s.entered t e id (.scripted id reaction script times))
    | _ => []

def course (judge : Judge) : Nat → Course
  | 0 => respondDeliveries (fun _ s => (.nothing, s)) fun _ _ => []
  | depth + 1 =>
    let h := judged judge depth
    respondDeliveries (perform h) (actionDeliveries h (course judge depth))

def deliveries (judge : Judge) (depth : Nat) : LoggerId → Call → Router → List Delivery :=
  dispatchDeliveries (judged judge depth) (course judge depth)

/-- How targets are served one after the other: each finds what the one before has left, with the reports that
its outcome calls for on top. -/
inductive Served (h : Handler) (reporter : Reporter) : List Invocation → Router → Router → Prop
  | nil (s : Router) : Served h reporter [] s s
  | cons : Served h reporter is
        ((h i.target i.event i.found).2.withJournal
          ((h i.target i.event i.found).1.reports reporter i.target i.event ++
            (h i.target i.event i.found).2.journal)) s →
      Served h reporter (i :: is) i.found s

variable {s : Router} {t : Target} {e : Event} {reporter : Reporter} {j : List Observation}

theorem handler_eq_judged (depth : Nat) : handler depth = judged reaction depth := by
  have outcome (run : Action → Router → Answer × Router) :
      respond run = overruled reaction (respond run) := by
    funext t e s
    refine Prod.ext ?_ rfl
    rw [overruled, respond, reaction]
    split <;> simp_all
  induction depth with
  | zero => exact outcome _
  | succ depth ih => rw [handler, judged, ← ih]; exact outcome _

def reported (s : Router) : List Observation := s.journal.filter (·.isReport)

theorem reported_withJournal : (s.withJournal j).reported = j.filter (·.isReport) := rfl

theorem unreported_withJournal : (s.withJournal j).unreported = s.withJournal (j.filter (!·.isReport)) := rfl

theorem isReport_of_mem_reports {outcome : Outcome} :
    ∀ o ∈ outcome.reports reporter t e, o.isReport = true := by
  cases outcome with
  | accepted => simp [Outcome.reports]
  | failed error => cases reporter <;> simp [Outcome.reports, Reporter.told, Observation.isReport]
  | panic payload =>
    cases payload <;> cases reporter <;> simp [Outcome.reports, Reporter.told, Observation.isReport]

theorem Quiet.unreported {f : Router → Router} (hf : Quiet f) (s : Router) :
    f s.unreported = (f s).unreported := by
  obtain ⟨notes, silent, eq⟩ := hf s
  have here : f s = (f s).withJournal (notes ++ s.journal) := eq s.journal
  have kept : notes.filter (!·.isReport) = notes := by simpa using silent
  rw [here, unreported_withJournal, List.filter_append, kept, Router.unreported, eq]

theorem Quiet.reported {f : Router → Router} (hf : Quiet f) (s : Router) : (f s).reported = s.reported := by
  obtain ⟨notes, silent, eq⟩ := hf s
  have here : f s = (f s).withJournal (notes ++ s.journal) := eq s.journal
  have dropped : notes.filter (·.isReport) = [] := by simpa using silent
  rw [here, reported_withJournal, List.filter_append, dropped]
  rfl

theorem deliver_eq {h : Handler} : s.deliver h reporter e t =
    (h t e s).2.withJournal ((h t e s).1.reports reporter t e ++ (h t e s).2.journal) := by
  rw [deliver]
  rcases h t e s with ⟨outcome, s'⟩
  cases outcome with
  | accepted => rfl
  | failed error => cases reporter <;> rfl
  | panic payload => cases payload <;> cases reporter <;> rfl

variable {h : Handler} {id : LoggerId} {call : Call} {verified : Bool} {ts : List Target} {i : Invocation}

theorem served_invocationsFrom (ts : List Target) (s : Router) :
    Served h reporter (invocationsFrom h reporter verified e ts s) s
      (ts.foldl (turn h reporter verified e) s) := by
  induction ts generalizing s with
  | nil => exact .nil s
  | cons t ts ih =>
    have rest := ih (s.turn h reporter verified e t)
    rw [invocationsFrom, List.foldl_cons]
    by_cases admitted : s.admits verified e t = true
    · rw [if_pos admitted]
      refine .cons (i := ⟨t, e, s⟩) ?_
      rw [turn_of_admits admitted, deliver_eq] at rest ⊢
      exact rest
    · rw [if_neg admitted]
      rwa [turn_of_not_admits admitted] at rest ⊢

theorem event_of_mem_invocationsFrom (mem : i ∈ invocationsFrom h reporter verified e ts s) : i.event = e := by
  rw [invocationsFrom_eq_map] at mem
  obtain ⟨k, -, rfl⟩ := List.mem_map.1 mem
  rfl

/-- A dispatch consists of these calls: its event is made, and the calls follow one upon the other. A dispatch without
an event consists of none. -/
def IsTrace (h : Handler) (id : LoggerId) (call : Call) (s : Router) (is : List Invocation) : Prop :=
  match s.logger? id with
  | none => is = [] ∧ s.dispatch h id call = s
  | some l =>
    if s.isIdle l call then is = [] ∧ s.dispatch h id call = s
    else
      (∀ i ∈ is, i.event = l.event call) ∧
        Served h l.context.reporter is (s.begun l call) (s.dispatch h id call)

theorem isTrace_invocations : s.IsTrace h id call (s.invocations h id call) := by
  rw [IsTrace]
  cases found : s.logger? id with
  | none => exact ⟨invocations_of_none found, dispatch_of_none found⟩
  | some l =>
    dsimp only
    split
    · next idle => exact ⟨invocations_of_idle found idle, dispatch_of_idle found idle⟩
    · next busy =>
      rw [invocations_of_busy found busy, dispatch_of_busy found busy]
      exact ⟨fun i mem => event_of_mem_invocationsFrom mem, served_invocationsFrom _ _⟩

end Router
end LogRouting
