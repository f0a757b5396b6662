import LogRouting.Proofs.Dispatch.Deliveries

namespace LogRouting.Router

variable {α β : Type} {judge : Judge} {s : Router} {e : Event} {reporter : Reporter} {verified : Bool}

/-- The second computation does the same without reports; the deliveries of both are known. -/
structure Shadows (judge : Judge) (f f' : Router → α × Router)
    (of of' : Router → List Delivery) : Prop where
  answer : ∀ s, (f' s.unreported).1 = (f s).1
  state : ∀ s, (f' s.unreported).2 = (f s).2.unreported
  calls : ∀ s, (of' s.unreported).map (·.call) = (of s).map (·.call)
  reports : ∀ s, (f s).2.reported = (of s).flatMap (·.reports judge) ++ s.reported

theorem Discreet.shadows {f : Router → α × Router} (hf : Discreet f) :
    Shadows judge f f (fun _ => []) (fun _ => []) where
  answer s := hf.answer s _
  state := hf.state.unreported
  calls _ := rfl
  reports := hf.state.reported

variable {of of' : Router → List Delivery}

theorem Shadows.bind {f f' : Router → α × Router} {g g' : α → Router → β × Router}
    {next next' : α → Router → List Delivery} (hf : Shadows judge f f' of of')
    (hg : ∀ a, Shadows judge (g a) (g' a) (next a) (next' a)) :
    Shadows judge (fun s => g (f s).1 (f s).2) (fun s => g' (f' s).1 (f' s).2)
      (fun s => next (f s).1 (f s).2 ++ of s) (fun s => next' (f' s).1 (f' s).2 ++ of' s) where
  answer s := by rw [hf.answer, hf.state, (hg _).answer]
  state s := by rw [hf.answer, hf.state, (hg _).state]
  calls s := by rw [hf.answer, hf.state, List.map_append, (hg _).calls, hf.calls, List.map_append]
  reports s := by rw [(hg _).reports, hf.reports, List.flatMap_append, List.append_assoc]

theorem Shadows.after {f f' : Router → α × Router} {q : Router → Router} (hf : Shadows judge f f' of of')
    (quiet : Quiet q) :
    Shadows judge (fun s => f (q s)) (fun s => f' (q s)) (fun s => of (q s)) (fun s => of' (q s)) where
  answer s := by rw [quiet.unreported, hf.answer]
  state s := by rw [quiet.unreported, hf.state]
  calls s := by rw [quiet.unreported, hf.calls]
  reports s := by rw [hf.reports, quiet.reported]

theorem Shadows.cases {f f' : Router → α × Router}
    (h : ∀ s, ∃ g g' next next', Shadows judge g g' next next' ∧ f s = g s ∧
      f' s.unreported = g' s.unreported ∧ of s = next s ∧ of' s.unreported = next' s.unreported) :
    Shadows judge f f' of of' where
  answer s := by
    obtain ⟨g, g', next, next', shadows, eq, eq', -⟩ := h s
    rw [eq, eq', shadows.answer]
  state s := by
    obtain ⟨g, g', next, next', shadows, eq, eq', -⟩ := h s
    rw [eq, eq', shadows.state]
  calls s := by
    obtain ⟨g, g', next, next', shadows, -, -, eq, eq'⟩ := h s
    rw [eq, eq', shadows.calls]
  reports s := by
    obtain ⟨g, g', next, next', shadows, eq, -, eq', -⟩ := h s
    rw [eq, eq', shadows.reports]

/-- A handler whose outcomes are a judge's, and the one that does the same and accepts. -/
structure Mirrors (judge : Judge) (h h' : Handler) (course course' : Course) : Prop where
  outcome : ∀ t e s, (h t e s).1 = judge t e s
  accepts : ∀ t e s, (h' t e s).1 = .accepted
  state : ∀ t e s, (h' t e s.unreported).2 = (h t e s).2.unreported
  calls : ∀ t e s, (course' t e s.unreported).map (·.call) = (course t e s).map (·.call)
  reports : ∀ t e s, (h t e s).2.reported = (course t e s).flatMap (·.reports judge) ++ s.reported

variable {h h' : Handler} {course course' : Course}

def turnDeliveries (course : Course) (reporter : Reporter) (verified : Bool) (e : Event) (t : Target)
    (s : Router) : List Delivery :=
  if s.admits verified e t then ⟨reporter, t, e, s⟩ :: course t e s else []

theorem Mirrors.turn (m : Mirrors judge h h' course course') (reporter : Reporter) (verified : Bool)
    (e : Event) (t : Target) :
    Shadows judge (fun s => ((), s.turn h reporter verified e t))
      (fun s => ((), s.turn h' reporter verified e t))
      (turnDeliveries course reporter verified e t) (turnDeliveries course' reporter verified e t) where
  answer _ := rfl
  state s := by
    have same : s.unreported.admits verified e t = s.admits verified e t := rfl
    simp only [Router.turn]
    rw [same]
    split
    -- one run reports nothing, and what the other one reports is left out
    · have dropped : ((judge t e s).reports reporter t e).filter (!·.isReport) = [] := by
        simpa using isReport_of_mem_reports
      rw [deliver_eq, deliver_eq, m.accepts, m.state, m.outcome, unreported_withJournal,
        List.filter_append, dropped]
      rfl
    · rfl
  calls s := by
    have same : s.unreported.admits verified e t = s.admits verified e t := rfl
    simp only [turnDeliveries]
    rw [same]
    split
    · rw [List.map_cons, List.map_cons, m.calls]
      rfl
    · rfl
  reports s := by
    simp only [Router.turn, turnDeliveries]
    split
    · have kept : ((judge t e s).reports reporter t e).filter (·.isReport) =
          (judge t e s).reports reporter t e := by
        simpa using isReport_of_mem_reports
      have during := m.reports t e s
      rw [deliver_eq, m.outcome, reported_withJournal, List.filter_append, kept, ← reported, during,
        List.flatMap_cons, List.append_assoc]
      rfl
    · rfl

theorem servedDeliveries_turns (ts : List Target) (t : Target) (s : Router) :
    servedDeliveries course reporter (invocationsFrom h reporter verified e (t :: ts) s) =
      servedDeliveries course reporter
          (invocationsFrom h reporter verified e ts (s.turn h reporter verified e t)) ++
        turnDeliveries course reporter verified e t s := by
  rw [invocationsFrom, turnDeliveries]
  split
  · rfl
  · rw [List.append_nil]

theorem Mirrors.turns (m : Mirrors judge h h' course course') (reporter : Reporter) (verified : Bool)
    (e : Event) (ts : List Target) (a : α) :
    Shadows judge (fun s => (a, ts.foldl (Router.turn h reporter verified e) s))
      (fun s => (a, ts.foldl (Router.turn h' reporter verified e) s))
      (fun s => servedDeliveries course reporter (invocationsFrom h reporter verified e ts s))
      (fun s => servedDeliveries course' reporter (invocationsFrom h' reporter verified e ts s)) := by
  induction ts with
  | nil => exact (Discreet.pure a).shadows
  | cons t ts ih =>
    simp only [servedDeliveries_turns]
    exact (m.turn reporter verified e t).bind fun _ => ih

theorem begun_quiet (l : Logger) (call : Call) : Quiet fun s => s.begun l call := by
  have rendered (text : List Char) : Quiet (observe (.rendered text)) := .observe rfl
  have counted : Quiet (count (.events call.level)) := .observe rfl
  exact (Quiet.comp counted (.foldl rendered (l.renderings call)) :)

theorem Mirrors.dispatch (m : Mirrors judge h h' course course') (id : LoggerId) (call : Call) (a : α) :
    Shadows judge (fun s => (a, s.dispatch h id call)) (fun s => (a, s.dispatch h' id call))
      (dispatchDeliveries h course id call) (dispatchDeliveries h' course' id call) := by
  refine .cases fun s => ?_
  have same : s.unreported.logger? id = s.logger? id := rfl
  cases found : s.logger? id with
  | none =>
    refine ⟨_, _, _, _, (Discreet.pure a).shadows, ?_, ?_, ?_, ?_⟩
    · rw [dispatch_of_none found]
    · rw [dispatch_of_none (same.trans found)]
    · rw [dispatchDeliveries, found]
    · rw [dispatchDeliveries, same, found]
  | some l =>
    by_cases idle : s.isIdle l call = true
    · refine ⟨_, _, _, _, (Discreet.pure a).shadows, ?_, ?_, ?_, ?_⟩
      · rw [dispatch_of_idle found idle]
      · rw [dispatch_of_idle (same.trans found) idle]
      · rw [dispatchDeliveries, found, invocations_of_idle found idle]
        rfl
      · rw [dispatchDeliveries, same, found, invocations_of_idle (same.trans found) idle]
        rfl
    · have turns := m.turns l.context.reporter call.verified (l.event call) l.targets.members a
      refine ⟨_, _, _, _, turns.after (begun_quiet l call), ?_, ?_, ?_, ?_⟩
      · rw [dispatch_of_busy found idle]
      · rw [dispatch_of_busy (same.trans found) idle]
      · rw [dispatchDeliveries, found, invocations_of_busy found idle]
      · rw [dispatchDeliveries, same, found, invocations_of_busy (same.trans found) idle]

theorem Mirrors.log (m : Mirrors judge h h' course course') (handle : String) (call : Call) :
    Shadows judge (Router.perform h (.log handle call)) (Router.perform h' (.log handle call))
      (actionDeliveries h course (.log handle call)) (actionDeliveries h' course' (.log handle call)) := by
  refine .cases fun s => ?_
  have handles : s.unreported.handle? handle = s.handle? handle := rfl
  have loggers (id : LoggerId) : s.unreported.logger? id = s.logger? id := rfl
  cases named : s.handle? handle with
  | none =>
    refine ⟨_, _, _, _, (Discreet.pure (Answer.refused .unknown)).shadows, ?_, ?_, ?_, ?_⟩
    · simp [Router.perform, withLogger, named]
    · simp [Router.perform, withLogger, handles, named]
    · simp [actionDeliveries, named]
    · simp [actionDeliveries, handles, named]
  | some id =>
    cases found : s.logger? id with
    | none =>
      refine ⟨_, _, _, _, (Discreet.pure (Answer.refused .unknown)).shadows, ?_, ?_, ?_, ?_⟩
      · simp [Router.perform, withLogger, named, found]
      · simp [Router.perform, withLogger, handles, named, loggers, found]
      · simp [actionDeliveries, dispatchDeliveries, named, found]
      · simp [actionDeliveries, dispatchDeliveries, handles, named, loggers, found]
    | some l =>
      refine ⟨_, _, _, _, m.dispatch id call Answer.nothing, ?_, ?_, ?_, ?_⟩
      · simp [Router.perform, withLogger, named, found]
      · simp [Router.perform, withLogger, handles, named, loggers, found]
      · simp [actionDeliveries, named]
      · simp [actionDeliveries, handles, named]

theorem Mirrors.perform (m : Mirrors judge h h' course course') (a : Action) :
    Shadows judge (Router.perform h a) (Router.perform h' a) (actionDeliveries h course a)
      (actionDeliveries h' course' a) := by
  by_cases silent : ∀ logger call, a ≠ .log logger call
  · have none (h : Handler) (course : Course) : actionDeliveries h course a = fun _ => [] := by
      cases a with
      | log logger call => exact absurd rfl (silent logger call)
      | _ => rfl
    rw [perform_congr h' h a silent, none, none]
    exact (perform_discreet h a silent).shadows
  · simp only [ne_eq, not_forall, not_not] at silent
    obtain ⟨logger, call, rfl⟩ := silent
    exact m.log logger call

variable {run run' : Action → Router → Answer × Router} {acts acts' : Action → Router → List Delivery}

theorem performScript_shadows (each : ∀ a, Shadows judge (run a) (run' a) (acts a) (acts' a))
    (script : List Action) :
    Shadows judge (fun s => ((), performScript run script s)) (fun s => ((), performScript run' script s))
      (scriptDeliveries run acts script) (scriptDeliveries run' acts' script) := by
  induction script with
  | nil => exact (Discreet.pure ()).shadows
  | cons a script ih =>
    have noted (answer : Answer) : Quiet (observe (.performed a.verb answer)) := .observe rfl
    exact (each a).bind fun answer => ih.after (noted answer)

theorem respond_mirrors (each : ∀ a, Shadows judge (run a) (run' a) (acts a) (acts' a)) :
    Mirrors judge (overruled judge (respond run)) (overruled allAccepted (respond run'))
      (respondDeliveries run acts) (respondDeliveries run' acts') where
  outcome _ _ _ := rfl
  accepts _ _ _ := rfl
  state t e s := by
    have same : s.unreported.target? t = s.target? t := rfl
    simp only [overruled, respond]
    rw [same]
    rcases s.target? t with _ | ⟨level, _ | ⟨name, reaction, script, _ | times⟩⟩
    · rfl
    · rfl
    · rfl
    · have scripted := performScript_shadows each script
      exact scripted.state (s.entered t e name (.scripted name reaction script times))
  calls t e s := by
    have same : s.unreported.target? t = s.target? t := rfl
    simp only [respondDeliveries]
    rw [same]
    rcases s.target? t with _ | ⟨level, _ | ⟨name, reaction, script, _ | times⟩⟩
    · rfl
    · rfl
    · rfl
    · have scripted := performScript_shadows each script
      exact scripted.calls (s.entered t e name (.scripted name reaction script times))
  reports t e s := by
    simp only [overruled, respond, respondDeliveries]
    rcases s.target? t with _ | ⟨level, _ | ⟨name, reaction, script, _ | times⟩⟩
    · rfl
    · rfl
    · rfl
    · have scripted := performScript_shadows each script
      exact scripted.reports (s.entered t e name (.scripted name reaction script times))

theorem judged_mirrors (depth : Nat) :
    Mirrors judge (judged judge depth) (judged allAccepted depth) (Router.course judge depth)
      (Router.course allAccepted depth) := by
  -- what scripts do when they log is one level deeper
  induction depth with
  | zero => exact respond_mirrors fun _ => (Discreet.pure _).shadows
  | succ depth ih => exact respond_mirrors ih.perform

theorem Mirrors.invocationsFrom (m : Mirrors judge h h' course course') (ts : List Target) (s : Router) :
    (Router.invocationsFrom h' reporter verified e ts s.unreported).map (fun i => (i.target, i.event)) =
      (Router.invocationsFrom h reporter verified e ts s).map fun i => (i.target, i.event) := by
  induction ts generalizing s with
  | nil => rfl
  | cons t ts ih =>
    have same : s.unreported.admits verified e t = s.admits verified e t := rfl
    have rest := ih (s.turn h reporter verified e t)
    rw [← (m.turn reporter verified e t).state s] at rest
    rw [Router.invocationsFrom, Router.invocationsFrom, same]
    split
    · rw [List.map_cons, List.map_cons, rest]
    · exact rest

theorem Mirrors.invocations (m : Mirrors judge h h' course course') (s : Router) (id : LoggerId) (call : Call) :
    (s.unreported.invocations h' id call).map (fun i => (i.target, i.event)) =
      (s.invocations h id call).map fun i => (i.target, i.event) := by
  have same : s.unreported.logger? id = s.logger? id := rfl
  cases found : s.logger? id with
  | none => rw [invocations_of_none found, invocations_of_none (same.trans found)]
  | some l =>
    by_cases idle : s.isIdle l call = true
    · rw [invocations_of_idle found idle, invocations_of_idle (same.trans found) idle]
    · rw [invocations_of_busy found idle, invocations_of_busy (same.trans found) idle,
        (begun_quiet l call).unreported, m.invocationsFrom]

/-- However deliveries end, nested ones too, a dispatch makes the calls and leaves the state that it does when all of
them are accepted, but for the reports: one for each that failed, in its place. -/
theorem dispatch_isolates_failures (judge : Judge) (depth : Nat) (s : Router)
    (id : LoggerId) (l : Logger) (call : Call) (found : s.logger? id = some l) :
    let failing := judged judge depth
    let accepting := judged allAccepted depth
    (s.dispatch failing id call).unreported = (s.dispatch accepting id call).unreported ∧
    (s.invocations failing id call).map (fun i => (i.target, i.event)) =
      (s.invocations accepting id call).map (fun i => (i.target, i.event)) ∧
    (deliveries judge depth id call s).map (·.call) = (deliveries allAccepted depth id call s).map (·.call) ∧
    (s.dispatch failing id call).reported =
      (deliveries judge depth id call s).flatMap (·.reports judge) ++ s.reported ∧
    (s.dispatch accepting id call).reported = s.reported ∧
    (s.isIdle l call = true → s.dispatch failing id call = s) ∧
    (¬ s.isIdle l call = true →
      (∀ i ∈ s.invocations failing id call, i.event = l.event call) ∧
      Served failing l.context.reporter (s.invocations failing id call) (s.begun l call)
        (s.dispatch failing id call)) := by
  intro failing accepting
  -- the accepting run is compared with itself too, for both begin with the same reports
  have m : Mirrors judge failing accepting _ _ := judged_mirrors depth
  have m' : Mirrors allAccepted accepting accepting _ _ := judged_mirrors depth
  have run := m.dispatch id call ()
  have run' := m'.dispatch id call ()
  refine ⟨?_, ?_, ?_, run.reports s, ?_, dispatch_of_idle found, fun busy => ⟨?_, ?_⟩⟩
  · exact (run.state s).symm.trans (run'.state s)
  · exact (m.invocations s id call).symm.trans (m'.invocations s id call)
  · exact (run.calls s).symm.trans (run'.calls s)
  · have none : (deliveries allAccepted depth id call s).flatMap (·.reports allAccepted) = [] :=
      List.flatMap_eq_nil_iff.2 fun _ _ => rfl
    exact (run'.reports s).trans (by rw [← deliveries, none]; rfl)
  · rw [invocations_of_busy found busy]
    exact fun i mem => event_of_mem_invocationsFrom mem
  · rw [invocations_of_busy found busy, dispatch_of_busy found busy]
    exact served_invocationsFrom _ _

/-- The first target renames the logger, logs to the second target elsewhere and fails. The second one panics
both times, and so does one of those who are told. -/
theorem dispatch_isolates_panic :
    let a : Target := ⟨0, "a"⟩
    let b : Target := ⟨1, "b"⟩
    let l : Logger := ⟨"net", ⟨[a, b]⟩, ⟨.fixed .all, {}, .panicking⟩⟩
    let s : Router := { empty with
      targets := #[
        ⟨.all, .scripted "a" (.fail (.io "disk")) [.rename "net" "db", .log "aux" ⟨.info, "in", {}, true⟩] 1⟩,
        ⟨.all, .scripted "b" (.panic none) [] 0⟩]
      loggers := #[l, ⟨"aux", ⟨[b]⟩, ⟨.fixed .all, {}, .tracing⟩⟩]
      names := { loggers := [("net", 0), ("aux", 1)] } }
    let call : Call := ⟨.warn, "up", {}, true⟩
    (s.dispatch (handler 1) 0 call).reported =
      [.reported "b" "net" .warn (.panicked "unknown panic payload"),
        .reported "a" "net" .warn (.io "disk"),
        .noted (.deliveryFailed "b" "aux" .info (.panicked "unknown panic payload")), .counted (.failures "b")] ∧
    (s.dispatch (handler 1) 0 call).unreported = (s.dispatch (judged allAccepted 1) 0 call).unreported := by
  intro a b l s call
  refine ⟨by decide, ?_⟩
  rw [handler_eq_judged]
  exact (dispatch_isolates_failures reaction 1 s 0 l call rfl).1

end LogRouting.Router
