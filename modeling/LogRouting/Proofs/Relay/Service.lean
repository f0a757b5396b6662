import LogRouting.Proofs.Dispatch.Forwarding
import LogRouting.Proofs.Relay.Schedule
import LogRouting.Proofs.Settings.Validation

namespace LogRouting

namespace Router

variable {r : Router} {category : String} {id : LoggerId} {c next : Settings} {level : Level} {call : Call}

structure Serving (category : String) (id : LoggerId) (c : Settings) (r : Router) : Prop where
  follows : r.Follows c
  known : r.registered? category = some id

theorem Serving.reload (h : r.Serving category id c) (valid : next.defects = []) :
    (r.reload next).Serving category id next where
  follows := (h.follows.managed.follows_configure (Settings.nodup_names valid)).observe _
  known := registered?_configure.trans h.known

theorem Serving.log (h : r.Serving category id c) : (r.log id call).Serving category id c where
  follows := h.follows.log id call
  known := by rw [h.follows.managed.log_eq, registered?_withJournal, h.known]

end Router

namespace Relay

variable {s start : State} {ts : List Taken} {ms before after : List Moment} {as bs : List Arrival} {text : String}
  {category : String} {id : LoggerId} {c : Settings} {r : Router} {fallback : Level} {n : Nat}

/-- The bytes that arrive are bytes of the text, and all of them if the stream comes to its end. -/
structure Supplies (text : String) (as : List Arrival) : Prop where
  bytes : received as <+: text.toUTF8.data.toList
  whole : .ended ∈ as → received as = text.toUTF8.data.toList

theorem lines_arrived (lines : start.lines = []) (opened : start.unended = some []) (h : Supplies text as) :
    (as.foldl State.arrive start).lines.map decode? <+: (linesOf text).map some ∧
      (.ended ∈ as → (as.foldl State.arrive start).lines.map decode? = (linesOf text).map some) := by
  by_cases ended : .ended ∈ as
  · have all : (as.foldl State.arrive start).lines.map decode? = (linesOf text).map some := by
      rw [(stream_foldl_ended opened ended).1, lines, h.whole ended, List.nil_append, all_cut_encode]
    exact ⟨all ▸ List.prefix_rfl, fun _ => all⟩
  · refine ⟨?_, fun now => absurd now ended⟩
    rw [(stream_foldl opened ended).1, lines, List.nil_append, ← all_cut_encode]
    exact (lines_cut_isPrefix h.bytes).map _

structure State.Fresh (start : State) : Prop where
  relayed : start.relayed = 0
  status : start.status = .running
  shutdown : start.shutdown = false
  configurations : start.configurations = []
  lines : start.lines = []
  unended : start.unended = some []

theorem progress_run (fresh : start.Fresh) (ms : List Moment) :
    Progress ((arrivals ms).foldl State.arrive start) (start.taken ms) (start.run ms) :=
  (Progress.refl fresh.status).run ms

theorem sent_eq (fresh : start.Fresh) (ms : List Moment) :
    sent (arrivals ms) = applied (start.taken ms) ++ (start.run ms).configurations := by
  rw [← (progress_run fresh ms).configurations, configurations_foldl, fresh.configurations, List.nil_append]

theorem shutdown_run (fresh : start.Fresh) (ms : List Moment) :
    (start.run ms).shutdown = true ↔ .arrival .shutdown ∈ ms := by
  rw [(progress_run fresh ms).shutdown, shutdown_foldl, fresh.shutdown, mem_arrivals]
  simp

theorem unended_run (fresh : start.Fresh) (ms : List Moment) :
    (start.run ms).unended = none ↔ .arrival .ended ∈ ms := by
  rw [(progress_run fresh ms).unended, ← mem_arrivals]
  by_cases ended : .ended ∈ arrivals ms
  · exact iff_of_true (stream_foldl_ended fresh.unended ended).2 ended
  · refine iff_of_false ?_ ended
    rw [(stream_foldl fresh.unended ended).2]
    exact nofun

theorem router_run (fresh : start.Fresh) (ms : List Moment) :
    (start.run ms).router =
        (start.taken ms).foldl (fun r t => t.perform start.logger start.fallback r) start.router ∧
      (start.run ms).logger = start.logger ∧ (start.run ms).fallback = start.fallback ∧
      (start.run ms).relayed = (handed (start.taken ms)).length := by
  have progress := progress_run fresh ms
  refine ⟨?_, ?_, ?_, ?_⟩
  · rw [progress.router, foldl_arrive_eq]
  · rw [progress.logger, foldl_arrive_eq]
  · rw [progress.fallback, foldl_arrive_eq]
  · rw [progress.relayed, foldl_arrive_eq, fresh.relayed, Nat.zero_add]

theorem handed_isPrefix (fresh : start.Fresh) (supplied : Supplies text (arrivals ms)) :
    handed (start.taken ms) <+: linesOf text ∧ none ∉ (start.run ms).lines.map decode? := by
  have arrived := (lines_arrived fresh.lines fresh.unended supplied).1
  rw [(progress_run fresh ms).lines] at arrived
  constructor
  · have first := (List.prefix_append _ _).trans arrived
    rwa [List.prefix_map_iff_of_injective (Option.some_injective _)] at first
  · intro mem
    have whole := arrived.subset (List.mem_append_right _ mem)
    simp at whole

theorem handed_all (fresh : start.Fresh) (supplied : Supplies text (arrivals ms))
    (goes_on : .arrival .shutdown ∉ ms) (stopped : (start.run ms).status = .stopped) :
    handed (start.taken ms) = linesOf text := by
  have progress := progress_run fresh ms
  obtain ⟨none, closed⟩ := (progress.stopped stopped).resolve_left (goes_on ∘ (shutdown_run fresh ms).1)
  have ended : .ended ∈ arrivals ms := mem_arrivals.2 ((unended_run fresh ms).1 closed)
  have all := (lines_arrived fresh.lines fresh.unended supplied).2 ended
  rw [progress.lines, none, List.map_nil, List.append_nil] at all
  exact (List.map_injective_iff.2 (Option.some_injective _)) all

theorem not_broken (fresh : start.Fresh) (supplied : Supplies text (arrivals ms)) :
    (start.run ms).status ≠ .broken :=
  fun broken => (handed_isPrefix fresh supplied).2 ((progress_run fresh ms).broken broken)

theorem turns_of_not_running (finished : s.status ≠ .running) : s.turns n = s := by
  induction n with
  | zero => rfl
  | succ n ih => rw [State.turns, turn_of_not_running finished, ih]

theorem stopped_turns (closed : s.unended = none) (readable : none ∉ s.lines.map decode?)
    (whole : s.status ≠ .broken) (enough : s.configurations.length + s.lines.length < n) :
    (s.turns n).status = .stopped := by
  induction n generalizing s with
  | zero => cases enough
  | succ n ih =>
    rw [State.turns]
    cases turn_cases s with
    | configuration c rest takes running waiting eq =>
      rw [eq]
      rw [waiting, List.length_cons] at enough
      exact ih closed readable whole (by simpa using Nat.lt_of_succ_lt_succ (by omega))
    | line line text rest takes running current waiting decoded eq =>
      rw [eq]
      rw [waiting, List.map_cons, List.mem_cons, not_or] at readable
      rw [waiting, List.length_cons] at enough
      exact ih closed readable.2 whole (by simpa using Nat.lt_of_succ_lt_succ (by omega))
    | idle takes why eq =>
      have finished : s.status ≠ .running := why.resolve_right fun opened => opened closed
      rw [eq, turns_of_not_running finished]
      cases status : s.status with
      | running => exact absurd status finished
      | stopped => rfl
      | broken => exact absurd status whole
    | stop takes finished eq => rw [eq, turns_of_not_running (by simp)]
    | fail takes broken eq => exact absurd broken readable

theorem run_replicate : s.run (List.replicate n .turn) = s.turns n := by
  induction n generalizing s with
  | zero => rfl
  | succ n ih => exact ih

theorem receive_eq_run : s.receive as = s.run (as.map .arrival ++ List.replicate
    ((s.run (as.map .arrival)).configurations.length + (s.run (as.map .arrival)).lines.length + 1) .turn) := by
  have arrived : s.run (as.map .arrival) = as.foldl State.arrive s := List.foldl_map
  rw [run_append, run_replicate, arrived]
  rfl

end Relay
end LogRouting
