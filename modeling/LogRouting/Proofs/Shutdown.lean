import LogRouting.Shutdown
import Mathlib.Data.List.Basic

namespace LogRouting

theorem Channel.next_send (c : Channel) : c.send.next = c.next := by
  rw [Channel.send]
  split <;> rfl

theorem Channel.length_receive (c : Channel) (r : Nat) : (c.receive r).2.next.length = c.next.length := by
  rw [Channel.receive]
  split
  · rfl
  · split
    · rfl
    · split <;> simp

namespace Shutdown

inductive Step
  | clone (handle : Nat)
  | subscribe (handle : Nat)
  | trigger (handle : Nat)
  | ask (handle : Nat)
  | poll (receiver : Nat)
deriving DecidableEq

inductive Answer
  | handle (index : Nat)
  | receiver (index : Nat)
  | done
  | triggered (given : Bool)
  | polled (taken : Bool)
deriving DecidableEq

def perform : Step → Shutdown → Answer × Shutdown
  | .clone _, s => (.handle s.clone.1, s.clone.2)
  | .subscribe _, s => (.receiver s.subscribe.1, s.subscribe.2)
  | .trigger _, s => (.done, s.trigger)
  | .ask _, s => (.triggered s.triggered, s)
  | .poll r, s => (.polled (s.poll r).1, (s.poll r).2)

def run : List Step → Shutdown → Shutdown
  | [], s => s
  | step :: steps, s => run steps (perform step s).2

def answers : List Step → Shutdown → List Answer
  | [], _ => []
  | step :: steps, s => (perform step s).1 :: answers steps (perform step s).2

def answer (history : List Step) (step : Step) : Answer := (perform step (run history {})).1

def Given (steps : List Step) : Prop := ∃ handle, .trigger handle ∈ steps

variable {s : Shutdown} {step : Step} {steps before between later : List Step} {r : Nat}

@[simp] theorem run_append (before later : List Step) (s : Shutdown) :
    run (before ++ later) s = run later (run before s) := by
  induction before generalizing s with
  | nil => rfl
  | cons step before ih => simp [run, ih]

@[simp] theorem answers_append (before later : List Step) (s : Shutdown) :
    answers (before ++ later) s = answers before s ++ answers later (run before s) := by
  induction before generalizing s with
  | nil => rfl
  | cons step before ih => simp [answers, run, ih]

@[simp] theorem Given.nil : ¬ Given [] := by simp [Given]

@[simp] theorem Given.cons : Given (step :: steps) ↔ (∃ handle, step = .trigger handle) ∨ Given steps := by
  simp [Given, exists_or, eq_comm]

theorem Given.first (given : Given steps) :
    ∃ before handle between, steps = before ++ .trigger handle :: between ∧ ¬ Given before := by
  induction steps with
  | nil => exact absurd given Given.nil
  | cons step steps ih =>
    rcases Given.cons.1 given with ⟨handle, rfl⟩ | given
    · exact ⟨[], handle, steps, rfl, Given.nil⟩
    · by_cases now : ∃ handle, step = .trigger handle
      · obtain ⟨handle, rfl⟩ := now
        exact ⟨[], handle, steps, rfl, Given.nil⟩
      · obtain ⟨before, handle, between, rfl, silent⟩ := ih given
        exact ⟨step :: before, handle, between, rfl, by simp [now, silent]⟩

structure Sound (s : Shutdown) : Prop where
  once : s.channel.sent ≤ 1
  silent : s.triggered = false → s.channel.sent = 0
  reached : ∀ n ∈ s.channel.next, n ≤ s.channel.sent

/-- The signal was sent and the receiver has yet to take it. -/
def Waits (s : Shutdown) (r : Nat) : Prop := ∃ n, s.channel.next[r]? = some n ∧ n < s.channel.sent

theorem trigger_of_triggered (h : s.triggered = true) : s.trigger = s := by simp [trigger, h]

@[simp] theorem triggered_perform (step : Step) (s : Shutdown) :
    (perform step s).2.triggered = true ↔ s.triggered = true ∨ ∃ handle, step = .trigger handle := by
  cases step with
  | trigger => cases given : s.triggered <;> simp [perform, trigger, given]
  | _ => simp [perform, clone, subscribe, poll]

theorem triggered_run (steps : List Step) (s : Shutdown) :
    (run steps s).triggered = true ↔ s.triggered = true ∨ Given steps := by
  induction steps generalizing s with
  | nil => simp [run]
  | cons step steps ih => simp [run, ih, or_assoc]

namespace Sound

theorem fresh : Sound {} := ⟨by decide, fun _ => rfl, by simp⟩

theorem receive_cases (h : s.Sound) (r : Nat) :
    (¬ s.Waits r ∧ s.channel.receive r = (.nothing, s.channel)) ∨
      (s.Waits r ∧ s.channel.receive r =
        (.signal, { s.channel with next := s.channel.next.set r s.channel.sent })) := by
  rw [Channel.receive]
  cases found : s.channel.next[r]? with
  | none => simp [Waits, found]
  | some n =>
    have reached := h.reached n (List.mem_of_getElem? found)
    have once := h.once
    by_cases all : n = s.channel.sent
    · simp [Waits, found, all]
    · have last : n + 1 = s.channel.sent := by omega
      simp [Waits, found, all, last]
      omega

theorem poll_iff (h : s.Sound) : (s.poll r).1 = true ↔ s.Waits r := by
  rcases h.receive_cases r with ⟨waits, received⟩ | ⟨waits, received⟩ <;> simp [poll, received, waits]

theorem perform (h : s.Sound) (step : Step) : (perform step s).2.Sound := by
  cases step with
  | clone => exact ⟨h.once, h.silent, h.reached⟩
  | ask => exact h
  | subscribe =>
    refine ⟨h.once, h.silent, ?_⟩
    simpa [Shutdown.perform, Shutdown.subscribe, Channel.subscribe, or_imp, forall_and] using h.reached
  | trigger =>
    cases given : s.triggered with
    | true => simpa [Shutdown.perform, trigger_of_triggered given] using h
    | false =>
      have silent := h.silent given
      have reached : ∀ n ∈ s.channel.next, n ≤ 1 := fun n mem => Nat.le_trans (h.reached n mem) h.once
      cases receivers : s.channel.next with
      | nil =>
        constructor <;> simp [Shutdown.perform, trigger, given, Channel.send, receivers, silent]
      | cons n ns =>
        have after : s.trigger = { s with triggered := true, channel := ⟨1, n :: ns⟩ } := by
          simp [trigger, given, Channel.send, receivers, silent]
        rw [receivers] at reached
        rw [Shutdown.perform, after]
        exact ⟨Nat.le_refl 1, nofun, reached⟩
  | poll r =>
    rcases h.receive_cases r with ⟨-, received⟩ | ⟨-, received⟩ <;> simp only [Shutdown.perform, poll, received]
    · exact h
    · refine ⟨h.once, h.silent, fun n mem => ?_⟩
      rcases List.mem_or_eq_of_mem_set mem with mem | rfl
      · exact h.reached n mem
      · exact Nat.le_refl _

theorem run (h : s.Sound) (steps : List Step) : (run steps s).Sound := by
  induction steps generalizing s with
  | nil => exact h
  | cons step steps ih => exact ih (h.perform step)

theorem waits_of_not_triggered (h : s.Sound) (silent : s.triggered = false) : ¬ s.Waits r := by
  simp [Waits, h.silent silent]

theorem waits_trigger (h : s.Sound) (silent : s.triggered = false) :
    s.trigger.Waits r ↔ r < s.channel.next.length := by
  have none := h.silent silent
  simp only [Waits, trigger, silent, Channel.send]
  cases receivers : s.channel.next with
  | nil => simp [none]
  | cons n ns =>
    have reached : ∀ m ∈ n :: ns, m = 0 := by
      intro m mem
      rw [← receivers] at mem
      have := h.reached m mem
      omega
    simp only [Bool.false_eq_true, if_false, List.isEmpty_cons, none]
    constructor
    · rintro ⟨m, found, -⟩
      exact (List.getElem?_eq_some_iff.1 found).1
    · intro lt
      have found := List.getElem?_eq_getElem lt
      exact ⟨_, found, by simp [reached _ (List.mem_of_getElem? found)]⟩

theorem waits_perform (h : s.Sound) (given : s.triggered = true) :
    (Shutdown.perform step s).2.Waits r ↔ s.Waits r ∧ step ≠ .poll r := by
  cases step with
  | clone => simp [Shutdown.perform, clone, Waits]
  | ask => simp [Shutdown.perform]
  | trigger => simp [Shutdown.perform, trigger_of_triggered given]
  | subscribe =>
    simp only [Shutdown.perform, Shutdown.subscribe, Channel.subscribe, Waits, List.getElem?_append]
    by_cases old : r < s.channel.next.length
    · simp [old]
    · simp [old, List.getElem?_singleton]
  | poll r' =>
    simp only [Shutdown.perform, poll]
    rcases h.receive_cases r' with ⟨waits, received⟩ | ⟨waits, received⟩ <;> rw [received]
    · by_cases same : r' = r
      · simp [← same, waits]
      · simp [same]
    · by_cases same : r' = r
      · simp [Waits, same, List.getElem?_set]
      · simp [Waits, same]

theorem waits_run (h : s.Sound) (given : s.triggered = true) :
    (Shutdown.run steps s).Waits r ↔ s.Waits r ∧ .poll r ∉ steps := by
  induction steps generalizing s with
  | nil => simp [Shutdown.run]
  | cons step steps ih =>
    have given' : (Shutdown.perform step s).2.triggered = true := (triggered_perform step s).2 (.inl given)
    rw [Shutdown.run, ih (h.perform step) given', h.waits_perform given, List.mem_cons, not_or, and_assoc]
    simp [eq_comm]

end Sound

theorem receiver_perform (step : Step) (s : Shutdown) :
    ((perform step s).1 = .receiver s.channel.next.length ∧
        (perform step s).2.channel.next.length = s.channel.next.length + 1) ∨
      ((∀ r, (perform step s).1 ≠ .receiver r) ∧
        (perform step s).2.channel.next.length = s.channel.next.length) := by
  cases step with
  | subscribe => simp [perform, subscribe, Channel.subscribe]
  | clone => simp [perform, clone]
  | ask => simp [perform]
  | trigger =>
    refine .inr ⟨by simp [perform], ?_⟩
    rw [perform, trigger]
    split
    · rfl
    · exact congrArg List.length s.channel.next_send
  | poll r => exact .inr ⟨by simp [perform], s.channel.length_receive r⟩

theorem length_run (steps : List Step) (s : Shutdown) :
    s.channel.next.length ≤ (run steps s).channel.next.length := by
  induction steps generalizing s with
  | nil => exact Nat.le_refl _
  | cons step steps ih =>
    refine Nat.le_trans ?_ (ih _)
    rcases receiver_perform step s with ⟨-, length⟩ | ⟨-, length⟩ <;> omega

theorem receiver_mem_answers :
    .receiver r ∈ answers steps s ↔ s.channel.next.length ≤ r ∧ r < (run steps s).channel.next.length := by
  induction steps generalizing s with
  | nil => simp [answers, run]
  | cons step steps ih =>
    rw [answers, run, List.mem_cons, ih]
    rcases receiver_perform step s with ⟨new, length⟩ | ⟨old, length⟩
    · rw [new, length, Answer.receiver.injEq]
      have grows := length_run steps (perform step s).2
      omega
    · simp [length, (old r).symm]

theorem waits_run_trigger {handle : Nat} (silent : ¬ Given before) :
    (run (before ++ .trigger handle :: between) {}).Waits r ↔
      .receiver r ∈ answers before {} ∧ .poll r ∉ between := by
  have sound := Sound.fresh.run before
  have untriggered : (run before {}).triggered = false := by simpa [silent] using (triggered_run before {}).not
  have triggered := (triggered_perform (.trigger handle) (run before {})).2 (.inr ⟨handle, rfl⟩)
  rw [run_append, run, (sound.perform _).waits_run triggered, receiver_mem_answers]
  simp [perform, sound.waits_trigger untriggered]

theorem given_of_waits (waits : (run steps {}).Waits r) : Given steps := by
  by_contra silent
  refine (Sound.fresh.run steps).waits_of_not_triggered ?_ waits
  simpa [silent] using (triggered_run steps {}).not

theorem answer_poll : answer steps (.poll r) = .polled true ↔ (run steps {}).Waits r := by
  rw [← (Sound.fresh.run steps).poll_iff, answer, perform, Answer.polled.injEq]

theorem answer_poll_eq_false : answer steps (.poll r) = .polled false ↔ ¬ (run steps {}).Waits r := by
  rw [← (Sound.fresh.run steps).poll_iff, answer, perform, Answer.polled.injEq, Bool.not_eq_true]

/-- The signal is given once and for all. Whoever had subscribed by the first trigger takes it at the first request
that follows and never again, and nobody else takes it; nobody ever misses it, and later triggers change nothing. -/
theorem signal_reaches_subscribed :
    (∀ steps handle, answer steps (.ask handle) = .triggered true ↔ Given steps) ∧
    (∀ before between r, answer before (.poll r) = .polled true →
      answer (before ++ .poll r :: between) (.poll r) = .polled false) ∧
    (∀ steps r, ¬ Given steps → answer steps (.poll r) = .polled false) ∧
    (∀ before handle between r, ¬ Given before → .poll r ∉ between →
      (answer (before ++ .trigger handle :: between) (.poll r) = .polled true ↔ .receiver r ∈ answers before {})) ∧
    (∀ before later r, Given before → .receiver r ∉ answers before {} →
      answer (before ++ later) (.poll r) = .polled false) ∧
    (∀ before handle later, Given before →
      answers later (run (before ++ [.trigger handle]) {}) = answers later (run before {})) ∧
    (∀ steps r missed, ((run steps {}).channel.receive r).1 ≠ .lagged missed) := by
  have triggered (steps : List Step) : (run steps {}).triggered = true ↔ Given steps := by simp [triggered_run]
  refine ⟨fun steps handle => ?_, fun before between r taken => ?_, fun steps r silent => ?_,
    fun before handle between r silent unasked => ?_, fun before later r given late => ?_,
    fun before handle later given => ?_, fun steps r missed => ?_⟩
  · rw [answer, perform, Answer.triggered.injEq, triggered]
  · have waits := answer_poll.1 taken
    rw [answer_poll_eq_false, run_append,
      (Sound.fresh.run before).waits_run ((triggered before).2 (given_of_waits waits))]
    simp
  · exact answer_poll_eq_false.2 fun waits => silent (given_of_waits waits)
  · rw [answer_poll, waits_run_trigger silent]
    simp [unasked]
  · obtain ⟨first, handle, between, rfl, silent⟩ := Given.first given
    rw [answer_poll_eq_false, List.append_assoc, List.cons_append, waits_run_trigger silent]
    rw [answers_append, List.mem_append, not_or] at late
    exact fun waits => late.1 waits.1
  · rw [run_append, run, run, perform, trigger_of_triggered ((triggered before).2 given)]
  · rcases (Sound.fresh.run steps).receive_cases r with ⟨-, received⟩ | ⟨-, received⟩ <;> simp [received]

/-- Two receivers subscribe before the signal is given, by two handles, and one after. -/
theorem signal_reaches_two :
    let before : List Step := [.subscribe 0, .clone 0, .poll 0, .subscribe 1]
    let between : List Step := [.subscribe 0, .trigger 0, .poll 0]
    let steps := before ++ .trigger 1 :: between
    answer before (.poll 0) = .polled false ∧ answer steps (.ask 0) = .triggered true ∧
    answer steps (.poll 1) = .polled true ∧ answer (steps ++ [.poll 1, .ask 0]) (.poll 1) = .polled false ∧
    answer steps (.poll 2) = .polled false ∧
    answers [.poll 0, .poll 1] (run (steps ++ [.trigger 1]) {}) = [.polled false, .polled true] := by
  intro before between steps
  obtain ⟨asked, once, early, first, late, again, -⟩ := signal_reaches_subscribed
  have silent : ¬ Given before := by simp [before]
  have given : Given steps := ⟨1, by decide⟩
  have taken : answer steps (.poll 1) = .polled true := (first before 1 between 1 silent (by decide)).2 (by decide)
  refine ⟨early before 0 silent, (asked steps 0).2 given, taken, once steps [.ask 0] 1 taken, ?_, ?_⟩
  · have missed := late (before ++ [.trigger 1]) between 2 ⟨1, by decide⟩ (by decide)
    rwa [List.append_assoc] at missed
  · exact (again steps 1 [.poll 0, .poll 1] given).trans (by decide)

end Shutdown
end LogRouting
