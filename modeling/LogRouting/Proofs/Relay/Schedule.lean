import LogRouting.Proofs.Relay.Lines
import LogRouting.Relay

/-!
Schedules of a relay: things arrive and turns are made in any order. What has arrived was taken in a turn or is
still waiting, in the order of its arrival, and the router is what the turns made of it.
-/

namespace LogRouting.Relay

inductive Moment
  | arrival (a : Arrival)
  | turn

inductive Taken
  | configuration (c : Settings)
  | line (text : String)
deriving DecidableEq

def callFor (fallback : Level) (line : String) : Call :=
  ⟨(splitLevel fallback line.toList).1, String.ofList (splitLevel fallback line.toList).2, {}, true⟩

namespace Taken

def settings? : Taken → Option Settings
  | .configuration c => some c
  | .line _ => none

def line? : Taken → Option String
  | .configuration _ => none
  | .line text => some text

def perform (logger : LoggerId) (fallback : Level) : Taken → Router → Router
  | .configuration c, r => r.reload c
  | .line text, r => r.log logger (callFor fallback text)

end Taken

def applied (taken : List Taken) : List Settings := taken.filterMap Taken.settings?

def handed (taken : List Taken) : List String := taken.filterMap Taken.line?

namespace State

def pass (s : State) : Moment → State
  | .arrival a => s.arrive a
  | .turn => s.turn

def run (moments : List Moment) (s : State) : State := moments.foldl pass s

def takes? (s : State) : Option Taken :=
  if s.status ≠ .running ∨ s.shutdown = true then none
  else
    match s.configurations, s.lines with
    | c :: _, _ => some (.configuration c)
    | [], line :: _ => (decode? line).map .line
    | [], [] => none

def taken : List Moment → State → List Taken
  | [], _ => []
  | .arrival a :: moments, s => taken moments (s.arrive a)
  | .turn :: moments, s => s.takes?.toList ++ taken moments s.turn

end State

def arrivals (moments : List Moment) : List Arrival :=
  moments.filterMap fun | .arrival a => some a | .turn => none

def sent (as : List Arrival) : List Settings := as.filterMap fun | .configuration c => some c | _ => none

def received : List Arrival → List UInt8
  | [] => []
  | .bytes bytes :: as => bytes ++ received as
  | .ended :: _ => []
  | .configuration _ :: as | .shutdown :: as => received as

variable {s s' arrived : State} {ts : List Taken} {moments later : List Moment} {as : List Arrival} {a : Arrival}
  {c : Settings} {u : List UInt8}

inductive Turn (s : State) : Prop
  | configuration (c : Settings) (rest : List Settings) (takes : s.takes? = some (.configuration c))
    (running : s.status = .running) (waiting : s.configurations = c :: rest)
    (eq : s.turn = { s with router := s.router.reload c, configurations := rest })
  | line (line : List UInt8) (text : String) (rest : List (List UInt8)) (takes : s.takes? = some (.line text))
    (running : s.status = .running) (current : s.configurations = []) (waiting : s.lines = line :: rest)
    (decoded : decode? line = some text)
    (eq : s.turn = { s with
      router := s.router.log s.logger (callFor s.fallback text), relayed := s.relayed + 1, lines := rest })
  | idle (takes : s.takes? = none) (why : s.status ≠ .running ∨ s.unended ≠ none) (eq : s.turn = s)
  | stop (takes : s.takes? = none) (finished : s.shutdown = true ∨ s.lines = [] ∧ s.unended = none)
    (eq : s.turn = { s with status := .stopped })
  | fail (takes : s.takes? = none) (broken : none ∈ s.lines.map decode?)
    (eq : s.turn = { s with status := .broken })

theorem turn_cases (s : State) : Turn s := by
  by_cases running : s.status = .running
  · cases down : s.shutdown with
    | true =>
      refine .stop ?_ (.inl down) ?_
      · simp [State.takes?, down]
      · simp [State.turn, running, down]
    | false =>
      cases configurations : s.configurations with
      | cons c rest =>
        refine .configuration c rest ?_ running configurations ?_
        · simp [State.takes?, running, down, configurations]
        · simp [State.turn, running, down, configurations]
      | nil =>
        cases lines : s.lines with
        | cons line rest =>
          cases decoded : decode? line with
          | some text =>
            refine .line line text rest ?_ running configurations lines decoded ?_
            · simp [State.takes?, running, down, configurations, lines, decoded]
            · simp [State.turn, running, down, configurations, lines, decoded, State.relay, callFor]
          | none =>
            refine .fail ?_ ?_ ?_
            · simp [State.takes?, running, down, configurations, lines, decoded]
            · simp [lines, decoded]
            · simp [State.turn, running, down, configurations, lines, decoded]
        | nil =>
          have takes : s.takes? = none := by simp [State.takes?, running, down, configurations, lines]
          cases unended : s.unended with
          | none => exact .stop takes (.inr ⟨lines, unended⟩) (by simp [State.turn, *])
          | some line => exact .idle takes (.inr (by simp [unended])) (by simp [State.turn, *])
  · refine .idle ?_ (.inl running) ?_
    · simp [State.takes?, running]
    · simp [State.turn, running]

theorem arrive_of_none (closed : s.unended = none) (stream : a = .ended ∨ ∃ bytes, a = .bytes bytes) :
    s.arrive a = s := by
  rcases stream with rfl | ⟨bytes, rfl⟩
  · simp only [State.arrive, closed]
    exact closed ▸ rfl
  · simp only [State.arrive, closed]

theorem arrive_bytes {bytes : List UInt8} (opened : s.unended = some u) : s.arrive (.bytes bytes) =
    { s with lines := s.lines ++ (cut u bytes).lines, unended := some (cut u bytes).unended } := by
  simp only [State.arrive, opened]

theorem arrive_ended (opened : s.unended = some u) :
    s.arrive .ended = { s with lines := s.lines ++ if u = [] then [] else [u], unended := none } := by
  cases u <;> simp [State.arrive, opened]

theorem arrive_eq : s.arrive a = { s with
    shutdown := (s.arrive a).shutdown
    configurations := (s.arrive a).configurations
    lines := (s.arrive a).lines
    unended := (s.arrive a).unended } := by
  cases a <;> simp only [State.arrive] <;> split <;> rfl

theorem shutdown_arrive : (s.arrive a).shutdown = true ↔ s.shutdown = true ∨ a = .shutdown := by
  cases a <;> simp only [State.arrive] <;> try split
  all_goals simp

structure Progress (arrived : State) (ts : List Taken) (s : State) : Prop where
  logger : s.logger = arrived.logger
  fallback : s.fallback = arrived.fallback
  unended : s.unended = arrived.unended
  shutdown : s.shutdown = arrived.shutdown
  configurations : arrived.configurations = applied ts ++ s.configurations
  lines : arrived.lines.map decode? = (handed ts).map some ++ s.lines.map decode?
  relayed : s.relayed = arrived.relayed + (handed ts).length
  router : s.router = ts.foldl (fun r t => t.perform arrived.logger arrived.fallback r) arrived.router
  stopped : s.status = .stopped → s.shutdown = true ∨ s.lines = [] ∧ s.unended = none
  broken : s.status = .broken → none ∈ s.lines.map decode?

theorem Progress.refl (running : s.status = .running) : Progress s [] s := by
  constructor <;> simp [applied, handed, running]

theorem Progress.enqueue (h : Progress arrived ts s) (more : List (List UInt8)) (rest : Option (List UInt8))
    (goes_on : s.unended = none → more = [] ∧ rest = none) :
    Progress { arrived with lines := arrived.lines ++ more, unended := rest } ts
      { s with lines := s.lines ++ more, unended := rest } where
  __ := h
  unended := rfl
  lines := by simp [h.lines]
  stopped := by
    intro finished
    rcases h.stopped finished with down | ⟨none, ended⟩
    · exact .inl down
    · obtain ⟨rfl, rfl⟩ := goes_on ended
      exact .inr ⟨by simp [none], rfl⟩
  broken := by
    intro broken
    rw [List.map_append]
    exact List.mem_append_left _ (h.broken broken)

theorem Progress.arrive (h : Progress arrived ts s) (a : Arrival) : Progress (arrived.arrive a) ts (s.arrive a) := by
  cases a with
  | bytes bytes =>
    cases opened : s.unended with
    | none =>
      rwa [arrive_of_none opened (.inr ⟨_, rfl⟩), arrive_of_none (h.unended.symm.trans opened) (.inr ⟨_, rfl⟩)]
    | some start =>
      rw [arrive_bytes opened, arrive_bytes (h.unended.symm.trans opened)]
      exact h.enqueue _ _ (by simp [opened])
  | ended =>
    cases opened : s.unended with
    | none => rwa [arrive_of_none opened (.inl rfl), arrive_of_none (h.unended.symm.trans opened) (.inl rfl)]
    | some start =>
      rw [arrive_ended opened, arrive_ended (h.unended.symm.trans opened)]
      exact h.enqueue _ _ (by simp [opened])
  | configuration c => exact { h with configurations := by simp [State.arrive, h.configurations] }
  | shutdown => exact { h with shutdown := rfl, stopped := fun _ => .inl rfl }

theorem Progress.turn (h : Progress arrived ts s) : Progress arrived (ts ++ s.takes?.toList) s.turn := by
  cases turn_cases s with
  | configuration c rest takes running waiting eq =>
    rw [takes, eq, Option.toList_some]
    exact { h with
      configurations := by simp [h.configurations, waiting, applied, Taken.settings?]
      lines := by simp [h.lines, handed, Taken.line?]
      relayed := by simp [h.relayed, handed, Taken.line?]
      router := by simp [h.router, Taken.perform] }
  | line line text rest takes running current waiting decoded eq =>
    rw [takes, eq, Option.toList_some]
    exact { h with
      configurations := by simp [h.configurations, applied, Taken.settings?]
      lines := by simp [h.lines, waiting, decoded, handed, Taken.line?]
      relayed := by simp [h.relayed, handed, Taken.line?, Nat.add_assoc]
      router := by simp [h.router, h.logger, h.fallback, Taken.perform]
      stopped := fun finished => nomatch running.symm.trans finished
      broken := fun finished => nomatch running.symm.trans finished }
  | idle takes why eq =>
    rw [takes, eq, Option.toList_none, List.append_nil]
    exact h
  | stop takes finished eq =>
    rw [takes, eq, Option.toList_none, List.append_nil]
    exact { h with stopped := fun _ => finished, broken := nofun }
  | fail takes broken eq =>
    rw [takes, eq, Option.toList_none, List.append_nil]
    exact { h with stopped := nofun, broken := fun _ => broken }

theorem Progress.run (h : Progress arrived ts s) (moments : List Moment) :
    Progress ((arrivals moments).foldl State.arrive arrived) (ts ++ s.taken moments) (s.run moments) := by
  induction moments generalizing arrived ts s with
  | nil => simpa [State.run, State.taken, arrivals] using h
  | cons moment moments ih =>
    cases moment with
    | arrival a => exact ih (h.arrive a)
    | turn =>
      rw [State.taken, ← List.append_assoc]
      exact ih h.turn

theorem run_append : s.run (moments ++ later) = (s.run moments).run later := List.foldl_append ..

theorem turn_of_not_running (finished : s.status ≠ .running) : s.turn = s := by
  simp [State.turn, finished]

theorem arrivals_append : arrivals (moments ++ later) = arrivals moments ++ arrivals later :=
  List.filterMap_append ..

theorem mem_arrivals : a ∈ arrivals moments ↔ .arrival a ∈ moments := by
  rw [arrivals, List.mem_filterMap]
  constructor
  · rintro ⟨moment, mem, eq⟩
    cases moment with
    | arrival b => exact Option.some.inj eq ▸ mem
    | turn => cases eq
  · exact fun mem => ⟨_, mem, rfl⟩

theorem foldl_arrive_eq : as.foldl State.arrive s = { s with
    shutdown := (as.foldl State.arrive s).shutdown
    configurations := (as.foldl State.arrive s).configurations
    lines := (as.foldl State.arrive s).lines
    unended := (as.foldl State.arrive s).unended } := by
  induction as generalizing s with
  | nil => rfl
  | cons a as ih => rw [List.foldl_cons, ih, arrive_eq]

theorem configurations_foldl : (as.foldl State.arrive s).configurations = s.configurations ++ sent as := by
  induction as generalizing s with
  | nil => simp [sent]
  | cons a as ih =>
    rw [List.foldl_cons, ih]
    cases a <;> simp only [State.arrive, sent, List.filterMap_cons] <;> try split
    all_goals simp

theorem shutdown_foldl : (as.foldl State.arrive s).shutdown = true ↔ s.shutdown = true ∨ .shutdown ∈ as := by
  induction as generalizing s with
  | nil => simp
  | cons a as ih => rw [List.foldl_cons, ih, shutdown_arrive, List.mem_cons, or_assoc, @eq_comm _ a]

theorem stream_foldl_of_none (closed : s.unended = none) :
    (as.foldl State.arrive s).lines = s.lines ∧ (as.foldl State.arrive s).unended = none := by
  induction as generalizing s with
  | nil => exact ⟨rfl, closed⟩
  | cons a as ih =>
    cases a with
    | bytes bytes => rw [List.foldl_cons, arrive_of_none closed (.inr ⟨_, rfl⟩)]; exact ih closed
    | ended => rw [List.foldl_cons, arrive_of_none closed (.inl rfl)]; exact ih closed
    | configuration c => exact ih closed
    | shutdown => exact ih closed

theorem stream_foldl (opened : s.unended = some u) (goes_on : .ended ∉ as) :
    (as.foldl State.arrive s).lines = s.lines ++ (cut u (received as)).lines ∧
      (as.foldl State.arrive s).unended = some (cut u (received as)).unended := by
  induction as generalizing s u with
  | nil => simp [received, opened]
  | cons a as ih =>
    rw [List.mem_cons, not_or] at goes_on
    cases a with
    | bytes bytes =>
      rw [List.foldl_cons, arrive_bytes opened, received, cut_append, ← List.append_assoc]
      exact ih rfl goes_on.2
    | ended => exact absurd rfl goes_on.1
    | configuration c => exact ih opened goes_on.2
    | shutdown => exact ih opened goes_on.2

theorem stream_foldl_ended (opened : s.unended = some u) (ended : .ended ∈ as) :
    (as.foldl State.arrive s).lines = s.lines ++ (cut u (received as)).all ∧
      (as.foldl State.arrive s).unended = none := by
  induction as generalizing s u with
  | nil => cases ended
  | cons a as ih =>
    cases a with
    | bytes bytes =>
      rw [List.foldl_cons, arrive_bytes opened, received, all_cut_append, ← List.append_assoc]
      exact ih rfl (by simpa using ended)
    | ended =>
      rw [List.foldl_cons, arrive_ended opened, received, cut_nil, Cut.all]
      simpa using stream_foldl_of_none rfl
    | configuration c => exact ih opened (by simpa using ended)
    | shutdown => exact ih opened (by simpa using ended)

end LogRouting.Relay
