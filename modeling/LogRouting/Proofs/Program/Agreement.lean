import LogRouting.Program
import LogRouting.Proofs.Dispatch.Forwarded
import LogRouting.Proofs.Relay.Prefix
import LogRouting.Proofs.Relay.Service

namespace LogRouting

/-- Whether a record is of an event that a target handed on, by the origin that such records have. -/
def Record.isEvent (r : Record) : Bool := r.origin = "fanout_log::events"

theorem Notice.isEvent_forwarded {e : Event} : (Notice.forwarded e).record.isEvent = true := by
  rw [record]
  cases e.cause <;> rfl

theorem Notice.isEvent_of_none {n : Notice} (none : (Observation.noted n).forwarded? = none) :
    n.record.isEvent = false := by
  cases n with
  | forwarded e => cases none
  | _ => rfl

theorem Observation.eq_of_forwarded? {o : Observation} {e : Event} (handed : o.forwarded? = some e) :
    o = .noted (.forwarded e) := by
  cases o with
  | noted n =>
    cases n with
    | forwarded e => cases handed; rfl
    | _ => cases handed
  | _ => cases handed

theorem Program.events_records (filter : Filter) (r : Router) : (records filter r.journal).filter (·.isEvent) =
    (r.forwarded.map fun e => (Notice.forwarded e).record).filter filter.lets := by
  rw [records, Router.forwarded, List.filter_filterMap, List.map_filterMap, List.filter_filterMap]
  refine List.filterMap_congr fun o _ => ?_
  cases handed : o.forwarded? with
  | some e =>
    cases Observation.eq_of_forwarded? handed
    by_cases lets : filter.lets (Notice.forwarded e).record <;>
      simp [lets, Notice.isEvent_forwarded, Option.filter]
  | none =>
    cases o with
    | noted n => by_cases lets : filter.lets n.record <;> simp [lets, Notice.isEvent_of_none handed]
    | _ => rfl

namespace Router

variable {r : Router} {c : Settings} {category message : String} {level : Level} {n : Notice}

/-- Settings are in force, there is no logger of the category yet, and no event was handed on. -/
structure Awaiting (c : Settings) (category : String) (r : Router) : Prop where
  follows : r.Follows c
  unknown : r.registered? category = none
  silent : r.forwarded = []

theorem Awaiting.note (h : r.Awaiting c category) (own : n.isOwn = true) : (r.note n).Awaiting c category where
  follows := h.follows.observe _
  unknown := h.unknown
  silent := ((Notes.refl r).note own).forwarded.trans h.silent

theorem awaiting_start (valid : c.defects = []) (notes : Notes empty r) (same : r = empty.withJournal r.journal) :
    (r.start c).Awaiting c category where
  follows := by
    rw [same]
    exact follows_start ⟨rfl, rfl, rfl⟩ rfl (Settings.nodup_names valid)
  unknown := registered?_configure
  silent := (Notes.start c r).forwarded.trans notes.forwarded

theorem Awaiting.forwarded_log (h : r.Awaiting c category) (valid : c.defects = []) :
    ((r.lookup category).2.log (r.lookup category).1 ⟨level, message, {}, true⟩).forwarded =
      List.replicate (c.reached category level).length ⟨category, message, level, none⟩ := by
  let made : Logger :=
    ⟨category, ⟨(r.registry.bindings.filter (·.covers category)).map (·.target)⟩, r.registry.context⟩
  have found : (r.lookup category).2.logger? (r.lookup category).1 = some made := by
    rw [logger?_lookup_of_none h.unknown h.follows.managed.settled.consistent.bound, lookup_of_none h.unknown,
      if_pos rfl]
  let call : Call := ⟨level, message, {}, true⟩
  have handed := (h.follows.lookup category).forwarded_log (Settings.nodup_names valid) registered?_lookup found
    (rfl : call.verified = true)
  rw [handed, (Notes.lookup category r).forwarded, h.silent]
  rfl

end Router

namespace Relay

variable {start : State} {message line text : String} {level fallback : Level} {ms : List Moment}
  {as : List Arrival} {ts : List Taken} {n : Nat}

theorem eq_map_handed (unchanged : applied ts = []) : ts = (handed ts).map .line := by
  induction ts with
  | nil => rfl
  | cons t ts ih =>
    cases t with
    | configuration next => cases unchanged
    | line text => exact congrArg (.line text :: ·) (ih unchanged)

theorem stopped_run (fresh : start.Fresh) (supplied : Supplies text (arrivals ms)) (ended : .arrival .ended ∈ ms)
    (enough : (start.run ms).configurations.length + (start.run ms).lines.length < n) :
    ((start.run ms).turns n).status = .stopped :=
  stopped_turns ((unended_run fresh ms).2 ended) (handed_isPrefix fresh supplied).2 (not_broken fresh supplied)
    enough

theorem router_run_of_line (fresh : start.Fresh) (supplied : Supplies text (arrivals ms))
    (unchanged : sent (arrivals ms) = []) (goes_on : .arrival .shutdown ∉ ms)
    (stopped : (start.run ms).status = .stopped) (single : linesOf text = [line]) :
    (start.run ms).router = start.router.log start.logger (callFor start.fallback line) := by
  have applied : applied (start.taken ms) = [] := by
    rw [sent_eq fresh, List.append_eq_nil_iff] at unchanged
    exact unchanged.1
  have taken : start.taken ms = [.line line] := by
    rw [eq_map_handed applied, handed_all fresh supplied goes_on stopped, single]
    rfl
  rw [(router_run fresh ms).1, taken]
  rfl

theorem receive_of_supplied (fresh : start.Fresh) (supplied : Supplies text as) (ended : .ended ∈ as) :
    ∃ ms, start.receive as = start.run ms ∧ arrivals ms = as ∧ (start.run ms).status = .stopped := by
  have same : arrivals (as.map .arrival) = as := by
    rw [arrivals, List.filterMap_map]
    exact List.filterMap_some
  refine ⟨_, receive_eq_run, ?_, ?_⟩
  · rw [arrivals_append, same]
    simp [arrivals]
  · rw [run_append, run_replicate]
    exact stopped_run fresh (same.symm ▸ supplied) (List.mem_map_of_mem ended) (Nat.lt_succ_self _)

theorem callFor_of_named {name : String} (named : Level.parse? name = some level)
    (flush : ∀ ch ∈ message.toList.head?, Text.isBlank ch = false) :
    callFor fallback ("[" ++ name ++ "] " ++ message) = ⟨level, message, {}, true⟩ := by
  have written : ("[" ++ name ++ "] " ++ message).toList = '[' :: name.toList ++ ']' :: ' ' :: message.toList := by
    simp
  rw [callFor, written, splitLevel_of_named named flush, String.ofList_toList]

end Relay

namespace Program

variable {r : Router} {c : Settings} {category message name ending : String} {level fallback : Level}
  {path : Option String} {ms : List Relay.Moment}

theorem awaiting_begin (valid : c.defects = []) : (begin c).Awaiting c category := by
  have starting : Router.Notes .empty (Router.empty.note .starting) := (Router.Notes.refl _).note rfl
  rw [begin]
  split
  · split
    · exact Router.awaiting_start valid (starting.note rfl) rfl
    · exact Router.awaiting_start valid starting rfl
  · exact Router.awaiting_start valid starting rfl

theorem forwarded_emit (valid : c.defects = []) :
    (emit level category message [] false (begin c)).forwarded =
      List.replicate (c.reached category level).length ⟨category, message, level, none⟩ :=
  (awaiting_begin valid).forwarded_log valid

theorem fresh_beginRelay : (beginRelay path category fallback r).Fresh := by
  cases path <;> exact ⟨rfl, rfl, rfl, rfl, rfl, rfl⟩

theorem beginRelay_eq (valid : c.defects = []) (path : Option String) (category : String) (fallback : Level) :
    ∃ r : Router, r.Awaiting c category ∧
      beginRelay path category fallback (begin c) = Relay.begin r category fallback := by
  cases path with
  | none => exact ⟨_, awaiting_begin valid, rfl⟩
  | some path => exact ⟨_, (awaiting_begin valid).note rfl, rfl⟩

theorem linesOf_bracketed (one : '\n' ∉ name.toList) (feedless : '\n' ∉ message.toList)
    (returnless : '\r' ∉ message.toList) (ends : ending ∈ ["", "\n", "\r\n"]) :
    Relay.linesOf ("[" ++ name ++ "] " ++ message ++ ending) = ["[" ++ name ++ "] " ++ message] := by
  refine Relay.linesOf_single ?_ ?_ ?_ ends
  · simp [one, feedless]
  · rw [String.toList_append, List.getLast?_append]
    cases last : message.toList.getLast? with
    | none => simp [List.getLast?_cons, List.getLast?_append]
    | some ch =>
      rintro ⟨⟩
      exact returnless (List.mem_of_getLast? last)
  · simp

theorem forwarded_relay {line text : String} (valid : c.defects = [])
    (read : Relay.callFor fallback line = ⟨level, message, {}, true⟩) (single : Relay.linesOf text = [line])
    (supplied : Relay.Supplies text (Relay.arrivals ms)) (unchanged : Relay.sent (Relay.arrivals ms) = [])
    (goes_on : .arrival .shutdown ∉ ms)
    (stopped : ((beginRelay path category fallback (begin c)).run ms).status = .stopped) :
    (endRelay ((beginRelay path category fallback (begin c)).run ms)).forwarded =
      List.replicate (c.reached category level).length ⟨category, message, level, none⟩ := by
  have closing (s : Relay.State) : (endRelay s).forwarded = s.router.forwarded :=
    ((Router.Notes.refl s.router).note rfl).forwarded
  have called := Relay.router_run_of_line fresh_beginRelay supplied unchanged goes_on stopped single
  obtain ⟨r, awaiting, begun⟩ := beginRelay_eq valid path category fallback
  rw [closing, called, begun]
  refine Eq.trans ?_ (awaiting.forwarded_log valid)
  rw [← read]
  rfl

def Ending.events? : Ending → Option (List Record)
  | .logged _ records => some (records.filter (·.isEvent))
  | _ => none

/-- To emit a message and to relay a line that begins with the level in brackets hands on the same events, whatever
the default level of the relay is and however the line arrives. -/
theorem emit_agrees_with_relay (c : Settings) (valid : c.defects = []) (category name message : String) (level : Level)
    (named : Level.parse? name = some level) (one : '\n' ∉ name.toList) (feedless : '\n' ∉ message.toList)
    (returnless : '\r' ∉ message.toList) (flush : ∀ ch ∈ message.toList.head?, Text.isBlank ch = false)
    (ending : String) (ends : ending ∈ ["", "\n", "\r\n"]) (path : Option String) (fallback : Level) :
    let text := "[" ++ name ++ "] " ++ message ++ ending
    let event : Event := ⟨category, message, level, none⟩
    let times := (c.reached category level).length
    (emit level category message [] false (begin c)).forwarded = List.replicate times event ∧
    (∀ ms, Relay.Supplies text (Relay.arrivals ms) → Relay.sent (Relay.arrivals ms) = [] →
      .arrival .shutdown ∉ ms →
      let s := (beginRelay path category fallback (begin c)).run ms
      (s.status = .stopped → (endRelay s).forwarded = List.replicate times event) ∧
      (.arrival .ended ∈ ms → ∀ n, s.configurations.length + s.lines.length < n → (s.turns n).status = .stopped)) ∧
    ∀ args args' file filter, prepare file path = .ok (c, filter) →
      CommandLine.parse args = .ok (.emit path level category message [] false) →
      CommandLine.parse args' = .ok (.relay path fallback category) →
      let shown := (List.replicate times (Notice.forwarded event).record).filter filter.lets
      (∀ input, (run args file input).events? = some shown) ∧
        (run args' file text.toUTF8.data.toList).events? = some shown := by
  intro text event times
  let start := beginRelay path category fallback (begin c)
  have fresh : start.Fresh := fresh_beginRelay
  have read : Relay.callFor fallback ("[" ++ name ++ "] " ++ message) = ⟨level, message, {}, true⟩ :=
    Relay.callFor_of_named named flush
  have single := linesOf_bracketed one feedless returnless ends
  refine ⟨forwarded_emit valid, fun ms supplied unchanged goes_on => ⟨?_, ?_⟩, ?_⟩
  · exact forwarded_relay valid read single supplied unchanged goes_on
  · exact fun ended n enough => Relay.stopped_run fresh supplied ended enough
  · intro args args' file filter prepared parsed parsed' shown
    constructor
    · intro input
      simp only [run, parsed, prepared, Ending.events?]
      rw [events_records, forwarded_emit valid, List.map_replicate]
    · let as : List Relay.Arrival := [.bytes text.toUTF8.data.toList, .ended]
      have whole : Relay.received as = text.toUTF8.data.toList := List.append_nil _
      have supplied : Relay.Supplies text as := ⟨whole ▸ List.prefix_rfl, fun _ => whole⟩
      obtain ⟨ms, same, given, stopped⟩ := Relay.receive_of_supplied fresh supplied (by simp [as])
      have goes_on : .arrival .shutdown ∉ ms := by simp [← Relay.mem_arrivals, given, as]
      have handed := forwarded_relay valid read single (given.symm ▸ supplied) (by rw [given]; rfl) goes_on stopped
      have unbroken : (start.receive as).status ≠ .broken := by simp [same, stopped]
      simp only [run, parsed', prepared]
      rw [if_neg unbroken, Ending.events?, events_records, same, handed, List.map_replicate]

/-- The message begins like another level and has a placeholder; of three targets two take warnings. -/
theorem emit_agrees_with_relay_bracketed :
    let document :=
      "[[targets]]\nname = \"a\"\n[[targets]]\nname = \"b\"\nlevel = \"fatal\"\n[[targets]]\nname = \"c\"\n"
    let file := fun _ : String => some document
    let message := "[error] \x7b0\x7d ]x"
    let event : Record := ⟨.warn, "fanout_log::events", message,
      [("category", .quoted "app"), ("level", .shown "WARN")], ["cause"]⟩
    let options := ["--config", "app.toml", "-c", "app"]
    (run (["emit", message, "-l", "warn"] ++ options) file []).events? = some [event, event] ∧
    (run (["relay"] ++ options) file ("[ Warn] " ++ message ++ "\r\n").toUTF8.data.toList).events? =
      some [event, event] := by
  intro document file message event options
  let c : Settings := { targets := [{ name := "a" }, { name := "b", level := .fatal }, { name := "c" }] }
  have accepted : Settings.read document = .ok c := by decide +kernel
  obtain ⟨filter, filtered⟩ : ∃ filter, Filter.read? c.observability.logFilter = some filter :=
    Option.isSome_iff_exists.1 (by decide +kernel)
  have prepared : prepare file (some "app.toml") = .ok (c, filter) := by
    simp only [prepare, load, loadFile, file, accepted, Except.mapError, filtered]
  have parsed : CommandLine.parse (["emit", message, "-l", "warn"] ++ options) =
      .ok (.emit (some "app.toml") .warn "app" message [] false) := by decide +kernel
  have parsed' : CommandLine.parse (["relay"] ++ options) = .ok (.relay (some "app.toml") .info "app") := by
    decide +kernel
  have flush : ∀ ch ∈ message.toList.head?, Text.isBlank ch = false := by
    have head : message.toList.head? = some '[' := by decide
    rw [head]
    rintro ch ⟨⟩
    decide
  obtain ⟨-, -, runs⟩ := emit_agrees_with_relay c (by decide +kernel) "app" " Warn" message .warn
    (by decide +kernel) (by decide) (by decide) (by decide) flush "\r\n" (by decide) (some "app.toml") .info
  obtain ⟨emitted, relayed⟩ := runs _ _ file filter prepared parsed parsed'
  have shown : (Filter.read? c.observability.logFilter).map (fun filter =>
      (List.replicate (c.reached "app" .warn).length (Notice.forwarded ⟨"app", message, .warn, none⟩).record).filter
        filter.lets) = some [event, event] := by decide +kernel
  rw [filtered, Option.map_some, Option.some.injEq] at shown
  rw [shown] at emitted relayed
  exact ⟨emitted [], relayed⟩

end Program
end LogRouting
