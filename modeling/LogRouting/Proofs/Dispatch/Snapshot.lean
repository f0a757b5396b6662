import LogRouting.Router.Dispatch
import Mathlib.Data.List.FinRange

namespace LogRouting

def Logger.message (l : Logger) (call : Call) : String :=
  match call.arguments.params with
  | none => call.message
  | some params =>
    String.ofList (Message.fill (Message.render l.context.renderer.limit) params call.message.toList).text

def Logger.renderings (l : Logger) (call : Call) : List (List Char) :=
  match call.arguments.params with
  | none => []
  | some params =>
    if l.context.renderer.observed then
      (Message.fill (Message.render l.context.renderer.limit) params call.message.toList).rendered
    else []

def Logger.event (l : Logger) (call : Call) : Event :=
  ⟨l.category, l.message call, call.level, call.arguments.cause⟩

structure Invocation where
  target : Target
  event : Event
  found : Router

namespace Router

def admits (s : Router) (verified : Bool) (e : Event) (t : Target) : Bool :=
  !verified || decide (s.levelOf t ≤ e.level)

def turn (h : Handler) (reporter : Reporter) (verified : Bool) (e : Event) (s : Router) (t : Target) : Router :=
  if s.admits verified e t then s.deliver h reporter e t else s

def invocationsFrom (h : Handler) (reporter : Reporter) (verified : Bool) (e : Event) :
    List Target → Router → List Invocation
  | [], _ => []
  | t :: ts, s =>
    let rest := invocationsFrom h reporter verified e ts (s.turn h reporter verified e t)
    if s.admits verified e t then ⟨t, e, s⟩ :: rest else rest

/-- The state in which the first target has its turn: the event has been made and counted. -/
def begun (s : Router) (l : Logger) (call : Call) : Router :=
  ((l.renderings call).foldl (fun s r => s.observe (.rendered r)) s).count (.events call.level)

def invocations (h : Handler) (id : LoggerId) (call : Call) (s : Router) : List Invocation :=
  match s.logger? id with
  | none => []
  | some l =>
    if s.isIdle l call then []
    else
      invocationsFrom h l.context.reporter call.verified (l.event call) l.targets.members (s.begun l call)

variable {h h' : Handler} {reporter : Reporter} {verified : Bool} {e : Event} {s : Router} {id : LoggerId}
  {l : Logger} {call : Call} {t : Target} {ts : List Target}

theorem admits_iff : s.admits verified e t = true ↔ ¬(verified = true ∧ e.level < s.levelOf t) := by
  rw [admits, not_and, Level.not_lt]
  cases verified <;> simp

theorem turn_of_admits (ha : s.admits verified e t = true) :
    s.turn h reporter verified e t = s.deliver h reporter e t := if_pos ha

theorem turn_of_not_admits (ha : ¬ s.admits verified e t = true) : s.turn h reporter verified e t = s :=
  if_neg ha

theorem deliverAll_eq_foldl (ts : List Target) (s : Router) :
    s.deliverAll h reporter verified e ts = ts.foldl (turn h reporter verified e) s := by
  induction ts generalizing s with
  | nil => rfl
  | cons t ts ih =>
    rw [deliverAll, List.foldl_cons]
    split
    · next passed => rw [ih, turn_of_not_admits (by rwa [admits_iff, not_not])]
    · next taken => rw [ih, turn_of_admits (admits_iff.2 taken)]

theorem compose_eq (l : Logger) (call : Call) (s : Router) :
    s.compose l.context.renderer call =
      (l.message call, (l.renderings call).foldl (fun s r => s.observe (.rendered r)) s) := by
  rw [compose, Logger.message, Logger.renderings]
  cases call.arguments.params with
  | none => rfl
  | some params => cases l.context.renderer.observed <;> rfl

theorem dispatch_of_none (none : s.logger? id = none) : s.dispatch h id call = s := by
  simp [dispatch, none]

theorem dispatch_of_idle (found : s.logger? id = some l) (idle : s.isIdle l call = true) :
    s.dispatch h id call = s := by
  simp [dispatch, found, idle]

theorem dispatch_of_busy (found : s.logger? id = some l) (busy : ¬ s.isIdle l call = true) :
    s.dispatch h id call =
      l.targets.members.foldl (turn h l.context.reporter call.verified (l.event call)) (s.begun l call) := by
  rw [← deliverAll_eq_foldl, dispatch, found]
  simp only [if_neg busy, compose_eq]
  rfl

theorem invocations_of_none (none : s.logger? id = none) : s.invocations h id call = [] := by
  simp [invocations, none]

theorem invocations_of_idle (found : s.logger? id = some l) (idle : s.isIdle l call = true) :
    s.invocations h id call = [] := by
  simp [invocations, found, idle]

theorem invocations_of_busy (found : s.logger? id = some l) (busy : ¬ s.isIdle l call = true) :
    s.invocations h id call =
      invocationsFrom h l.context.reporter call.verified (l.event call) l.targets.members (s.begun l call) := by
  simp [invocations, found, busy]

theorem isIdle_iff : s.isIdle l call = true ↔
    l.targets.members = [] ∨ call.verified = true ∧ call.level < s.gateLevel l.context.gate := by
  simp [isIdle, TargetSet.isEmpty]

def atTurn (h : Handler) (reporter : Reporter) (verified : Bool) (e : Event) (ts : List Target) (s : Router)
    (k : Nat) : Router :=
  (ts.take k).foldl (turn h reporter verified e) s

theorem invocationsFrom_eq_map (ts : List Target) (s : Router) :
    invocationsFrom h reporter verified e ts s =
      ((List.finRange ts.length).filter fun k : Fin ts.length =>
        (atTurn h reporter verified e ts s k).admits verified e ts[k]).map fun k : Fin ts.length =>
          ⟨ts[k], e, atTurn h reporter verified e ts s k⟩ := by
  induction ts generalizing s with
  | nil => rfl
  | cons t ts ih =>
    have rest := ih (s.turn h reporter verified e t)
    have first : atTurn h reporter verified e (t :: ts) s (0 : Fin (ts.length + 1)) = s := rfl
    have head : (t :: ts)[(0 : Fin (ts.length + 1))] = t := rfl
    rw [invocationsFrom, rest]
    -- the places in the tail are those in the list moved down by one
    simp only [List.length_cons, List.finRange_succ, List.filter_cons, List.filter_map, first, head]
    split
    · rw [List.map_cons, List.map_map]
      rfl
    · rw [List.map_map]
      rfl

section

variable {P : Router → Prop} (noting : ∀ o s, P s → P (s.observe o)) (handling : ∀ t e s, P s → P (h t e s).2)

include noting in
theorem report_preserves {error : TargetError} (hs : P s) : P (s.report reporter t e error) := by
  cases reporter with
  | noting => exact noting _ _ hs
  | panicking => exact noting _ _ hs
  | tracing => exact noting _ _ (noting _ _ hs)

include noting handling in
theorem turn_preserves (hs : P s) : P (s.turn h reporter verified e t) := by
  rw [turn, deliver]
  split
  · dsimp only
    split
    · exact handling t e s hs
    · exact report_preserves noting (handling t e s hs)
  · exact hs

include noting in
theorem begun_preserves (hs : P s) : P (s.begun l call) :=
  noting _ _ (List.foldlRecOn (motive := P) _ _ hs fun _ hs _ _ => noting _ _ hs)

include noting handling in
theorem dispatch_preserves (hs : P s) : P (s.dispatch h id call) := by
  cases found : s.logger? id with
  | none => rwa [dispatch_of_none found]
  | some l =>
    by_cases idle : s.isIdle l call = true
    · rwa [dispatch_of_idle found idle]
    · rw [dispatch_of_busy found idle]
      exact List.foldlRecOn (motive := P) _ _ (begun_preserves noting hs) fun s hs t _ =>
        turn_preserves noting handling hs

end

end Router
end LogRouting
