import LogRouting.Router
import LogRouting.Message.Substitution

/-!
Dispatch: a log call becomes one event for the targets that its logger held when the call began. Whatever a
target does meanwhile, the event, the list and its order stay as they are; only the levels of the targets
are asked one at a time.
-/

namespace LogRouting.Router

abbrev Handler := Target → Event → Router → Outcome × Router

/-- Tells of a failed delivery. That the one who is told panics changes nothing. -/
def report (reporter : Reporter) (t : Target) (e : Event) (error : TargetError) (s : Router) : Router :=
  match reporter with
  | .noting | .panicking => s.observe (.reported t.name e.category e.level error)
  | .tracing => (s.count (.failures t.name)).note (.deliveryFailed t.name e.category e.level error)

def deliver (h : Handler) (reporter : Reporter) (e : Event) (t : Target) (s : Router) : Router :=
  let (outcome, s) := h t e s
  match outcome.error? with
  | none => s
  | some error => s.report reporter t e error

def deliverAll (h : Handler) (reporter : Reporter) (verified : Bool) (e : Event) :
    List Target → Router → Router
  | [], s => s
  | t :: ts, s =>
    if verified ∧ e.level < s.levelOf t then deliverAll h reporter verified e ts s
    else deliverAll h reporter verified e ts (s.deliver h reporter e t)

def compose (renderer : Renderer) (call : Call) (s : Router) : String × Router :=
  match call.arguments.params with
  | none => (call.message, s)
  | some params =>
    let filled := Message.fill (Message.render renderer.limit) params call.message.toList
    let s := if renderer.observed then filled.rendered.foldl (fun s r => s.observe (.rendered r)) s else s
    (String.ofList filled.text, s)

def isIdle (s : Router) (l : Logger) (call : Call) : Bool :=
  l.targets.isEmpty || (call.verified && call.level < s.gateLevel l.context.gate)

def dispatch (h : Handler) (id : LoggerId) (call : Call) (s : Router) : Router :=
  match s.logger? id with
  | none => s
  | some l =>
    if s.isIdle l call then s
    else
      let (message, s) := s.compose l.context.renderer call
      let e : Event := ⟨l.category, message, call.level, call.arguments.cause⟩
      deliverAll h l.context.reporter call.verified e l.targets.members (s.count (.events call.level))

end LogRouting.Router
