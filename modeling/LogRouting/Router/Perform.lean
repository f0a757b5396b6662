import LogRouting.Router.Configuration
import LogRouting.Router.Dispatch

namespace LogRouting.Router

def named? (s : Router) (id : String) : Option Target := s.names.targets.lookup id

def handle? (s : Router) (name : String) : Option LoggerId := s.names.loggers.lookup name

def nameTarget (id : String) (t : Target) (s : Router) : Router :=
  { s with names := { s.names with targets := (id, t) :: s.names.targets } }

def nameLogger (handle : String) (l : LoggerId) (s : Router) : Router :=
  { s with names := { s.names with loggers := (handle, l) :: s.names.loggers } }

def boundAnswer (s : Router) : Answer := .bound s.targetCount s.routing

def configuredAnswer (s : Router) : Answer :=
  .configured s.registryLevel s.configuredNames s.targetCount s.routing

def description (s : Router) (l : Logger) : List String :=
  ["Logger \x7b category: " ++ Text.quoted l.category ++ s!", targets: {l.targets.size} \x7d",
   s!"LogContext \x7b target_level: Level({(s.gateLevel l.context.gate).raw.toNat}), .. \x7d"]

def withLogger (s : Router) (handle : String) (f : LoggerId → Logger → Answer × Router) : Answer × Router :=
  match s.handle? handle with
  | none => (.refused .unknown, s)
  | some id =>
    match s.logger? id with
    | none => (.refused .unknown, s)
    | some l => f id l

def withTarget (s : Router) (id : String) (f : Target → Answer × Router) : Answer × Router :=
  match s.named? id with
  | none => (.refused .unknown, s)
  | some t => f t

def newGateOf (setting : GateSetting) (s : Router) : Gate × Router :=
  match setting with
  | .fixed level => (.fixed level, s)
  | .adjustable level =>
    let (index, s) := s.newGate level
    (.shared index, s)

def perform (h : Handler) (a : Action) (s : Router) : Answer × Router :=
  match a with
  | .scripted id name level reaction script times =>
    let (t, s) := s.newTarget name ⟨level, .scripted id reaction script times⟩
    (.nothing, s.nameTarget id t)
  | .forwarder id name level =>
    let (t, s) := s.newTarget name ⟨level, .forwarding⟩
    (.nothing, s.nameTarget id t)
  | .newLogger handle category gate limit reporter =>
    let (gate, s) := s.newGateOf gate
    let (id, s) := s.newLogger ⟨category, {}, ⟨gate, ⟨limit, true⟩, reporter⟩⟩
    (.nothing, s.nameLogger handle id)
  | .newRegistry level limit reporter => (.nothing, s.newRegistry level ⟨limit, true⟩ reporter)
  | .usePrinter limit =>
    (.nothing, s.setRegistry fun r => { r with context := { r.context with renderer := ⟨limit, true⟩ } })
  | .useReporter reporter =>
    (.nothing, s.setRegistry fun r => { r with context := { r.context with reporter := reporter } })
  | .add logger target =>
    s.withLogger logger fun id _ => s.withTarget target fun t =>
      let s := s.addTarget id t
      (.names (s.targetNames id), s)
  | .remove logger target =>
    s.withLogger logger fun id _ => s.withTarget target fun t =>
      let s := s.removeTarget id t
      (.names (s.targetNames id), s)
  | .hasTarget logger => s.withLogger logger fun _ l => (.flag (!l.targets.isEmpty), s)
  | .targets logger => s.withLogger logger fun id _ => (.names (s.targetNames id), s)
  | .category logger => s.withLogger logger fun _ l => (.text l.category, s)
  | .gateOf logger => s.withLogger logger fun _ l => (.level (s.gateLevel l.context.gate), s)
  | .rename logger category => s.withLogger logger fun id _ => (.text category, s.rename id category)
  | .setGate logger level =>
    s.withLogger logger fun _ l =>
      match l.context.gate with
      | .fixed _ => (.refused .unknown, s)
      | .shared index => (.level (s.gateLevel (.shared index)), s.setGate index level)
  | .describe logger => s.withLogger logger fun _ l => (.names (s.description l), s)
  | .sameLogger a b => s.withLogger a fun i _ => s.withLogger b fun j _ => (.flag (i = j), s)
  | .keep logger snapshot =>
    s.withLogger logger fun id _ =>
      (.nothing, { s with names :=
        { s.names with snapshots := (snapshot, s.targetsOf id) :: s.names.snapshots } })
  | .kept snapshot =>
    match s.names.snapshots.lookup snapshot with
    | some ts => (.names (ts.map (·.name)), s)
    | none => (.nothing, s)
  | .log logger call => s.withLogger logger fun id _ => (.nothing, s.dispatch h id call)
  | .setLevel target level => s.withTarget target fun t => (.nothing, s.setLevel t level)
  | .levelOf target => s.withTarget target fun t => (.level (s.levelOf t), s)
  | .sameTarget a b => s.withTarget a fun t => s.withTarget b fun u => (.flag (t = u), s)
  | .takeTarget logger index id =>
    s.withLogger logger fun _ l =>
      match l.targets.members[index]? with
      | some t => (.target t.name (s.levelOf t), s.nameTarget id t)
      | none => (.refused .unknown, s)
  | .lookup category handle =>
    let (id, s) := s.lookup category
    (.logger (s.categoryOf id) (s.targetNames id), s.nameLogger handle id)
  | .removeLogger category =>
    match s.registered? category with
    | none => (.nothing, s)
    | some id => (.removed (s.categoryOf id) (s.targetNames id), s.removeLogger category)
  | .categories => (.names s.categories, s)
  | .routing => (.routing s.routing, s)
  | .bind target categories =>
    s.withTarget target fun t =>
      let s := s.bind t categories
      (s.boundAnswer, s)
  | .unbind target =>
    s.withTarget target fun t =>
      let s := s.unbind t
      (s.boundAnswer, s)
  | .routes target category => s.withTarget target fun t => (.flag (s.routes t category), s)
  | .targetCount => (.count s.targetCount, s)
  | .setRegistryGate level => (.level s.registryLevel, s.setRegistryLevel level)
  | .registryGate => (.level s.registryLevel, s)
  | .start settings =>
    let s := s.start settings
    (s.configuredAnswer, s)
  | .apply settings =>
    match s.configured with
    | none => (.refused .unknown, s)
    | some _ =>
      let s := s.configure settings
      (s.configuredAnswer, s)
  | .targetNames =>
    match s.configured with
    | none => (.refused .unknown, s)
    | some _ => (.names s.configuredNames, s)
  | .refused _ reason => (.refused reason, s)

def performScript (run : Action → Router → Answer × Router) : List Action → Router → Router
  | [], s => s
  | a :: script, s =>
    let (answer, s) := run a s
    performScript run script (s.observe (.performed a.verb answer))

def respond (run : Action → Router → Answer × Router) : Handler := fun t e s =>
  match s.target? t with
  | none => (.accepted, s)
  | some ⟨_, .forwarding⟩ => (.accepted, s.note (.forwarded e))
  | some ⟨_, .scripted id reaction _ 0⟩ => (reaction.outcome, s.observe (.delivered id e))
  | some ⟨_, .scripted id reaction script (times + 1)⟩ =>
    let s := s.observe (.delivered id e)
    let s := s.modifyTarget t fun state => { state with sink := .scripted id reaction script times }
    (reaction.outcome, performScript run script s)

/-- Targets whose scripts run at most so deep within each other. -/
def handler : Nat → Handler
  | 0 => respond fun _ s => (.nothing, s)
  | depth + 1 => respond (perform (handler depth))

def Sink.weight : Sink → Nat
  | .forwarding => 0
  | .scripted _ _ script times => times * (weightOf script + 1)

def weight (s : Router) : Nat := s.targets.foldr (fun t n => Sink.weight t.sink + n) 0

def run (a : Action) (s : Router) : Answer × Router := perform (handler (s.weight + a.weight)) a s

end LogRouting.Router
