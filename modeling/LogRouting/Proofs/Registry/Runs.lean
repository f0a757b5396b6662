import LogRouting.Proofs.Dispatch.Snapshot
import LogRouting.Proofs.Registry.Effects

namespace LogRouting.Router

inductive Operation
  | lookup (category : String)
  | removeLogger (category : String)
  | bind (t : Target) (categories : List String)
  | unbind (t : Target)
  | setGate (level : Level)
  | rename (logger : LoggerId) (label : String)
  | add (logger : LoggerId) (t : Target)
  | remove (logger : LoggerId) (t : Target)
  | log (h : Handler) (logger : LoggerId) (call : Call)

namespace Operation

def apply : Operation → Router → Router
  | .lookup category, s => (s.lookup category).2
  | .removeLogger category, s => s.removeLogger category
  | .bind t categories, s => s.bind t categories
  | .unbind t, s => s.unbind t
  | .setGate level, s => s.setRegistryLevel level
  | .rename id label, s => s.rename id label
  | .add id t, s => s.addTarget id t
  | .remove id t, s => s.removeTarget id t
  | .log h id call, s => s.dispatch h id call

def direct? : Operation → Option Target
  | .add _ t | .remove _ t => some t
  | _ => none

def handler? : Operation → Option Handler
  | .log h _ _ => some h
  | _ => none

/-- Looking up loggers and logging leave a configuration as it is. -/
def Harmless : Operation → Prop
  | .lookup _ | .log .. => True
  | _ => False

end Operation

/-- Two states that route in the same way: targets may differ in their own state. -/
structure SameRouting (s s' : Router) : Prop where
  registry : s'.registry = s.registry
  loggers : s'.loggers = s.loggers
  gates : s'.gates = s.gates

/-- Runs of allowed operations. Targets that are called may perform such runs in turn. -/
inductive Reaches (allowed : Operation → Prop) : Router → Router → Prop
  | refl (s : Router) : Reaches allowed s s
  | silent : Reaches allowed s s' → SameRouting s' s'' → Reaches allowed s s''
  | step : Reaches allowed s s' → allowed o →
      (∀ h ∈ o.handler?, ∀ t e r, Reaches allowed r (h t e r).2) → Reaches allowed s (o.apply s')

theorem SameRouting.observe (o : Observation) (s : Router) : SameRouting s (s.observe o) := ⟨rfl, rfl, rfl⟩

variable {allowed : Operation → Prop} {s s' : Router}

theorem Reaches.preserves {P : Router → Prop} (run : Reaches allowed s s')
    (silent : ∀ s s', SameRouting s s' → P s → P s')
    (step : ∀ o s, allowed o → o.handler? = none → P s → P (o.apply s)) (start : P s) : P s' := by
  induction run with
  | refl s => exact start
  | silent _ same ih => exact silent _ _ same (ih start)
  | @step s s' o _ permitted _ ih nested =>
    cases o with
    | log h id call =>
      exact dispatch_preserves (fun o s => silent _ _ (.observe o s)) (fun t e r => nested h rfl t e r)
        (ih start)
    | _ => exact step _ _ permitted rfl (ih start)

theorem Reaches.mono {allowed' : Operation → Prop} (h : ∀ o, allowed o → allowed' o)
    (run : Reaches allowed s s') : Reaches allowed' s s' := by
  induction run with
  | refl s => exact .refl s
  | silent _ same ih => exact .silent ih same
  | step _ permitted _ ih nested => exact .step ih (h _ permitted) nested

theorem Reaches.foldl (ops : List Operation)
    (each : ∀ o ∈ ops, allowed o ∧ ∀ h ∈ o.handler?, ∀ t e r, Reaches allowed r (h t e r).2) (s : Router) :
    Reaches allowed s (ops.foldl (fun s o => o.apply s) s) := by
  refine List.foldlRecOn ops _ (.refl s) fun s' run o mem => ?_
  exact .step run (each o mem).1 (each o mem).2

def fresh (targets : Array TargetState) (level : Level) (renderer : Renderer) (reporter : Reporter) : Router :=
  { empty with targets }.newRegistry level renderer reporter

end LogRouting.Router
