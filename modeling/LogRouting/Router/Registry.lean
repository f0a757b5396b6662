import LogRouting.Router

/-!
The registry: a logger for each category, made when first asked for, and the bindings that decide which
targets a logger holds. A binding is looked up by the category under which a logger was made, whatever its
name has become.
-/

namespace LogRouting.Router

def setRegistry (f : Registry → Registry) (s : Router) : Router := { s with registry := f s.registry }

def newRegistry (level : Level) (renderer : Renderer) (reporter : Reporter) (s : Router) : Router :=
  let (gate, s) := s.newGate level
  { s with registry := { gate, context := ⟨.shared gate, renderer, reporter⟩ }, configured := none }

def registered? (s : Router) (category : String) : Option LoggerId := s.registry.loggers.lookup category

/-- The logger of a category. A new one holds the targets bound to the category, in the order of binding. -/
def lookup (category : String) (s : Router) : LoggerId × Router :=
  match s.registered? category with
  | some id => (id, s)
  | none =>
    let (id, s) := s.newLogger ⟨category, {}, s.registry.context⟩
    let bound := s.registry.bindings.filter (·.covers category)
    let s := bound.foldl (fun s b => s.addTarget id b.target) s
    (id, (s.note (.loggerCreated category)).setRegistry fun r =>
      { r with loggers := r.loggers ++ [(category, id)] })

def removeLogger (category : String) (s : Router) : Router :=
  s.setRegistry fun r => { r with loggers := r.loggers.filter (·.1 ≠ category) }

def categories (s : Router) : List String := (s.registry.loggers.map (·.1)).mergeSort (· ≤ ·)

/-- Binds a target to categories in the place of its earlier binding, and brings every logger in line. -/
def bind (t : Target) (categories : List String) (s : Router) : Router :=
  let b : Binding := ⟨t, categories⟩
  let s := s.setRegistry fun r => { r with bindings := r.bindings.filter (!·.isFor t) ++ [b] }
  let s := s.registry.loggers.foldl
    (fun s (key, id) => if b.covers key then s.addTarget id t else s.removeTarget id t) s
  s.note (.targetBound t.name categories)

def unbind (t : Target) (s : Router) : Router :=
  let s := s.setRegistry fun r => { r with bindings := r.bindings.filter (!·.isFor t) }
  let s := s.registry.loggers.foldl (fun s (_, id) => s.removeTarget id t) s
  s.note (.targetUnbound t.name)

def targetCount (s : Router) : Nat := s.registry.bindings.length

def routes (s : Router) (t : Target) (category : String) : Bool :=
  s.registry.bindings.any fun b => b.isFor t && b.covers category

def registryLevel (s : Router) : Level := s.gateLevel (.shared s.registry.gate)

def setRegistryLevel (level : Level) (s : Router) : Router := s.setGate s.registry.gate level

def routing (s : Router) : List (String × List String) :=
  s.registry.loggers.map fun (key, id) => (key, s.targetNames id)

end LogRouting.Router
