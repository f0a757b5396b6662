
namespace LogRouting

/-- A target's identity: no two targets have one serial number, though they may share a name. -/
structure Target where
  serial : Nat
  name : String
deriving DecidableEq, Inhabited

structure Binding where
  target : Target
  /-- No category stands for all of them. -/
  categories : List String
deriving DecidableEq

namespace Binding

def covers (b : Binding) (category : String) : Bool := b.categories.isEmpty || category ∈ b.categories

def isFor (b : Binding) (t : Target) : Bool := b.target = t

end Binding
end LogRouting
