import LogRouting.Value

/-!
Tables while a document is read: how each came to be decides who may still add to it. A table with a header
of its own is closed to dotted keys from outside, one that dotted keys made is closed to headers, and no key
is set twice.
-/

namespace LogRouting.Toml

inductive Origin
  | header
  | implied
  | dotted
deriving DecidableEq

inductive Node
  | value (v : Value)
  | table (origin : Origin) (entries : List (String × Node))
  /-- The finished tables of a list of tables, and the entries of the one that may still grow. -/
  | tables (finished : List Value) (last : List (String × Node))

abbrev Entries := List (String × Node)

mutual
def Node.toValue : Node → Value
  | .value v => v
  | .table _ entries => .object (Entries.members entries)
  | .tables finished last => .array (finished ++ [.object (Entries.members last)])

def Entries.members : List (String × Node) → List (String × Value)
  | [] => []
  | (key, node) :: rest => (key, node.toValue) :: Entries.members rest
end

namespace Entries

def put (key : String) (node : Node) (entries : Entries) : Entries :=
  entries.map fun (k, n) => if k = key then (k, node) else (k, n)

def append (key : String) (node : Node) (entries : Entries) : Entries := entries ++ [(key, node)]

def assign? (key : String) (v : Value) : List String → Entries → Option Entries
  | [], entries => if (entries.lookup key).isSome then none else some (entries.append key (.value v))
  | p :: path, entries =>
    match entries.lookup p with
    | none => (assign? key v path []).map fun inner => entries.append p (.table .dotted inner)
    | some (.table origin inner) =>
      if origin = .dotted ∨ (origin = .implied ∧ path ≠ []) then
        (assign? key v path inner).map fun inner => entries.put p (.table origin inner)
      else none
    | some (.tables finished last) =>
      if path = [] then none
      else (assign? key v path last).map fun last => entries.put p (.tables finished last)
    | some (.value _) => none

def updateAt? (f : Entries → Option Entries) : List String → Entries → Option Entries
  | [], entries => f entries
  | p :: path, entries =>
    match entries.lookup p with
    | none => (updateAt? f path []).map fun inner => entries.append p (.table .implied inner)
    | some (.table origin inner) =>
      (updateAt? f path inner).map fun inner => entries.put p (.table origin inner)
    | some (.tables finished last) =>
      (updateAt? f path last).map fun last => entries.put p (.tables finished last)
    | some (.value _) => none

/-- Begins the table of a header. One that was only implied so far keeps its entries and moves to the end. -/
def beginTable? (key : String) (entries : Entries) : Option Entries :=
  match entries.lookup key with
  | none => some (entries.append key (.table .header []))
  | some (.table .implied inner) =>
    some (append key (.table .header inner) (entries.filter (·.1 ≠ key)))
  | some _ => none

def beginElement? (key : String) (entries : Entries) : Option Entries :=
  match entries.lookup key with
  | none => some (entries.append key (.tables [] []))
  | some (.tables finished last) =>
    some (entries.put key (.tables (finished ++ [.object (members last)]) []))
  | some _ => none

end Entries
end LogRouting.Toml
