import LogRouting.Proofs.Toml.Drafts

namespace LogRouting

def IsInt64 (n : Int) : Prop := -Int.pow 2 63 ≤ n ∧ n < Int.pow 2 63

inductive Value.Int64 : Value → Prop
  | null : Int64 .null
  | bool (b : Bool) : Int64 (.bool b)
  | int {n : Int} (h : IsInt64 n) : Int64 (.int n)
  | float (x : Binary64) : Int64 (.float x)
  | string (s : String) : Int64 (.string s)
  | array {vs : List Value} (h : ∀ v ∈ vs, Int64 v) : Int64 (.array vs)
  | object {members : List (String × Value)} (h : ∀ m ∈ members, Int64 m.2) : Int64 (.object members)

namespace Toml

def Gives {α : Type} (P : α → Prop) (read : Option (α × List Char)) : Prop := ∀ a rest, read = some (a, rest) → P a

namespace Gives

variable {α β : Type} {P : α → Prop} {Q : β → Prop} {read other : Option (α × List Char)} {rest : List Char}

theorem none : Gives P none := fun _ _ h => by cases h

theorem some {a : α} (h : P a) : Gives P (some (a, rest)) := by
  rintro _ _ ⟨⟩
  exact h

theorem or (h : Gives P read) (h' : Gives P other) : Gives P (read.or other) := by
  cases read with
  | none => exact h'
  | some r => exact h

theorem bind {ι : Type} {first : Option ι} {next : ι → Option (α × List Char)} (h : ∀ i, Gives P (next i)) :
    Gives P (first >>= next) := by
  cases first with
  | none => exact none
  | some i => exact h i

theorem map {f : α × List Char → β × List Char} (h : Gives P read) (each : ∀ r, P r.1 → Q (f r).1) :
    Gives Q (read.map f) := by
  cases read with
  | none => exact none
  | some r => exact some (each r (h _ _ rfl))

end Gives

theorem gives_inRange (n : Int) (cs : List Char) : Gives Value.Int64 (inRange? n cs) := by
  rw [inRange?]
  split
  · next range => exact .some (.int range)
  · exact .none

theorem gives_integer (cs : List Char) : Gives Value.Int64 (integer? cs) := by
  have radix (r : Nat) (cs : List Char) : Gives Value.Int64 (radixInteger? r cs) :=
    .bind fun _ => gives_inRange _ _
  rw [integer?.eq_def]
  split
  · exact radix _ _
  · exact radix _ _
  · exact radix _ _
  · exact .bind fun _ => gives_inRange _ _

theorem gives_float (cs : List Char) : Gives Value.Int64 (float? cs) := by
  have number (finite : Prop) [Decidable finite] (x : Binary64) (rest : List Char) :
      Gives Value.Int64 (if finite then some (.float x, rest) else none) := by
    split
    · exact .some (.float x)
    · exact .none
  rw [float?]
  refine .bind fun (whole, cs) => ?_
  dsimp only
  split
  · refine .bind fun (decimals, cs) => ?_
    dsimp only
    split
    · exact .bind fun _ => number _ _ _
    · exact .bind fun _ => number _ _ _
  · exact .bind fun _ => number _ _ _

theorem gives_special (cs : List Char) : Gives Value.Int64 (special? cs) := by
  rw [special?]
  cases sign cs with
  | mk negative cs =>
    dsimp only
    split
    · exact .some (.float _)
    · exact .some (.float _)
    · exact .none

theorem gives_scalar (cs : List Char) : Gives Value.Int64 (scalar? cs) := by
  rw [scalar?.eq_def]
  split
  · exact .some (.bool _)
  · exact .some (.bool _)
  · split
    · exact .some (.object (by simpa using .string _))
    · exact (gives_float cs).or ((gives_special cs).or (gives_integer cs))

inductive Node.Int64 : Node → Prop
  | value {v : Value} (h : v.Int64) : Int64 (.value v)
  | table {origin : Origin} {entries : Entries} (h : ∀ e ∈ entries, Int64 e.2) : Int64 (.table origin entries)
  | tables {finished : List Value} {last : Entries} (finished_ : ∀ v ∈ finished, v.Int64)
      (last_ : ∀ e ∈ last, Int64 e.2) : Int64 (.tables finished last)

theorem int64_members {entries : Entries} (h : ∀ e ∈ entries, e.2.toValue.Int64) :
    (Value.object (Entries.members entries)).Int64 := by
  rw [members_eq_map]
  exact .object (List.forall_mem_map.2 h)

theorem Node.Int64.toValue {node : Node} (h : node.Int64) : node.toValue.Int64 := by
  induction h with
  | value h => rwa [Node.toValue]
  | table _ ih => rw [Node.toValue]; exact int64_members ih
  | tables finished _ ih =>
    rw [Node.toValue]
    exact .array (List.forall_mem_append.2 ⟨finished, List.forall_mem_singleton.2 (int64_members ih)⟩)

namespace Entries

def Int64 (entries : Entries) : Prop := ∀ e ∈ entries, e.2.Int64

variable {entries after : Entries} {key : String} {node : Node} {v : Value}

theorem Int64.nil : Int64 [] := fun _ mem => absurd mem List.not_mem_nil

theorem Int64.members (h : entries.Int64) : (Value.object (Entries.members entries)).Int64 :=
  int64_members fun e mem => (h e mem).toValue

theorem Int64.lookup (h : entries.Int64) (found : entries.lookup key = some node) : node.Int64 := by
  obtain ⟨before, after, rfl, -⟩ := List.lookup_eq_some_iff.1 found
  exact h (key, node) (by simp)

theorem Int64.append (h : entries.Int64) (new : node.Int64) : (entries.append key node).Int64 :=
  List.forall_mem_append.2 ⟨h, List.forall_mem_singleton.2 new⟩

theorem Int64.put (h : entries.Int64) (new : node.Int64) : (entries.put key node).Int64 := by
  refine List.forall_mem_map.2 fun e mem => ?_
  dsimp only
  split
  · exact new
  · exact h e mem

theorem Int64.assign (h : entries.Int64) (value : v.Int64) {path : List String}
    (set : assign? key v path entries = some after) : after.Int64 := by
  induction path generalizing entries after with
  | nil =>
    rw [assign?] at set
    split at set
    · cases set
    · cases set
      exact h.append (.value value)
  | cons p path ih =>
    rw [assign?] at set
    split at set
    · obtain ⟨inner, made, rfl⟩ := Option.map_eq_some_iff.1 set
      exact h.append (.table (ih .nil made))
    · next found =>
      split at set
      · obtain ⟨inner, made, rfl⟩ := Option.map_eq_some_iff.1 set
        cases h.lookup found with
        | table within => exact h.put (.table (ih within made))
      · cases set
    · next found =>
      split at set
      · cases set
      · obtain ⟨last, made, rfl⟩ := Option.map_eq_some_iff.1 set
        cases h.lookup found with
        | tables finished within => exact h.put (.tables finished (ih within made))
    · cases set

theorem Int64.update {f : Entries → Option Entries} (h : entries.Int64)
    (each : ∀ {entries after}, Int64 entries → f entries = some after → after.Int64) {path : List String}
    (set : updateAt? f path entries = some after) : after.Int64 := by
  induction path generalizing entries after with
  | nil => exact each h set
  | cons p path ih =>
    rw [updateAt?] at set
    split at set
    · obtain ⟨inner, made, rfl⟩ := Option.map_eq_some_iff.1 set
      exact h.append (.table (ih .nil made))
    · next found =>
      obtain ⟨inner, made, rfl⟩ := Option.map_eq_some_iff.1 set
      cases h.lookup found with
      | table within => exact h.put (.table (ih within made))
    · next found =>
      obtain ⟨last, made, rfl⟩ := Option.map_eq_some_iff.1 set
      cases h.lookup found with
      | tables finished within => exact h.put (.tables finished (ih within made))
    · cases set

theorem Int64.table (h : entries.Int64) (begun : beginTable? key entries = some after) : after.Int64 := by
  rw [beginTable?] at begun
  split at begun
  · cases begun
    exact h.append (.table Int64.nil)
  · next found =>
    cases begun
    have others : Int64 (entries.filter (·.1 ≠ key)) := fun e mem => h e (List.mem_of_mem_filter mem)
    cases h.lookup found with
    | table within => exact others.append (.table within)
  · cases begun

theorem Int64.element (h : entries.Int64) (begun : beginElement? key entries = some after) : after.Int64 := by
  rw [beginElement?] at begun
  split at begun
  · cases begun
    exact h.append (.tables (List.forall_mem_nil _) Int64.nil)
  · next found =>
    cases begun
    cases h.lookup found with
    | tables finished last =>
      have closed := List.forall_mem_append.2 ⟨finished, List.forall_mem_singleton.2 (Int64.members last)⟩
      exact h.put (.tables closed Int64.nil)
  · cases begun

end Entries

theorem foldlM_keeps {α β : Type} {f : β → α → Option β} {P : β → Prop} {as : List α} {b after : β}
    (step : ∀ a ∈ as, ∀ b after, P b → f b a = some after → P after) (start : P b)
    (folded : as.foldlM f b = some after) : P after := by
  induction as generalizing b with
  | nil =>
    cases folded
    exact start
  | cons a as ih =>
    obtain ⟨next, first, folded⟩ := Option.bind_eq_some_iff.1 folded
    exact ih (fun a mem => step a (List.mem_cons_of_mem _ mem)) (step a List.mem_cons_self _ _ start first) folded

theorem int64_inlineTable {pairs : List ((List String × String) × Value)} {v : Value}
    (each : ∀ p ∈ pairs, p.2.Int64) (made : inlineTable? pairs = some v) : v.Int64 := by
  obtain ⟨entries, folded, rfl⟩ := Option.map_eq_some_iff.1 made
  have within : Entries.Int64 entries :=
    foldlM_keeps (fun p mem _ _ before set => before.assign (each p mem) set) Entries.Int64.nil folded
  exact within.members

structure GivesInt64 (fuel : Nat) : Prop where
  value depth cs : Gives Value.Int64 (value? fuel depth cs)
  items depth cs : Gives (fun vs => ∀ v ∈ vs, v.Int64) (items? fuel depth cs)
  pairs depth cs : Gives (fun pairs => ∀ p ∈ pairs, p.2.Int64) (pairs? fuel depth cs)
  pair depth cs : Gives (fun p => p.2.Int64) (pair? fuel depth cs)

namespace GivesInt64

variable {fuel : Nat}

theorem value_succ (h : GivesInt64 fuel) (depth : Nat) (cs : List Char) :
    Gives Value.Int64 (value? (fuel + 1) depth cs) := by
  have string (cs : List Char) :
      Gives Value.Int64 ((string? cs).map fun r => (.string (String.ofList r.1), r.2)) :=
    Gives.map (P := fun _ => True) (fun _ _ _ => trivial) fun _ _ => Value.Int64.string _
  rw [value?.eq_def]
  dsimp only
  split
  · split
    · exact .none
    · exact (h.items _ _).map fun _ each => .array each
  · split
    · exact .none
    · exact .some (.object (List.forall_mem_nil _))
    · split
      · next read =>
        intro v rest table
        obtain ⟨v', made, same⟩ := Option.map_eq_some_iff.1 table
        cases same
        exact int64_inlineTable (h.pairs _ _ _ _ read) made
      · exact .none
  · exact string _
  · exact string _
  · exact gives_scalar _

theorem items_succ (h : GivesInt64 fuel) (depth : Nat) (cs : List Char) :
    Gives (fun vs => ∀ v ∈ vs, v.Int64) (items? (fuel + 1) depth cs) := by
  rw [items?]
  split
  · exact .some (List.forall_mem_nil _)
  · split
    · exact .none
    · next read =>
      have first := h.value _ _ _ _ read
      split
      · exact .some (List.forall_mem_singleton.2 first)
      · exact (h.items _ _).map fun _ later => List.forall_mem_cons.2 ⟨first, later⟩
      · exact .none

theorem pairs_succ (h : GivesInt64 fuel) (depth : Nat) (cs : List Char) :
    Gives (fun pairs => ∀ p ∈ pairs, p.2.Int64) (pairs? (fuel + 1) depth cs) := by
  rw [pairs?]
  split
  · exact .none
  · next read =>
    have first := h.pair _ _ _ _ read
    split
    · exact .some (List.forall_mem_singleton.2 first)
    · exact (h.pairs _ _).map fun _ later => List.forall_mem_cons.2 ⟨first, later⟩
    · exact .none

theorem pair_succ (h : GivesInt64 fuel) (depth : Nat) (cs : List Char) :
    Gives (fun p => p.2.Int64) (pair? (fuel + 1) depth cs) := by
  rw [pair?]
  split
  · exact (h.value _ _).map fun _ within => within
  · exact .none

end GivesInt64

theorem givesInt64 (fuel : Nat) : GivesInt64 fuel := by
  induction fuel with
  | zero => constructor <;> intro depth cs <;> simp only [value?, items?, pairs?, pair?] <;> exact .none
  | succ fuel ih => exact ⟨ih.value_succ, ih.items_succ, ih.pairs_succ, ih.pair_succ⟩

def Statement.Int64 : Statement → Prop
  | .assign _ _ v => v.Int64
  | .table .. | .element .. => True

theorem gives_statement (cs : List Char) : Gives Statement.Int64 (statement? cs) := by
  rw [statement?.eq_def]
  split
  · split
    · exact .some trivial
    · exact .none
  · split
    · exact .some trivial
    · exact .none
  · exact ((givesInt64 _).pair _ _).map fun _ within => within

theorem int64_statements {fuel : Nat} {cs : List Char} {sts : List Statement} (read : statements? fuel cs = some sts) :
    ∀ st ∈ sts, st.Int64 := by
  induction fuel generalizing cs sts with
  | zero => cases read
  | succ fuel ih =>
    rw [statements?] at read
    split at read
    · cases read
      exact List.forall_mem_nil _
    · split at read
      · split at read
        · exact ih read
        · cases read
      · split at read
        · cases read
        · next first =>
          split at read
          · obtain ⟨later, others, rfl⟩ := Option.map_eq_some_iff.1 read
            exact List.forall_mem_cons.2 ⟨gives_statement _ _ _ first, ih others⟩
          · cases read

theorem int64_add {d after : Draft} {st : Statement} (h : d.entries.Int64) (each : st.Int64)
    (added : d.add? st = some after) : after.entries.Int64 := by
  cases st with
  | assign path key v =>
    obtain ⟨entries, set, rfl⟩ := Option.map_eq_some_iff.1 added
    exact h.update (fun before set => before.assign each set) set
  | table path key =>
    obtain ⟨entries, set, rfl⟩ := Option.map_eq_some_iff.1 added
    exact h.update (fun before set => before.table set) set
  | element path key =>
    obtain ⟨entries, set, rfl⟩ := Option.map_eq_some_iff.1 added
    exact h.update (fun before set => before.element set) set

theorem int64_read {document : String} {v : Value} (h : read? document = some v) : v.Int64 := by
  obtain ⟨sts, read, h⟩ := Option.bind_eq_some_iff.1 h
  obtain ⟨d, folded, same⟩ := Option.bind_eq_some_iff.1 h
  cases same
  have within : d.entries.Int64 :=
    foldlM_keeps (P := fun d => Entries.Int64 d.entries)
      (fun st mem _ _ before added => int64_add before (int64_statements read st mem) added) Entries.Int64.nil folded
  exact within.members

end Toml
end LogRouting
