import LogRouting.Proofs.Keyed
import LogRouting.Toml.Reader
import Mathlib.Data.List.Nodup

namespace LogRouting.Toml

def assigns (pairs : List (String × Value)) : List Statement := pairs.map fun (key, v) => .assign [] key v

def values (pairs : List (String × Value)) : Entries := pairs.map fun (key, v) => (key, .value v)

variable {pairs : List (String × Value)} {entries inner : Entries} {header : List String} {key : String} {v : Value}
  {node new : Node} {finished : List Value} {tables : List (List (String × Value))}

theorem members_eq_map (entries : Entries) :
    Entries.members entries = entries.map fun (key, node) => (key, node.toValue) := by
  induction entries with
  | nil => rfl
  | cons e entries ih => exact congrArg ((e.1, e.2.toValue) :: ·) ih

theorem members_append (first second : Entries) :
    Entries.members (first ++ second) = Entries.members first ++ Entries.members second := by
  simp only [members_eq_map, List.map_append]

theorem members_values (pairs : List (String × Value)) : Entries.members (values pairs) = pairs := by
  rw [members_eq_map, values, List.map_map]
  exact List.map_id _

theorem keys_values (pairs : List (String × Value)) : (values pairs).map (·.1) = pairs.map (·.1) := by
  rw [values, List.map_map]
  rfl

theorem lookup_last (fresh : entries.lookup key = none) : (entries ++ [(key, node)]).lookup key = some node := by
  rw [List.lookup_append, fresh, Option.none_or, List.lookup_cons_self]

theorem put_last (fresh : entries.lookup key = none) :
    Entries.put key new (entries ++ [(key, node)]) = entries ++ [(key, new)] := by
  have others : ∀ e ∈ entries, (if e.1 = key then (e.1, new) else (e.1, e.2)) = e := by
    intro e mem
    rw [if_neg fun same => lookup_eq_none.1 fresh (List.mem_map.2 ⟨e, mem, same⟩)]
  rw [Entries.put, List.map_append, List.map_congr_left others, List.map_id']
  simp

theorem assign?_fresh (fresh : key ∉ inner.map (·.1)) :
    Entries.assign? key v [] inner = some (inner ++ values [(key, v)]) := by
  rw [Entries.assign?, lookup_eq_none.2 fresh]
  rfl

theorem foldlM_assigns (around : Entries → Entries) (inner : Entries)
    (at_ : ∀ f inner, Entries.updateAt? f header (around inner) = (f inner).map around)
    (distinct : (inner.map (·.1) ++ pairs.map (·.1)).Nodup) :
    (assigns pairs).foldlM Draft.add? ⟨header, around inner⟩ = some ⟨header, around (inner ++ values pairs)⟩ := by
  induction pairs generalizing inner with
  | nil => rw [values, List.map_nil, List.append_nil]; rfl
  | cons p pairs ih =>
    obtain ⟨key, v⟩ := p
    have fresh : key ∉ inner.map (·.1) := fun mem => (List.nodup_append.1 distinct).2.2 _ mem _ List.mem_cons_self rfl
    have first : Draft.add? ⟨header, around inner⟩ (.assign [] key v) =
        some ⟨header, around (inner ++ values [(key, v)])⟩ := by
      rw [Draft.add?, at_, assign?_fresh fresh]
      rfl
    have later : ((inner ++ values [(key, v)]).map (·.1) ++ pairs.map (·.1)).Nodup := by
      simpa [values] using distinct
    rw [assigns, List.map_cons, List.foldlM_cons, first]
    exact (ih _ later).trans (by simp [values])

theorem foldlM_top (distinct : (pairs.map (·.1)).Nodup) :
    (assigns pairs).foldlM Draft.add? ⟨[], []⟩ = some ⟨[], values pairs⟩ :=
  foldlM_assigns id [] (fun f inner => by rw [Entries.updateAt?, Option.map_id]; rfl) distinct

theorem foldlM_table (fresh : entries.lookup key = none) (distinct : (pairs.map (·.1)).Nodup) :
    (.table [] key :: assigns pairs).foldlM Draft.add? ⟨header, entries⟩ =
      some ⟨[key], entries ++ [(key, .table .header (values pairs))]⟩ := by
  have begun : Draft.add? ⟨header, entries⟩ (.table [] key) = some ⟨[key], entries ++ [(key, .table .header [])]⟩ := by
    rw [Draft.add?, Entries.updateAt?, Entries.beginTable?, fresh]
    rfl
  rw [List.foldlM_cons, begun]
  refine foldlM_assigns (fun inner => entries ++ [(key, .table .header inner)]) [] ?_ distinct
  intro f inner
  rw [Entries.updateAt?, lookup_last fresh]
  simp only [Entries.updateAt?, put_last fresh]

def elements (key : String) (tables : List (List (String × Value))) : List Statement :=
  tables.flatMap fun pairs => .element [] key :: assigns pairs

theorem elements_cons :
    elements key (pairs :: tables) = (.element [] key :: assigns pairs) ++ elements key tables := List.flatMap_cons

theorem foldlM_element {d : Draft} (fresh : entries.lookup key = none)
    (begun : d.add? (.element [] key) = some ⟨[key], entries ++ [(key, .tables finished [])]⟩)
    (distinct : (pairs.map (·.1)).Nodup) :
    (.element [] key :: assigns pairs).foldlM Draft.add? d =
      some ⟨[key], entries ++ [(key, .tables finished (values pairs))]⟩ := by
  rw [List.foldlM_cons, begun]
  refine foldlM_assigns (fun last => entries ++ [(key, .tables finished last)]) [] ?_ distinct
  intro f last
  rw [Entries.updateAt?, lookup_last fresh]
  simp only [Entries.updateAt?, put_last fresh]

theorem foldlM_further (finished : List Value) (last : Entries)
    (fresh : entries.lookup key = none) (distinct : ∀ pairs ∈ tables, (pairs.map (·.1)).Nodup) :
    ∃ node, (elements key tables).foldlM Draft.add? ⟨[key], entries ++ [(key, .tables finished last)]⟩ =
        some ⟨[key], entries ++ [(key, node)]⟩ ∧
      node.toValue = .array (finished ++ [.object (Entries.members last)] ++ tables.map .object) := by
  induction tables generalizing finished last with
  | nil => exact ⟨.tables finished last, rfl, by rw [Node.toValue, List.map_nil, List.append_nil]⟩
  | cons pairs tables ih =>
    obtain ⟨here, later⟩ := List.forall_mem_cons.1 distinct
    have begun : Draft.add? ⟨[key], entries ++ [(key, .tables finished last)]⟩ (.element [] key) =
        some ⟨[key], entries ++ [(key, .tables (finished ++ [.object (Entries.members last)]) [])]⟩ := by
      rw [Draft.add?, Entries.updateAt?, Entries.beginElement?, lookup_last fresh]
      simp only [put_last fresh]
      rfl
    obtain ⟨node, folded, value⟩ := ih (finished ++ [.object (Entries.members last)]) (values pairs) later
    refine ⟨node, ?_, ?_⟩
    · rw [elements_cons, List.foldlM_append, foldlM_element fresh begun here]
      exact folded
    · rw [value, members_values]
      simp

theorem foldlM_elements (filled : tables ≠ [])
    (fresh : entries.lookup key = none) (distinct : ∀ pairs ∈ tables, (pairs.map (·.1)).Nodup) :
    ∃ node, (elements key tables).foldlM Draft.add? ⟨header, entries⟩ = some ⟨[key], entries ++ [(key, node)]⟩ ∧
      node.toValue = .array (tables.map .object) := by
  obtain ⟨pairs, tables, rfl⟩ := List.exists_cons_of_ne_nil filled
  obtain ⟨here, later⟩ := List.forall_mem_cons.1 distinct
  have begun : Draft.add? ⟨header, entries⟩ (.element [] key) = some ⟨[key], entries ++ [(key, .tables [] [])]⟩ := by
    rw [Draft.add?, Entries.updateAt?, Entries.beginElement?, fresh]
    rfl
  obtain ⟨node, folded, value⟩ := foldlM_further [] (values pairs) fresh later
  refine ⟨node, ?_, ?_⟩
  · rw [elements_cons, List.foldlM_append, foldlM_element fresh begun here]
    exact folded
  · rw [value, members_values]
    rfl

end LogRouting.Toml
