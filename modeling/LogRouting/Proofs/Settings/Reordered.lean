import LogRouting.Proofs.Settings.Groups
import Mathlib.Data.List.Forall2

namespace LogRouting

namespace Value

/-- Values in which no table says a key twice. -/
inductive Distinct : Value → Prop
  | null : Distinct .null
  | bool (b : Bool) : Distinct (.bool b)
  | int (n : Int) : Distinct (.int n)
  | float (x : Binary64) : Distinct (.float x)
  | string (s : String) : Distinct (.string s)
  | array {vs : List Value} (each : ∀ v ∈ vs, Distinct v) : Distinct (.array vs)
  | object {ms : List (String × Value)} (keys : (ms.map (·.1)).Nodup) (each : ∀ m ∈ ms, Distinct m.2) :
    Distinct (.object ms)

/-- One table, wherever it stands in a value, has its entries in another order. -/
inductive Reordered : Value → Value → Prop
  | table {ms ms' : List (String × Value)} (perm : ms.Perm ms') : Reordered (.object ms) (.object ms')
  | member (before after : List (String × Value)) (key : String) {v v' : Value} (inner : Reordered v v') :
    Reordered (.object (before ++ (key, v) :: after)) (.object (before ++ (key, v') :: after))
  | item (before after : List Value) {v v' : Value} (inner : Reordered v v') :
    Reordered (.array (before ++ v :: after)) (.array (before ++ v' :: after))

variable {v v' : Value} {vs : List Value} {ms : List (String × Value)}

theorem Distinct.item (h : Distinct (.array vs)) (mem : v ∈ vs) : v.Distinct := by
  cases h with
  | array each => exact each v mem

theorem Distinct.nodup (h : Distinct (.object ms)) : (ms.map (·.1)).Nodup := by
  cases h with
  | object keys => exact keys

theorem Distinct.member (h : Distinct (.object ms)) {m : String × Value} (mem : m ∈ ms) : m.2.Distinct := by
  cases h with
  | object _ each => exact each m mem

theorem Distinct.lookup (h : Distinct (.object ms)) {key : String} (found : ms.lookup key = some v) : v.Distinct := by
  obtain ⟨before, after, rfl, -⟩ := List.lookup_eq_some_iff.1 found
  exact h.member (m := (key, v)) (by simp)

theorem Distinct.once (h : Distinct (.object ms)) (key : String) : Once key ms := once_of_nodup h.nodup key

theorem Distinct.reordered (h : v.Distinct) (other : Reordered v v') : v'.Distinct := by
  induction other with
  | table perm =>
    exact .object ((perm.map (·.1)).nodup_iff.1 h.nodup) fun m mem => h.member (perm.mem_iff.2 mem)
  | member before after key inner ih =>
    refine .object (by simpa using h.nodup) ?_
    have each : ∀ m ∈ before ++ (key, _) :: after, Distinct m.2 := fun m mem => h.member mem
    simp only [List.forall_mem_append, List.forall_mem_cons] at each ⊢
    exact ⟨each.1, ih each.2.1, each.2.2⟩
  | item before after inner ih =>
    refine .array ?_
    have each : ∀ v ∈ before ++ _ :: after, Distinct v := fun v mem => h.item mem
    simp only [List.forall_mem_append, List.forall_mem_cons] at each ⊢
    exact ⟨each.1, ih each.2.1, each.2.2⟩

end Value

namespace Dialect

open Value (Distinct Reordered)

variable {α β : Type} {d : Dialect} {read : Value → Except DecodeError β} {item : Value → Except DecodeError α}
  {v v' : Value} {vs : List Value} {as : List α} {ms ms' : List (String × Value)} {key : String}

/-- A reader that gives the same in whatever order the tables of its value are. -/
def Steady (read : Value → Except DecodeError β) : Prop :=
  ∀ {v v' x}, v.Distinct → Reordered v v' → read v = .ok x → read v' = .ok x

theorem steady_scalar (table : ∀ ms x, read (.object ms) ≠ .ok x) (array : ∀ vs x, read (.array vs) ≠ .ok x) :
    Steady read := by
  intro v v' x _ other h
  cases other with
  | table => exact absurd h (table _ x)
  | member => exact absurd h (table _ x)
  | item => exact absurd h (array _ x)

theorem steady_level : Steady levelSetting := steady_scalar nofun nofun

theorem steady_limit : Steady d.limit := steady_scalar nofun nofun

theorem steady_truth : Steady d.truth := steady_scalar nofun nofun

theorem steady_text : Steady d.text := steady_scalar nofun nofun

theorem Steady.map {γ : Type} (h : Steady read) (g : β → γ) : Steady fun v => (read v).map g := by
  intro v v' y distinct other ok
  dsimp only at ok ⊢
  cases result : read v with
  | error e =>
    rw [result] at ok
    cases ok
  | ok x =>
    rw [h distinct other result, ← result]
    exact ok

theorem mapM_eq_ok : vs.mapM item = .ok as ↔ List.Forall₂ (fun v a => item v = .ok a) vs as := by
  induction vs generalizing as with
  | nil =>
    rw [List.mapM_nil, List.forall₂_nil_left_iff]
    exact ⟨fun h => (Except.ok.inj h).symm, fun h => by rw [h]; rfl⟩
  | cons v vs ih =>
    rw [List.mapM_cons, List.forall₂_cons_left_iff]
    constructor
    · intro h
      obtain ⟨a, first, h⟩ := bind_eq_ok h
      obtain ⟨as, rest, same⟩ := bind_eq_ok h
      cases same
      exact ⟨a, as, first, ih.1 rest, rfl⟩
    · rintro ⟨a, as, first, rest, rfl⟩
      rw [first, ih.2 rest]
      rfl

theorem forall₂_replace {R : Value → α → Prop} {before after : List Value}
    (h : List.Forall₂ R (before ++ v :: after) as) (each : ∀ a, R v a → R v' a) :
    List.Forall₂ R (before ++ v' :: after) as := by
  induction before generalizing as with
  | nil =>
    cases h with
    | cons first rest => exact .cons (each _ first) rest
  | cons w before ih =>
    cases h with
    | cons first rest => exact .cons first (ih rest)

theorem steady_sequence (each : Steady item) : Steady (d.sequence item) := by
  intro v v' as distinct other h
  cases other with
  | table => cases h
  | member => cases h
  | item before after inner =>
    have steady (a : α) : item _ = .ok a → item _ = .ok a := each (distinct.item (by simp)) inner
    exact mapM_eq_ok.2 (forall₂_replace (mapM_eq_ok.1 h) steady)

variable {set : α → String → Value → Except DecodeError α} {slots : List (Slot α)} {f : Slot α} {start a : α}
  {name : String} {fields : List String}

theorem Slot.Holds.reordered (h : f.Holds start a ms) (each : Steady f.read) (distinct : Distinct (.object ms))
    (other : Reordered (.object ms) (.object ms')) : f.Holds start a ms' := by
  have once' : Once f.key ms' := (distinct.reordered other).once f.key
  cases other with
  | table perm => exact h.of_lookup ((distinct.once f.key).lookup_perm perm) rfl
  | member before after key inner =>
    rename_i v v'
    by_cases own : key = f.key
    · subst own
      have found := (distinct.once f.key).lookup_eq_some.2 (show (f.key, v) ∈ before ++ (f.key, v) :: after by simp)
      have found' := once'.lookup_eq_some.2 (show (f.key, v') ∈ before ++ (f.key, v') :: after by simp)
      rw [Slot.Holds, found] at h
      rw [Slot.Holds, found']
      exact each (distinct.member (m := (f.key, v)) (by simp)) inner h
    · refine h.of_lookup ?_ rfl
      rw [List.lookup_append, List.lookup_append, lookup_cons_of_ne own, lookup_cons_of_ne own]

theorem Fills.steady_table (h : Fills set slots) (each : ∀ f ∈ slots, Steady f.read)
    (distinct : Distinct (.object ms)) (other : Reordered (.object ms) (.object ms'))
    (read : d.group name fields set start (.object ms) = .ok a) :
    d.group name fields set start (.object ms') = .ok a := by
  have once : ∀ f ∈ slots, Once f.key ms := fun f _ => distinct.once f.key
  have once' : ∀ f ∈ slots, Once f.key ms' := fun f _ => (distinct.reordered other).once f.key
  exact h.transfer d once once' read fun f mem held => held.reordered (each f mem) distinct other

theorem distinct_zip (nodup : fields.Nodup) (distinct : Distinct (.array vs)) : Distinct (.object (fields.zip vs)) := by
  refine .object ?_ fun m mem => distinct.item (List.of_mem_zip mem).2
  induction fields generalizing vs with
  | nil => simp
  | cons key fields ih =>
    cases vs with
    | nil => simp
    | cons v vs =>
      obtain ⟨new, nodup⟩ := List.nodup_cons.1 nodup
      have rest : Distinct (.array vs) := .array fun v mem => distinct.item (List.mem_cons_of_mem _ mem)
      rw [List.zip_cons_cons, List.map_cons]
      refine List.nodup_cons.2 ⟨fun mem => ?_, ih nodup rest⟩
      obtain ⟨m, zipped, rfl⟩ := List.mem_map.1 mem
      exact new (List.of_mem_zip zipped).1

theorem zip_item (fields : List String) (before after : List Value) (v v' : Value) :
    fields.zip (before ++ v :: after) = fields.zip (before ++ v' :: after) ∨
      ∃ first last key, fields.zip (before ++ v :: after) = first ++ (key, v) :: last ∧
        fields.zip (before ++ v' :: after) = first ++ (key, v') :: last := by
  induction fields generalizing before with
  | nil => exact .inl rfl
  | cons key fields ih =>
    cases before with
    | nil => exact .inr ⟨[], fields.zip after, key, rfl, rfl⟩
    | cons w before =>
      rcases ih before with same | ⟨first, last, key', eq, eq'⟩
      · exact .inl (congrArg ((key, w) :: ·) same)
      · exact .inr ⟨(key, w) :: first, last, key', congrArg ((key, w) :: ·) eq, congrArg ((key, w) :: ·) eq'⟩

theorem group_array (d : Dialect) (vs : List Value) : d.group name fields set start (.array vs) =
    (d.group name fields set start (.object (fields.zip vs)) >>= fun a =>
      if d.surplus ∨ vs.length ≤ fields.length then .ok a else .error (.surplus vs.length)) := rfl

theorem Fills.steady (h : Fills set slots) (each : ∀ f ∈ slots, Steady f.read) (nodup : fields.Nodup) :
    Steady (d.group name fields set start) := by
  intro v v' a distinct other read
  cases other with
  | table perm => exact h.steady_table each distinct (.table perm) read
  | member before after key inner => exact h.steady_table each distinct (.member before after key inner) read
  | item before after inner =>
    rename_i v v'
    rw [group_array] at read ⊢
    obtain ⟨b, table, read⟩ := bind_eq_ok read
    have table' : d.group name fields set start (.object (fields.zip (before ++ v' :: after))) = .ok b := by
      rcases zip_item fields before after v v' with same | ⟨first, last, key, eq, eq'⟩
      -- what is beyond the fields is not looked at
      · rwa [← same]
      · have distinct := distinct_zip nodup distinct
        rw [eq] at distinct table
        rw [eq']
        exact h.steady_table each distinct (.member first last key inner) table
    have length : (before ++ v' :: after).length = (before ++ v :: after).length := by simp
    rw [table', length]
    exact read

theorem steady_printer : Steady d.printer :=
  d.fills_printer.steady (List.forall_mem_singleton.2 steady_limit) (by decide)

theorem steady_observability : Steady d.observability := by
  refine d.fills_observability.steady ?_ (by decide)
  simp only [observabilitySlots, List.forall_mem_cons]
  exact ⟨steady_text, steady_truth, steady_truth, steady_text, List.forall_mem_nil _⟩

theorem steady_targetDraft : Steady (d.group "TargetConfig" ["name", "level", "categories"] d.setTarget {}) := by
  refine d.fills_target.steady ?_ (by decide)
  simp only [targetSlots, List.forall_mem_cons]
  exact ⟨steady_text.map some, steady_level, steady_sequence steady_text, List.forall_mem_nil _⟩

def TargetDraft.finish (t : TargetDraft) : Except DecodeError TargetSettings :=
  match t.name with
  | some name => .ok ⟨name, t.level, t.categories⟩
  | none => .error .missingName

theorem target_eq (d : Dialect) (some : v ≠ .array []) :
    d.target v = d.group "TargetConfig" ["name", "level", "categories"] d.setTarget {} v >>= TargetDraft.finish := by
  rw [target]
  · rfl
  · exact some

theorem steady_target : Steady d.target := by
  intro v v' t distinct other h
  have filled : v ≠ .array [] := by
    rintro rfl
    cases h
  have filled' : v' ≠ .array [] := by
    rintro rfl
    generalize none : Value.array [] = w at other
    cases other with
    | item before after => exact absurd (Value.array.inj none).symm (by simp)
    | _ => cases none
  rw [d.target_eq filled] at h
  rw [d.target_eq filled']
  obtain ⟨draft, read, finished⟩ := bind_eq_ok h
  rw [steady_targetDraft distinct other read]
  exact finished

theorem steady_settings : Steady d.settings := by
  refine d.fills_settings.steady ?_ (by decide)
  simp only [settingsSlots, List.forall_mem_cons]
  exact ⟨steady_level, steady_printer, steady_observability, steady_sequence steady_target, List.forall_mem_nil _⟩

end Dialect
end LogRouting
