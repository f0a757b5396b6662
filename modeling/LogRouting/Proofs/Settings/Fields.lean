import LogRouting.Proofs.Settings.Reordered
import Mathlib.Logic.Relation

namespace LogRouting

namespace Value

def IsTable : Value → Prop
  | .object _ => True
  | _ => False

def editTable (f : List (String × Value) → List (String × Value)) : Value → Value
  | .object ms => .object (f ms)
  | v => v

def editMember (key : String) (f : Value → Value) : Value → Value := editTable (change key f)

def editItem (i : Nat) (f : Value → Value) : Value → Value
  | .array vs => .array (vs.modify i f)
  | v => v

theorem IsTable.eq_object {v : Value} (h : v.IsTable) : ∃ ms, v = .object ms := by
  cases v with
  | object ms => exact ⟨ms, rfl⟩
  | _ => cases h

end Value

namespace Settings

inductive Place
  | root
  | printer
  | observability
  | target (i : Nat)

def Place.keys : Place → List String
  | .root => ["level", "printer", "observability", "targets"]
  | .printer => ["max_len"]
  | .observability => ["log_filter", "json", "metrics_enabled", "metrics_address"]
  | .target _ => ["name", "level", "categories"]

def Place.edit (f : List (String × Value) → List (String × Value)) : Place → Value → Value
  | .root => .editTable f
  | .printer => .editMember "printer" (.editTable f)
  | .observability => .editMember "observability" (.editTable f)
  | .target i => .editMember "targets" (.editItem i (.editTable f))

inductive Optional
  | level
  | printer
  | observability
  | targets
  | maxLen
  | logFilter
  | json
  | metricsEnabled
  | metricsAddress
  | targetLevel (i : Nat)
  | targetCategories (i : Nat)

namespace Optional

def place : Optional → Place
  | .level | .printer | .observability | .targets => .root
  | .maxLen => .printer
  | .logFilter | .json | .metricsEnabled | .metricsAddress => .observability
  | .targetLevel i | .targetCategories i => .target i

def key : Optional → String
  | .level | .targetLevel _ => "level"
  | .printer => "printer"
  | .observability => "observability"
  | .targets => "targets"
  | .maxLen => "max_len"
  | .logFilter => "log_filter"
  | .json => "json"
  | .metricsEnabled => "metrics_enabled"
  | .metricsAddress => "metrics_address"
  | .targetCategories _ => "categories"

def delete (field : Optional) : Value → Value := field.place.edit (·.filter (·.1 ≠ field.key))

def reset : Optional → Settings → Settings
  | .level, s => { s with level := .info }
  | .printer, s => { s with printer := ⟨none⟩ }
  | .observability, s =>
    { s with observability := ⟨"info,fanout_log::events=trace", false, false, "127.0.0.1:9090"⟩ }
  | .targets, s => { s with targets := [⟨"stdout", .all, []⟩] }
  | .maxLen, s => { s with printer.maxLen := none }
  | .logFilter, s => { s with observability.logFilter := "info,fanout_log::events=trace" }
  | .json, s => { s with observability.json := false }
  | .metricsEnabled, s => { s with observability.metricsEnabled := false }
  | .metricsAddress, s => { s with observability.metricsAddress := "127.0.0.1:9090" }
  | .targetLevel i, s => { s with targets := s.targets.modify i fun t => { t with level := .all } }
  | .targetCategories i, s => { s with targets := s.targets.modify i fun t => { t with categories := [] } }

end Optional

/-- A document whose groups are tables, none of them an array of its fields. -/
structure InTables (doc : Value) : Prop where
  root : doc.IsTable
  printer : ∀ v, doc.member? "printer" = some v → v.IsTable
  observability : ∀ v, doc.member? "observability" = some v → v.IsTable
  targets : ∀ vs, doc.member? "targets" = some (.array vs) → ∀ v ∈ vs, v.IsTable

end Settings

namespace Dialect

open Value (Distinct)
open Settings (Place Optional InTables)

variable {α β : Type} {d : Dialect} {item : Value → Except DecodeError α}
  {set : α → String → Value → Except DecodeError α} {slots : List (Slot α)} {f : Slot α} {start : α}
  {name key : String} {fields : List String} {v : Value} {vs : List Value} {as : List α}
  {ms : List (String × Value)} {doc : Value} {s : Settings} {i : Nat}
  {edit : List (String × Value) → List (String × Value)}

/-- Where the entries of a table change so, what is read from it changes so. -/
def Revises (read : Value → Except DecodeError β) (edit : List (String × Value) → List (String × Value))
    (revise : β → β) : Prop :=
  ∀ {ms x}, Distinct (.object ms) → read (.object ms) = .ok x → read (.object (edit ms)) = .ok (revise x)

theorem Fills.revises_insert (h : Fills set slots) (unknown : key ∉ slots.map (·.key)) (i : Nat) (v : Value) :
    Revises (d.group name fields set start) (·.insertIdx i (key, v)) id :=
  fun distinct read => h.insert d (fun f _ => distinct.once f.key) read unknown i v

theorem Fills.revises_delete (h : Fills set slots) (mem : f ∈ slots) :
    Revises (d.group name fields set start) (·.filter (·.1 ≠ f.key)) (fun a => f.put (f.get start) a) :=
  fun distinct read => h.delete d (fun f _ => distinct.once f.key) read mem

theorem target_table (d : Dialect) (ms : List (String × Value)) : d.target (.object ms) =
    d.group "TargetConfig" ["name", "level", "categories"] d.setTarget {} (.object ms) >>= TargetDraft.finish :=
  d.target_eq Value.noConfusion

theorem revises_target {revise : TargetDraft → TargetDraft} {revise' : TargetSettings → TargetSettings}
    (h : Revises (d.group "TargetConfig" ["name", "level", "categories"] d.setTarget {}) edit revise)
    (finished : ∀ t t', TargetDraft.finish t = .ok t' → TargetDraft.finish (revise t) = .ok (revise' t')) :
    Revises d.target edit revise' := by
  intro ms t distinct read
  rw [target_table] at read ⊢
  obtain ⟨draft, read, done⟩ := bind_eq_ok read
  rw [h distinct read]
  exact finished draft t done

theorem finish_eq_ok {t : TargetDraft} {t' : TargetSettings} (h : t.finish = .ok t') :
    t = ⟨some t'.name, t'.level, t'.categories⟩ := by
  obtain ⟨_ | name, level, categories⟩ := t
  · cases h
  · cases h
    rfl

theorem target_nameless {t : TargetSettings} (distinct : Distinct (.object ms)) (read : d.target (.object ms) = .ok t) :
    d.target (.object (ms.filter (·.1 ≠ "name"))) = .error .missingName := by
  rw [target_table] at read ⊢
  obtain ⟨draft, read, -⟩ := bind_eq_ok read
  have nameless := d.fills_target.revises_delete (f := .targetName d) (by simp [targetSlots]) distinct read
  exact congrArg (· >>= TargetDraft.finish) nameless

theorem forall₂_modify {R : Value → α → Prop} {g : Value → Value} {revise : α → α} (h : List.Forall₂ R vs as)
    (each : ∀ v ∈ vs, ∀ a, R v a → R (g v) (revise a)) (i : Nat) :
    List.Forall₂ R (vs.modify i g) (as.modify i revise) := by
  induction h generalizing i with
  | nil => simp
  | cons first rest ih =>
    cases i with
    | zero => exact .cons (each _ List.mem_cons_self _ first) rest
    | succ i => exact .cons first (ih (fun v mem => each v (List.mem_cons_of_mem _ mem)) i)

theorem sequence_edit {revise : α → α} (h : Revises item edit revise) (distinct : Distinct (.array vs))
    (tables : ∀ v ∈ vs, v.IsTable) (read : d.sequence item (.array vs) = .ok as) (i : Nat) :
    d.sequence item (.array (vs.modify i (.editTable edit))) = .ok (as.modify i revise) := by
  refine mapM_eq_ok.2 (forall₂_modify (mapM_eq_ok.1 read) (fun v mem a own => ?_) i)
  obtain ⟨inner, rfl⟩ := (tables v mem).eq_object
  exact h (distinct.item mem) own

theorem item_read (read : d.sequence item (.array vs) = .ok as) (mem : v ∈ vs) : ∃ a, item v = .ok a := by
  obtain ⟨i, inside, rfl⟩ := List.getElem_of_mem mem
  obtain ⟨length, each⟩ := List.forall₂_iff_get.1 (mapM_eq_ok.1 read)
  exact ⟨_, each i inside (length ▸ inside)⟩

theorem sequence_refused {e : DecodeError} {g : Value → Value} (read : d.sequence item (.array vs) = .ok as)
    (inside : i < vs.length) (refused : item (g vs[i]) = .error e) :
    d.sequence item (.array (vs.modify i g)) = .error e := by
  have before : (vs.take i).mapM item = .ok (as.take i) := mapM_eq_ok.2 (List.forall₂_take i (mapM_eq_ok.1 read))
  rw [sequence, List.modify_eq_take_cons_drop inside, List.mapM_append, before, List.mapM_cons, refused]
  rfl

section Document

variable (distinct : Distinct (.object ms)) (tables : InTables (.object ms)) (read : d.settings (.object ms) = .ok s)
include distinct read

theorem targets_read (found : ms.lookup "targets" = some (.array vs)) :
    d.sequence d.target (.array vs) = .ok s.targets := by
  have holds := d.fills_settings.holds (f := .targets d) (by simp [settingsSlots]) (distinct.once "targets") read
  have present : ms.lookup (Slot.targets d).key = some (.array vs) := found
  rw [Slot.Holds, present] at holds
  exact holds

theorem settings_edit {f : Slot Settings} {revise : f.kind → f.kind} (mem : f ∈ d.settingsSlots)
    (table : ∀ v, ms.lookup f.key = some v → v.IsTable) (h : Revises f.read edit revise)
    (default : revise (f.get {}) = f.get {}) :
    d.settings (.object (change f.key (.editTable edit) ms)) = .ok (f.put (revise (f.get s)) s) := by
  refine d.fills_settings.edit d (fun f _ => distinct.once f.key) read mem (fun same => ?_) fun v found own => ?_
  · rw [same]
    exact default
  · obtain ⟨inner, rfl⟩ := (table v found).eq_object
    exact h (distinct.lookup found) own

include tables

theorem settings_edit_printer {revise : PrinterSettings → PrinterSettings} (h : Revises d.printer edit revise)
    (default : revise {} = {}) :
    d.settings (Place.printer.edit edit (.object ms)) = .ok { s with printer := revise s.printer } :=
  settings_edit distinct read (f := .printer d) (by simp [settingsSlots]) tables.printer h default

theorem settings_edit_observability {revise : Observability → Observability} (h : Revises d.observability edit revise)
    (default : revise {} = {}) :
    d.settings (Place.observability.edit edit (.object ms)) = .ok { s with observability := revise s.observability } :=
  settings_edit distinct read (f := .observability d) (by simp [settingsSlots]) tables.observability h default

theorem settings_edit_target {revise : TargetSettings → TargetSettings} (h : Revises d.target edit revise)
    (default : revise ⟨"stdout", .all, []⟩ = ⟨"stdout", .all, []⟩) (i : Nat) :
    d.settings ((Place.target i).edit edit (.object ms)) = .ok { s with targets := s.targets.modify i revise } := by
  -- where no targets are given the document has no table to change, and the one by default is left as it is
  have stdout : [(⟨"stdout", .all, []⟩ : TargetSettings)].modify i revise = [⟨"stdout", .all, []⟩] := by
    cases i with
    | zero => exact congrArg (· :: []) default
    | succ i => simp
  refine d.fills_settings.edit (f := .targets d) d (fun f _ => distinct.once f.key) read (by simp [settingsSlots])
    (fun same => ?_) fun v found own => ?_
  · have same : s.targets = [⟨"stdout", .all, []⟩] := same
    rw [same]
    exact stdout
  · cases v with
    | array vs => exact sequence_edit (d := d) h (distinct.lookup found) (tables.targets vs found) own i
    | _ => cases own

theorem settings_insert (place : Place) (unknown : key ∉ place.keys) (i : Nat) (v : Value) :
    d.settings (place.edit (·.insertIdx i (key, v)) (.object ms)) = .ok s := by
  cases place with
  | root => exact d.fills_settings.revises_insert unknown i v distinct read
  | printer =>
    exact settings_edit_printer distinct tables read (d.fills_printer.revises_insert unknown i v) rfl
  | observability =>
    exact settings_edit_observability distinct tables read (d.fills_observability.revises_insert unknown i v) rfl
  | target j =>
    have revises : Revises d.target (·.insertIdx i (key, v)) id :=
      revises_target (d.fills_target.revises_insert unknown i v) fun _ _ finished => finished
    have same := settings_edit_target distinct tables read revises rfl j
    rwa [List.modify_id] at same

theorem settings_delete (field : Optional) : d.settings (field.delete (.object ms)) = .ok (field.reset s) := by
  have root {f : Slot Settings} (mem : f ∈ d.settingsSlots) :
      d.settings (.object (ms.filter (·.1 ≠ f.key))) = .ok (f.put (f.get {}) s) :=
    d.fills_settings.revises_delete mem distinct read
  have printer {f : Slot PrinterSettings} (mem : f ∈ d.printerSlots) (default : f.put (f.get {}) {} = {}) :
      d.settings (Place.printer.edit (·.filter (·.1 ≠ f.key)) (.object ms)) =
        .ok { s with printer := f.put (f.get {}) s.printer } :=
    settings_edit_printer distinct tables read (d.fills_printer.revises_delete mem) default
  have observability {f : Slot Observability} (mem : f ∈ d.observabilitySlots) (default : f.put (f.get {}) {} = {}) :
      d.settings (Place.observability.edit (·.filter (·.1 ≠ f.key)) (.object ms)) =
        .ok { s with observability := f.put (f.get {}) s.observability } :=
    settings_edit_observability distinct tables read (d.fills_observability.revises_delete mem) default
  have target {f : Slot TargetDraft} (mem : f ∈ d.targetSlots) {revise : TargetSettings → TargetSettings}
      (finished : ∀ t : TargetSettings, (f.put (f.get {}) ⟨some t.name, t.level, t.categories⟩).finish = .ok (revise t))
      (default : revise ⟨"stdout", .all, []⟩ = ⟨"stdout", .all, []⟩) (i : Nat) :
      d.settings ((Place.target i).edit (·.filter (·.1 ≠ f.key)) (.object ms)) =
        .ok { s with targets := s.targets.modify i revise } := by
    have draft : Revises (d.group "TargetConfig" ["name", "level", "categories"] d.setTarget {})
        (·.filter (·.1 ≠ f.key)) (fun t => f.put (f.get {}) t) := d.fills_target.revises_delete mem
    refine settings_edit_target distinct tables read (revises_target draft fun t t' done => ?_) default i
    rw [finish_eq_ok done]
    exact finished t'
  cases field with
  | level => exact root (f := .level) (by simp [settingsSlots])
  | printer => exact root (f := .printer d) (by simp [settingsSlots])
  | observability => exact root (f := .observability d) (by simp [settingsSlots])
  | targets => exact root (f := .targets d) (by simp [settingsSlots])
  | maxLen => exact printer (f := .maxLen d) (by simp [printerSlots]) rfl
  | logFilter => exact observability (f := .logFilter d) (by simp [observabilitySlots]) rfl
  | json => exact observability (f := .json d) (by simp [observabilitySlots]) rfl
  | metricsEnabled => exact observability (f := .metricsEnabled d) (by simp [observabilitySlots]) rfl
  | metricsAddress => exact observability (f := .metricsAddress d) (by simp [observabilitySlots]) rfl
  | targetLevel i => exact target (f := .targetLevel) (by simp [targetSlots]) (fun _ => rfl) rfl i
  | targetCategories i => exact target (f := .targetCategories d) (by simp [targetSlots]) (fun _ => rfl) rfl i

theorem settings_nameless (found : ms.lookup "targets" = some (.array vs)) (inside : i < vs.length) :
    d.settings ((Place.target i).edit (·.filter (·.1 ≠ "name")) (.object ms)) = .error .missingName := by
  have own := targets_read distinct read found
  have mem : vs[i] ∈ vs := List.getElem_mem inside
  obtain ⟨inner, table⟩ := (tables.targets vs found vs[i] mem).eq_object
  obtain ⟨t, each⟩ := item_read own mem
  rw [table] at each
  have distinct : Distinct (.object inner) := table ▸ (distinct.lookup found).item mem
  refine d.fills_settings.refuse d read (f := .targets d) (by simp [settingsSlots]) found ?_
  refine sequence_refused own inside ?_
  rw [table]
  exact target_nameless distinct each

end Document

theorem settings_reordered {doc doc' : Value} (distinct : doc.Distinct) (read : d.settings doc = .ok s)
    (other : Relation.ReflTransGen Value.Reordered doc doc') : d.settings doc' = .ok s := by
  have kept : doc'.Distinct ∧ d.settings doc' = .ok s := by
    induction other with
    | refl => exact ⟨distinct, read⟩
    | tail _ step ih => exact ⟨ih.1.reordered step, steady_settings ih.1 step ih.2⟩
  exact kept.2

/-- Settings are what the fields of a document say. Neither other keys nor the order of the keys has a say in them, a
field that is taken away is what it is where nothing is said and leaves the others, and a target needs its name. -/
theorem settings_from_fields (distinct : doc.Distinct) (tables : InTables doc) (read : d.settings doc = .ok s) :
    (∀ (place : Place) (key : String) (v : Value) (i : Nat), key ∉ place.keys →
      d.settings (place.edit (·.insertIdx i (key, v)) doc) = .ok s) ∧
    (∀ doc', Relation.ReflTransGen Value.Reordered doc doc' → d.settings doc' = .ok s) ∧
    (∀ field : Optional, d.settings (field.delete doc) = .ok (field.reset s)) ∧
    (∀ vs i, doc.member? "targets" = some (.array vs) → i < vs.length →
      d.settings ((Place.target i).edit (·.filter (·.1 ≠ "name")) doc) = .error .missingName) ∧
    (doc.member? "targets" = some (.array []) → s.targets = []) := by
  obtain ⟨ms, rfl⟩ := tables.root.eq_object
  refine ⟨fun place key v i unknown => settings_insert distinct tables read place unknown i v,
    fun doc' other => settings_reordered distinct read other, settings_delete distinct tables read,
    fun vs i found inside => settings_nameless distinct tables read found inside, fun found => ?_⟩
  exact (Except.ok.inj (targets_read distinct read found)).symm

/-- A document with all tables and two targets, of which each says what the other leaves out. -/
theorem settings_from_fields_two_targets :
    let stdout : List (String × Value) := [("name", .string "stdout"), ("level", .int 10)]
    let audit : List (String × Value) := [("name", .string "audit"), ("categories", .texts ["db", "db.query"])]
    let document (first second : List (String × Value)) : Value := .object [("level", .string "warn"),
      ("printer", .object [("max_len", .int 40)]), ("observability", .object [("json", .bool true)]),
      ("targets", .array [.object first, .object second])]
    let s : Settings := ⟨.warn, ⟨some 40⟩, { json := true },
      [⟨"stdout", ⟨10⟩, []⟩, ⟨"audit", .all, ["db", "db.query"]⟩]⟩
    let doc := document stdout audit
    (doc.Distinct ∧ InTables doc ∧ toml.settings doc = .ok s) ∧
      toml.settings (document stdout (audit.insertIdx 1 ("colour", .null))) = .ok s ∧
      toml.settings (document stdout audit.reverse) = .ok s ∧
      toml.settings (document [("name", .string "stdout")] audit) =
        .ok { s with targets := [⟨"stdout", .all, []⟩, ⟨"audit", .all, ["db", "db.query"]⟩] } ∧
      toml.settings (document stdout [("categories", .texts ["db", "db.query"])]) = .error .missingName := by
  intro stdout audit document s doc
  have distinct : doc.Distinct := by
    have strings (names : List String) : Distinct (.texts names) := .array (List.forall_mem_map.2 fun s _ => .string s)
    refine .object (by decide) ?_
    simp only [List.forall_mem_cons]
    refine ⟨.string _, .object (by decide) (List.forall_mem_singleton.2 (.int 40)),
      .object (by decide) (List.forall_mem_singleton.2 (.bool true)), .array ?_, List.forall_mem_nil _⟩
    simp only [List.forall_mem_cons]
    refine ⟨.object (by decide) ?_, .object (by decide) ?_, List.forall_mem_nil _⟩
    · exact List.forall_mem_cons.2 ⟨.string _, List.forall_mem_singleton.2 (.int 10)⟩
    · exact List.forall_mem_cons.2 ⟨.string _, List.forall_mem_singleton.2 (strings _)⟩
  have tables : InTables doc := by
    refine ⟨trivial, ?_, ?_, ?_⟩
    · rintro _ ⟨⟩
      trivial
    · rintro _ ⟨⟩
      trivial
    · rintro _ ⟨⟩
      exact List.forall_mem_cons.2 ⟨trivial, List.forall_mem_singleton.2 trivial⟩
  have read : toml.settings doc = .ok s := rfl
  obtain ⟨insert, reorder, delete, nameless, -⟩ := settings_from_fields distinct tables read
  refine ⟨⟨distinct, tables, read⟩, insert (.target 1) "colour" .null 1 (by decide), reorder _ (.single ?_),
    delete (.targetLevel 0), nameless _ 1 rfl (by decide)⟩
  exact .member [_, _, _] [] "targets" (.item [.object stdout] [] (.table (List.reverse_perm audit).symm))

end Dialect
end LogRouting
