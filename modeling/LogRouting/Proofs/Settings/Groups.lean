import LogRouting.Proofs.Keyed
import LogRouting.Proofs.Settings.Limits

/-!
Groups of settings, field by field. Each field of a table is read from what stands under its own key, and no other
entry has a say in it; what becomes of the fields when the entries change is read off that.
-/

namespace LogRouting.Dialect

structure Slot (α : Type) where
  {kind : Type}
  key : String
  read : Value → Except DecodeError kind
  get : α → kind
  put : kind → α → α
  get_put : ∀ x a, get (put x a) = x := by exact fun _ _ => rfl

variable {α : Type} {set : α → String → Value → Except DecodeError α} {slots : List (Slot α)} {f : Slot α}
  {ms ms' : List (String × Value)} {start a a' b : α} {key name : String} {v : Value} {fields : List String}
  {g : Value → Value}

/-- The field is what stands under its key, or what it was at the start where nothing does. -/
def Slot.Holds (f : Slot α) (start a : α) (ms : List (String × Value)) : Prop :=
  match ms.lookup f.key with
  | none => f.get a = f.get start
  | some v => f.read v = .ok (f.get a)

theorem Slot.Holds.of_lookup (h : f.Holds start a ms) (same : ms'.lookup f.key = ms.lookup f.key)
    (kept : f.get a' = f.get a) : f.Holds start a' ms' := by
  rw [Slot.Holds] at h ⊢
  rw [same, kept]
  exact h

theorem Slot.Holds.unique (h : f.Holds start a ms) (h' : f.Holds start b ms) : f.get a = f.get b := by
  rw [Slot.Holds] at h h'
  cases found : ms.lookup f.key with
  | none =>
    rw [found] at h h'
    exact h.trans h'.symm
  | some v =>
    rw [found] at h h'
    exact Except.ok.inj (h.symm.trans h')

theorem Slot.holds_of_none (absent : ms.lookup f.key = none) (reset : f.get a = f.get start) : f.Holds start a ms := by
  rw [Slot.Holds, absent]
  exact reset

/-- A key that a slot knows sets its own field and leaves the others; the slots are all that there is to a group. -/
structure Fills (set : α → String → Value → Except DecodeError α) (slots : List (Slot α)) : Prop where
  known : ∀ f ∈ slots, ∀ a v, set a f.key v = do return f.put (← f.read v) a
  unknown : ∀ key ∉ slots.map (·.key), ∀ a v, set a key v = .ok a
  keys : (slots.map (·.key)).Nodup
  apart : ∀ f ∈ slots, ∀ f' ∈ slots, f'.key ≠ f.key → ∀ x a, f.get (f'.put x a) = f.get a
  ext : ∀ a b, (∀ f ∈ slots, f.get a = f.get b) → a = b

namespace Fills

theorem read_of_set (h : Fills set slots) (mem : f ∈ slots) (done : set a f.key v = .ok b) :
    f.read v = .ok (f.get b) := by
  rw [h.known f mem] at done
  obtain ⟨x, read, same⟩ := bind_eq_ok done
  cases same
  rw [read, f.get_put]

theorem exists_set (h : Fills set slots) (mem : f ∈ slots) {x : f.kind} (read : f.read v = .ok x) (a : α) :
    ∃ b, set a f.key v = .ok b := by
  rw [h.known f mem, read]
  exact ⟨f.put x a, rfl⟩

theorem get_of_set (h : Fills set slots) (mem : f ∈ slots) (ne : key ≠ f.key) (done : set a key v = .ok b) :
    f.get b = f.get a := by
  by_cases known : key ∈ slots.map (·.key)
  · obtain ⟨f', mem', rfl⟩ := List.mem_map.1 known
    rw [h.known f' mem'] at done
    obtain ⟨x, -, same⟩ := bind_eq_ok done
    cases same
    exact h.apart f mem f' mem' ne x a
  · rw [h.unknown key known] at done
    cases done
    rfl

theorem holds (h : Fills set slots) (mem : f ∈ slots) (once : Once f.key ms)
    (folded : ms.foldlM (fun a (key, v) => set a key v) start = .ok a) : f.Holds start a ms := by
  induction ms generalizing start with
  | nil =>
    cases folded
    exact Slot.holds_of_none rfl rfl
  | cons m ms ih =>
    obtain ⟨key, v⟩ := m
    rw [List.foldlM_cons] at folded
    dsimp only at folded
    obtain ⟨b, first, rest⟩ := bind_eq_ok folded
    by_cases same : key = f.key
    · subst same
      -- the key does not come again, so what this entry sets is left alone by the later ones
      have absent := once.not_mem
      have kept : f.get a = f.get b := by
        refine foldlM_keeps (P := fun c => f.get c = f.get b) (fun m mem' c c' same set => ?_) rfl rest
        have ne : m.1 ≠ f.key := fun eq => absent (eq ▸ List.mem_map_of_mem mem')
        exact (h.get_of_set mem ne set).trans same
      rw [Slot.Holds, List.lookup_cons_self, kept]
      exact h.read_of_set mem first
    · have later := ih (once.sublist (List.sublist_cons_self ..)) rest
      rw [Slot.Holds, h.get_of_set mem same first] at later
      rw [Slot.Holds, lookup_cons_of_ne same]
      exact later

theorem exists_fold (each : ∀ m ∈ ms, ∀ a, ∃ b, set a m.1 m.2 = .ok b) (start : α) :
    ∃ a, ms.foldlM (fun a (key, v) => set a key v) start = .ok a := by
  induction ms generalizing start with
  | nil => exact ⟨start, rfl⟩
  | cons m ms ih =>
    obtain ⟨here, later⟩ := List.forall_mem_cons.1 each
    obtain ⟨b, first⟩ := here start
    obtain ⟨a, rest⟩ := ih later b
    refine ⟨a, ?_⟩
    rw [List.foldlM_cons]
    dsimp only
    rw [first]
    exact rest

theorem table_iff (h : Fills set slots) (d : Dialect) (once : ∀ f ∈ slots, Once f.key ms) :
    d.group name fields set start (.object ms) = .ok a ↔ ∀ f ∈ slots, f.Holds start a ms := by
  refine ⟨fun folded f mem => h.holds mem (once f mem) folded, fun all => ?_⟩
  have each : ∀ m ∈ ms, ∀ a, ∃ b, set a m.1 m.2 = .ok b := by
    intro m mem a
    by_cases known : m.1 ∈ slots.map (·.key)
    · obtain ⟨f, slot, same⟩ := List.mem_map.1 known
      have found : ms.lookup f.key = some m.2 := (once f slot).lookup_eq_some.2 (by rwa [same])
      have read := all f slot
      rw [Slot.Holds, found] at read
      rw [← same]
      exact h.exists_set slot read a
    · exact ⟨a, h.unknown m.1 known a m.2⟩
  obtain ⟨b, folded⟩ := exists_fold each start
  have same : b = a := h.ext b a fun f mem => (h.holds mem (once f mem) folded).unique (all f mem)
  rw [← same]
  exact folded

theorem transfer (h : Fills set slots) (d : Dialect) (once : ∀ f ∈ slots, Once f.key ms)
    (once' : ∀ f ∈ slots, Once f.key ms') (read : d.group name fields set start (.object ms) = .ok a)
    (each : ∀ f ∈ slots, f.Holds start a ms → f.Holds start a' ms') :
    d.group name fields set start (.object ms') = .ok a' :=
  (h.table_iff d once').2 fun f mem => each f mem ((h.table_iff d once).1 read f mem)

theorem transfer_one (h : Fills set slots) (d : Dialect) (once : ∀ f ∈ slots, Once f.key ms)
    (once' : ∀ f ∈ slots, Once f.key ms') (read : d.group name fields set start (.object ms) = .ok a)
    (mem : f ∈ slots) {x : f.kind} (others : ∀ k ≠ f.key, ms'.lookup k = ms.lookup k)
    (own : f.Holds start a ms → f.Holds start (f.put x a) ms') :
    d.group name fields set start (.object ms') = .ok (f.put x a) := by
  refine h.transfer d once once' read fun f' mem' held => ?_
  by_cases same : f' = f
  · subst same
    exact own held
  · have apart : f'.key ≠ f.key := fun eq => same (List.inj_on_of_nodup_map h.keys mem' mem eq)
    exact held.of_lookup (others f'.key apart) (h.apart f' mem' f mem apart.symm x a)

theorem insert (h : Fills set slots) (d : Dialect) (once : ∀ f ∈ slots, Once f.key ms)
    (read : d.group name fields set start (.object ms) = .ok a) (unknown : key ∉ slots.map (·.key)) (i : Nat)
    (v : Value) : d.group name fields set start (.object (ms.insertIdx i (key, v))) = .ok a := by
  have ne : ∀ f ∈ slots, key ≠ f.key := fun f mem same => unknown (same ▸ List.mem_map_of_mem mem)
  refine h.transfer d once (fun f mem => (once f mem).insertIdx (ne f mem) i) read fun f mem held => ?_
  exact held.of_lookup (lookup_insertIdx (ne f mem) i) rfl

theorem delete (h : Fills set slots) (d : Dialect) (once : ∀ f ∈ slots, Once f.key ms)
    (read : d.group name fields set start (.object ms) = .ok a) (mem : f ∈ slots) :
    d.group name fields set start (.object (ms.filter (·.1 ≠ f.key))) = .ok (f.put (f.get start) a) := by
  have once' : ∀ f' ∈ slots, Once f'.key (ms.filter (·.1 ≠ f.key)) :=
    fun f' mem' => (once f' mem').sublist List.filter_sublist
  have found (k : String) : (ms.filter (·.1 ≠ f.key)).lookup k = if decide (k ≠ f.key) then ms.lookup k else none :=
    lookup_filter_fst (fun k => k ≠ f.key) ms
  refine h.transfer_one d once once' read mem (fun k ne => (found k).trans (by simp [ne])) fun _ => ?_
  exact Slot.holds_of_none ((found f.key).trans (by simp)) (f.get_put ..)

theorem edit (h : Fills set slots) (d : Dialect) (once : ∀ f ∈ slots, Once f.key ms)
    (read : d.group name fields set start (.object ms) = .ok a) (mem : f ∈ slots) {x : f.kind}
    (absent : f.get a = f.get start → x = f.get start)
    (present : ∀ v, ms.lookup f.key = some v → f.read v = .ok (f.get a) → f.read (g v) = .ok x) :
    d.group name fields set start (.object (change f.key g ms)) = .ok (f.put x a) := by
  refine h.transfer_one d once (fun f' mem' => (once f' mem').change g) read mem
    (fun k ne => lookup_change_of_ne g ne) fun held => ?_
  rw [Slot.Holds] at held ⊢
  rw [lookup_change_self, f.get_put]
  cases found : ms.lookup f.key with
  | none =>
    rw [found] at held
    exact absent held
  | some v =>
    rw [found] at held
    exact present v found held

theorem refuse (h : Fills set slots) (d : Dialect) (read : d.group name fields set start (.object ms) = .ok a)
    (mem : f ∈ slots) (found : ms.lookup f.key = some v) {e : DecodeError} (refused : f.read (g v) = .error e) :
    d.group name fields set start (.object (change f.key g ms)) = .error e := by
  -- the entries before this one are as they were
  obtain ⟨before, after, rfl, changed⟩ := change_of_lookup g found
  rw [group, List.foldlM_append] at read
  obtain ⟨b, first, -⟩ := bind_eq_ok read
  rw [group, changed, List.foldlM_append, first]
  show ((f.key, g v) :: change f.key g after).foldlM (fun a (key, v) => set a key v) b = .error e
  rw [List.foldlM_cons]
  dsimp only
  rw [h.known f mem, refused]
  rfl

end Fills

variable (d : Dialect)

namespace Slot

def maxLen : Slot PrinterSettings where
  key := "max_len"
  read := d.limit
  get := (·.maxLen)
  put x p := { p with maxLen := x }

def logFilter : Slot Observability where
  key := "log_filter"
  read := d.text
  get := (·.logFilter)
  put x o := { o with logFilter := x }

def json : Slot Observability where
  key := "json"
  read := d.truth
  get := (·.json)
  put x o := { o with json := x }

def metricsEnabled : Slot Observability where
  key := "metrics_enabled"
  read := d.truth
  get := (·.metricsEnabled)
  put x o := { o with metricsEnabled := x }

def metricsAddress : Slot Observability where
  key := "metrics_address"
  read := d.text
  get := (·.metricsAddress)
  put x o := { o with metricsAddress := x }

def targetName : Slot TargetDraft where
  key := "name"
  read v := (d.text v).map some
  get := (·.name)
  put x t := { t with name := x }

def targetLevel : Slot TargetDraft where
  key := "level"
  read := levelSetting
  get := (·.level)
  put x t := { t with level := x }

def targetCategories : Slot TargetDraft where
  key := "categories"
  read := d.sequence d.text
  get := (·.categories)
  put x t := { t with categories := x }

def level : Slot Settings where
  key := "level"
  read := levelSetting
  get := (·.level)
  put x s := { s with level := x }

def printer : Slot Settings where
  key := "printer"
  read := d.printer
  get := (·.printer)
  put x s := { s with printer := x }

def observability : Slot Settings where
  key := "observability"
  read := d.observability
  get := (·.observability)
  put x s := { s with observability := x }

def targets : Slot Settings where
  key := "targets"
  read := d.sequence d.target
  get := (·.targets)
  put x s := { s with targets := x }

end Slot

def printerSlots : List (Slot PrinterSettings) := [.maxLen d]

def observabilitySlots : List (Slot Observability) :=
  [.logFilter d, .json d, .metricsEnabled d, .metricsAddress d]

def targetSlots : List (Slot TargetDraft) := [.targetName d, .targetLevel, .targetCategories d]

def settingsSlots : List (Slot Settings) := [.level, .printer d, .observability d, .targets d]

theorem keys_printerSlots : d.printerSlots.map (·.key) = ["max_len"] := rfl

theorem keys_observabilitySlots :
    d.observabilitySlots.map (·.key) = ["log_filter", "json", "metrics_enabled", "metrics_address"] := rfl

theorem keys_targetSlots : d.targetSlots.map (·.key) = ["name", "level", "categories"] := rfl

theorem keys_settingsSlots : d.settingsSlots.map (·.key) = ["level", "printer", "observability", "targets"] := rfl

theorem fills_printer : Fills d.setPrinter d.printerSlots where
  known := List.forall_mem_singleton.2 fun _ _ => rfl
  unknown := by
    intro key unknown p v
    rw [keys_printerSlots] at unknown
    rw [setPrinter.eq_def]
    split
    · exact absurd (by decide) unknown
    · rfl
  keys := by rw [keys_printerSlots]; decide
  apart := by simp [printerSlots, Slot.maxLen]
  ext _ _ same := congrArg PrinterSettings.mk (same _ List.mem_cons_self)

theorem fills_observability : Fills d.setObservability d.observabilitySlots where
  known := by
    simp only [observabilitySlots, List.forall_mem_cons]
    exact ⟨fun _ _ => rfl, fun _ _ => rfl, fun _ _ => rfl, fun _ _ => rfl, List.forall_mem_nil _⟩
  unknown := by
    intro key unknown o v
    rw [keys_observabilitySlots] at unknown
    rw [setObservability.eq_def]
    split
    iterate 4 exact absurd (by decide) unknown
    rfl
  keys := by rw [keys_observabilitySlots]; decide
  apart := by simp [observabilitySlots, Slot.logFilter, Slot.json, Slot.metricsEnabled, Slot.metricsAddress]
  ext o o' same := by
    simp only [observabilitySlots, List.forall_mem_cons] at same
    obtain ⟨logFilter, json, enabled, address, -⟩ := same
    cases o
    cases o'
    congr

theorem fills_target : Fills d.setTarget d.targetSlots where
  known := by
    simp only [targetSlots, List.forall_mem_cons]
    refine ⟨fun t v => ?_, fun _ _ => rfl, fun _ _ => rfl, List.forall_mem_nil _⟩
    show d.setTarget t "name" v = (d.text v).map some >>= fun name => return { t with name }
    rw [setTarget]
    cases d.text v <;> rfl
  unknown := by
    intro key unknown t v
    rw [keys_targetSlots] at unknown
    rw [setTarget.eq_def]
    split
    iterate 3 exact absurd (by decide) unknown
    rfl
  keys := by rw [keys_targetSlots]; decide
  apart := by simp [targetSlots, Slot.targetName, Slot.targetLevel, Slot.targetCategories]
  ext t t' same := by
    simp only [targetSlots, List.forall_mem_cons] at same
    obtain ⟨name, level, categories, -⟩ := same
    cases t
    cases t'
    congr

theorem fills_settings : Fills d.setSettings d.settingsSlots where
  known := by
    simp only [settingsSlots, List.forall_mem_cons]
    exact ⟨fun _ _ => rfl, fun _ _ => rfl, fun _ _ => rfl, fun _ _ => rfl, List.forall_mem_nil _⟩
  unknown := by
    intro key unknown s v
    rw [keys_settingsSlots] at unknown
    rw [setSettings.eq_def]
    split
    iterate 4 exact absurd (by decide) unknown
    rfl
  keys := by rw [keys_settingsSlots]; decide
  apart := by simp [settingsSlots, Slot.level, Slot.printer, Slot.observability, Slot.targets]
  ext s s' same := by
    simp only [settingsSlots, List.forall_mem_cons] at same
    obtain ⟨level, printer, observability, targets, -⟩ := same
    cases s
    cases s'
    congr

end LogRouting.Dialect
