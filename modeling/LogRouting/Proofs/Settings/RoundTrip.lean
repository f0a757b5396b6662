import LogRouting.Proofs.Settings.Document
import LogRouting.Program

namespace LogRouting

theorem Level.mem_named {l : Level} {name : String} (h : l.name? = some name) : (name, l) ∈ Level.named := by
  obtain ⟨p, found, rfl⟩ := Option.map_eq_some_iff.1 h
  have same : p.2 = l := by simpa using List.find?_some found
  exact same ▸ List.mem_of_find?_eq_some found

theorem Level.parse?_lower :
    ∀ p ∈ Level.named, Level.parse? (String.ofList (p.1.toList.map Char.toLower)) = some p.2 := by
  decide +kernel

theorem Level.ofInt?_raw (l : Level) : Level.ofInt? l.raw.toNat = some l := by
  have small : l.raw.toNat < 65536 := UInt16.toNat_lt_size l.raw
  have fits : 0 ≤ (l.raw.toNat : Int) ∧ (l.raw.toNat : Int) < 65536 := by omega
  rw [Level.ofInt?, if_pos fits, Int.toNat_natCast, UInt16.ofNat_toNat]

namespace Dialect

variable (d : Dialect)

theorem level_toValue (l : Level) : level l.toValue = .ok l := by
  rw [Level.toValue, Level.key]
  cases named : l.name? with
  | none =>
    show level (.int l.raw.toNat) = .ok l
    rw [level, Level.ofInt?_raw]
  | some name =>
    have parsed := Level.parse?_lower _ (Level.mem_named named)
    show level (.string (String.ofList (name.toList.map Char.toLower))) = .ok l
    rw [level, parsed]

theorem levelSetting_toValue (l : Level) : levelSetting l.toValue = .ok l := by
  rw [levelSetting, level_toValue]
  rfl

theorem sequence_map {α : Type} {item : Value → Except DecodeError α} {write : α → Value}
    (read : ∀ a, item (write a) = .ok a) (as : List α) : d.sequence item (.array (as.map write)) = .ok as := by
  have each : item ∘ write = fun a => pure (id a) := funext read
  rw [sequence, List.mapM_map, each, List.mapM_pure, List.map_id]
  rfl

theorem sequence_texts (ss : List String) : d.sequence d.text (.texts ss) = .ok ss := by
  have read (s : String) : d.text (.string s) = .ok s := rfl
  exact d.sequence_map read ss

theorem printer_printerPairs (p : PrinterSettings) : d.printer (.object (Settings.printerPairs p)) = .ok p := by
  rcases p with ⟨_ | n⟩
  · rfl
  · have positive : (0 : Int) ≤ n := Int.natCast_nonneg n
    show d.setPrinter {} "max_len" (.int n) >>= pure = _
    rw [bind_pure, setPrinter, limit, if_pos positive]
    rfl

theorem observability_observabilityPairs (o : Observability) :
    d.observability (.object (Settings.observabilityPairs o)) = .ok o := rfl

theorem target_targetPairs (t : TargetSettings) : d.target (.object (Settings.targetPairs t)) = .ok t := by
  have level (draft : TargetDraft) :
      d.setTarget draft "level" t.level.toValue = .ok { draft with level := t.level } := by
    rw [setTarget, levelSetting_toValue]
    rfl
  have categories (draft : TargetDraft) :
      d.setTarget draft "categories" (.texts t.categories) = .ok { draft with categories := t.categories } := by
    rw [setTarget, sequence_texts]
    rfl
  have name : d.setTarget {} "name" (.string t.name) = .ok { name := some t.name } := rfl
  simp only [target, group, Settings.targetPairs, List.foldlM_cons, List.foldlM_nil, name, level, categories]
  rfl

theorem sequence_targetPairs (ts : List TargetSettings) :
    d.sequence d.target (.array ((ts.map Settings.targetPairs).map .object)) = .ok ts := by
  rw [List.map_map]
  exact d.sequence_map d.target_targetPairs ts

theorem settings_document (c : Settings) : d.settings c.document = .ok c := by
  have level (s : Settings) : d.setSettings s "level" c.level.toValue = .ok { s with level := c.level } := by
    rw [setSettings, levelSetting_toValue]
    rfl
  have printer (s : Settings) : d.setSettings s "printer" (.object (Settings.printerPairs c.printer)) =
      .ok { s with printer := c.printer } := by
    rw [setSettings, printer_printerPairs]
    rfl
  have observability (s : Settings) :
      d.setSettings s "observability" (.object (Settings.observabilityPairs c.observability)) =
        .ok { s with observability := c.observability } := by
    rw [setSettings, observability_observabilityPairs]
    rfl
  have targets (s : Settings) :
      d.setSettings s "targets" (.array ((c.targets.map Settings.targetPairs).map .object)) =
        .ok { s with targets := c.targets } := by
    rw [setSettings, sequence_targetPairs]
    rfl
  rw [settings, Settings.document, group, Settings.topPairs]
  by_cases none : c.targets = []
  · rw [none] at targets
    have empty (s : Settings) : d.setSettings s "targets" (.array []) = .ok { s with targets := [] } := targets s
    simp only [if_pos none, List.cons_append, List.nil_append, List.append_nil, List.foldlM_cons, List.foldlM_nil,
      level, empty, printer, observability]
    rw [← none]
    rfl
  · simp only [if_neg none, List.cons_append, List.nil_append, List.foldlM_cons, List.foldlM_nil, level, printer,
      observability, targets]
    rfl

end Dialect

namespace Settings

theorem decode_toToml {c : Settings} (writable : isWritable c.printer = true) :
    decode c.toToml = .ok c := by
  rw [decode, read?_toToml writable]
  show (Dialect.toml.settings c.document).mapError SettingsError.schema = .ok c
  rw [Dialect.settings_document]
  rfl

theorem read_toToml {c : Settings} (writable : isWritable c.printer = true) (valid : c.defects = []) :
    read c.toToml = .ok c := by
  rw [read, decode_toToml writable]
  show c.validate = .ok c
  rw [validate, valid]

end Settings

namespace Program

/-- A check of settings prints them, and whoever reads what was printed has the same settings again. -/
theorem check_faithful {document : String} {c : Settings} (accepted : Settings.read document = .ok c) :
    ∃ text, c.toToml? = some text ∧ Settings.read text = .ok c ∧
      ∀ args path file input, CommandLine.parse args = .ok (.check (some path)) → file path = some document →
        run args file input = .printed text := by
  obtain ⟨decoded, valid⟩ := Settings.read_eq_ok accepted
  have writable := Settings.isWritable_of_decode decoded
  have written : c.toToml? = some c.toToml := if_pos writable
  refine ⟨c.toToml, written, Settings.read_toToml writable valid, ?_⟩
  intro args path file input parsed content
  have loaded : load file (some path) = .ok c := by
    rw [load, content, loadFile, accepted]
    rfl
  simp only [run, parsed, loaded, written]

/-- A numbered level, a limit, no targets at all, and a text that takes a block with escapes. -/
theorem check_faithful_block :
    let document :=
      "level = 7\nprinter.max_len = 40\ntargets = []\nobservability.log_filter = \"\\n'''\\\\\\u0007\\\"\""
    let c : Settings := ⟨⟨7⟩, ⟨some 40⟩, { logFilter := "\n'''\\\x07\"" }, []⟩
    Settings.read document = .ok c ∧ ∃ text, c.toToml? = some text ∧ Settings.read text = .ok c ∧
      run ["check", "--config", "app.toml"] (fun _ => some document) [] = .printed text := by
  intro document c
  have accepted : Settings.read document = .ok c := by decide +kernel
  have parsed : CommandLine.parse ["check", "--config", "app.toml"] = .ok (.check (some "app.toml")) := by
    decide +kernel
  obtain ⟨text, written, again, shown⟩ := check_faithful accepted
  exact ⟨accepted, text, written, again, shown _ _ _ _ parsed rfl⟩

end Program
end LogRouting
