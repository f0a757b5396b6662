import LogRouting.Proofs.Settings.Limits
import LogRouting.Proofs.Toml.Drafts
import LogRouting.Proofs.Toml.Statements

namespace LogRouting.Settings

open Toml

variable {cs text : List Char} {sts : List Statement} {key : String} {v : Value}

def printerPairs (p : PrinterSettings) : List (String × Value) :=
  match p.maxLen with
  | none => []
  | some n => [("max_len", .int n)]

def observabilityPairs (o : Observability) : List (String × Value) :=
  [("log_filter", .string o.logFilter), ("json", .bool o.json), ("metrics_enabled", .bool o.metricsEnabled),
    ("metrics_address", .string o.metricsAddress)]

def targetPairs (t : TargetSettings) : List (String × Value) :=
  [("name", .string t.name), ("level", t.level.toValue), ("categories", .texts t.categories)]

def topPairs (c : Settings) : List (String × Value) :=
  ("level", c.level.toValue) :: if c.targets = [] then [("targets", .array [])] else []

def statements (c : Settings) : List Statement :=
  assigns c.topPairs ++ ((.table [] "printer" :: assigns (printerPairs c.printer)) ++
    ((.table [] "observability" :: assigns (observabilityPairs c.observability)) ++
      elements "targets" (c.targets.map targetPairs)))

theorem yields_line (bare : Bare key) (value : Writes text v) (h : Yields cs sts) :
    Yields (line key text ++ cs) (.assign [] key v :: sts) := by
  have yields := h.line bare value
  rwa [line, List.append_assoc]

theorem yields_header (header : text = '\n' :: '[' :: (key.toList ++ [']', '\n'])) (bare : Bare key)
    (h : Yields cs sts) : Yields (text ++ cs) (.table [] key :: sts) := by
  have yields := (h.header bare).blank
  simpa [header] using yields

theorem yields_element (header : text = '\n' :: '[' :: '[' :: (key.toList ++ [']', ']', '\n'])) (bare : Bare key)
    (h : Yields cs sts) : Yields (text ++ cs) (.element [] key :: sts) := by
  have yields := (h.element bare).blank
  simpa [header] using yields

theorem writes_level (l : Level) : Writes (printLevel l) l.toValue := by
  rw [printLevel, Level.toValue, Level.key]
  cases l.name? with
  | some name => exact writes_string _
  | none => exact writes_decimal ((UInt16.toNat_lt_size l.raw).trans (by decide))

theorem writes_texts (ss : List String) : Writes (printTexts ss) (.texts ss) :=
  match ss with
  | [] => writes_nothing
  | [s] => writes_single s
  | s :: s' :: ss => writes_lines (s :: s' :: ss)

theorem yields_printer {p : PrinterSettings} (writable : isWritable p = true) (h : Yields cs sts) :
    Yields (printPrinter p ++ cs) ((.table [] "printer" :: assigns (printerPairs p)) ++ sts) := by
  unfold printPrinter printerPairs
  rw [List.append_assoc]
  refine yields_header (by decide +kernel) (by decide +kernel) ?_
  cases limit : p.maxLen with
  | none => exact h
  | some n => exact yields_line (by decide +kernel) (writes_decimal (isWritable_iff.1 writable n limit)) h

theorem yields_observability (o : Observability) (h : Yields cs sts) :
    Yields (printObservability o ++ cs) ((.table [] "observability" :: assigns (observabilityPairs o)) ++ sts) := by
  unfold printObservability observabilityPairs
  simp only [List.append_assoc]
  refine yields_header (by decide +kernel) (by decide +kernel) ?_
  refine yields_line (by decide +kernel) (writes_string _) ?_
  refine yields_line (by decide +kernel) (writes_bool _) ?_
  refine yields_line (by decide +kernel) (writes_bool _) ?_
  exact yields_line (by decide +kernel) (writes_string _) h

theorem yields_target (t : TargetSettings) (h : Yields cs sts) :
    Yields (printTarget t ++ cs) ((.element [] "targets" :: assigns (targetPairs t)) ++ sts) := by
  unfold printTarget targetPairs
  simp only [List.append_assoc]
  refine yields_element (by decide +kernel) (by decide +kernel) ?_
  refine yields_line (by decide +kernel) (writes_string _) ?_
  refine yields_line (by decide +kernel) (writes_level _) ?_
  exact yields_line (by decide +kernel) (writes_texts _) h

theorem yields_targets (ts : List TargetSettings) :
    Yields (ts.flatMap printTarget) (elements "targets" (ts.map targetPairs)) := by
  induction ts with
  | nil => exact Yields.nil
  | cons t ts ih =>
    rw [List.map_cons, elements_cons]
    exact yields_target t ih

theorem yields_print {c : Settings} (writable : isWritable c.printer = true) :
    Yields c.print c.statements := by
  have tables := yields_printer writable (yields_observability c.observability (yields_targets c.targets))
  unfold print statements topPairs
  simp only [List.append_assoc]
  refine yields_line (by decide +kernel) (writes_level _) ?_
  split
  · exact yields_line (by decide +kernel) writes_nothing tables
  · exact tables

def document (c : Settings) : Value :=
  .object (c.topPairs ++ [("printer", .object (printerPairs c.printer)),
    ("observability", .object (observabilityPairs c.observability))] ++
    if c.targets = [] then [] else [("targets", .array ((c.targets.map targetPairs).map .object))])

theorem distinct_printer (p : PrinterSettings) : ((printerPairs p).map (·.1)).Nodup := by
  unfold printerPairs
  cases p.maxLen <;> simp

theorem distinct_observability (o : Observability) : ((observabilityPairs o).map (·.1)).Nodup := by
  simp [observabilityPairs]

theorem distinct_target (t : TargetSettings) : ((targetPairs t).map (·.1)).Nodup := by
  simp [targetPairs]

theorem keys_topPairs (c : Settings) :
    c.topPairs.map (·.1) = "level" :: if c.targets = [] then ["targets"] else [] := by
  unfold topPairs
  split <;> rfl

def leading (c : Settings) : Entries :=
  values c.topPairs ++ [("printer", .table .header (values (printerPairs c.printer)))] ++
    [("observability", .table .header (values (observabilityPairs c.observability)))]

theorem members_leading (c : Settings) : Entries.members c.leading =
    c.topPairs ++ [("printer", .object (printerPairs c.printer)),
      ("observability", .object (observabilityPairs c.observability))] := by
  rw [leading, members_append, members_append, members_values, List.append_assoc]
  simp only [Entries.members, Node.toValue, members_values, List.cons_append, List.nil_append]

theorem foldlM_leading (c : Settings) :
    (assigns c.topPairs ++ ((.table [] "printer" :: assigns (printerPairs c.printer)) ++
      (.table [] "observability" :: assigns (observabilityPairs c.observability)))).foldlM Draft.add? ⟨[], []⟩ =
      some ⟨["observability"], c.leading⟩ := by
  have top : (c.topPairs.map (·.1)).Nodup := by rw [keys_topPairs]; split <;> decide
  have printer : (values c.topPairs).lookup "printer" = none := by
    rw [lookup_eq_none, keys_values, keys_topPairs]
    split <;> decide
  have observability : (values c.topPairs ++
      [("printer", Node.table .header (values (printerPairs c.printer)))]).lookup "observability" = none := by
    rw [lookup_eq_none, List.map_append, keys_values, keys_topPairs]
    split <;> simp
  rw [List.foldlM_append, foldlM_top top, Option.bind_eq_bind, Option.bind_some, List.foldlM_append,
    foldlM_table printer (distinct_printer _), Option.bind_eq_bind, Option.bind_some]
  exact foldlM_table observability (distinct_observability _)

theorem foldlM_statements (c : Settings) :
    ∃ d, c.statements.foldlM Draft.add? ⟨[], []⟩ = some d ∧ .object (Entries.members d.entries) = c.document := by
  have grouped : c.statements = (assigns c.topPairs ++ ((.table [] "printer" :: assigns (printerPairs c.printer)) ++
      (.table [] "observability" :: assigns (observabilityPairs c.observability)))) ++
      elements "targets" (c.targets.map targetPairs) := by
    simp [statements]
  rw [grouped, List.foldlM_append, foldlM_leading, Option.bind_eq_bind, Option.bind_some, document]
  by_cases none : c.targets = []
  · refine ⟨_, by rw [none]; rfl, ?_⟩
    rw [members_leading, if_pos none, List.append_nil]
  · have fresh : c.leading.lookup "targets" = Option.none := by
      rw [lookup_eq_none, leading, List.map_append, List.map_append, keys_values, keys_topPairs, if_neg none]
      simp
    obtain ⟨node, folded, value⟩ := foldlM_elements (by simpa using none) fresh
      (List.forall_mem_map.2 fun t _ => distinct_target t)
    refine ⟨_, folded, ?_⟩
    rw [members_append, members_leading, if_neg none]
    simp only [Entries.members, value]

theorem print_eq_cons (c : Settings) : ∃ cs, c.print = 'l' :: cs := by
  have first : "level".toList = 'l' :: ['e', 'v', 'e', 'l'] := by decide +kernel
  rw [print, line, first]
  exact ⟨_, rfl⟩

theorem read?_toToml {c : Settings} (writable : isWritable c.printer = true) :
    Toml.read? c.toToml = some c.document := by
  obtain ⟨d, folded, value⟩ := c.foldlM_statements
  have yields := yields_print writable (c.print.length + 1) (Nat.lt_succ_self _)
  obtain ⟨cs, first⟩ := c.print_eq_cons
  rw [toToml, Toml.read?, String.toList_ofList]
  rw [first] at yields ⊢
  calc
    _ = (statements? (('l' :: cs).length + 1) ('l' :: cs)).bind fun lines =>
        (lines.foldlM Draft.add? ⟨[], []⟩).bind fun d => some (.object (Entries.members d.entries)) := rfl
    _ = some c.document := by rw [yields, Option.bind_some, folded, Option.bind_some, value]

end LogRouting.Settings
