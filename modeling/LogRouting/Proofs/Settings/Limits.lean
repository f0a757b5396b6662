import LogRouting.Proofs.Settings.Validation
import LogRouting.Proofs.Toml.Integers
import LogRouting.Settings.Printer

namespace LogRouting

theorem IsInt64.toNat_lt {n : Int} (h : IsInt64 n) : n.toNat < Nat.pow 2 63 := by
  have power : Int.pow 2 63 = (Nat.pow 2 63 : Nat) := rfl
  have positive : 0 < Nat.pow 2 63 := by decide
  have upper := h.2
  rw [power] at upper
  omega

theorem Settings.isWritable_iff {p : PrinterSettings} : isWritable p = true ↔ ∀ n ∈ p.maxLen, n < Nat.pow 2 63 := by
  rw [isWritable]
  cases p.maxLen with
  | none => simp only [Option.all_none, Option.not_mem_none, false_imp_iff, implies_true]
  | some n => simp only [Option.all_some, decide_eq_true_eq, Option.mem_some_iff, forall_eq']

namespace Dialect

variable {d : Dialect} {α β : Type}

theorem bind_eq_ok {ε : Type} {x : Except ε α} {f : α → Except ε β} {b : β} (h : x >>= f = .ok b) :
    ∃ a, x = .ok a ∧ f a = .ok b := by
  cases x with
  | error e => cases h
  | ok a => exact ⟨a, rfl, h⟩

theorem foldlM_keeps {ε : Type} {f : β → α → Except ε β} {P : β → Prop} {as : List α} {b after : β}
    (step : ∀ a ∈ as, ∀ b after, P b → f b a = .ok after → P after) (start : P b)
    (folded : as.foldlM f b = .ok after) : P after := by
  induction as generalizing b with
  | nil =>
    cases folded
    exact start
  | cons a as ih =>
    rw [List.foldlM_cons] at folded
    obtain ⟨next, first, folded⟩ := bind_eq_ok folded
    exact ih (fun a mem => step a (List.mem_cons_of_mem _ mem)) (step a List.mem_cons_self _ _ start first) folded

theorem group_keeps {name : String} {fields : List String} {set : α → String → Value → Except DecodeError α}
    {start after : α} {v : Value} {P : α → Prop} (h : v.Int64)
    (step : ∀ {a key v after}, Value.Int64 v → P a → set a key v = .ok after → P after) (initially : P start)
    (read : d.group name fields set start v = .ok after) : P after := by
  cases h with
  | object within => exact foldlM_keeps (fun m mem _ _ => step (within m mem)) initially read
  | array within =>
    obtain ⟨a, folded, read⟩ := bind_eq_ok read
    have kept : P a := foldlM_keeps (fun m mem _ _ => step (within m.2 (List.of_mem_zip mem).2)) initially folded
    split at read
    · cases read
      exact kept
    · cases read
  | _ => cases read

theorem limit_lt {v : Value} {most : Option Nat} (h : v.Int64) (read : d.limit v = .ok most) :
    ∀ n ∈ most, n < Nat.pow 2 63 := by
  cases h with
  | null =>
    cases read
    simp
  | int range =>
    rw [limit] at read
    split at read
    · cases read
      simpa using range.toNat_lt
    · cases read
  | _ => cases read

theorem isWritable_setPrinter {p after : PrinterSettings} {key : String} {v : Value} (h : v.Int64)
    (before : Settings.isWritable p = true) (set : d.setPrinter p key v = .ok after) :
    Settings.isWritable after = true := by
  rw [setPrinter.eq_def] at set
  split at set
  · obtain ⟨most, read, same⟩ := bind_eq_ok set
    cases same
    exact Settings.isWritable_iff.2 (limit_lt h read)
  · cases set
    exact before

theorem isWritable_setSettings {s after : Settings} {key : String} {v : Value} (h : v.Int64)
    (before : Settings.isWritable s.printer = true) (set : d.setSettings s key v = .ok after) :
    Settings.isWritable after.printer = true := by
  rw [setSettings.eq_def] at set
  split at set
  · obtain ⟨_, -, same⟩ := bind_eq_ok set
    cases same
    exact before
  · obtain ⟨p, read, same⟩ := bind_eq_ok set
    cases same
    exact group_keeps (P := fun p => Settings.isWritable p = true) h isWritable_setPrinter rfl read
  · obtain ⟨_, -, same⟩ := bind_eq_ok set
    cases same
    exact before
  · obtain ⟨_, -, same⟩ := bind_eq_ok set
    cases same
    exact before
  · cases set
    exact before

end Dialect

theorem Settings.isWritable_of_decode {document : String} {c : Settings} (h : decode document = .ok c) :
    isWritable c.printer = true := by
  rw [decode] at h
  split at h
  · cases h
  · next v read =>
    cases decoded : Dialect.toml.settings v with
    | error e =>
      rw [decoded] at h
      cases h
    | ok c' =>
      rw [decoded] at h
      cases h
      exact Dialect.group_keeps (P := fun c => isWritable c.printer = true) (Toml.int64_read read)
        Dialect.isWritable_setSettings rfl decoded

end LogRouting
