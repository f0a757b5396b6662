import LogRouting.Toml.Printer
import Mathlib.Data.List.TakeWhile

/-!
Strings that were written can be read again. Whatever form a string is written in, no run of quotes within it is
long enough to end it, and each character is read as itself.
-/

namespace LogRouting.Toml

namespace Quoting

variable {q : Quoting} {cs w rest tail : List Char} {c : Char} {k run : Nat}

def spare (q : Quoting) : Nat := if q.isBlock then 2 else 0

theorem close?_of_short (short : (cs.takeWhile (· = q.mark)).length ≤ q.spare) : q.close? cs = none := by
  rw [close?]
  cases block : q.isBlock with
  | true =>
    have bound : q.spare = 2 := by simp [spare, block]
    rw [if_pos rfl, if_neg (by omega)]
  | false =>
    have bound : q.spare = 0 := by simp [spare, block]
    rw [if_neg Bool.false_ne_true, if_neg (by omega)]

theorem takeWhile_marks {m : Char} {n : Nat} (apart : rest.head? ≠ some m) :
    (List.replicate n m ++ rest).takeWhile (· = m) = List.replicate n m := by
  rw [List.takeWhile_append_of_pos (by simp)]
  cases rest with
  | nil => simp
  | cons c rest => simpa [List.takeWhile_cons] using apart

theorem close?_marks (short : k ≤ q.spare) (apart : rest.head? ≠ some q.mark) :
    q.close? (List.replicate k q.mark ++ (q.marks ++ rest)) =
      some ⟨List.replicate k q.mark, k + q.marks.length⟩ := by
  have run : ((List.replicate k q.mark ++ (q.marks ++ rest)).takeWhile (· = q.mark)).length = k + q.marks.length := by
    rw [marks, ← List.append_assoc, List.replicate_append_replicate, takeWhile_marks apart]
    simp
  rw [close?, run]
  cases block : q.isBlock with
  | true =>
    have bound : k ≤ 2 := by simpa [spare, block] using short
    have three : q.marks.length = 3 := by simp [marks, block]
    rw [if_pos rfl, three, if_pos (by omega), Nat.min_eq_left (by omega), Nat.add_sub_cancel]
  | false =>
    have zero : k = 0 := by simpa [spare, block] using short
    have one : q.marks.length = 1 := by simp [marks, block]
    rw [if_neg Bool.false_ne_true, one, if_pos (by omega), zero]
    rfl

theorem body?_drop (n : Nat) (cs : List Char) : q.body? n cs = q.body? 0 (cs.drop n) := by
  induction n generalizing cs with
  | zero => rfl
  | succ n ih =>
    cases cs with
    | nil => rfl
    | cons c cs => exact ih cs

theorem body?_close (short : k ≤ q.spare) (apart : rest.head? ≠ some q.mark) :
    q.body? 0 (List.replicate k q.mark ++ (q.marks ++ rest)) = some (List.replicate k q.mark, rest) := by
  have closes := close?_marks short apart
  have after : (List.replicate k q.mark ++ (q.marks ++ rest)).drop (k + q.marks.length) = rest := by
    rw [← List.append_assoc]
    exact List.drop_left' (by simp)
  cases text : List.replicate k q.mark ++ (q.marks ++ rest) with
  | nil =>
    have none : k + (if q.isBlock then 3 else 1) + rest.length = 0 := by
      simpa [marks, Nat.add_assoc] using congrArg List.length text
    split at none <;> omega
  | cons c cs =>
    rw [text] at closes after
    rw [body?, closes]
    simp only [after]

theorem body?_element (nonempty : w ≠ []) (goes_on : q.close? (w ++ tail) = none)
    (means : q.element? (w ++ tail) = some ⟨[c], w.length⟩) :
    q.body? 0 (w ++ tail) = (q.body? 0 tail).map fun (s, rest) => (c :: s, rest) := by
  obtain ⟨d, w, rfl⟩ := List.exists_cons_of_ne_nil nonempty
  rw [List.cons_append] at goes_on means ⊢
  have after : q.body? w.length (w ++ tail) = q.body? 0 tail := by rw [body?_drop, List.drop_left]
  rw [body?, goes_on, means, ← after]
  rfl

theorem closed_or_not (short : (w.takeWhile (· = q.mark)).length ≤ q.spare) (apart : rest.head? ≠ some q.mark) :
    ((∀ d ∈ w, d = q.mark) ∧ q.body? 0 (w ++ (q.marks ++ rest)) = some (w, rest)) ∨
      q.close? (w ++ (q.marks ++ rest)) = none := by
  by_cases all : ∀ d ∈ w, d = q.mark
  · have same : w = List.replicate w.length q.mark := List.eq_replicate_iff.2 ⟨rfl, all⟩
    have taken : w.takeWhile (· = q.mark) = w := List.takeWhile_eq_self_iff.2 (by simpa using all)
    rw [taken] at short
    refine .inl ⟨all, ?_⟩
    rw [same]
    exact body?_close short apart
  · refine .inr (close?_of_short ?_)
    rw [List.takeWhile_append, if_neg]
    · exact short
    · intro whole
      refine all ?_
      have taken : w.takeWhile (· = q.mark) = w := (List.takeWhile_prefix _).eq_of_length whole
      simpa using List.takeWhile_eq_self_iff.1 taken

theorem element?_self (printed : isPrinted c = true) (plain : c = '\\' → q.escapes = false) :
    q.element? (c :: tail) = some ⟨[c], 1⟩ := by
  have ret : c ≠ '\r' := by rintro rfl; simp [isPrinted] at printed
  have feed : c ≠ '\n' := by rintro rfl; simp [isPrinted] at printed
  have slash : ¬ (c = '\\' ∧ q.escapes = true) := by
    rintro ⟨eq, escapes⟩
    rw [plain eq] at escapes
    cases escapes
  rw [element?, if_neg feed, if_neg slash, if_pos printed]
  exact fun _ eq _ => ret eq

theorem element?_lineFeed (block : q.isBlock = true) : q.element? ('\n' :: tail) = some ⟨['\n'], 1⟩ := by
  simp [element?, block]

theorem longestRun_cons {m : Char} : longestRun m cs ≤ longestRun m (c :: cs) := Nat.le_max_right ..

theorem takeWhile_le_longestRun {m : Char} : (cs.takeWhile (· = m)).length ≤ longestRun m cs := by
  cases cs with
  | nil => simp
  | cons c cs => exact Nat.le_max_left ..

theorem allows_iff : q.allows cs = true ↔ (∀ c ∈ cs, isControl c = false) ∧ (q.isBlock = true ∨ '\n' ∉ cs) ∧
    (q.escapes = false ∨ '\\' ∉ cs) ∧ longestRun q.mark cs ≤ q.spare := by
  simp [allows, spare, and_assoc]

theorem allows_of_cons (h : q.allows (c :: cs) = true) : q.allows cs = true := by
  simp only [allows_iff, List.mem_cons, not_or] at h ⊢
  obtain ⟨printed, feeds, slashes, runs⟩ := h
  exact ⟨fun d mem => printed d (.inr mem), feeds.imp_right And.right, slashes.imp_right And.right,
    longestRun_cons.trans runs⟩

theorem isPrinted_of_not_isControl (h : isControl c = false) (ne : c ≠ '\n') : isPrinted c = true := by
  simpa [isControl, ne] using h

theorem body?_raw {s : List Char} (raw : q.escapes = false) (allowed : q.allows s = true)
    (apart : rest.head? ≠ some q.mark) : q.body? 0 (s ++ (q.marks ++ rest)) = some (s, rest) := by
  induction s with
  | nil => exact body?_close (Nat.zero_le _) apart
  | cons c s ih =>
    obtain ⟨printed, feeds, -, runs⟩ := allows_iff.1 allowed
    rcases closed_or_not (takeWhile_le_longestRun.trans runs) apart with ⟨-, closed⟩ | goes_on
    · exact closed
    · have means : q.element? (c :: (s ++ (q.marks ++ rest))) = some ⟨[c], 1⟩ := by
        by_cases feed : c = '\n'
        · subst feed
          exact element?_lineFeed (feeds.resolve_right (by simp))
        · exact element?_self (isPrinted_of_not_isControl (printed c List.mem_cons_self) feed) fun _ => raw
      refine (body?_element (w := [c]) (List.cons_ne_nil c []) goes_on means).trans ?_
      exact congrArg (Option.map _) (ih (allows_of_cons allowed))

theorem isControl_lt (h : isControl c = true) : c.toNat < 128 := by
  by_contra big
  have printed : isPrinted c = true := by
    simp only [isPrinted, Bool.or_eq_true, Bool.and_eq_true, decide_eq_true_eq]
    omega
  simp [isControl, printed] at h

theorem codePoint?_hex (h : isControl c = true) :
    ((Text.hex 4 c.toNat).map Char.toUpper).length = 4 ∧
      codePoint? ((Text.hex 4 c.toNat).map Char.toUpper) 4 = some c := by
  have all : ∀ n < 128, ((Text.hex 4 n).map Char.toUpper).length = 4 ∧
      codePoint? ((Text.hex 4 n).map Char.toUpper) 4 = some (Char.ofNat n) := by decide +kernel
  simpa using all c.toNat (isControl_lt h)

theorem escaped?_eq (apart : lineEndWidth? cs = none) : q.escaped? cs = escape? cs := by
  rw [escaped?, apart]
  split <;> rfl

theorem element?_slash (escapes : q.escapes = true) (apart : lineEndWidth? cs = none) :
    q.element? ('\\' :: cs) = escape? cs := by
  simp [element?, escapes, escaped?_eq apart]

theorem element?_writeChar (escapes : q.escapes = true) :
    q.element? (q.writeChar run c ++ tail) = some ⟨[c], (q.writeChar run c).length⟩ := by
  unfold writeChar
  split
  · exact element?_slash escapes rfl
  · exact element?_slash escapes rfl
  · exact element?_slash escapes rfl
  · exact element?_slash escapes rfl
  · exact element?_slash escapes rfl
  -- line ends and quotes stand as they are where they may
  · split
    · next block => exact element?_lineFeed block
    · exact element?_slash escapes rfl
  · by_cases few : run < if q.isBlock = true then 2 else 0
    · rw [if_pos few]
      exact element?_self rfl (by simp)
    · rw [if_neg few]
      exact element?_slash escapes rfl
  · next back tab page ret slash feed quote =>
    split
    · next control =>
      obtain ⟨four, means⟩ := codePoint?_hex control
      have digits : ((Text.hex 4 c.toNat).map Char.toUpper ++ tail).take 4 =
          (Text.hex 4 c.toNat).map Char.toUpper := List.take_left' four
      refine (element?_slash escapes rfl).trans ?_
      change (codePoint? (((Text.hex 4 c.toNat).map Char.toUpper ++ tail).take 4) 4).map _ = _
      rw [digits, means, List.length_cons, List.length_cons, four]
      rfl
    · next plain =>
      have printed := isPrinted_of_not_isControl (by simpa using plain) feed
      exact element?_self printed fun eq => absurd eq slash

theorem writeChar_quote : q.writeChar run '"' = if run < q.spare then ['"'] else ['\\', '"'] := rfl

theorem head_writeChar (q : Quoting) (run : Nat) (c : Char) :
    ∃ d w, q.writeChar run c = d :: w ∧ (d = '"' → c = '"') ∧ (d = '\n' → c = '\n') ∧ d ≠ '\r' := by
  unfold writeChar
  split
  any_goals exact ⟨_, _, rfl, by decide, by decide, by decide⟩
  · split
    · exact ⟨_, _, rfl, by decide, fun _ => rfl, by decide⟩
    · exact ⟨_, _, rfl, by decide, by decide, by decide⟩
  · by_cases few : run < if q.isBlock = true then 2 else 0
    · rw [if_pos few]
      exact ⟨_, _, rfl, fun _ => rfl, by decide, by decide⟩
    · rw [if_neg few]
      exact ⟨_, _, rfl, by decide, by decide, by decide⟩
  · next back tab page ret slash feed quote =>
    split
    · exact ⟨_, _, rfl, by simp, by simp, by decide⟩
    · exact ⟨_, _, rfl, id, id, ret⟩

theorem writeFrom_cons (q : Quoting) (run : Nat) (c : Char) (cs : List Char) :
    (c = '"' ∧ run < q.spare ∧ q.writeChar run c = ['"'] ∧
      q.writeFrom run (c :: cs) = '"' :: q.writeFrom (run + 1) cs) ∨
    ∃ d w, d ≠ '"' ∧ q.writeChar run c = d :: w ∧ q.writeFrom run (c :: cs) = d :: (w ++ q.writeFrom 0 cs) := by
  by_cases quote : c = '"'
  · subst quote
    by_cases few : run < q.spare
    · have plain : q.writeChar run '"' = ['"'] := writeChar_quote.trans (if_pos few)
      exact .inl ⟨rfl, few, plain, by simp [writeFrom, plain]⟩
    · have escape : q.writeChar run '"' = ['\\', '"'] := writeChar_quote.trans (if_neg few)
      exact .inr ⟨'\\', ['"'], by decide, escape, by simp [writeFrom, escape]⟩
  · obtain ⟨d, w, eq, same, -⟩ := head_writeChar q run c
    exact .inr ⟨d, w, quote ∘ same, eq, by simp [writeFrom, quote, eq]⟩

theorem run_writeFrom (few : run ≤ q.spare) :
    ((q.writeFrom run cs).takeWhile (· = '"')).length + run ≤ q.spare := by
  induction cs generalizing run with
  | nil => simpa [writeFrom] using few
  | cons c cs ih =>
    rcases writeFrom_cons q run c cs with ⟨-, fewer, -, eq⟩ | ⟨d, w, ne, -, eq⟩
    · have rest : ((q.writeFrom (run + 1) cs).takeWhile (· = '"')).length + (run + 1) ≤ q.spare := ih fewer
      rw [eq, List.takeWhile_cons_of_pos (by simp), List.length_cons]
      omega
    · rw [eq, List.takeWhile_cons_of_neg (by simpa using ne)]
      simpa using few

theorem writeFrom_of_quotes (all : ∀ d ∈ q.writeFrom run cs, d = '"') : q.writeFrom run cs = cs := by
  induction cs generalizing run with
  | nil => rfl
  | cons c cs ih =>
    rcases writeFrom_cons q run c cs with ⟨quote, -, -, eq⟩ | ⟨d, w, ne, -, eq⟩
    · rw [eq] at all ⊢
      rw [ih fun d mem => all d (List.mem_cons_of_mem _ mem), quote]
    · rw [eq] at all
      exact absurd (all d List.mem_cons_self) ne

theorem writeFrom_step (q : Quoting) (run : Nat) (c : Char) (cs : List Char) :
    ∃ next ≤ q.spare, q.writeChar run c ≠ [] ∧
      q.writeFrom run (c :: cs) = q.writeChar run c ++ q.writeFrom next cs := by
  rcases writeFrom_cons q run c cs with ⟨-, fewer, plain, eq⟩ | ⟨d, w, -, char, eq⟩
  · exact ⟨run + 1, fewer, by simp [plain], by rw [plain, eq]; rfl⟩
  · exact ⟨0, Nat.zero_le _, by simp [char], by rw [char, eq]; rfl⟩

theorem mark_of_escapes (escapes : q.escapes = true) : q.mark = '"' := by
  cases q <;> first | rfl | cases escapes

theorem body?_writeFrom (escapes : q.escapes = true) (few : run ≤ q.spare) (apart : rest.head? ≠ some q.mark) :
    q.body? 0 (q.writeFrom run cs ++ (q.marks ++ rest)) = some (cs, rest) := by
  have quote := mark_of_escapes escapes
  induction cs generalizing run with
  | nil => exact body?_close (Nat.zero_le _) apart
  | cons c cs ih =>
    have short : ((q.writeFrom run (c :: cs)).takeWhile (· = q.mark)).length ≤ q.spare := by
      rw [quote]
      exact (Nat.le_add_right ..).trans (run_writeFrom few)
    rcases closed_or_not short apart with ⟨all, closed⟩ | goes_on
    · rw [quote] at all
      rwa [writeFrom_of_quotes all] at closed ⊢
    · obtain ⟨next, few, nonempty, eq⟩ := writeFrom_step q run c cs
      rw [eq, List.append_assoc] at goes_on ⊢
      exact (body?_element nonempty goes_on (element?_writeChar escapes)).trans (congrArg _ (ih few))

def inner (q : Quoting) (s : List Char) : List Char := if q.escapes then q.writeFrom 0 s else s

/-- The form is right for a string: it has escapes, or the string needs none. -/
def Fits (q : Quoting) (s : List Char) : Prop := q.escapes = true ∨ q.allows s = true

theorem fits_choose (s : List Char) : (choose s).Fits s := by
  rw [choose]
  split
  · next q found =>
    have allowed : q.allows s = true := List.find?_some (p := fun q : Quoting => q.allows s) found
    exact .inr allowed
  · split <;> exact .inl rfl

variable {s : List Char}

theorem body?_inner (fits : q.Fits s) (apart : rest.head? ≠ some q.mark) :
    q.body? 0 (q.inner s ++ (q.marks ++ rest)) = some (s, rest) := by
  cases escapes : q.escapes with
  | true =>
    rw [inner, if_pos escapes]
    exact body?_writeFrom escapes (Nat.zero_le _) apart
  | false =>
    rw [inner, if_neg (by simp [escapes])]
    exact body?_raw escapes (fits.resolve_left (by simp [escapes])) apart

theorem run_inner (fits : q.Fits s) : ((q.inner s).takeWhile (· = q.mark)).length ≤ q.spare := by
  cases escapes : q.escapes with
  | true =>
    rw [inner, if_pos escapes, mark_of_escapes escapes]
    exact run_writeFrom (Nat.zero_le _)
  | false =>
    rw [inner, if_neg (by simp [escapes])]
    exact takeWhile_le_longestRun.trans (allows_iff.1 (fits.resolve_left (by simp [escapes]))).2.2.2

theorem head_inner (fits : q.Fits s) (line : '\n' ∉ s) {d : Char} {w : List Char} (eq : q.inner s = d :: w) :
    d ≠ '\n' ∧ d ≠ '\r' := by
  cases s with
  | nil => cases escapes : q.escapes <;> simp [inner, escapes, writeFrom] at eq
  | cons c s =>
    rw [List.mem_cons, not_or] at line
    cases escapes : q.escapes with
    | true =>
      obtain ⟨next, -, -, written⟩ := writeFrom_step q 0 c s
      obtain ⟨d', w', first, -, same, ret⟩ := head_writeChar q 0 c
      rw [inner, if_pos escapes, written, first, List.cons_append, List.cons.injEq] at eq
      exact eq.1 ▸ ⟨fun feed => line.1 (same feed).symm, ret⟩
    | false =>
      rw [inner, if_neg (by simp [escapes]), List.cons.injEq] at eq
      have printed := (allows_iff.1 (fits.resolve_left (by simp [escapes]))).1 c List.mem_cons_self
      rw [← eq.1]
      refine ⟨fun feed => line.1 feed.symm, ?_⟩
      rintro rfl
      revert printed
      decide

theorem open?_block (block : q.isBlock = true) : q.open? ('\n' :: cs) = q.body? 0 cs := by
  simp [open?, block]

theorem open?_of_head (h : q.isBlock = true → cs.head? ≠ some '\n' ∧ cs.head? ≠ some '\r') :
    q.open? cs = q.body? 0 cs := by
  unfold open?
  split
  · next block => exact absurd rfl (h block).1
  · next block => exact absurd rfl (h block).2
  · rfl

theorem open?_write (fits : q.Fits s) (apart : rest.head? ≠ some q.mark) :
    q.open? ((if q.isBlock = true ∧ '\n' ∈ s then ['\n'] else []) ++ (q.inner s ++ (q.marks ++ rest))) =
      some (s, rest) := by
  split
  · next line => exact (open?_block line.1).trans (body?_inner fits apart)
  · next line =>
    refine (open?_of_head fun block => ?_).trans (body?_inner fits apart)
    have flat : '\n' ∉ s := fun mem => line ⟨block, mem⟩
    cases eq : q.inner s with
    | nil => cases q <;> simp [marks, mark, isBlock]
    | cons d w => simpa using head_inner fits flat eq

theorem inner_ne_marks (fits : q.Fits s) (flat : q.isBlock = false) (apart : rest.head? ≠ some q.mark)
    (cs : List Char) : q.inner s ++ (q.marks ++ rest) ≠ q.mark :: q.mark :: cs := by
  have run := run_inner fits
  have none : q.spare = 0 := by simp [spare, flat]
  intro eq
  cases text : q.inner s with
  | nil =>
    rw [text, marks, flat] at eq
    simp only [List.nil_append, Bool.false_eq_true, if_false, List.replicate_one, List.cons_append,
      List.cons.injEq, true_and] at eq
    exact apart (by rw [eq]; rfl)
  | cons d w =>
    rw [text, List.cons_append, List.cons.injEq] at eq
    rw [text, none, List.takeWhile_cons_of_pos (by simpa using eq.1)] at run
    exact absurd run (Nat.not_succ_le_zero _)

end Quoting

theorem string?_basic {cs : List Char} (one : ∀ rest, cs ≠ '"' :: '"' :: rest) :
    string? ('"' :: cs) = Quoting.basic.open? cs := by
  rw [string?]
  exact one

theorem string?_literal {cs : List Char} (one : ∀ rest, cs ≠ '\'' :: '\'' :: rest) :
    string? ('\'' :: cs) = Quoting.literal.open? cs := by
  rw [string?]
  exact one

theorem string?_printString (s : String) {rest : List Char} (basic : rest.head? ≠ some '"')
    (literal : rest.head? ≠ some '\'') : string? (printString s ++ rest) = some (s.toList, rest) := by
  have fits := Quoting.fits_choose s.toList
  have apart : rest.head? ≠ some (Quoting.choose s.toList).mark := by
    cases Quoting.choose s.toList <;> assumption
  have opened := Quoting.open?_write fits apart
  rw [printString, Quoting.write, ← Quoting.inner]
  simp only [List.append_assoc]
  cases form : Quoting.choose s.toList with
  | basic =>
    rw [form] at opened fits
    exact (string?_basic (Quoting.inner_ne_marks fits rfl basic)).trans opened
  | literal =>
    rw [form] at opened fits
    exact (string?_literal (Quoting.inner_ne_marks fits rfl literal)).trans opened
  | basicBlock =>
    rw [form] at opened
    exact opened
  | literalBlock =>
    rw [form] at opened
    exact opened

end LogRouting.Toml
