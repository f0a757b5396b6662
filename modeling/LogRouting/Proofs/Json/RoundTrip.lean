import LogRouting.Proofs.Json.Scalars
import Mathlib.Order.Basic
import Mathlib.Data.String.Basic

/-!
Values that were printed can be read again. The reader is followed along the printed text with the rest of the text
left free: a value ends where its own last character stands, whatever comes after it.
-/

namespace LogRouting.Json

/-- Values that a text says exactly: whole numbers that fit a word, and members sorted by key, as objects keep
them. -/
inductive Exact : Value → Prop
  | null : Exact .null
  | bool (b : Bool) : Exact (.bool b)
  | int {n : Int} (word : IsWord n) : Exact (.int n)
  | string (s : String) : Exact (.string s)
  | array {vs : List Value} (each : ∀ v ∈ vs, Exact v) : Exact (.array vs)
  | object {ms : List (String × Value)} (sorted : (ms.map (·.1)).Pairwise (· < ·)) (each : ∀ m ∈ ms, Exact m.2) :
    Exact (.object ms)

mutual
def nesting : Value → Nat
  | .array vs => nestingItems vs + 1
  | .object ms => nestingMembers ms + 1
  | _ => 0

def nestingItems : List Value → Nat
  | [] => 0
  | v :: vs => max (nesting v) (nestingItems vs)

def nestingMembers : List (String × Value) → Nat
  | [] => 0
  | (_, v) :: ms => max (nesting v) (nestingMembers ms)
end

variable {v : Value} {vs : List Value} {key : String} {ms : List (String × Value)} {c : Char} {rest : List Char}
  {fuel depth : Nat}

/-- What a value begins with is neither white space nor the end of a list. -/
def opens (c : Char) : Bool := !isSpace c && c ≠ ']' && c ≠ '\x7d'

theorem ne_of_opens {d : Char} (h : opens c = true) (other : opens d = false) : c ≠ d := by
  rintro rfl
  rw [h] at other
  cases other

theorem opens_of_digit (digit : Text.isDigitIn 10 c = true) : opens c = true := by
  have ne {d : Char} (other : Text.isDigitIn 10 d = false) : c ≠ d := Text.ne_of_digit digit other
  simp [opens, isSpace, ne (d := ' ') (by decide), ne (d := '\t') (by decide), ne (d := '\n') (by decide),
    ne (d := '\r') (by decide), ne (d := ']') (by decide), ne (d := '\x7d') (by decide)]

theorem integer_eq_cons (n : Int) : ∃ c cs, Text.integer n = c :: cs ∧ (c = '-' ∨ Text.isDigitIn 10 c = true) := by
  rw [Text.integer]
  split
  · exact ⟨_, _, rfl, .inl rfl⟩
  · obtain ⟨d, ds, eq, digit⟩ := Text.decimal_eq_cons n.natAbs
    exact ⟨d, ds, eq, .inr digit⟩

theorem print_eq_cons (exact : Exact v) : ∃ c cs, print v = c :: cs ∧ opens c = true := by
  cases exact with
  | null => exact ⟨_, _, rfl, by decide⟩
  | bool b => cases b <;> exact ⟨_, _, rfl, by decide⟩
  | int word =>
    obtain ⟨c, cs, eq, first⟩ := integer_eq_cons _
    refine ⟨c, cs, eq, ?_⟩
    rcases first with rfl | digit
    · decide
    · exact opens_of_digit digit
  | string s => exact ⟨_, _, rfl, by decide⟩
  | array each =>
    rename_i vs
    cases vs <;> exact ⟨_, _, rfl, by decide⟩
  | object sorted each =>
    rename_i ms
    cases ms <;> exact ⟨_, _, rfl, by decide⟩

theorem skipSpace_of_opens {cs : List Char} (h : opens c = true) : skipSpace (c :: cs) = c :: cs := by
  have visible : isSpace c = false := by
    simp only [opens, Bool.and_eq_true, Bool.not_eq_true'] at h
    exact h.1.1
  simp [skipSpace, visible]

theorem apart_printItems (vs : List Value) : Apart (printItems vs ++ rest) := by
  cases vs <;> exact .cons (by decide)

theorem apart_printMembers (ms : List (String × Value)) : Apart (printMembers ms ++ rest) := by
  cases ms <;> exact .cons (by decide)

/-- The reader finds the value at the head of its printed text. Each level of the grammar takes at most three steps a
character. -/
def Reads (v : Value) : Prop :=
  ∀ {fuel depth : Nat} {rest : List Char}, 3 * (print v).length ≤ fuel → nesting v ≤ depth → Apart rest →
    value? fuel depth (print v ++ rest) = some (v, rest)

theorem items?_print (each : ∀ w ∈ v :: vs, Reads w)
    (enough : 3 * ((print v).length + (printItems vs).length) ≤ fuel) (shallow : nestingItems (v :: vs) ≤ depth) :
    items? fuel depth (print v ++ (printItems vs ++ rest)) = some (v :: vs, rest) := by
  induction vs generalizing v fuel with
  | nil =>
    rw [printItems, List.length_singleton] at enough
    rw [nestingItems, Nat.max_le] at shallow
    obtain ⟨fuel, rfl⟩ := Nat.exists_eq_add_of_le' (show 1 ≤ fuel by omega)
    have first : value? fuel depth (print v ++ (printItems [] ++ rest)) = some (v, printItems [] ++ rest) :=
      each v List.mem_cons_self (by omega) shallow.1 (apart_printItems [])
    rw [items?, first]
    rfl
  | cons w vs ih =>
    rw [printItems, List.length_cons, List.length_append] at enough
    rw [nestingItems, Nat.max_le] at shallow
    obtain ⟨fuel, rfl⟩ := Nat.exists_eq_add_of_le' (show 1 ≤ fuel by omega)
    have first : value? fuel depth (print v ++ (printItems (w :: vs) ++ rest)) =
        some (v, printItems (w :: vs) ++ rest) :=
      each v List.mem_cons_self (by omega) shallow.1 (apart_printItems (w :: vs))
    have later : items? fuel depth (print w ++ (printItems vs ++ rest)) = some (w :: vs, rest) :=
      ih (fun u mem => each u (List.mem_cons_of_mem _ mem)) (by omega) shallow.2
    rw [items?, first, printItems, List.cons_append, List.append_assoc]
    show (items? fuel depth (print w ++ (printItems vs ++ rest))).map _ = _
    rw [later]
    rfl

theorem value?_empty_array : value? (fuel + 1) (depth + 1) ('[' :: ']' :: rest) = some (.array [], rest) := by
  rw [value?]
  rfl

theorem value?_array {cs : List Char} (h : opens c = true) :
    value? (fuel + 1) (depth + 1) ('[' :: c :: cs) =
      (items? fuel depth (c :: cs)).map fun (vs, after) => (.array vs, after) := by
  have bracket : skipSpace ('[' :: c :: cs) = '[' :: c :: cs := rfl
  have first : c ≠ ']' := ne_of_opens h (by decide)
  rw [value?, bracket]
  simp only [skipSpace_of_opens h]
  split
  · next same => cases same
  · next same => exact absurd (List.cons.inj same).1 first
  · next depths _ =>
    cases depths
    rfl

theorem reads_array (exact : ∀ v ∈ vs, Exact v) (each : ∀ v ∈ vs, Reads v) : Reads (.array vs) := by
  intro fuel depth rest enough shallow _
  rw [nesting] at shallow
  obtain ⟨depth, rfl⟩ := Nat.exists_eq_add_of_le' (show 1 ≤ depth by omega)
  cases vs with
  | nil =>
    rw [print, List.length_cons] at enough
    obtain ⟨fuel, rfl⟩ := Nat.exists_eq_add_of_le' (show 1 ≤ fuel by omega)
    rw [print]
    exact value?_empty_array
  | cons v vs =>
    rw [print, List.length_cons, List.length_append] at enough
    obtain ⟨fuel, rfl⟩ := Nat.exists_eq_add_of_le' (show 1 ≤ fuel by omega)
    -- the reader looks at the first character before it takes the items
    obtain ⟨c, cs, eq, first⟩ := print_eq_cons (exact v List.mem_cons_self)
    have items : items? fuel depth (print v ++ (printItems vs ++ rest)) = some (v :: vs, rest) :=
      items?_print each (by omega) (by omega)
    rw [print, List.cons_append, List.append_assoc]
    rw [eq, List.cons_append] at items ⊢
    rw [value?_array first, items]
    rfl

theorem member?_print (reads : Reads v) (enough : 3 * (print v).length ≤ fuel) (shallow : nesting v ≤ depth)
    (apart : Apart rest) :
    member? (fuel + 1) depth (quoted key ++ ':' :: (print v ++ rest)) = some ((key, v), rest) := by
  have quote (cs : List Char) : skipSpace ('"' :: cs) = '"' :: cs := rfl
  have colon (cs : List Char) : skipSpace (':' :: cs) = ':' :: cs := rfl
  rw [member?, quoted_append, quote]
  simp only [string?_escaped, colon]
  rw [reads enough shallow apart]
  rfl

theorem members?_print (each : ∀ m ∈ (key, v) :: ms, Reads m.2)
    (enough : 3 * ((print v).length + (printMembers ms).length) < fuel)
    (shallow : nestingMembers ((key, v) :: ms) ≤ depth) :
    members? fuel depth (quoted key ++ ':' :: (print v ++ (printMembers ms ++ rest))) =
      some ((key, v) :: ms, rest) := by
  induction ms generalizing key v fuel with
  | nil =>
    rw [printMembers, List.length_singleton] at enough
    rw [nestingMembers, Nat.max_le] at shallow
    obtain ⟨fuel, rfl⟩ := Nat.exists_eq_add_of_le' (show 2 ≤ fuel by omega)
    have reads : Reads v := each (key, v) List.mem_cons_self
    have first : member? (fuel + 1) depth (quoted key ++ ':' :: (print v ++ (printMembers [] ++ rest))) =
        some ((key, v), printMembers [] ++ rest) :=
      member?_print reads (by omega) shallow.1 (apart_printMembers [])
    rw [members?, first]
    rfl
  | cons m ms ih =>
    obtain ⟨key', w⟩ := m
    rw [printMembers, List.length_cons, List.length_append, List.length_cons, List.length_append] at enough
    rw [nestingMembers, Nat.max_le] at shallow
    obtain ⟨fuel, rfl⟩ := Nat.exists_eq_add_of_le' (show 2 ≤ fuel by omega)
    have reads : Reads v := each (key, v) List.mem_cons_self
    have first : member? (fuel + 1) depth (quoted key ++ ':' :: (print v ++ (printMembers ((key', w) :: ms) ++ rest))) =
        some ((key, v), printMembers ((key', w) :: ms) ++ rest) :=
      member?_print reads (by omega) shallow.1 (apart_printMembers ((key', w) :: ms))
    have later : members? (fuel + 1) depth (quoted key' ++ ':' :: (print w ++ (printMembers ms ++ rest))) =
        some ((key', w) :: ms, rest) :=
      ih (fun u mem => each u (List.mem_cons_of_mem _ mem)) (by omega) shallow.2
    rw [members?, first, printMembers, List.cons_append, List.append_assoc, List.cons_append, List.append_assoc]
    show (members? (fuel + 1) depth (quoted key' ++ ':' :: (print w ++ (printMembers ms ++ rest)))).map _ = _
    rw [later]
    rfl

theorem insertMember_last (greatest : ∀ m ∈ ms, m.1 < key) : Value.insertMember key v ms = ms ++ [(key, v)] := by
  induction ms with
  | nil => rfl
  | cons m ms ih =>
    obtain ⟨less, greatest⟩ := List.forall_mem_cons.1 greatest
    rw [Value.insertMember, if_neg (lt_asymm less), if_neg less.ne', ih greatest]
    rfl

theorem foldl_insertMember (before : List (String × Value)) (sorted : ((before ++ ms).map (·.1)).Pairwise (· < ·)) :
    ms.foldl (fun sorted (k, v) => Value.insertMember k v sorted) before = before ++ ms := by
  induction ms generalizing before with
  | nil => rw [List.append_nil]; rfl
  | cons m ms ih =>
    obtain ⟨key, v⟩ := m
    -- so each member goes to the end of those before it
    have greatest : ∀ m ∈ before, m.1 < key := by
      rw [List.map_append, List.pairwise_append] at sorted
      exact fun m mem => sorted.2.2 m.1 (List.mem_map_of_mem mem) key List.mem_cons_self
    rw [List.foldl_cons]
    dsimp only
    rw [insertMember_last greatest, ih, List.append_assoc]
    · rfl
    · rwa [List.append_assoc]

theorem ofMembers_sorted (sorted : (ms.map (·.1)).Pairwise (· < ·)) : Value.ofMembers ms = .object ms :=
  congrArg Value.object (foldl_insertMember [] sorted)

theorem mem_insertMember {m : String × Value} (mem : m ∈ Value.insertMember key v ms) : m = (key, v) ∨ m ∈ ms := by
  induction ms with
  | nil => exact .inl (List.mem_singleton.1 mem)
  | cons m' ms ih =>
    rw [Value.insertMember] at mem
    split at mem
    · exact List.mem_cons.1 mem
    · split at mem
      · exact (List.mem_cons.1 mem).imp_right (List.mem_cons_of_mem _)
      · rcases List.mem_cons.1 mem with rfl | mem
        · exact .inr List.mem_cons_self
        · exact (ih mem).imp_right (List.mem_cons_of_mem _)

theorem sorted_insertMember (sorted : (ms.map (·.1)).Pairwise (· < ·)) :
    ((Value.insertMember key v ms).map (·.1)).Pairwise (· < ·) := by
  induction ms with
  | nil => exact List.pairwise_singleton ..
  | cons m ms ih =>
    obtain ⟨above, later⟩ := List.pairwise_cons.1 sorted
    rw [Value.insertMember]
    split
    · next less =>
      refine List.pairwise_cons.2 ⟨List.forall_mem_cons.2 ⟨less, fun k mem => ?_⟩, sorted⟩
      exact less.trans (above k mem)
    · split
      · next same => exact List.pairwise_cons.2 ⟨by rwa [same], later⟩
      · next beyond ne =>
        have less : m.1 < key := lt_of_le_of_ne (not_lt.1 beyond) (Ne.symm ne)
        refine List.pairwise_cons.2 ⟨List.forall_mem_map.2 fun m' mem => ?_, ih later⟩
        rcases mem_insertMember mem with rfl | mem
        · exact less
        · exact above m'.1 (List.mem_map_of_mem mem)

theorem Exact.ofMembers (each : ∀ m ∈ ms, Exact m.2) : Exact (.ofMembers ms) := by
  have kept : ∀ before : List (String × Value), (before.map (·.1)).Pairwise (· < ·) → (∀ m ∈ before, Exact m.2) →
      Exact (.object (ms.foldl (fun sorted (k, v) => Value.insertMember k v sorted) before)) := by
    induction ms with
    | nil => exact fun before sorted each => .object sorted each
    | cons m ms ih =>
      intro before sorted exact
      obtain ⟨here, later⟩ := List.forall_mem_cons.1 each
      refine ih later _ (sorted_insertMember sorted) fun m' mem => ?_
      rcases mem_insertMember mem with rfl | mem
      · exact here
      · exact exact m' mem
  exact kept [] .nil (List.forall_mem_nil _)

theorem value?_empty_object :
    value? (fuel + 1) (depth + 1) ('\x7b' :: '\x7d' :: rest) = some (.object [], rest) := by
  rw [value?]
  rfl

theorem value?_object {cs : List Char} (h : opens c = true) :
    value? (fuel + 1) (depth + 1) ('\x7b' :: c :: cs) =
      (members? fuel depth (c :: cs)).map fun (ms, after) => (.ofMembers ms, after) := by
  have brace : skipSpace ('\x7b' :: c :: cs) = '\x7b' :: c :: cs := rfl
  have first : c ≠ '\x7d' := ne_of_opens h (by decide)
  rw [value?, brace]
  simp only [skipSpace_of_opens h]
  split
  · next same => cases same
  · next same => exact absurd (List.cons.inj same).1 first
  · next depths _ =>
    cases depths
    rfl

theorem reads_object (sorted : (ms.map (·.1)).Pairwise (· < ·)) (each : ∀ m ∈ ms, Reads m.2) :
    Reads (.object ms) := by
  intro fuel depth rest enough shallow _
  rw [nesting] at shallow
  obtain ⟨depth, rfl⟩ := Nat.exists_eq_add_of_le' (show 1 ≤ depth by omega)
  cases ms with
  | nil =>
    rw [print, List.length_cons] at enough
    obtain ⟨fuel, rfl⟩ := Nat.exists_eq_add_of_le' (show 1 ≤ fuel by omega)
    rw [print]
    exact value?_empty_object
  | cons m ms =>
    obtain ⟨key, v⟩ := m
    rw [print, List.length_cons, List.length_append, List.length_cons, List.length_append] at enough
    obtain ⟨fuel, rfl⟩ := Nat.exists_eq_add_of_le' (show 1 ≤ fuel by omega)
    have members : members? fuel depth (quoted key ++ ':' :: (print v ++ (printMembers ms ++ rest))) =
        some ((key, v) :: ms, rest) :=
      members?_print each (by omega) (by omega)
    rw [print, List.cons_append, List.append_assoc, List.cons_append, List.append_assoc]
    rw [quoted_append] at members ⊢
    rw [value?_object (by decide), members]
    exact congrArg (fun v => some (v, rest)) (ofMembers_sorted sorted)

theorem value?_of_number {cs : List Char} (h : c = '-' ∨ Text.isDigitIn 10 c = true) :
    value? (fuel + 1) depth (c :: cs) = number? (c :: cs) := by
  have ne {d : Char} (sign : d ≠ '-') (other : Text.isDigitIn 10 d = false) : c ≠ d := by
    rcases h with rfl | digit
    · exact sign.symm
    · exact Text.ne_of_digit digit other
  have visible : skipSpace (c :: cs) = c :: cs := by
    rcases h with rfl | digit
    · exact skipSpace_of_opens (by decide)
    · exact skipSpace_of_opens (opens_of_digit digit)
  rw [value?, visible]
  split
  iterate 6 next same => exact absurd (List.cons.inj same).1 (ne (by decide) (by decide))
  rfl

theorem value?_string (s : String) : value? (fuel + 1) depth (quoted s ++ rest) = some (.string s, rest) := by
  have quote (cs : List Char) : skipSpace ('"' :: cs) = '"' :: cs := rfl
  rw [quoted_append, value?, quote]
  simp only [string?_escaped]
  rfl

theorem value?_integer {n : Int} (word : IsWord n) (apart : Apart rest) :
    value? (fuel + 1) depth (Text.integer n ++ rest) = some (.int n, rest) := by
  have number := number?_integer word apart
  obtain ⟨c, cs, eq, first⟩ := integer_eq_cons n
  rw [eq, List.cons_append] at number ⊢
  rw [value?_of_number first, number]

theorem Reads.of_step (exact : Exact v)
    (step : ∀ {fuel depth rest}, Apart rest → value? (fuel + 1) depth (print v ++ rest) = some (v, rest)) :
    Reads v := by
  intro fuel depth rest enough _ apart
  obtain ⟨c, cs, eq, -⟩ := print_eq_cons exact
  rw [eq, List.length_cons] at enough
  obtain ⟨fuel, rfl⟩ := Nat.exists_eq_add_of_le' (show 1 ≤ fuel by omega)
  exact step apart

theorem reads_of_exact (exact : Exact v) : Reads v := by
  induction exact with
  | null =>
    refine Reads.of_step .null fun _ => ?_
    rw [print, value?]
    rfl
  | bool b =>
    refine Reads.of_step (.bool b) fun _ => ?_
    cases b <;> rw [print, value?] <;> rfl
  | int word =>
    refine Reads.of_step (.int word) fun apart => ?_
    rw [print]
    exact value?_integer word apart
  | string s =>
    refine Reads.of_step (.string s) fun _ => ?_
    rw [print]
    exact value?_string s
  | array each ih => exact reads_array each ih
  | object sorted _ ih => exact reads_object sorted ih

theorem read?_print (exact : Exact v) (shallow : nesting v ≤ deepest) : read? (String.ofList (print v)) = some v := by
  have value : value? (3 * (print v).length + 3) deepest (print v ++ []) = some (v, []) :=
    reads_of_exact exact (Nat.le_add_right ..) shallow .nil
  rw [List.append_nil] at value
  rw [read?, String.toList_ofList]
  simp only [value]
  rfl

end LogRouting.Json
