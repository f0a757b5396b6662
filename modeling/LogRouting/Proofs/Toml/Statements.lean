import LogRouting.Proofs.Toml.Scalars
import LogRouting.Proofs.Toml.Strings
import LogRouting.Toml.Reader

namespace LogRouting.Toml

variable {cs rest tail : List Char} {c : Char} {fuel depth n : Nat} {s name : String}

theorem skipWhite_of_not (h : isWhite c = false) : skipWhite (c :: cs) = c :: cs := by
  simp [skipWhite, h]

theorem lineEnd?_feed : lineEnd? ('\n' :: cs) = some cs := rfl

def begins (c : Char) : Bool := !isWhite c && c ≠ '#' && c ≠ '\n' && c ≠ '\r'

theorem begins_iff : begins c = true ↔ isWhite c = false ∧ c ≠ '#' ∧ c ≠ '\n' ∧ c ≠ '\r' := by
  simp [begins, and_assoc]

def Bare (name : String) : Prop := name.toList ≠ [] ∧ ∀ c ∈ name.toList, isBare c = true

instance : Decidable (Bare name) := @instDecidableAnd _ _ inferInstance (List.decidableBAll _ _)

theorem ne_of_bare {d : Char} (own : isBare c = true) (other : isBare d = false) : c ≠ d := by
  rintro rfl
  rw [own] at other
  cases other

theorem begins_of_bare (own : isBare c = true) : begins c = true := by
  have white : isWhite c = false := by
    rw [isWhite, Bool.or_eq_false_iff, decide_eq_false_iff_not, decide_eq_false_iff_not]
    exact ⟨ne_of_bare own (by decide), ne_of_bare own (by decide)⟩
  exact begins_iff.2 ⟨white, ne_of_bare own (by decide), ne_of_bare own (by decide), ne_of_bare own (by decide)⟩

theorem Bare.eq_cons (h : Bare name) : ∃ c cs, name.toList = c :: cs ∧ isBare c = true := by
  obtain ⟨c, cs, eq⟩ := List.exists_cons_of_ne_nil h.1
  exact ⟨c, cs, eq, h.2 c (eq ▸ List.mem_cons_self)⟩

theorem Bare.skipWhite (h : Bare name) : skipWhite (name.toList ++ tail) = name.toList ++ tail := by
  obtain ⟨c, cs, eq, bare⟩ := h.eq_cons
  rw [eq, List.cons_append, skipWhite_of_not (begins_iff.1 (begins_of_bare bare)).1]

theorem part?_bare (h : Bare name) (apart : ∀ c ∈ tail.head?, isBare c = false) :
    part? (name.toList ++ tail) = some (name, tail) := by
  obtain ⟨c, cs, eq, bare⟩ := h.eq_cons
  have rest : tail.takeWhile isBare = [] ∧ tail.dropWhile isBare = tail := by
    cases tail with
    | nil => exact ⟨rfl, rfl⟩
    | cons d tail => simp [apart d rfl]
  have taken : (name.toList ++ tail).takeWhile isBare = name.toList := by
    rw [List.takeWhile_append_of_pos h.2, rest.1, List.append_nil]
  have dropped : (name.toList ++ tail).dropWhile isBare = tail := by
    rw [List.dropWhile_append_of_pos h.2, rest.2]
  unfold part?
  split
  · next same => rw [eq] at same; rw [(List.cons.inj same).1] at bare; exact absurd bare (by decide)
  · next same => rw [eq] at same; rw [(List.cons.inj same).1] at bare; exact absurd bare (by decide)
  · rw [taken, dropped, eq]
    simp only [← eq, String.ofList_toList]

theorem key?_bare (h : Bare name) (apart : ∀ c ∈ tail.head?, isBare c = false) (after : skipWhite tail = c :: rest)
    (point : c ≠ '.') : key? (name.toList ++ tail) = some (([], name), c :: rest) := by
  have parts : parts? ((name.toList ++ tail).length + 1) (name.toList ++ tail) = some ([name], c :: rest) := by
    rw [parts?, h.skipWhite, part?_bare h apart]
    simp only [after]
    split
    · next eq => exact absurd (List.cons.inj eq).1 point
    · rfl
  rw [key?, parts]
  rfl

theorem printString_eq_cons (s : String) : ∃ cs, printString s = '"' :: cs ∨ printString s = '\'' :: cs := by
  rw [printString, Quoting.write]
  cases Quoting.choose s.toList
  all_goals first | exact ⟨_, .inl rfl⟩ | exact ⟨_, .inr rfl⟩

theorem value?_printString (basic : rest.head? ≠ some '"') (literal : rest.head? ≠ some '\'') :
    value? (fuel + 1) depth (printString s ++ rest) = some (.string s, rest) := by
  have read := string?_printString s basic literal
  obtain ⟨cs, eq | eq⟩ := printString_eq_cons s
  all_goals
    rw [eq] at read ⊢
    rw [List.cons_append] at read ⊢
    rw [value?]
    simp only [read, Option.map_some, String.ofList_toList]

theorem value?_decimal (small : n < Nat.pow 2 63) :
    value? (fuel + 1) depth (Text.decimal n ++ '\n' :: rest) = some (.int n, '\n' :: rest) := by
  have read := scalar?_decimal small rest
  obtain ⟨d, ds, eq, digit⟩ := Text.decimal_eq_cons n
  rw [eq, List.cons_append] at read ⊢
  rw [value?]
  · exact read
  all_goals exact fun _ same => Text.ne_of_digit digit (by decide) (List.cons.inj same).1

theorem value?_true : value? (fuel + 1) depth ("true".toList ++ rest) = some (.bool true, rest) := by
  simp [value?, scalar?]

theorem value?_false : value? (fuel + 1) depth ("false".toList ++ rest) = some (.bool false, rest) := by
  simp [value?, scalar?]

theorem skipLines_printString : skipLines false (printString s ++ rest) = printString s ++ rest := by
  obtain ⟨cs, eq | eq⟩ := printString_eq_cons s
  all_goals simp [eq, skipLines, isWhite]

theorem printString_ne_bracket : printString s ++ tail ≠ ']' :: rest := by
  obtain ⟨cs, eq | eq⟩ := printString_eq_cons s
  all_goals
    rw [eq, List.cons_append]
    exact fun same => absurd (List.cons.inj same).1 (by decide)

theorem items?_last (skipped : skipLines false cs = printString s ++ ']' :: rest) :
    items? (fuel + 2) depth cs = some ([.string s], rest) := by
  have read : value? (fuel + 1) depth (printString s ++ ']' :: rest) = some (.string s, ']' :: rest) :=
    value?_printString (by simp) (by simp)
  rw [items?, skipped]
  split
  · next closed => exact absurd closed printString_ne_bracket
  · simp [read, skipLines, isWhite]

theorem items?_further {vs : List Value} (skipped : skipLines false cs = printString s ++ ',' :: tail)
    (later : items? (fuel + 1) depth tail = some (vs, rest)) :
    items? (fuel + 2) depth cs = some (.string s :: vs, rest) := by
  have read : value? (fuel + 1) depth (printString s ++ ',' :: tail) = some (.string s, ',' :: tail) :=
    value?_printString (by simp) (by simp)
  rw [items?, skipped]
  split
  · next closed => exact absurd closed printString_ne_bracket
  · simp [read, later, skipLines, isWhite]

def itemLines (ss : List String) : List Char := ss.flatMap fun s => "    ".toList ++ printString s ++ ",\n".toList

theorem itemLines_cons (s : String) (ss : List String) (rest : List Char) : itemLines (s :: ss) ++ rest =
    ' ' :: ' ' :: ' ' :: ' ' :: (printString s ++ (',' :: '\n' :: (itemLines ss ++ rest))) := by
  simp [itemLines]

theorem length_itemLines (ss : List String) : ss.length ≤ (itemLines ss).length := by
  induction ss with
  | nil => exact Nat.zero_le _
  | cons s ss ih =>
    have eq := congrArg List.length (itemLines_cons s ss [])
    simp only [List.append_nil, List.length_cons, List.length_append] at eq ⊢
    omega

theorem items?_lines (ss : List String) (enough : ss.length + 2 ≤ fuel) :
    items? fuel depth ('\n' :: (itemLines ss ++ ']' :: rest)) = some (ss.map .string, rest) := by
  induction ss generalizing fuel with
  | nil =>
    obtain ⟨fuel, rfl⟩ := Nat.exists_eq_add_of_lt enough
    simp [items?, itemLines, skipLines, isWhite]
  | cons s ss ih =>
    obtain ⟨fuel, rfl⟩ : ∃ f, fuel = f + 2 := ⟨fuel - 2, by omega⟩
    have later : items? (fuel + 1) depth ('\n' :: (itemLines ss ++ ']' :: rest)) = some (ss.map .string, rest) :=
      ih (by rw [List.length_cons] at enough; omega)
    have skipped : skipLines false ('\n' :: (itemLines (s :: ss) ++ ']' :: rest)) =
        printString s ++ (',' :: '\n' :: (itemLines ss ++ ']' :: rest)) := by
      rw [itemLines_cons]
      simpa [skipLines, isWhite] using skipLines_printString
    exact items?_further skipped later

/-- The text is one of a value, up to the end of the line. -/
structure Writes (text : List Char) (v : Value) : Prop where
  head : ∃ c cs, text = c :: cs ∧ isWhite c = false
  reads : ∀ fuel rest, text.length < fuel →
    value? fuel deepest (text ++ '\n' :: rest) = some (v, '\n' :: rest)

theorem writes_string (s : String) : Writes (printString s) (.string s) where
  head := by
    obtain ⟨cs, eq | eq⟩ := printString_eq_cons s
    all_goals exact ⟨_, cs, eq, rfl⟩
  reads := by
    intro fuel rest enough
    obtain ⟨fuel, rfl⟩ := Nat.exists_eq_add_of_lt enough
    exact value?_printString (by simp) (by simp)

theorem writes_decimal (small : n < Nat.pow 2 63) : Writes (Text.decimal n) (.int n) where
  head := by
    obtain ⟨d, ds, eq, digit⟩ := Text.decimal_eq_cons n
    refine ⟨d, ds, eq, ?_⟩
    simp [isWhite, Text.ne_of_digit digit (by decide : Text.isDigitIn 10 ' ' = false),
      Text.ne_of_digit digit (by decide : Text.isDigitIn 10 '\t' = false)]
  reads := by
    intro fuel rest enough
    obtain ⟨fuel, rfl⟩ := Nat.exists_eq_add_of_lt enough
    exact value?_decimal small

theorem writes_bool (b : Bool) : Writes (if b then "true" else "false").toList (.bool b) where
  head := by cases b <;> exact ⟨_, _, rfl, rfl⟩
  reads := by
    intro fuel rest enough
    obtain ⟨fuel, rfl⟩ := Nat.exists_eq_add_of_lt enough
    cases b
    · exact value?_false
    · exact value?_true

theorem value?_array {vs : List Value} (items : items? fuel 78 cs = some (vs, rest)) :
    value? (fuel + 1) deepest ('[' :: cs) = some (.array vs, rest) := by
  simp [value?, deepest, items]

theorem writes_nothing : Writes "[]".toList (.array []) where
  head := ⟨_, _, rfl, rfl⟩
  reads := by
    intro fuel rest enough
    obtain ⟨fuel, rfl⟩ : ∃ f, fuel = f + 2 := ⟨fuel - 2, by simp at enough; omega⟩
    change value? (fuel + 2) deepest ('[' :: ']' :: '\n' :: rest) = _
    exact value?_array (by simp [items?, skipLines, isWhite])

theorem writes_single (s : String) : Writes ('[' :: (printString s ++ [']'])) (.array [.string s]) where
  head := ⟨_, _, rfl, rfl⟩
  reads := by
    intro fuel rest enough
    obtain ⟨fuel, rfl⟩ : ∃ f, fuel = f + 3 := ⟨fuel - 3, by simp at enough; omega⟩
    rw [List.cons_append, List.append_assoc]
    exact value?_array (items?_last skipLines_printString)

theorem writes_lines (ss : List String) :
    Writes ("[\n".toList ++ itemLines ss ++ "]".toList) (.array (ss.map .string)) where
  head := ⟨_, _, rfl, rfl⟩
  reads := by
    intro fuel rest enough
    have length := length_itemLines ss
    simp only [List.length_append] at enough
    obtain ⟨fuel, rfl⟩ : ∃ f, fuel = f + 1 := ⟨fuel - 1, by omega⟩
    have items : items? fuel 78 ('\n' :: (itemLines ss ++ ']' :: '\n' :: rest)) =
        some (ss.map .string, '\n' :: rest) := items?_lines ss (by simp at enough; omega)
    simpa using value?_array items

def Yields (text : List Char) (statements : List Statement) : Prop :=
  ∀ fuel, text.length < fuel → statements? fuel text = some statements

variable {sts : List Statement} {st : Statement} {text : List Char} {v : Value}

theorem Yields.nil : Yields [] [] := by
  intro fuel enough
  obtain ⟨fuel, rfl⟩ := Nat.exists_eq_add_of_lt enough
  simp [statements?, skipWhite]

theorem Yields.blank (h : Yields cs sts) : Yields ('\n' :: cs) sts := by
  intro fuel enough
  obtain ⟨fuel, rfl⟩ : ∃ f, fuel = f + 1 := ⟨fuel - 1, by omega⟩
  rw [List.length_cons] at enough
  have rest := h fuel (by omega)
  simpa [statements?, skipWhite, isWhite, lineEnd?_feed] using rest

theorem Yields.statement (first : ∃ c cs, text = c :: cs ∧ begins c = true)
    (read : statement? (text ++ '\n' :: cs) = some (st, '\n' :: cs)) (h : Yields cs sts) :
    Yields (text ++ '\n' :: cs) (st :: sts) := by
  obtain ⟨c, tail, rfl, first⟩ := first
  intro fuel enough
  obtain ⟨fuel, rfl⟩ : ∃ f, fuel = f + 1 := ⟨fuel - 1, by omega⟩
  have rest := h fuel (by simp at enough; omega)
  obtain ⟨white, comment, feed, ret⟩ := begins_iff.1 first
  rw [List.cons_append] at read ⊢
  rw [statements?, skipWhite_of_not white]
  simp only [List.head?_cons, Option.any_some, comment, feed, ret, decide_false, Bool.or_self, Bool.false_eq_true,
    if_false, read, lineEnd?_feed, rest, Option.map_some]

theorem Writes.skipWhite (value : Writes text v) : skipWhite (' ' :: (text ++ tail)) = text ++ tail := by
  obtain ⟨d, ds, rfl, white⟩ := value.head
  exact skipWhite_of_not white

theorem pair?_line (bare : Bare name) (value : Writes text v) (enough : text.length < fuel) :
    pair? (fuel + 1) deepest (name.toList ++ (' ' :: '=' :: ' ' :: (text ++ '\n' :: cs))) =
      some ((([], name), v), '\n' :: cs) := by
  have named : key? (name.toList ++ (' ' :: '=' :: ' ' :: (text ++ '\n' :: cs))) =
      some (([], name), '=' :: ' ' :: (text ++ '\n' :: cs)) := key?_bare bare (by simp [isBare]) rfl (by decide)
  rw [pair?, named]
  simp only [value.skipWhite, value.reads fuel cs enough, Option.map_some]

theorem statement?_bare (bare : Bare name) : statement? (name.toList ++ tail) =
    (pair? (3 * (name.toList ++ tail).length + 3) deepest (name.toList ++ tail)).map
      fun (((path, key), v), rest) => (.assign path key v, rest) := by
  obtain ⟨c, key, eq, own⟩ := bare.eq_cons
  have bracket : c ≠ '[' := ne_of_bare own (by decide)
  rw [eq, List.cons_append, statement?]
  · exact fun _ same => bracket (List.cons.inj same).1
  · exact fun _ same => bracket (List.cons.inj same).1

theorem Yields.line (bare : Bare name) (value : Writes text v) (h : Yields cs sts) :
    Yields (name.toList ++ " = ".toList ++ text ++ '\n' :: cs) (.assign [] name v :: sts) := by
  refine .statement ?_ ?_ h
  · obtain ⟨c, key, eq, own⟩ := bare.eq_cons
    exact ⟨c, _, by rw [eq]; rfl, begins_of_bare own⟩
  · have same : name.toList ++ " = ".toList ++ text ++ '\n' :: cs =
        name.toList ++ (' ' :: '=' :: ' ' :: (text ++ '\n' :: cs)) := by simp
    rw [same, statement?_bare bare, pair?_line bare value (by simp; omega)]
    rfl

theorem Yields.header (bare : Bare name) (h : Yields cs sts) :
    Yields ('[' :: (name.toList ++ [']']) ++ '\n' :: cs) (.table [] name :: sts) := by
  refine .statement ⟨_, _, rfl, rfl⟩ ?_ h
  have same : '[' :: (name.toList ++ [']']) ++ '\n' :: cs = '[' :: (name.toList ++ (']' :: '\n' :: cs)) := by simp
  have named : key? (name.toList ++ (']' :: '\n' :: cs)) = some (([], name), ']' :: '\n' :: cs) :=
    key?_bare bare (by simp [isBare]) rfl (by decide)
  obtain ⟨c, key, eq, own⟩ := bare.eq_cons
  rw [same, statement?]
  · rw [named]
    rfl
  · intro cs same
    rw [eq] at same
    exact ne_of_bare own (by decide) (List.cons.inj same).1

theorem Yields.element (bare : Bare name) (h : Yields cs sts) :
    Yields ('[' :: '[' :: (name.toList ++ [']', ']']) ++ '\n' :: cs) (.element [] name :: sts) := by
  refine .statement ⟨_, _, rfl, rfl⟩ ?_ h
  have same : '[' :: '[' :: (name.toList ++ [']', ']']) ++ '\n' :: cs =
      '[' :: '[' :: (name.toList ++ (']' :: ']' :: '\n' :: cs)) := by simp
  have named : key? (name.toList ++ (']' :: ']' :: '\n' :: cs)) = some (([], name), ']' :: ']' :: '\n' :: cs) :=
    key?_bare bare (by simp [isBare]) rfl (by decide)
  rw [same, statement?, named]
  rfl

end LogRouting.Toml
