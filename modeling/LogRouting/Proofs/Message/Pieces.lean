import LogRouting.Message.Substitution
import LogRouting.Proofs.Text.Numeral
import LogRouting.Proofs.Text.Search

/-!
Messages as they are read from left to right: numbers in braces, which stand for parameters, and single characters.
Two such numbers never overlap, so a message has one reading, and to put texts in the place of its numbers is a
substitution.
-/

namespace LogRouting.Message

inductive Piece
  | char (c : Char)
  | hole (i : Nat)
deriving DecidableEq

def index? : List Char → Option (Nat × Nat)
  | '\x7b' :: cs =>
    let ds := cs.takeWhile Char.isDigit
    if Text.IsNumeral ds ∧ (cs.dropWhile Char.isDigit).head? = some '\x7d' then
      some (Nat.ofDigitChars 10 ds 0, ds.length + 2)
    else none
  | _ => none

/-- `piecesFrom n cs` drops `n` characters and then reads the rest. -/
def piecesFrom : Nat → List Char → List Piece
  | _, [] => []
  | n + 1, _ :: cs => piecesFrom n cs
  | 0, c :: cs =>
    match index? (c :: cs) with
    | some (i, width) => .hole i :: piecesFrom (width - 1) cs
    | none => .char c :: piecesFrom 0 cs

def pieces (cs : List Char) : List Piece := piecesFrom 0 cs

def Piece.subst (texts : Nat → Option (List Char)) : Piece → List Char
  | .char c => [c]
  | .hole i => (texts i).getD (token i)

/-- One pass over a message, which copies all but the numbers that have texts. -/
def subst (texts : Nat → Option (List Char)) (cs : List Char) : List Char :=
  (pieces cs).flatMap (Piece.subst texts)

def only (i : Nat) (new : List Char) (j : Nat) : Option (List Char) := if j = i then some new else none

variable {i j : Nat} {cs rest new : List Char} {c : Char} {texts : Nat → Option (List Char)}

theorem token_eq (i : Nat) : token i = '\x7b' :: (Text.decimal i ++ ['\x7d']) := rfl

theorem token_ne_nil : token i ≠ [] := nofun

theorem brace_not_mem (i : Nat) : '\x7b' ∉ Text.decimal i ++ ['\x7d'] := by
  rw [List.mem_append, List.mem_singleton, not_or]
  exact ⟨fun mem => absurd (Text.isDigit_of_mem_decimal mem) (by decide), by decide⟩

theorem takeWhile_decimal (i : Nat) (rest : List Char) :
    (Text.decimal i ++ '\x7d' :: rest).takeWhile Char.isDigit = Text.decimal i := by
  rw [List.takeWhile_append_of_pos fun c mem => Text.isDigit_of_mem_decimal mem, List.takeWhile_cons_of_neg (by decide),
    List.append_nil]

theorem dropWhile_decimal (i : Nat) (rest : List Char) :
    (Text.decimal i ++ '\x7d' :: rest).dropWhile Char.isDigit = '\x7d' :: rest := by
  rw [List.dropWhile_append_of_pos fun c mem => Text.isDigit_of_mem_decimal mem, List.dropWhile_cons_of_neg (by decide)]

theorem index?_token (i : Nat) (rest : List Char) : index? (token i ++ rest) = some (i, (token i).length) := by
  have value : Nat.ofDigitChars 10 (Text.decimal i) 0 = i := Nat.ofDigitChars_toDigits (by decide) (by decide)
  simp [token_eq, index?, takeWhile_decimal, dropWhile_decimal, Text.isNumeral_decimal, value]

theorem prefix_of_index? {width : Nat} (read : index? cs = some (i, width)) : token i <+: cs := by
  rw [index?.eq_def] at read
  split at read
  · next cs =>
    dsimp only at read
    split at read
    · next numeral =>
      obtain ⟨rfl, rfl⟩ := Prod.mk.inj (Option.some.inj read)
      obtain ⟨rest, closed⟩ := List.head?_eq_some_iff.1 numeral.2
      refine ⟨rest, ?_⟩
      rw [token_eq, numeral.1.decimal_eq]
      simp [← closed]
    · cases read
  · cases read

theorem token_prefix_token : token i <+: token j ++ rest ↔ i = j := by
  constructor
  · rintro ⟨rest', same⟩
    have read := index?_token j rest
    rw [← same, index?_token] at read
    exact congrArg Prod.fst (Option.some.inj read)
  · rintro rfl
    exact List.prefix_append _ _

theorem replaceAll_token_append (ne : i ≠ j) :
    Text.replaceAll (token i) new (token j ++ rest) = token j ++ Text.replaceAll (token i) new rest := by
  have other : ¬ token i <+: token j ++ rest := mt token_prefix_token.1 ne
  rw [token_eq j, List.cons_append] at other ⊢
  rw [Text.replaceAll_cons other, token_eq i, Text.replaceAll_append_of_not_mem (brace_not_mem j), List.cons_append]

theorem occurrences_token_append : Text.occurrences (token j) (token i ++ rest) =
    Text.occurrences (token j) rest + if i = j then 1 else 0 := by
  have first := (@token_prefix_token j i rest).trans eq_comm
  rw [token_eq i, List.cons_append] at first ⊢
  rw [Text.occurrences_cons, token_eq j, Text.occurrences_append_of_not_mem (brace_not_mem i), ← token_eq j]
  simp only [first]

theorem piecesFrom_eq (n : Nat) (cs : List Char) : piecesFrom n cs = pieces (cs.drop n) := by
  induction cs generalizing n with
  | nil => simp [pieces, piecesFrom]
  | cons c cs ih => cases n with
    | zero => rfl
    | succ n => rw [piecesFrom, ih, List.drop_succ_cons]

@[simp] theorem pieces_nil : pieces [] = [] := rfl

@[simp] theorem pieces_token (i : Nat) (rest : List Char) : pieces (token i ++ rest) = .hole i :: pieces rest := by
  have read := index?_token i rest
  rw [token_eq, List.cons_append] at read ⊢
  rw [pieces, piecesFrom, read]
  simp [piecesFrom_eq]

theorem pieces_char (literal : ∀ i, ¬ token i <+: c :: rest) : pieces (c :: rest) = .char c :: pieces rest := by
  rw [pieces, piecesFrom]
  cases read : index? (c :: rest) with
  | none => rfl
  | some found => exact absurd (prefix_of_index? read) (literal _)

theorem pieces_append_of_not_mem (absent : '\x7b' ∉ cs) : pieces (cs ++ rest) = cs.map .char ++ pieces rest := by
  induction cs with
  | nil => rfl
  | cons c cs ih =>
    rw [List.mem_cons, not_or] at absent
    rw [List.cons_append, pieces_char fun i => Text.not_prefix_of_ne absent.1, ih absent.2]
    rfl

@[elab_as_elim] theorem pieces_induction {P : List Char → Prop} (nil : P [])
    (token : ∀ i rest, P rest → P (token i ++ rest))
    (char : ∀ c rest, (∀ i, ¬ Message.token i <+: c :: rest) → P rest → P (c :: rest)) (cs : List Char) : P cs := by
  induction length : cs.length using Nat.strongRecOn generalizing cs with
  | ind n ih =>
    by_cases begins : ∃ i, Message.token i <+: cs
    · obtain ⟨i, rest, rfl⟩ := begins
      refine token i rest (ih rest.length ?_ rest rfl)
      simp [← length, token_eq]
      omega
    · cases cs with
      | nil => exact nil
      | cons c rest =>
        refine char c rest (not_exists.1 begins) (ih rest.length ?_ rest rfl)
        simp [← length]

@[simp] theorem subst_nil : subst texts [] = [] := rfl

theorem subst_token : subst texts (token i ++ rest) = (texts i).getD (token i) ++ subst texts rest := by
  simp [subst, Piece.subst]

theorem subst_append_of_not_mem (absent : '\x7b' ∉ cs) : subst texts (cs ++ rest) = cs ++ subst texts rest := by
  simp [subst, pieces_append_of_not_mem absent, List.flatMap_map, Piece.subst]

theorem subst_char (literal : ∀ i, ¬ token i <+: c :: rest) : subst texts (c :: rest) = c :: subst texts rest := by
  simp [subst, Piece.subst, pieces_char literal]

theorem subst_none (cs : List Char) : subst (fun _ => none) cs = cs := by
  induction cs using pieces_induction with
  | nil => rfl
  | token i rest ih => rw [subst_token, ih, Option.getD_none]
  | char c rest literal ih => rw [subst_char literal, ih]

theorem replaceAll_token (i : Nat) (new cs : List Char) :
    Text.replaceAll (token i) new cs = subst (only i new) cs := by
  induction cs using pieces_induction with
  | nil => rfl
  | token j rest ih =>
    rw [subst_token, only]
    split
    · next same => rw [same, Text.replaceAll_word token_ne_nil, ih, Option.getD_some]
    · next ne => rw [replaceAll_token_append (Ne.symm ne), ih, Option.getD_none]
  | char c rest literal ih => rw [subst_char literal, Text.replaceAll_cons (literal i), ih]

/-- Texts that become no part of a token, whatever stands around them. -/
structure Inert (cs : List Char) : Prop where
  unopened : '\x7b' ∉ cs
  unclosed : '\x7d' ∉ cs
  visible : ∃ c ∈ cs, c.isDigit = false

instance (cs : List Char) : Decidable (Inert cs) :=
  decidable_of_iff ('\x7b' ∉ cs ∧ '\x7d' ∉ cs ∧ cs.any fun c => !c.isDigit) <| by
    rw [List.any_eq_true]
    exact ⟨fun ⟨unopened, unclosed, visible⟩ => ⟨unopened, unclosed, by simpa using visible⟩,
      fun h => ⟨h.unopened, h.unclosed, by simpa using h.visible⟩⟩

theorem Inert.not_closing {ds : List Char} (inert : Inert new) (digits : ∀ c ∈ ds, c.isDigit = true) :
    ¬ ds ++ ['\x7d'] <+: new ++ rest := by
  intro closing
  rcases List.prefix_or_prefix_of_prefix closing (List.prefix_append new rest) with within | beyond
  · exact inert.unclosed (within.subset (by simp))
  · obtain ⟨c, mem, visible⟩ := inert.visible
    rcases List.mem_append.1 (beyond.subset mem) with digit | brace
    · rw [digits c digit] at visible
      cases visible
    · exact inert.unclosed (List.mem_singleton.1 brace ▸ mem)

section

variable {others : Nat → Option (List Char)} (inert : ∀ i new, texts i = some new → Inert new)

include inert

theorem prefix_of_subst {ds : List Char} (digits : ∀ c ∈ ds, c.isDigit = true)
    (closing : ds ++ ['\x7d'] <+: subst texts cs) : ds ++ ['\x7d'] <+: cs := by
  induction cs using pieces_induction generalizing ds with
  | nil => exact closing
  | token i rest =>
    rw [subst_token] at closing
    cases text : texts i with
    | none =>
      rw [text, Option.getD_none, token_eq, List.cons_append] at closing
      cases ds with
      | nil => simp at closing
      | cons d ds =>
        obtain ⟨rfl, -⟩ := List.cons_prefix_cons.1 closing
        exact absurd (digits _ List.mem_cons_self) (by decide)
    | some new =>
      rw [text] at closing
      exact absurd closing ((inert i new text).not_closing digits)
  | char c rest literal ih =>
    rw [subst_char literal] at closing
    cases ds with
    | nil => simpa using closing
    | cons d ds =>
      rw [List.forall_mem_cons] at digits
      rw [List.cons_append, List.cons_prefix_cons] at closing ⊢
      exact ⟨closing.1, ih digits.2 closing.2⟩

theorem subst_subst : subst others (subst texts cs) = subst (fun i => (texts i).or (others i)) cs := by
  induction cs using pieces_induction with
  | nil => rfl
  | token i rest ih =>
    rw [subst_token, subst_token]
    cases text : texts i with
    | none => rw [Option.getD_none, subst_token, ih, Option.none_or]
    | some new =>
      rw [Option.getD_some, subst_append_of_not_mem (inert i new text).unopened, ih,
        Option.some_or, Option.getD_some]
  | char c rest literal ih =>
    have literal' (i : Nat) : ¬ token i <+: c :: subst texts rest := by
      intro begins
      refine literal i ?_
      rw [token_eq, List.cons_prefix_cons] at begins ⊢
      exact ⟨begins.1, prefix_of_subst inert (fun c mem => Text.isDigit_of_mem_decimal mem) begins.2⟩
    rw [subst_char literal, subst_char literal', subst_char literal, ih]

end

theorem count_hole (j : Nat) (cs : List Char) : (pieces cs).count (.hole j) = Text.occurrences (token j) cs := by
  induction cs using pieces_induction with
  | nil => simp [token_ne_nil]
  | token i rest ih =>
    rw [pieces_token, List.count_cons, ih, occurrences_token_append]
    simp only [beq_iff_eq, Piece.hole.injEq]
  | char c rest literal ih =>
    rw [pieces_char literal, Text.occurrences_cons, if_neg (literal j), ← ih]
    simp

theorem one_le_occurrences_token (j : Nat) : 1 ≤ Text.occurrences (token j) (token j) := by
  have whole := @occurrences_token_append j j []
  rw [List.append_nil, if_pos rfl] at whole
  omega

theorem mul_count_le_occurrences {n : Nat} (brings : n ≤ Text.occurrences (token j) ((texts j).getD (token j)))
    (ps : List Piece) : ps.count (.hole j) * n ≤ Text.occurrences (token j) (ps.flatMap (Piece.subst texts)) := by
  induction ps with
  | nil => simp
  | cons p ps ih =>
    have parts := Text.occurrences_append_le (@token_ne_nil j) (p.subst texts) (ps.flatMap (Piece.subst texts))
    rw [List.flatMap_cons, List.count_cons, Nat.add_mul]
    split
    · next same =>
      rw [beq_iff_eq.1 same] at parts ⊢
      rw [Piece.subst] at parts ⊢
      omega
    · omega

theorem occurrences_le_replaceAll (ne : i ≠ j) (new cs : List Char) :
    Text.occurrences (token j) cs ≤ Text.occurrences (token j) (Text.replaceAll (token i) new cs) := by
  rw [replaceAll_token, ← count_hole j cs, ← Nat.mul_one (List.count _ _)]
  refine mul_count_le_occurrences ?_ _
  rw [only, if_neg (Ne.symm ne)]
  exact one_le_occurrences_token j

theorem mul_occurrences_le_replaceAll (j : Nat) (new cs : List Char) :
    Text.occurrences (token j) cs * Text.occurrences (token j) new ≤
      Text.occurrences (token j) (Text.replaceAll (token j) new cs) := by
  rw [replaceAll_token, ← count_hole j cs]
  exact mul_count_le_occurrences (by simp [only]) _

end LogRouting.Message
