import LogRouting.Text.Search
import Mathlib.Data.List.Infix

namespace LogRouting.Text

variable {word new cs rest : List Char} {c first : Char}

def occurrences (word cs : List Char) : Nat := cs.tails.countP (word.isPrefixOf ·)

@[simp] theorem occurs_iff : occurs word cs = true ↔ word <:+: cs := by
  induction cs with
  | nil => simp [occurs]
  | cons c cs ih => simp [occurs, ih, List.infix_cons_iff]

theorem replaceFrom_eq (word new : List Char) (n : Nat) (cs : List Char) :
    replaceFrom word new n cs = replaceAll word new (cs.drop n) := by
  induction cs generalizing n with
  | nil => simp [replaceAll, replaceFrom]
  | cons c cs ih => cases n with
    | zero => rfl
    | succ n => rw [replaceFrom, ih, List.drop_succ_cons]

@[simp] theorem replaceAll_nil : replaceAll word new [] = [] := rfl

theorem replaceAll_word (ne : word ≠ []) :
    replaceAll word new (word ++ rest) = new ++ replaceAll word new rest := by
  cases word with
  | nil => exact absurd rfl ne
  | cons c word =>
    have found : (c :: word).isPrefixOf (c :: (word ++ rest)) = true := by simp
    rw [List.cons_append, replaceAll, replaceFrom, if_pos found, replaceFrom_eq]
    simp

theorem replaceAll_cons (other : ¬ word <+: c :: rest) :
    replaceAll word new (c :: rest) = c :: replaceAll word new rest := by
  rw [replaceAll, replaceFrom, if_neg (by rwa [List.isPrefixOf_iff_prefix]), replaceFrom_eq]
  rfl

theorem replaceAll_of_not_infix (absent : ¬ word <:+: cs) : replaceAll word new cs = cs := by
  induction cs with
  | nil => rfl
  | cons c cs ih =>
    rw [List.infix_cons_iff, not_or] at absent
    rw [replaceAll_cons absent.1, ih absent.2]

theorem not_prefix_of_ne (ne : first ≠ c) : ¬ first :: word <+: c :: rest := by simp [ne]

theorem replaceAll_append_of_not_mem (absent : first ∉ cs) :
    replaceAll (first :: word) new (cs ++ rest) = cs ++ replaceAll (first :: word) new rest := by
  induction cs with
  | nil => rfl
  | cons c cs ih =>
    rw [List.mem_cons, not_or] at absent
    rw [List.cons_append, replaceAll_cons (not_prefix_of_ne absent.1), ih absent.2, List.cons_append]

@[simp] theorem occurrences_nil (ne : word ≠ []) : occurrences word [] = 0 := by
  simp [occurrences, ne]

theorem occurrences_cons :
    occurrences word (c :: rest) = occurrences word rest + if word <+: c :: rest then 1 else 0 := by
  simp [occurrences, List.countP_cons]

theorem occurrences_append_of_not_mem (absent : first ∉ cs) :
    occurrences (first :: word) (cs ++ rest) = occurrences (first :: word) rest := by
  induction cs with
  | nil => rfl
  | cons c cs ih =>
    rw [List.mem_cons, not_or] at absent
    rw [List.cons_append, occurrences_cons, if_neg (not_prefix_of_ne absent.1), ih absent.2, Nat.add_zero]

theorem occurrences_append_le (ne : word ≠ []) (cs rest : List Char) :
    occurrences word cs + occurrences word rest ≤ occurrences word (cs ++ rest) := by
  induction cs with
  | nil => simp [ne]
  | cons c cs ih =>
    have kept : word <+: c :: cs → word <+: c :: (cs ++ rest) := fun found => found.trans (List.prefix_append _ _)
    rw [List.cons_append, occurrences_cons, occurrences_cons]
    split
    · next found =>
      rw [if_pos (kept found)]
      omega
    · omega

end LogRouting.Text
