import LogRouting.Proofs.Relay.Prefix
import Mathlib.Data.List.Forall2
import Mathlib.Logic.IsEmpty.Basic

namespace LogRouting

def Level.Spells (name word : List Char) : Prop :=
  List.Forall₂ (fun letter c => c = letter ∨ c = letter.toLower) name word

instance {name word : List Char} : Decidable (Level.Spells name word) := inferInstanceAs (Decidable (List.Forall₂ ..))

namespace Text

variable {c : Char} {cs before after rest : List Char}

def Blank (cs : List Char) : Prop := ∀ c ∈ cs, isBlank c = true

instance : Decidable (Blank cs) := List.decidableBAll _ _

theorem trimStart_append (blank : Blank before) (flush : ∀ c ∈ rest.head?, isBlank c = false) :
    trimStart (before ++ rest) = rest :=
  (List.dropWhile_append_of_pos blank).trans (trimStart_of_flush flush)

theorem takeWhile_append (blank : Blank before) (flush : ∀ c ∈ rest.head?, isBlank c = false) :
    (before ++ rest).takeWhile isBlank = before := by
  have whole := List.takeWhile_append_dropWhile (p := isBlank) (l := before ++ rest)
  have left : (before ++ rest).dropWhile isBlank = rest := trimStart_append blank flush
  rw [left] at whole
  exact List.append_cancel_right whole

theorem trimEnd_append (blank : Blank after) (flush : ∀ c ∈ cs.getLast?, isBlank c = false) :
    trimEnd (cs ++ after) = cs := by
  have skipped : trimStart (after.reverse ++ cs.reverse) = cs.reverse :=
    trimStart_append (fun c mem => blank c (List.mem_reverse.1 mem)) (by rwa [List.head?_reverse])
  rw [trimEnd, List.reverse_append]
  exact (congrArg List.reverse skipped).trans (List.reverse_reverse cs)

theorem trim_append (blank : Blank before) (blank' : Blank after) (ne : cs ≠ [])
    (visible : ∀ c ∈ cs, isBlank c = false) : trim (before ++ cs ++ after) = cs := by
  have first : ∀ c ∈ (cs ++ after).head?, isBlank c = false := by
    rw [List.head?_append_of_ne_nil _ ne]
    exact fun c first => visible c (List.mem_of_mem_head? first)
  rw [trim, List.append_assoc, trimStart_append blank first]
  exact trimEnd_append blank' fun c last => visible c (List.mem_of_mem_getLast? last)

theorem exists_trimStart (cs : List Char) : ∃ before, Blank before ∧ cs = before ++ trimStart cs :=
  ⟨cs.takeWhile isBlank, fun _ => List.mem_takeWhile_imp, List.takeWhile_append_dropWhile.symm⟩

theorem exists_trim (cs : List Char) :
    ∃ before after, Blank before ∧ Blank after ∧ cs = before ++ trim cs ++ after := by
  obtain ⟨before, blank, whole⟩ := exists_trimStart cs
  obtain ⟨after, blank', whole'⟩ := exists_trimStart (trimStart cs).reverse
  refine ⟨before, after.reverse, blank, fun c mem => blank' c (List.mem_reverse.1 mem), ?_⟩
  have ended : trimStart cs = trim cs ++ after.reverse := by
    rw [← List.reverse_inj, whole', List.reverse_append, List.reverse_reverse, trim, trimEnd, List.reverse_reverse]
    rfl
  rw [List.append_assoc, ← ended]
  exact whole

theorem splitAt?_eq_some_iff : splitAt? c cs = some (before, after) ↔ cs = before ++ c :: after ∧ c ∉ before := by
  refine ⟨fun split => ?_, fun ⟨whole, absent⟩ => whole ▸ splitAt?_append absent⟩
  induction cs generalizing before with
  | nil => cases split
  | cons d cs ih =>
    rw [splitAt?] at split
    split at split
    · next here =>
      cases split
      exact ⟨by rw [here]; rfl, List.not_mem_nil⟩
    · next other =>
      obtain ⟨⟨before', after'⟩, found, same⟩ := Option.map_eq_some_iff.1 split
      cases same
      obtain ⟨whole, absent⟩ := ih found
      exact ⟨by rw [whole]; rfl, List.not_mem_cons_of_ne_of_not_mem (Ne.symm other) absent⟩

end Text

namespace Level

variable {level : Level} {name word : List Char}

theorem toNat_toLower (c : Char) :
    c.toLower.toNat = if 65 ≤ c.toNat ∧ c.toNat ≤ 90 then c.toNat + 32 else c.toNat := by
  have capital : (c.val ≥ 'A'.val ∧ c.val ≤ 'Z'.val) ↔ 65 ≤ c.toNat ∧ c.toNat ≤ 90 := by
    simp only [ge_iff_le, UInt32.le_iff_toNat_le]
    exact Iff.rfl
  by_cases h : c.val ≥ 'A'.val ∧ c.val ≤ 'Z'.val
  · have lowered : c.toLower.val = c.val + 32 := congrArg Char.val (dif_pos h)
    have small : c.toNat + 32 < 4294967296 := by have := (capital.1 h).2; omega
    rw [if_pos (capital.1 h)]
    exact (congrArg UInt32.toNat lowered).trans ((UInt32.toNat_add c.val 32).trans (Nat.mod_eq_of_lt small))
  · have same : c.toLower = c := dif_neg h
    rw [if_neg (mt capital.2 h), same]

theorem toLower_eq_iff {letter c : Char} (capital : 65 ≤ letter.toNat ∧ letter.toNat ≤ 90) :
    letter.toLower = c.toLower ↔ c = letter ∨ c = letter.toLower := by
  simp only [← Char.toNat_inj, toNat_toLower, if_pos capital]
  split <;> omega

theorem spells_iff (capitals : ∀ c ∈ name, 65 ≤ c.toNat ∧ c.toNat ≤ 90) :
    Spells name word ↔ sameName name word = true := by
  rw [sameName, decide_eq_true_iff, Spells]
  induction name generalizing word with
  | nil => simp [eq_comm]
  | cons letter name ih =>
    rw [List.forall_mem_cons] at capitals
    cases word with
    | nil => simp
    | cons c word =>
      rw [List.forall₂_cons, List.map_cons, List.map_cons, List.cons.injEq, toLower_eq_iff capitals.1,
        ih capitals.2]

theorem ofName?_eq_some_iff :
    ofName? word = some level ↔ ∃ name, (name, level) ∈ named ∧ Spells name.toList word := by
  have all : ∀ p ∈ named, p.1.toList.all fun c => 65 ≤ c.toNat ∧ c.toNat ≤ 90 := by decide
  have capitals : ∀ p ∈ named, ∀ c ∈ p.1.toList, 65 ≤ c.toNat ∧ c.toNat ≤ 90 := by simpa using all
  have apart : ∀ p ∈ named, ∀ q ∈ named, p.1.toList.map Char.toLower = q.1.toList.map Char.toLower → p = q := by decide
  constructor
  · intro named
    obtain ⟨p, found, rfl⟩ := Option.map_eq_some_iff.1 named
    have mem := List.mem_of_find?_eq_some found
    exact ⟨p.1, mem, (spells_iff (capitals p mem)).2 (by simpa using List.find?_some found)⟩
  · rintro ⟨name, mem, spelt⟩
    have same := (spells_iff (capitals _ mem)).1 spelt
    have some : (named.find? fun p => sameName p.1.toList word).isSome = true := List.find?_isSome.2 ⟨_, mem, same⟩
    obtain ⟨p, found⟩ := Option.isSome_iff_exists.1 some
    have first := List.find?_some found
    rw [sameName, decide_eq_true_iff] at same first
    rw [ofName?, found, apart p (List.mem_of_find?_eq_some found) _ mem (first.trans same.symm)]
    rfl

theorem Spells.forall {p : Char → Prop} (spelt : Spells name word)
    (all : ∀ letter ∈ name, p letter ∧ p letter.toLower) : ∀ c ∈ word, p c := by
  induction spelt with
  | nil => exact nofun
  | cons same _ ih =>
    rw [List.forall_mem_cons] at all ⊢
    refine ⟨?_, ih all.2⟩
    rcases same with rfl | rfl
    · exact all.1.1
    · exact all.1.2

theorem visible_of_ofName? (named : ofName? word = some level) :
    word ≠ [] ∧ ∀ c ∈ word, Text.isBlank c = false ∧ c ≠ ']' := by
  have visible : ∀ p ∈ Level.named, p.1.toList ≠ [] ∧ p.1.toList.all fun c =>
      (Text.isBlank c = false ∧ c ≠ ']') ∧ Text.isBlank c.toLower = false ∧ c.toLower ≠ ']' := by decide
  obtain ⟨name, mem, spelt⟩ := ofName?_eq_some_iff.1 named
  obtain ⟨ne, all⟩ := visible _ mem
  refine ⟨?_, spelt.forall fun letter mem => of_decide_eq_true (List.all_eq_true.1 all letter mem)⟩
  rintro rfl
  exact ne (List.forall₂_nil_right_iff.1 spelt)

end Level

namespace Relay

/-- A way to read a line as a level in brackets with a message after it. -/
@[ext]
structure Reading (line : List Char) where
  before : List Char
  word : List Char
  after : List Char
  gap : List Char
  message : List Char
  level : Level
  blank : Text.Blank before ∧ Text.Blank after ∧ Text.Blank gap
  spelt : ∃ name, (name, level) ∈ Level.named ∧ Level.Spells name.toList word
  flush : ∀ c ∈ message.head?, Text.isBlank c = false
  whole : line = '[' :: (before ++ word ++ after) ++ ']' :: (gap ++ message)

variable {line name : List Char} {level fallback : Level}

namespace Reading

variable (r r' : Reading line)

theorem named : Level.ofName? r.word = some r.level := Level.ofName?_eq_some_iff.2 r.spelt

theorem trim_name : Text.trim (r.before ++ r.word ++ r.after) = r.word := by
  obtain ⟨ne, visible⟩ := Level.visible_of_ofName? r.named
  exact Text.trim_append r.blank.1 r.blank.2.1 ne fun c mem => (visible c mem).1

theorem bracket_not_mem : ']' ∉ r.before ++ r.word ++ r.after :=
  Level.bracket_not_mem (r.trim_name.symm ▸ r.named)

theorem splitLevel_eq : splitLevel fallback line = (r.level, r.message) := by
  have named : Level.ofName? (Text.trim (r.before ++ r.word ++ r.after)) = some r.level := by rw [r.trim_name, r.named]
  refine (congrArg (splitLevel fallback) r.whole).trans ?_
  rw [splitLevel_of_bracket named, Text.trimStart_append r.blank.2.2 r.flush]

theorem takeWhile_name : (r.before ++ r.word ++ r.after).takeWhile Text.isBlank = r.before := by
  obtain ⟨ne, visible⟩ := Level.visible_of_ofName? r.named
  rw [List.append_assoc]
  refine Text.takeWhile_append r.blank.1 ?_
  rw [List.head?_append_of_ne_nil _ ne]
  exact fun c first => (visible c (List.mem_of_mem_head? first)).1

theorem unique : r = r' := by
  have split : (r.before ++ r.word ++ r.after, r.gap ++ r.message) =
      (r'.before ++ r'.word ++ r'.after, r'.gap ++ r'.message) := by
    have same := r.whole.symm.trans r'.whole
    rw [List.cons_append, List.cons_append, List.cons.injEq] at same
    rw [← Option.some_inj, ← Text.splitAt?_append r.bracket_not_mem, same.2, Text.splitAt?_append r'.bracket_not_mem]
  obtain ⟨name, rest⟩ := Prod.mk.inj split
  have before : r.before = r'.before := by rw [← r.takeWhile_name, name, r'.takeWhile_name]
  have word : r.word = r'.word := by rw [← r.trim_name, name, r'.trim_name]
  have gap : r.gap = r'.gap := by
    rw [← Text.takeWhile_append r.blank.2.2 r.flush, rest, Text.takeWhile_append r'.blank.2.2 r'.flush]
  have level : r.level = r'.level := by rw [← Option.some_inj, ← r.named, word, r'.named]
  rw [before, word, List.append_right_inj] at name
  rw [gap, List.append_right_inj] at rest
  exact Reading.ext before word name gap rest level

theorem exists_of_bracket (named : Level.ofName? (Text.trim name) = some level) (rest : List Char) :
    ∃ r : Reading ('[' :: name ++ ']' :: rest), r.level = level ∧ r.message = Text.trimStart rest := by
  obtain ⟨before, after, blank, blank', whole⟩ := Text.exists_trim name
  obtain ⟨gap, blank'', whole'⟩ := Text.exists_trimStart rest
  exact ⟨⟨before, Text.trim name, after, gap, Text.trimStart rest, level, ⟨blank, blank', blank''⟩,
    Level.ofName?_eq_some_iff.1 named, Text.head?_trimStart rest, by rw [← whole, ← whole']⟩, rfl, rfl⟩

end Reading

theorem splitLevel_of_isEmpty (none : IsEmpty (Reading line)) : splitLevel fallback line = (fallback, line) := by
  unfold splitLevel
  split
  · next rest =>
    cases found : Text.splitAt? ']' rest with
    | none => rfl
    | some parts =>
      obtain ⟨whole, -⟩ := Text.splitAt?_eq_some_iff.1 found
      cases named : Level.ofName? (Text.trim parts.1) with
      | none => simp [named]
      | some level =>
        obtain ⟨r, -⟩ := Reading.exists_of_bracket named parts.2
        exact none.elim (whole ▸ r)
  · rfl

theorem isEmpty_reading_iff : IsEmpty (Reading line) ↔ ∀ fallback, splitLevel fallback line = (fallback, line) := by
  refine ⟨fun none fallback => splitLevel_of_isEmpty none, fun kept => ⟨fun r => ?_⟩⟩
  have level (fallback : Level) : r.level = fallback := congrArg Prod.fst (r.splitLevel_eq.symm.trans (kept fallback))
  exact absurd ((level .all).symm.trans (level .info)) (by decide)

theorem exists_reading_iff {message : List Char} : (∃ r : Reading line, r.level = level ∧ r.message = message) ↔
    ∃ name rest, line = '[' :: name ++ ']' :: rest ∧ ']' ∉ name ∧
      (∃ n, (n, level) ∈ Level.named ∧ Level.Spells n.toList (Text.trim name)) ∧ message = Text.trimStart rest := by
  constructor
  · rintro ⟨r, rfl, rfl⟩
    exact ⟨_, _, r.whole, r.bracket_not_mem, r.trim_name.symm ▸ r.spelt,
      (Text.trimStart_append r.blank.2.2 r.flush).symm⟩
  · rintro ⟨name, rest, rfl, -, spelt, rfl⟩
    exact Reading.exists_of_bracket (Level.ofName?_eq_some_iff.2 spelt) rest

/-- A line gives a level of its own when it can be read as a level in brackets with a message after it, which is
never possible in two ways, and it gives then what is read. Any other line gives the default level and itself. -/
theorem splitLevel_reads (line : List Char) :
    (∀ r r' : Reading line, r = r') ∧
    (∀ (r : Reading line) fallback, splitLevel fallback line = (r.level, r.message)) ∧
    (IsEmpty (Reading line) ↔ ∀ fallback, splitLevel fallback line = (fallback, line)) ∧
    (Nonempty (Reading line) ↔ ∃ level message, ∀ fallback, splitLevel fallback line = (level, message)) ∧
    (∀ level message, (∃ r : Reading line, r.level = level ∧ r.message = message) ↔
      ∃ name rest, line = '[' :: name ++ ']' :: rest ∧ ']' ∉ name ∧
        (∃ n, (n, level) ∈ Level.named ∧ Level.Spells n.toList (Text.trim name)) ∧ message = Text.trimStart rest) := by
  refine ⟨Reading.unique, fun r _ => r.splitLevel_eq, isEmpty_reading_iff, ⟨?_, ?_⟩, fun _ _ => exists_reading_iff⟩
  · rintro ⟨r⟩
    exact ⟨r.level, r.message, fun _ => r.splitLevel_eq⟩
  · rintro ⟨level, message, own⟩
    rw [← not_isEmpty_iff, isEmpty_reading_iff]
    intro kept
    have fixed (fallback : Level) : level = fallback := congrArg Prod.fst ((own fallback).symm.trans (kept fallback))
    exact absurd ((fixed .all).symm.trans (fixed .info)) (by decide)

/-- Blanks of all kinds, letters of both cases, and a message that begins with another level. A capital that is not
among the ASCII letters makes no name. -/
theorem splitLevel_reads_padded :
    let line := "[ \u3000wArN\u2003]\u00a0[error] x".toList
    (∀ fallback, splitLevel fallback line = (.warn, "[error] x".toList)) ∧
    IsEmpty (Reading "[İNFO] x".toList) := by
  intro line
  let r : Reading line :=
    ⟨" \u3000".toList, "wArN".toList, "\u2003".toList, "\u00a0".toList, "[error] x".toList, .warn,
      by decide, ⟨"WARN", by decide⟩, by rintro c ⟨⟩; rfl, by decide⟩
  refine ⟨(splitLevel_reads line).2.1 r, ?_⟩
  rw [(splitLevel_reads _).2.2.1]
  intro fallback
  rfl

end Relay
end LogRouting
