import LogRouting.Proofs.Text.Blank
import LogRouting.Relay.Line

namespace LogRouting

namespace Text

variable {c : Char} {before after : List Char}

theorem splitAt?_append (absent : c ∉ before) : splitAt? c (before ++ c :: after) = some (before, after) := by
  induction before with
  | nil => rw [List.nil_append, splitAt?, if_pos rfl]
  | cons d before ih =>
    rw [List.mem_cons, not_or] at absent
    rw [List.cons_append, splitAt?, if_neg (Ne.symm absent.1), ih absent.2]
    rfl

end Text

variable {level fallback : Level}

theorem Level.bracket_not_mem {cs : List Char} (named : Level.ofName? (Text.trim cs) = some level) : ']' ∉ cs := by
  have foreign : ∀ p ∈ Level.named, ']' ∉ p.1.toList.map Char.toLower := by decide
  intro mem
  obtain ⟨p, found, -⟩ := Option.map_eq_some_iff.1 named
  have same : p.1.toList.map Char.toLower = (Text.trim cs).map Char.toLower := by
    simpa [sameName] using List.find?_some found
  refine foreign p (List.mem_of_find?_eq_some found) ?_
  rw [same]
  exact List.mem_map_of_mem (f := Char.toLower) (Text.mem_trim mem (by decide))

namespace Relay

theorem splitLevel_of_bracket {name rest : List Char} (named : Level.ofName? (Text.trim name) = some level) :
    splitLevel fallback ('[' :: name ++ ']' :: rest) = (level, Text.trimStart rest) := by
  rw [List.cons_append]
  simp only [splitLevel, Text.splitAt?_append (Level.bracket_not_mem named), named]

theorem splitLevel_of_named {name message : List Char} (named : Level.ofName? (Text.trim name) = some level)
    (flush : ∀ c ∈ message.head?, Text.isBlank c = false) :
    splitLevel fallback ('[' :: name ++ ']' :: ' ' :: message) = (level, message) := by
  have blank : Text.isBlank ' ' = true := by decide
  have trimmed : Text.trimStart (' ' :: message) = message := by
    rw [Text.trimStart, List.dropWhile_cons_of_pos blank]
    exact Text.trimStart_of_flush flush
  rw [splitLevel_of_bracket named, trimmed]

end Relay
end LogRouting
