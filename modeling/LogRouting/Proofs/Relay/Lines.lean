import LogRouting.Relay.Line
import Mathlib.Data.List.Infix

namespace LogRouting

namespace Text

variable {α : Type} [DecidableEq α] {c d : α} {xs ys : List α}

theorem splitOn_cons_self : splitOn c (c :: xs) = [] :: splitOn c xs := by
  rw [splitOn, if_pos rfl]

theorem splitOn_ne_nil : splitOn c xs ≠ [] := by
  cases xs with
  | nil => simp [splitOn]
  | cons d xs =>
    rw [splitOn]
    split
    · simp
    · split <;> simp

theorem splitOn_cons_of_ne (ne : d ≠ c) :
    splitOn c (d :: xs) = (d :: (splitOn c xs).headD []) :: (splitOn c xs).tail := by
  rw [splitOn, if_neg ne]
  cases pieces : splitOn c xs with
  | nil => exact absurd pieces splitOn_ne_nil
  | cons piece pieces => rfl

theorem splitOn_append_of_not_mem (absent : c ∉ xs) :
    splitOn c (xs ++ ys) = (xs ++ (splitOn c ys).headD []) :: (splitOn c ys).tail := by
  induction xs with
  | nil =>
    cases pieces : splitOn c ys with
    | nil => exact absurd pieces splitOn_ne_nil
    | cons piece pieces => exact pieces
  | cons d xs ih =>
    rw [List.mem_cons, not_or] at absent
    rw [List.cons_append, splitOn_cons_of_ne (Ne.symm absent.1), ih absent.2]
    rfl

end Text

namespace Relay

variable {u : List UInt8} {b : UInt8} {bs more : List UInt8}

@[simp] theorem cut_nil : cut u [] = ⟨[], u⟩ := by simp [cut, Text.splitOn]

theorem cut_feed : cut u (10 :: bs) = ⟨dropReturn u :: (cut [] bs).lines, (cut [] bs).unended⟩ := by
  cases pieces : Text.splitOn 10 bs with
  | nil => exact absurd pieces Text.splitOn_ne_nil
  | cons piece pieces => simp [cut, Text.splitOn_cons_self, *]

theorem cut_cons_of_ne (ne : b ≠ 10) : cut u (b :: bs) = cut (u ++ [b]) bs := by
  cases pieces : Text.splitOn 10 bs with
  | nil => exact absurd pieces Text.splitOn_ne_nil
  | cons piece pieces => simp [cut, Text.splitOn_cons_of_ne ne, *]

theorem cut_append : cut u (bs ++ more) =
    ⟨(cut u bs).lines ++ (cut (cut u bs).unended more).lines, (cut (cut u bs).unended more).unended⟩ := by
  induction bs generalizing u with
  | nil => simp
  | cons b bs ih =>
    rw [List.cons_append]
    by_cases feed : b = 10
    · subst feed
      rw [cut_feed, cut_feed, ih]
      rfl
    · rw [cut_cons_of_ne feed, cut_cons_of_ne feed, ih]

def Cut.all (c : Cut) : List (List UInt8) := if c.unended = [] then c.lines else c.lines ++ [c.unended]

theorem all_cut_append : (cut u (bs ++ more)).all = (cut u bs).lines ++ (cut (cut u bs).unended more).all := by
  rw [cut_append, Cut.all, Cut.all]
  split <;> simp

theorem lines_cut_isPrefix (h : bs <+: more) : (cut u bs).lines <+: (cut u more).all := by
  obtain ⟨rest, rfl⟩ := h
  rw [all_cut_append]
  exact List.prefix_append ..

def dropReturnChar (line : List Char) : List Char := if line.getLast? = some '\r' then line.dropLast else line

/-- The lines of a text: what its line feeds end, and what comes after the last one unless that is nothing. -/
def linesOf (text : String) : List String :=
  let pieces := Text.splitOn '\n' text.toList
  let rest := pieces.getLastD []
  (pieces.dropLast.map dropReturnChar ++ if rest = [] then [] else [rest]).map String.ofList

theorem linesOf_single {line : String} (feedless : '\n' ∉ line.toList) (returnless : line.toList.getLast? ≠ some '\r')
    (some : line.toList ≠ []) {ending : String} (ends : ending ∈ ["", "\n", "\r\n"]) :
    linesOf (line ++ ending) = [line] := by
  have ended {cs : List Char} (feedless : '\n' ∉ cs) : Text.splitOn '\n' (cs ++ ['\n']) = [cs, []] := by
    simp [Text.splitOn_append_of_not_mem feedless, Text.splitOn]
  simp only [List.mem_cons, List.not_mem_nil, or_false] at ends
  rw [linesOf, String.toList_append]
  rcases ends with rfl | rfl | rfl
  · have pieces : Text.splitOn '\n' (line.toList ++ "".toList) = [line.toList] := by
      simp only [Text.splitOn_append_of_not_mem feedless]
      simp [Text.splitOn]
    rw [pieces]
    simp [some]
  · have pieces : Text.splitOn '\n' (line.toList ++ "\n".toList) = [line.toList, []] := ended feedless
    rw [pieces]
    simp [dropReturnChar, returnless]
  · have pieces : Text.splitOn '\n' (line.toList ++ "\r\n".toList) = [line.toList ++ ['\r'], []] := by
      rw [← ended (by simp [feedless]), List.append_assoc]
      rfl
    rw [pieces]
    simp [dropReturnChar]

def encode (cs : List Char) : List UInt8 := cs.flatMap String.utf8EncodeChar

theorem toUTF8_eq (text : String) : text.toUTF8.data.toList = encode text.toList := by
  conv => lhs; rw [← String.ofList_toList (s := text)]
  rw [String.toUTF8_eq_toByteArray, String.toByteArray_ofList, List.utf8Encode, List.data_toByteArray]
  rfl

theorem decode?_encode (cs : List Char) : decode? (encode cs) = some (String.ofList cs) := by
  have bytes : ByteArray.mk (encode cs).toArray = cs.utf8Encode := by
    rw [List.utf8Encode]
    ext1
    rw [List.data_toByteArray]
    rfl
  rw [decode?, bytes, String.fromUTF8?, dif_pos (.intro cs rfl)]
  rfl

theorem utf8EncodeChar_of_mem {c : Char} (mem : b ∈ String.utf8EncodeChar c) (low : b.toNat < 128) :
    c.val.toNat = b.toNat ∧ String.utf8EncodeChar c = [b] := by
  by_cases one : c.val.toNat ≤ 127
  · have alone : String.utf8EncodeChar c = [UInt8.ofNat c.val.toNat] := if_pos one
    rw [alone, List.mem_singleton] at mem
    refine ⟨?_, mem ▸ alone⟩
    rw [mem, UInt8.toNat_ofNat']
    omega
  · have high : ∀ b ∈ String.utf8EncodeChar c, 128 ≤ b.toNat := by
      unfold String.utf8EncodeChar
      simp only [if_neg one]
      split_ifs <;> simp [UInt8.toNat_ofNat'] <;> omega
    exact absurd (high b mem) (Nat.not_le.2 low)

theorem mem_utf8EncodeChar {c d : Char} (single : String.utf8EncodeChar d = [b]) (low : b.toNat < 128) :
    b ∈ String.utf8EncodeChar c ↔ c = d := by
  refine ⟨fun mem => ?_, by rintro rfl; simp [single]⟩
  have same := (utf8EncodeChar_of_mem mem low).1
  have own := (utf8EncodeChar_of_mem (c := d) (by simp [single]) low).1
  exact Char.ext (UInt32.toNat_inj.1 (same.trans own.symm))

theorem splitOn_encode (cs : List Char) : Text.splitOn 10 (encode cs) = (Text.splitOn '\n' cs).map encode := by
  induction cs with
  | nil => rfl
  | cons c cs ih =>
    rw [encode, List.flatMap_cons, ← encode]
    by_cases feed : c = '\n'
    · rw [feed, Text.splitOn_cons_self, List.map_cons, ← ih]
      exact Text.splitOn_cons_self
    · have absent : 10 ∉ String.utf8EncodeChar c := fun mem => feed ((mem_utf8EncodeChar rfl (by decide)).1 mem)
      rw [Text.splitOn_append_of_not_mem absent, Text.splitOn_cons_of_ne feed, ih]
      cases Text.splitOn '\n' cs <;> simp [encode]

theorem encode_eq_nil {cs : List Char} : encode cs = [] ↔ cs = [] := by
  cases cs with
  | nil => exact iff_of_true rfl rfl
  | cons c cs => simp [encode, String.utf8EncodeChar_ne_nil]

theorem dropReturn_encode (cs : List Char) : dropReturn (encode cs) = encode (dropReturnChar cs) := by
  rcases cs.eq_nil_or_concat' with rfl | ⟨cs, c, rfl⟩
  · rfl
  · have bytes : encode (cs ++ [c]) = encode cs ++ String.utf8EncodeChar c := by simp [encode]
    rw [dropReturn, dropReturnChar, List.getLast?_concat, List.dropLast_concat, bytes]
    by_cases ret : c = '\r'
    · subst ret
      exact if_pos (List.getLast?_concat ..) |>.trans (List.dropLast_concat ..)
    · have last : (encode cs ++ String.utf8EncodeChar c).getLast? ≠ some 13 := by
        rw [List.getLast?_append_of_ne_nil _ String.utf8EncodeChar_ne_nil]
        exact fun last => ret ((mem_utf8EncodeChar rfl (by decide)).1 (List.mem_of_getLast? last))
      rw [if_neg last, if_neg (by simpa using ret), bytes]

theorem cut_start : cut [] bs = ⟨(Text.splitOn 10 bs).dropLast.map dropReturn, (Text.splitOn 10 bs).getLastD []⟩ := by
  rw [cut]
  cases pieces : Text.splitOn 10 bs with
  | nil => rfl
  | cons piece pieces => rfl

theorem all_cut_encode (text : String) :
    (cut [] text.toUTF8.data.toList).all.map decode? = (linesOf text).map some := by
  have rest : ((Text.splitOn '\n' text.toList).map encode).getLastD [] =
      encode ((Text.splitOn '\n' text.toList).getLastD []) := by
    rw [List.getLastD_eq_getLast?, List.getLastD_eq_getLast?, List.getLast?_map]
    cases (Text.splitOn '\n' text.toList).getLast? <;> rfl
  have ended (pieces : List (List Char)) : (pieces.map encode).map dropReturn =
      (pieces.map dropReturnChar).map encode := by
    simp [dropReturn_encode]
  have decoded (lines : List (List Char)) : (lines.map encode).map decode? =
      (lines.map String.ofList).map some := by
    simp [decode?_encode]
  rw [toUTF8_eq, cut_start, splitOn_encode, Cut.all, linesOf, rest, ← List.map_dropLast, ended]
  simp only [encode_eq_nil]
  rw [← decoded]
  split <;> simp

end Relay
end LogRouting
