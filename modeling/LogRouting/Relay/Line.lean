import LogRouting.Level
import LogRouting.Text.Search

namespace LogRouting.Relay

def splitLevel (fallback : Level) (line : List Char) : Level × List Char :=
  match line with
  | '[' :: rest =>
    match Text.splitAt? ']' rest with
    | none => (fallback, line)
    | some (name, message) =>
      match Level.ofName? (Text.trim name) with
      | some level => (level, Text.trimStart message)
      | none => (fallback, line)
  | _ => (fallback, line)

/-- Bytes received so far: the lines they complete and the beginning of the next line. -/
structure Cut where
  lines : List (List UInt8)
  unended : List UInt8

def dropReturn (line : List UInt8) : List UInt8 :=
  if line.getLast? = some 13 then line.dropLast else line

def cut (unended bytes : List UInt8) : Cut :=
  match Text.splitOn 10 bytes with
  | [] => ⟨[], unended⟩
  | first :: more =>
    let pieces := (unended ++ first) :: more
    ⟨pieces.dropLast.map dropReturn, pieces.getLastD []⟩

def decode? (line : List UInt8) : Option String := String.fromUTF8? ⟨line.toArray⟩

end LogRouting.Relay
