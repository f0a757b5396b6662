import LogRouting.Json.Printer

namespace LogRouting.Message

def dots : List Char := ['.', '.', '.']

def truncate (limit : Option Nat) (cs : List Char) : List Char :=
  match limit with
  | none => cs
  | some n => if cs.length ≤ n then cs else cs.take n ++ dots

def plain : Value → List Char
  | .string s => s.toList
  | v => Json.print v

def render (limit : Option Nat) (v : Value) : List Char := truncate limit (plain v)

end LogRouting.Message
