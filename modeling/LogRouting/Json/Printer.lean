import LogRouting.Value
import LogRouting.Binary64.Shortest

namespace LogRouting.Json

def escape (c : Char) : List Char :=
  match c with
  | '"' => ['\\', '"']
  | '\\' => ['\\', '\\']
  | '\x08' => ['\\', 'b']
  | '\x0c' => ['\\', 'f']
  | '\n' => ['\\', 'n']
  | '\r' => ['\\', 'r']
  | '\t' => ['\\', 't']
  | c => if c.toNat < 0x20 then '\\' :: 'u' :: Text.hex 4 c.toNat else [c]

def quoted (s : String) : List Char := '"' :: (s.toList.flatMap escape ++ ['"'])

/-- Exponents from -5 to 15 are written out, others after an `e` with their sign; what is not finite has no
number to be written as. -/
def floatLayout : Binary64.Layout := ⟨some (-5, 15), "null", "null"⟩

def printFloat (x : Binary64) : List Char := if x.isFinite then x.render floatLayout else "null".toList

mutual
def print : Value → List Char
  | .null => "null".toList
  | .bool true => "true".toList
  | .bool false => "false".toList
  | .int n => Text.integer n
  | .float x => printFloat x
  | .string s => quoted s
  | .array [] => ['[', ']']
  | .array (v :: vs) => '[' :: (print v ++ printItems vs)
  | .object [] => ['\x7b', '\x7d']
  | .object ((k, v) :: ms) => '\x7b' :: (quoted k ++ ':' :: (print v ++ printMembers ms))

def printItems : List Value → List Char
  | [] => [']']
  | v :: vs => ',' :: (print v ++ printItems vs)

def printMembers : List (String × Value) → List Char
  | [] => ['\x7d']
  | (k, v) :: ms => ',' :: (quoted k ++ ':' :: (print v ++ printMembers ms))
end

def compact (v : Value) : String := String.ofList (print v)

end LogRouting.Json
