import LogRouting.Json.Printer
import LogRouting.Notice
import LogRouting.Text.Search

namespace LogRouting

/-- A character of a message as a terminal may get it: one that could command the terminal is shown by its
number. -/
def terminalSafe (c : Char) : List Char :=
  if c = '\x1b' ∨ c = '\x07' ∨ c = '\x08' ∨ c = '\x0c' ∨ c = '\x7f' then
    '\\' :: 'x' :: Text.hex 2 c.toNat
  else if 0x80 ≤ c.toNat ∧ c.toNat ≤ 0x9f then '\\' :: 'u' :: '\x7b' :: (Text.hex 2 c.toNat ++ ['\x7d'])
  else [c]

namespace Field

def text : Field → String
  | .shown s => s
  | .quoted s => Text.quoted s
  | .count n => toString n

def toValue : Field → Value
  | .shown s | .quoted s => .string s
  | .count n => .int n

end Field

namespace Record

def text (r : Record) : String :=
  let severity := String.ofList (List.replicate (5 - r.severity.display.length) ' ') ++ r.severity.display
  let message := String.ofList (r.message.toList.flatMap terminalSafe)
  r.fields.foldl (fun line (name, field) => line ++ " " ++ name ++ "=" ++ field.text)
    (severity ++ " " ++ r.origin ++ ": " ++ message)

def lines (r : Record) : List String :=
  let pieces := Text.splitOn '\n' r.text.toList
  let ended := pieces.dropLast.map fun l => if l.getLast? = some '\r' then l.dropLast else l
  (ended ++ pieces.drop ended.length).map String.ofList

def fieldsValue (r : Record) : Value :=
  .ofMembers (("message", .string r.message) :: r.fields.map fun (name, field) => (name, field.toValue))

def toValue (r : Record) : Value :=
  .object [("fields", r.fieldsValue), ("level", .string r.severity.display), ("target", .string r.origin)]

end Record
end LogRouting
