import LogRouting.Text.Blank
import LogRouting.Text.Numeral

namespace LogRouting

structure Level where
  raw : UInt16
deriving DecidableEq, Inhabited

namespace Level

def all : Level := ⟨0⟩
def debug : Level := ⟨2⟩
def info : Level := ⟨4⟩
def warn : Level := ⟨6⟩
def error : Level := ⟨8⟩
def fatal : Level := ⟨1000⟩
def none : Level := ⟨2000⟩

def named : List (String × Level) :=
  [("ALL", all), ("DEBUG", debug), ("INFO", info), ("WARN", warn), ("ERROR", error), ("FATAL", fatal),
   ("NONE", none)]

instance : LE Level := ⟨fun a b => a.raw ≤ b.raw⟩
instance : LT Level := ⟨fun a b => a.raw < b.raw⟩
instance (a b : Level) : Decidable (a ≤ b) := inferInstanceAs (Decidable (a.raw ≤ b.raw))
instance (a b : Level) : Decidable (a < b) := inferInstanceAs (Decidable (a.raw < b.raw))
instance : Ord Level := ⟨fun a b => compare a.raw b.raw⟩

theorem not_lt {a b : Level} : ¬ a < b ↔ b ≤ a := UInt16.not_lt

theorem not_le {a b : Level} : ¬ a ≤ b ↔ b < a := UInt16.not_le

theorem le_antisymm {a b : Level} (h : a ≤ b) (h' : b ≤ a) : a = b := congrArg mk (UInt16.le_antisymm h h')

def max (a b : Level) : Level := if a ≤ b then b else a

def name? (l : Level) : Option String := (named.find? (·.2 = l)).map (·.1)

def display (l : Level) : String := l.name?.getD s!"LEVEL({l.raw.toNat})"

def sameName (a b : List Char) : Bool := a.map Char.toLower = b.map Char.toLower

def ofName? (cs : List Char) : Option Level :=
  (named.find? fun (name, _) => sameName name.toList cs).map (·.2)

/-- The level of a name in any case, with blanks around it. -/
def parse? (s : String) : Option Level := ofName? (Text.trim s.toList)

def ofInt? (n : Int) : Option Level :=
  if 0 ≤ n ∧ n < 65536 then some ⟨UInt16.ofNat n.toNat⟩ else Option.none

def key (l : Level) : String ⊕ Nat :=
  match l.name? with
  | some name => .inl (String.ofList (name.toList.map Char.toLower))
  | Option.none => .inr l.raw.toNat

end Level

inductive LevelError
  | unknown (text : String)
  | shape
deriving DecidableEq

def LevelError.message : LevelError → String
  | .unknown text => s!"unknown log level `{text}`"
  | .shape => "data did not match any variant of untagged enum Raw"

end LogRouting
