
namespace LogRouting.Text

def occurs (word : List Char) : List Char → Bool
  | [] => word.isEmpty
  | c :: rest => word.isPrefixOf (c :: rest) || occurs word rest

/-- `replaceFrom word new n cs` drops `n` characters and then puts `new` in the place of each `word`. -/
def replaceFrom (word new : List Char) : Nat → List Char → List Char
  | _, [] => []
  | n + 1, _ :: rest => replaceFrom word new n rest
  | 0, c :: rest =>
    if word.isPrefixOf (c :: rest) then new ++ replaceFrom word new (word.length - 1) rest
    else c :: replaceFrom word new 0 rest

/-- Every occurrence of a word that is not empty gives way to `new`; what is put in is not searched. -/
def replaceAll (word new cs : List Char) : List Char := replaceFrom word new 0 cs

def splitAt? (c : Char) : List Char → Option (List Char × List Char)
  | [] => none
  | d :: rest =>
    if d = c then some ([], rest) else (splitAt? c rest).map fun (before, after) => (d :: before, after)

def splitOn {α : Type} [DecidableEq α] (c : α) : List α → List (List α)
  | [] => [[]]
  | d :: rest =>
    if d = c then [] :: splitOn c rest
    else
      match splitOn c rest with
      | piece :: pieces => (d :: piece) :: pieces
      | [] => [[d]]

end LogRouting.Text
