import LogRouting.Text.Search

namespace LogRouting.Path

def pieces (path : String) : List String := (Text.splitOn '/' path.toList).map String.ofList

def stays (piece : String) : Bool := piece = "" || piece = "."

def fileName? (path : String) : Option String := ((pieces path).filter fun p => !stays p).getLast?

def localName? (path : String) : Option String :=
  if path.toList.head? = some '/' ∨ !(pieces path).dropLast.all stays then none
  else (pieces path).getLast?.filter fun p => !stays p

end LogRouting.Path
