import LogRouting.Message.Rendering
import LogRouting.Text.Search

/-!
Placeholders of a message. The token of the first parameter gives way to it everywhere, then that of the
second in the text so far, and so on; a parameter is rendered only when its token is there.
-/

namespace LogRouting.Message

def token (i : Nat) : List Char := '\x7b' :: (Text.decimal i ++ ['\x7d'])

/-- A text and what the renderer was asked for it, in order: the indices of parameters, with its answers. -/
structure Filled where
  text : List Char
  asked : List (Nat × List Char)
deriving DecidableEq

def Filled.rendered (filled : Filled) : List (List Char) := filled.asked.map (·.2)

def replacement (render : Value → List Char) : Value → List Char × Bool
  | .null => ("null".toList, false)
  | v => (render v, true)

def fillFrom (render : Value → List Char) : Nat → List Value → List Char → Filled
  | _, [], text => ⟨text, []⟩
  | i, v :: vs, text =>
    if Text.occurs (token i) text then
      let (new, asked) := replacement render v
      let rest := fillFrom render (i + 1) vs (Text.replaceAll (token i) new text)
      ⟨rest.text, if asked then (i, new) :: rest.asked else rest.asked⟩
    else fillFrom render (i + 1) vs text

def fill (render : Value → List Char) (params : List Value) (text : List Char) : Filled :=
  fillFrom render 0 params text

end LogRouting.Message
