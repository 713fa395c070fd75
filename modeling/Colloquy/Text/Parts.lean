/-! # Texts in parts

A text cut at every occurrence of a mark. There is one part more than there are marks, and the parts
with the mark between them are the text again.
-/
set_option autoImplicit false

namespace Colloquy.Text

def parts (mark : Char) : List Char → List (List Char)
  | [] => [[]]
  | c :: cs =>
    if c = mark then [] :: parts mark cs
    else match parts mark cs with
      | [] => [[c]]
      | first :: rest => (c :: first) :: rest

end Colloquy.Text
