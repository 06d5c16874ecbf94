/-
  Pieces — what a text holds between separators.

  There is always one piece more than there are separators, so that putting the
  separators back between the pieces gives the text again.
-/

namespace RecordBridge.Pieces

/-- The pieces of a text between separators. -/
def split (separator : Char) : List Char → List (List Char)
  | [] => [[]]
  | c :: rest =>
    if c = separator then [] :: split separator rest
    else
      match split separator rest with
      | [] => [[c]]
      | piece :: others => (c :: piece) :: others

end RecordBridge.Pieces
