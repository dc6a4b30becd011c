set_option autoImplicit false

namespace SniffingRelay.Pieces

def split (separator : Char) : List Char -> List (List Char)
  | [] => [[]]
  | c :: rest =>
      if c = separator then [] :: split separator rest
      else
        match split separator rest with
        | [] => [[c]]
        | piece :: later => (c :: piece) :: later

def ofText (separator : Char) (text : String) : List String :=
  (split separator text.toList).map String.ofList

end SniffingRelay.Pieces
