import SniffingRelay.Pattern.Modes
import SniffingRelay.Text.Alphanumeric

set_option autoImplicit false

namespace SniffingRelay.Pattern

inductive Opening where
  | group (name : Option String) (modes : Modes)
  | switches (modes : Modes)
  deriving DecidableEq, Repr

namespace Opening

def isNameStart (c : Char) : Bool :=
  c = '_' || Alphanumeric.isAlphabetic c

def isNamePart (c : Char) : Bool :=
  c ∈ ['_', '.', '[', ']'] || Alphanumeric.isAlphanumeric c

def named (modes : Modes) (text : List Char) : Option (Opening × List Char) :=
  match text.span (· ≠ '>') with
  | (first :: more, '>' :: rest) =>
      if isNameStart first && more.all isNamePart then
        some (.group (some (String.ofList (first :: more))) modes, rest)
      else none
  | _ => none

-- Switches, none of them twice, and at most one minus sign, which is not the last.
def switched (modes : Modes) (seen : List Char) : List Char -> Option (Opening × List Char)
  | [] => none
  | ':' :: rest => if seen.head? = some '-' then none else some (.group none modes, rest)
  | ')' :: rest =>
      if seen = [] ∨ seen.head? = some '-' then none else some (.switches modes, rest)
  | c :: rest =>
      if c ∈ seen then none
      else if c = '-' then switched modes (c :: seen) rest
      else do switched (<- modes.set ('-' ∉ seen) c) (c :: seen) rest

-- What follows an opening parenthesis. There is no looking around.
def read (modes : Modes) (text : List Char) : Option (Opening × List Char) :=
  match modes.skip text with
  | '?' :: '<' :: '=' :: _ | '?' :: '<' :: '!' :: _ => none
  | '?' :: 'P' :: '<' :: text | '?' :: '<' :: text => named modes text
  | '?' :: text => switched modes [] text
  | text => some (.group none modes, text)

end Opening

end SniffingRelay.Pattern
