import SniffingRelay.Text.Pieces

set_option autoImplicit false

-- A list of hostname suffixes. A hostname is permitted if it ends, byte for byte, in one of them;
-- there is no notion of labels or of case.

namespace SniffingRelay

structure AllowList where
  suffixes : List String
  deriving DecidableEq, Repr

namespace AllowList

-- Entries are taken as they stand. The empty text is the list that permits everything.
def ofText (text : String) : AllowList :=
  if text = "" then ⟨[]⟩ else ⟨Pieces.ofText ',' text⟩

def isOpen (list : AllowList) : Bool := list.suffixes.isEmpty

def bytes (text : String) : List UInt8 := text.toUTF8.data.toList

def allows (list : AllowList) (hostname : String) : Bool :=
  list.isOpen || list.suffixes.any fun suffix => (bytes suffix).isSuffixOf (bytes hostname)

def text (list : AllowList) : String :=
  if list.isOpen then "<all hostnames>" else ",".intercalate list.suffixes

end AllowList

end SniffingRelay
