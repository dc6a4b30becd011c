set_option autoImplicit false

-- A watch ends a splice once no sign of life has come for a while. It sleeps until that could be
-- so, then looks, and sleeps again if there was one in the meantime. Times are in milliseconds.

namespace SniffingRelay

structure Watch where
  limit : Nat
  -- When the last sign of life came.
  last : Nat
  -- When the watch looks next.
  wake : Nat
  deriving DecidableEq, Repr

namespace Watch

def start (limit now : Nat) : Watch := { limit, last := now, wake := now + limit }

def touch (watch : Watch) (now : Nat) : Watch :=
  { watch with last := max watch.last now }

def isIdle (watch : Watch) (now : Nat) : Bool := watch.limit ≤ now - watch.last

-- Looks if it is time to; nothing is left of a watch that finds no life.
def look (watch : Watch) (now : Nat) : Option Watch :=
  if now < watch.wake then some watch
  else if watch.isIdle now then none
  else some { watch with wake := watch.last + watch.limit }

end Watch

end SniffingRelay
