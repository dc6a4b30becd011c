import SniffingRelay.Listener.Accounts

set_option autoImplicit false

-- A listener and the tasks of its connections make their entries side by side, one at a time and in
-- any interleaving.

namespace SniffingRelay

/-- Where the task of a connection is. -/
inductive ConnectionTask where
  | running
  | posting (result : Except Failure Summary) (left : List Entry)

structure Bookkeeping where
  accounts : Accounts := {}
  -- Entries still to be made for the connection that the listener has just accepted.
  arriving : Option (List Entry) := none
  tasks : List ConnectionTask := []

namespace Bookkeeping

inductive Turn where
  | arrive
  -- The listener's next entry, or the start of the connection's task.
  | listener
  | finish (task : Nat) (result : Except Failure Summary)
  | post (task : Nat)

def step (books : Bookkeeping) : Turn -> Option Bookkeeping
  | .arrive =>
      match books.arriving with
      | none => some { books with arriving := some Entry.onArrival }
      | some _ => none
  | .listener =>
      match books.arriving with
      | none => none
      | some [] => some { books with arriving := none, tasks := books.tasks ++ [.running] }
      | some (entry :: later) =>
          some { books with accounts := books.accounts.post entry, arriving := some later }
  | .finish task result =>
      match books.tasks[task]? with
      | some .running =>
          some { books with tasks := books.tasks.set task (.posting result (Entry.onResult result)) }
      | _ => none
  | .post task =>
      match books.tasks[task]? with
      | some (.posting result (entry :: later)) =>
          some { books with
            accounts := books.accounts.post entry
            tasks := books.tasks.set task (.posting result later) }
      | _ => none

def run : Bookkeeping -> List Turn -> Option Bookkeeping
  | books, [] => some books
  | books, turn :: later => do run (<- books.step turn) later

end Bookkeeping

end SniffingRelay
