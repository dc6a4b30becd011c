import SniffingRelay.Proofs.Session.Dismissal
import SniffingRelay.Proofs.Session.Sniffing

set_option autoImplicit false

namespace SniffingRelay

-- What a sniffer makes of bytes, and of the end after them if there is one.
def Sniffer.verdict? (sniffer : Sniffer) (bytes : List UInt8) (stop? : Option Stop) :
    Option (Except Failure String) :=
  match (Sniffer.reader.feed sniffer bytes).1 with
  | .settled result => some result
  | .more later => stop?.map (Sniffer.reader.finish later)

namespace Session

def isSniffing (session : Session) : Bool :=
  match session.phase with
  | .sniffing _ _ => true
  | _ => false

structure Visit where
  session : Session
  underway : List UInt8 := []
  -- Why the client sends no more.
  stop? : Option Stop := none

namespace Visit

inductive Act where
  | sends (bytes : List UInt8)
  | stops (stop : Stop)
  | meets (event : Event)

def start (context : Context) (now : Nat) : Visit := { session := .start context now }

def isCaughtUp (visit : Visit) : Bool := visit.underway.isEmpty && visit.stop?.isNone

-- An interruption of a read is no doing of the client.
def allows (visit : Visit) : Event -> Bool
  | .received .client bytes => bytes.isPrefixOf visit.underway
  | .ended .client => visit.underway.isEmpty && visit.stop? = some .ended
  | .readFailed .client fault =>
      fault.isInterruption || visit.underway.isEmpty && visit.stop? = some (.failed fault)
  | .elapsed _ => !visit.session.isSniffing || visit.isCaughtUp
  | _ => true

def step (context : Context) (visit : Visit) : Act -> Option Visit
  | .sends bytes =>
      if visit.stop?.isSome then none else some { visit with underway := visit.underway ++ bytes }
  | .stops stop =>
      if visit.stop?.isSome || stop.fault.isInterruption then none
      else some { visit with stop? := some stop }
  | .meets event =>
      if visit.allows event then
        (visit.session.step context event).map fun session =>
          { visit with session, underway := visit.underway.drop (event.carried .client).length }
      else none

def run (context : Context) : Visit -> List Act -> Option Visit
  | visit, [] => some visit
  | visit, act :: later => do run context (<- visit.step context act) later

namespace Act

def sent : Act -> List UInt8
  | .sends bytes => bytes
  | _ => []

def stop? : Act -> Option Stop
  | .stops stop => some stop
  | _ => none

def event? : Act -> Option Event
  | .meets event => some event
  | _ => none

def span : Act -> Nat
  | .meets event => event.span
  | _ => 0

end Act

def sent (acts : List Act) : List UInt8 := acts.flatMap Act.sent

def stopIn? (acts : List Act) : Option Stop := acts.findSome? Act.stop?

def events (acts : List Act) : List Event := acts.filterMap Act.event?

def early : Nat -> List Act -> List Act
  | 0, _ | _, [] => []
  | limit + 1, act :: later => act :: early (limit + 1 - act.span) later

def verdict? (visit : Visit) (sniffer : Sniffer) (limit : Nat) (acts : List Act) :
    Option (Except Failure String) :=
  sniffer.verdict? (visit.underway ++ sent (early limit acts))
    (visit.stop?.or (stopIn? (early limit acts)))

end Visit

end Session

namespace Sniffer

variable {sniffer next : Sniffer} {bytes : List UInt8} {result : Except Failure String}

theorem verdict?_of_more (fed : (reader.feed sniffer bytes).1 = .more next) (rest : List UInt8)
    (stop? : Option Stop) : sniffer.verdict? (bytes ++ rest) stop? = next.verdict? rest stop? := by
  rw [verdict?, verdict?, Reader.feed_fst_append fed]

theorem verdict?_of_settled (fed : (reader.feed sniffer bytes).1 = .settled result)
    (rest : List UInt8) (stop? : Option Stop) :
    sniffer.verdict? (bytes ++ rest) stop? = some result := by
  rw [verdict?, Reader.feed_append]
  cases answer : reader.feed sniffer bytes with
  | mk progress spare =>
    rw [answer] at fed
    cases fed
    rfl

end Sniffer

namespace Session.Visit

section

variable {context : Context} {visit next last : Visit} {act : Act} {acts : List Act}

theorem early_cons {limit : Nat} (positive : 0 < limit) (act : Act) (later : List Act) :
    early limit (act :: later) = act :: early (limit - act.span) later := by
  cases limit with
  | zero => cases positive
  | succ limit => rfl

theorem early_zero (acts : List Act) : early 0 acts = [] := by
  cases acts <;> rfl

theorem sent_cons (act : Act) (later : List Act) : sent (act :: later) = act.sent ++ sent later :=
  List.flatMap_cons

theorem stopIn?_cons (act : Act) (later : List Act) :
    stopIn? (act :: later) = act.stop?.or (stopIn? later) := by
  rw [stopIn?, List.findSome?_cons]
  cases act.stop? <;> rfl

theorem step_sends {bytes : List UInt8} (stepped : visit.step context (.sends bytes) = some next) :
    visit.stop? = none ∧ next = { visit with underway := visit.underway ++ bytes } := by
  simp only [step] at stepped
  split at stepped
  next => cases stepped
  next going =>
    exact ⟨Option.not_isSome_iff_eq_none.mp going, (Option.some.inj stepped).symm⟩

theorem step_stops {stop : Stop} (stepped : visit.step context (.stops stop) = some next) :
    visit.stop? = none ∧ stop.fault.isInterruption = false ∧
      next = { visit with stop? := some stop } := by
  simp only [step, Bool.or_eq_true] at stepped
  split at stepped
  next => cases stepped
  next going =>
    obtain ⟨going, plain⟩ := not_or.mp going
    exact ⟨Option.not_isSome_iff_eq_none.mp going, Bool.not_eq_true _ ▸ plain,
      (Option.some.inj stepped).symm⟩

theorem step_meets {event : Event} (stepped : visit.step context (.meets event) = some next) :
    visit.allows event = true ∧ next.stop? = visit.stop? ∧
      next.underway = visit.underway.drop (event.carried .client).length ∧
        visit.session.step context event = some next.session := by
  simp only [step] at stepped
  split at stepped
  next allowed =>
    obtain ⟨session, met, rfl⟩ := Option.map_eq_some_iff.mp stepped
    exact ⟨allowed, rfl, rfl, met⟩
  next => cases stepped

theorem meets_of_step {event : Event} {session : Session} (allowed : visit.allows event = true)
    (met : visit.session.step context event = some session) :
    visit.step context (.meets event) = some
      ⟨session, visit.underway.drop (event.carried .client).length, visit.stop?⟩ := by
  rw [step, if_pos allowed, met]
  rfl

theorem run_events (ran : visit.run context acts = some last) :
    Session.run context visit.session (events acts) = some last.session := by
  induction acts generalizing visit with
  | nil => exact Option.some.inj ran ▸ rfl
  | cons act acts ih =>
    obtain ⟨next, stepped, ran⟩ := Option.bind_eq_some_iff.mp ran
    have later := ih ran
    cases act with
    | sends =>
      obtain ⟨-, rfl⟩ := step_sends stepped
      exact later
    | stops =>
      obtain ⟨-, -, rfl⟩ := step_stops stepped
      exact later
    | meets event =>
      obtain ⟨-, -, -, stepped⟩ := step_meets stepped
      have first : events (.meets event :: acts) = event :: events acts := rfl
      rw [first, Session.run, stepped]
      exact later

theorem sent_of_stopped (stopped : visit.stop?.isSome = true)
    (ran : visit.run context acts = some last) (limit : Nat) : sent (early limit acts) = [] := by
  induction acts generalizing visit limit with
  | nil => cases limit <;> rfl
  | cons act acts ih =>
    obtain ⟨next, stepped, later⟩ := Option.bind_eq_some_iff.mp ran
    cases limit with
    | zero => rfl
    | succ limit =>
      rw [early_cons (Nat.succ_pos limit), sent_cons]
      cases act with
      | sends | stops => simp [step, stopped] at stepped
      | meets event =>
        obtain ⟨-, same, -, -⟩ := step_meets stepped
        rw [← same] at stopped
        exact ih stopped later _

end

end Session.Visit

end SniffingRelay
