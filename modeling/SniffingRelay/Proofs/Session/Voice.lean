import SniffingRelay.Proofs.Session.Transparency

set_option autoImplicit false

namespace SniffingRelay.Session

inductive Voice where
  | relay
  | backend
  deriving DecidableEq, Repr

def voice? (session : Session) : Option Voice :=
  match session.phase with
  | .sniffing _ _ | .dialing _ _ | .replaying _ => none
  | .rejecting _ _ _ | .over (.error _) => some .relay
  | .splicing _ | .over (.ok _) => some .backend

def voiced (context : Context) (voice : Voice) : Session -> List Event -> List UInt8
  | _, [] => []
  | session, event :: later =>
      (if session.voice? = some voice then event.taken (session.offered context .client) .client
        else []) ++
        ((session.step context event).map fun next => voiced context voice next later).getD []

section

variable {context : Context} {events : List Event} {session last : Session} {voice : Voice}

theorem voice?_settle (splice : Splice) : (session.settle splice).voice? = some .backend := by
  unfold settle
  split <;> rfl

theorem voice?_ring (settled : session.voice? = some voice) :
    (session.ring context).voice? = some voice := by
  obtain ⟨clock, phase, ledger⟩ := session
  unfold ring
  cases phase with
  | sniffing | dialing | replaying => cases settled
  | rejecting =>
    dsimp only
    split <;> exact settled
  | splicing =>
    dsimp only
    split
    next => exact settled
    next => split <;> exact settled
  | «over» => exact settled

theorem Transition.voice? {next : Session} {event : Event}
    (stepped : Transition context session event next) (settled : session.voice? = some voice) :
    next.voice? = some voice := by
  cases stepped with
  | rejecting | rejected | rejectionFlushed | rejectionShut | rejectionFailed => exact settled
  | moved => exact (voice?_settle _).trans settled
  | @elapsed clock milliseconds phase ledger =>
    have waited : Session.voice? ⟨clock + milliseconds, phase, ledger⟩ = some voice := settled
    exact voice?_ring waited
  | read | sniffed | interrupted | clientFailed | clientEnded | unresolved | resolved | refused
    | connected | replaying | replayed | replayFailed => cases settled

theorem voice?_run (ran : run context session events = some last)
    (settled : session.voice? = some voice) : last.voice? = some voice := by
  induction events generalizing session with
  | nil => exact Option.some.inj ran ▸ settled
  | cons event events ih =>
    obtain ⟨next, stepped, ran⟩ := Option.bind_eq_some_iff.mp ran
    exact ih ran ((transition_of_step stepped).voice? settled)

theorem offered_of_unsettled (unsettled : session.voice? = none) :
    session.offered context .client = [] := by
  obtain ⟨clock, phase, ledger⟩ := session
  cases phase with
  | sniffing | replaying => rfl
  | dialing dialing =>
    obtain ⟨host, dialer, stage⟩ := dialing
    cases stage <;> rfl
  | splicing | rejecting => cases unsettled
  | «over» result => cases result <;> cases unsettled

theorem Event.taken_nil (event : Event) (side : Side) : event.taken [] side = [] := by
  cases event <;> simp [Event.taken]

theorem voiced_run (ran : run context session events = some last) (voice : Voice) :
    voiced context voice session events =
      if last.voice? = some voice then written context .client session events else [] := by
  induction events generalizing session with
  | nil =>
    rw [voiced, written, ite_self]
  | cons event events ih =>
    have all := ran
    obtain ⟨next, stepped, ran⟩ := Option.bind_eq_some_iff.mp ran
    have later := ih ran
    rw [voiced, written, stepped]
    dsimp only [Option.map_some, Option.getD_some]
    rw [later]
    cases settled : session.voice? with
    | none => simp [offered_of_unsettled settled, Event.taken_nil]
    | some speaker =>
      rw [voice?_run all settled]
      split <;> rfl

end

end SniffingRelay.Session
