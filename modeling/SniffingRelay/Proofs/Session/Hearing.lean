import SniffingRelay.Proofs.Session.Dismissal
import SniffingRelay.Proofs.Session.Policy

set_option autoImplicit false

namespace SniffingRelay.Session

def Delivers (context : Context) (now : Nat) (events : List Event) (failure : Failure) : Prop :=
  written context .client (start context now) events = failure.rejection context.service.protocol ∧
    ShutLast .client events

/-- A rejection began, before which the client had taken nothing. It reaches a client that neither
fails nor takes too long. -/
def Rejects (context : Context) (now : Nat) (events : List Event) (failure : Failure) : Prop :=
  ∃ early late rejected, events = early ++ late ∧
    run context (start context now) early = some rejected ∧ Dismisses context failure rejected ∧
      written context .client (start context now) early = [] ∧
        ((∀ fault, .writeFailed .client fault ∉ late) → delay late < rejectionLimit →
          Delivers context now events failure) ∧
        ∀ later, Takes (failure.rejection context.service.protocol) later →
          ∃ last, run context (start context now) (early ++ later) = some last ∧
            last.result? = some (.error failure) ∧ Delivers context now (early ++ later) failure

section

variable {context : Context} {now : Nat} {failure : Failure} {session rejected : Session}
  {events early late : List Event}

theorem ShutLast.prepend {sink : Side} (last : ShutLast sink late) (early : List Event) :
    ShutLast sink (early ++ late) := by
  obtain ⟨front, back, rfl, after⟩ := last
  exact ⟨early ++ front, back, by simp, after⟩

theorem Dismisses.delivers (began : run context (start context now) early = some rejected)
    (dismisses : Dismisses context failure rejected)
    (ended : run context rejected late = some session)
    (failed : session.result? = some (.error failure))
    (unbroken : ∀ fault, .writeFailed .client fault ∉ late) (soon : delay late < rejectionLimit) :
    Delivers context now (early ++ late) failure := by
  have dismissal := dismissal_run (flow_run began) dismisses ended
  have ran : run context (start context now) (early ++ late) = some session := by
    rw [run_append, began, Option.bind_some, ended]
  rw [Dismissal, result?_eq_some_iff.mp failed] at dismissal
  cases dismissal.2 with
  | broken fault failed => exact absurd failed (unbroken fault)
  | late late => exact absurd late (Nat.not_le_of_lt soon)
  | complete all last => exact ⟨(written_eq_told ran .client).trans all, last.prepend early⟩

theorem Takes.unbroken {bytes : List UInt8} (takes : Takes bytes late) (fault : Fault) :
    .writeFailed .client fault ∉ late := by
  obtain ⟨-, counts, -, -, answered⟩ := takes
  intro found
  have answer : .writeFailed .client fault ∈ answers late :=
    List.mem_filter.mpr ⟨found, rfl⟩
  rw [answered] at answer
  simp at answer

theorem Dismisses.untold (dismisses : Dismisses context failure rejected)
    (flow : Flow context early rejected) :
    (rejected.ledger.traffic .client).told.toList = [] := by
  rw [Flow, dismisses] at flow
  exact List.append_left_eq_self.mp flow.reply

theorem rejects_of_error (ran : run context (start context now) events = some session)
    (failed : session.result? = some (.error failure)) : Rejects context now events failure := by
  have phase := result?_eq_some_iff.mp failed
  have spoken : session.voice? = some .relay := by rw [voice?, phase]
  obtain ⟨early, late, rejected, reason, rfl, began, dismisses, ended⟩ :=
    exists_dismissal ran nofun spoken
  obtain rfl : failure = reason := by
    have dismissal := dismissal_run (flow_run began) dismisses ended
    rw [Dismissal, phase] at dismissal
    exact dismissal.1
  refine ⟨early, late, rejected, rfl, began, dismisses, ?_, ?_, ?_⟩
  next =>
    rw [written_eq_told began]
    exact dismisses.untold (flow_run began)
  next => exact dismisses.delivers began ended failed
  next =>
    intro later takes
    obtain ⟨last, ended, failed⟩ := takes.run dismisses
    have soon : delay later < rejectionLimit := Nat.lt_of_le_of_lt (delay_le_duration later) takes.1
    refine ⟨last, ?_, failed, dismisses.delivers began ended failed takes.unbroken soon⟩
    rw [run_append, began, Option.bind_some, ended]

theorem Flow.front_of_backend (flow : Flow context events session)
    (spoken : session.voice? = some .backend) :
    (session.ledger.traffic .client).told.toList <+:
      (session.ledger.traffic .backend).heard.toList := by
  obtain ⟨clock, phase, ledger⟩ := session
  cases phase with
  | splicing => exact (Splices.conveys flow .backend).told_front
  | «over» result =>
    cases result with
    | error => cases spoken
    | ok =>
      obtain ⟨splice, -, splices⟩ := flow
      exact (splices.conveys .backend).told_front
  | sniffing | dialing | replaying | rejecting => cases spoken

theorem Flow.exists_refuses (flow : Flow context events session)
    (spoken : session.voice? = some .relay) :
    ∃ failure unsent, Refuses context events session.ledger failure unsent := by
  obtain ⟨clock, phase, ledger⟩ := session
  cases phase with
  | rejecting failure => exact ⟨failure, _, flow⟩
  | «over» result =>
    cases result with
    | error failure => exact ⟨failure, flow⟩
    | ok => cases spoken
  | sniffing | dialing | replaying | splicing => cases spoken

theorem Flow.untold_of_unsettled (flow : Flow context events session)
    (unsettled : session.voice? = none) : (session.ledger.traffic .client).told.toList = [] := by
  obtain ⟨clock, phase, ledger⟩ := session
  cases phase with
  | sniffing | dialing => exact Quiet.untold flow .client
  | replaying => exact Replays.untold flow
  | rejecting | splicing => cases unsettled
  | «over» result => cases result <;> cases unsettled

/-- A client hears one voice at most. If the session fails, it hears the rejection, and if not, what
the backend sends. -/
theorem clients_hear_one_voice (ran : run context (start context now) events = some session) :
    (voiced context .relay (start context now) events = [] ∧
        written context .client (start context now) events <+: arrived .backend events ∨
      voiced context .backend (start context now) events = [] ∧ arrived .backend events = [] ∧
        ∃ failure : Failure, written context .client (start context now) events <+:
          failure.rejection context.service.protocol) ∧
    (∀ failure, session.result? = some (.error failure) →
      voiced context .backend (start context now) events = [] ∧
      voiced context .relay (start context now) events =
        written context .client (start context now) events ∧
      arrived .backend events = [] ∧
      written context .client (start context now) events <+:
        failure.rejection context.service.protocol ∧
      Rejects context now events failure) ∧
    (∀ summary, session.result? = some (.ok summary) →
      voiced context .relay (start context now) events = [] ∧
      voiced context .backend (start context now) events =
        written context .client (start context now) events ∧
      written context .client (start context now) events <+: arrived .backend events) ∧
    ∀ failure : Failure,
      failure.rejection .tls = [21, 3, 1, 0, 2, 2, if failure.blamesName then 112 else 80] ∧
      failure.rejection .http =
        (if failure.blamesBackend then serviceUnavailable else badRequest).toUTF8.data.toList := by
  have flow := flow_run ran
  have told := written_eq_told ran .client
  have heard := heard_run ran .backend
  have spoken := voiced_run ran
  refine ⟨?_, ?_, ?_, fun failure => ⟨failure.rejection_tls, failure.rejection_http⟩⟩
  next =>
    rw [spoken, spoken, told, ← heard]
    cases settled : session.voice? with
    | none => exact .inl ⟨rfl, flow.untold_of_unsettled settled ▸ List.nil_prefix⟩
    | some voice =>
      cases voice with
      | backend => exact .inl ⟨rfl, flow.front_of_backend settled⟩
      | relay =>
        obtain ⟨failure, unsent, refuses⟩ := flow.exists_refuses settled
        exact .inr ⟨rfl, refuses.unheard, failure, unsent, refuses.reply⟩
  next =>
    intro failure failed
    have settled : session.voice? = some .relay := by rw [voice?, result?_eq_some_iff.mp failed]
    rw [Flow, result?_eq_some_iff.mp failed] at flow
    obtain ⟨unsent, refuses⟩ := flow
    rw [spoken, spoken, settled, told, ← heard]
    exact ⟨rfl, rfl, refuses.unheard, ⟨unsent, refuses.reply⟩, rejects_of_error ran failed⟩
  next =>
    intro summary succeeded
    have settled : session.voice? = some .backend := by
      rw [voice?, result?_eq_some_iff.mp succeeded]
    rw [spoken, spoken, settled, told, ← heard]
    exact ⟨rfl, rfl, flow.front_of_backend settled⟩

-- A client that is slow, but not too slow, and takes its rejection in two pieces.
def slowAnswers : List Event :=
  [.elapsed 400, .accepted .client 3, .elapsed 599, .accepted .client 4, .flushed, .shut .client]

def slowEvents : List Event :=
  helloApproach ++ [.attempted none, .accepted .backend 40, .writeFailed .backend .brokenPipe] ++
    slowAnswers

theorem slowEvents_hear_one_voice :
    Takes [21, 3, 1, 0, 2, 2, 80] slowAnswers ∧
    (∃ session, run helloContext (start helloContext 0) slowEvents = some session ∧
      session.result? = some (.error (.replay "a" .brokenPipe)) ∧
      written helloContext .client (start helloContext 0) slowEvents = [21, 3, 1, 0, 2, 2, 80] ∧
      ShutLast .client slowEvents) ∧
    ∃ session, run helloContext (start helloContext 0) helloEvents = some session ∧
      session.result? = some (.ok ⟨"a", .v4 ⟨1⟩ 443, 65, 1⟩) ∧
      written helloContext .client (start helloContext 0) helloEvents <+: [9] := by
  refine ⟨⟨by decide, [3, 4], by decide, rfl, rfl⟩, ?_, ?_⟩
  next =>
    have finished : (run helloContext (start helloContext 0) slowEvents).bind failure? =
        some (.replay "a" .brokenPipe) := by
      decide +kernel
    obtain ⟨session, ran, finished⟩ := Option.bind_eq_some_iff.mp finished
    have failed := result?_of_failure? finished
    obtain ⟨-, fails, -, alerts⟩ := clients_hear_one_voice ran
    obtain ⟨-, -, -, -, early, late, rejected, split, -, -, -, delivers, -⟩ := fails _ failed
    have unbroken (fault : Fault) : .writeFailed .client fault ∉ late := by
      intro found
      have found : .writeFailed .client fault ∈ slowEvents := split ▸ List.mem_append_right _ found
      simp [slowEvents, slowAnswers, helloApproach] at found
    have soon : delay late < rejectionLimit := by
      have bound := delay_le_duration late
      have spent : duration slowEvents = 999 := by decide
      rw [split, duration_append] at spent
      change _ < 1000
      omega
    obtain ⟨all, last⟩ := delivers unbroken soon
    exact ⟨session, ran, failed, all.trans (alerts _).1, last⟩
  next =>
    obtain ⟨session, ran, finished⟩ := exists_run_helloEvents
    have succeeded := result?_eq_some_iff.mpr finished
    obtain ⟨-, -, succeeds, -⟩ := clients_hear_one_voice ran
    have sent : arrived .backend helloEvents = [9] := by decide
    exact ⟨session, ran, succeeded, sent ▸ (succeeds _ succeeded).2.2⟩

end

end SniffingRelay.Session
