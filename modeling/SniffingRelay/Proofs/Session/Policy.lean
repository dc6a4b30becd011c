import SniffingRelay.Proofs.Session.Gate
import SniffingRelay.Proofs.Session.Transparency

set_option autoImplicit false

namespace SniffingRelay.Session

section

variable {context : Context} {events : List Event} {session : Session} {ledger : Ledger}
  {host : String}

theorem Halts.undialed_or_passes {stage : Stage} (halts : Halts context events ledger stage) :
    (ledger.dials = [] ∧ ledger.tried = []) ∨ ∃ host, Passes context events ledger host := by
  cases stage with
  | sniffing | policyCheck => exact .inl ⟨halts.1.dials, halts.1.tried⟩
  | dialing => exact .inr halts.2
  | replaying => exact .inr halts.2.1
  | splicing | closed => exact halts.elim

theorem Gate.undialed_or_passes (gate : Gate context events session) :
    (session.ledger.dials = [] ∧ session.ledger.tried = []) ∨
      ∃ host, Passes context events session.ledger host := by
  obtain ⟨clock, phase, ledger⟩ := session
  cases phase with
  | sniffing => exact .inl ⟨gate.1.dials, gate.1.tried⟩
  | dialing dialing => exact .inr ⟨dialing.host, gate.2.1⟩
  | replaying replaying => exact .inr ⟨replaying.host, gate.2.1⟩
  | splicing splice => exact .inr ⟨splice.host, gate.2⟩
  | rejecting => exact Halts.undialed_or_passes gate
  | «over» result =>
    cases result with
    | error => exact Halts.undialed_or_passes gate
    | ok summary => exact .inr ⟨summary.hostname, gate.2⟩

theorem Gate.passes_of_dials (gate : Gate context events session) (found : host ∈ session.ledger.dials) :
    Passes context events session.ledger host := by
  rcases gate.undialed_or_passes with ⟨undialed, -⟩ | ⟨dialed, passes⟩
  next =>
    rw [undialed] at found
    cases found
  next =>
    rw [passes.dials] at found
    exact List.mem_singleton.mp found ▸ passes

theorem Gate.passes_of_tried {target : SocketAddress} (gate : Gate context events session)
    (found : target ∈ session.ledger.tried) :
    ∃ host, Passes context events session.ledger host ∧ Admits context events host target := by
  rcases gate.undialed_or_passes with ⟨-, untried⟩ | ⟨dialed, passes⟩
  next =>
    rw [untried] at found
    cases found
  next => exact ⟨dialed, passes, passes.tried target found⟩

theorem want?_dials_nothing {splice : Splice} {source : Side} {want : Want}
    (wanted : splice.want? source = some want) :
    (∀ host port, want ≠ .lookup host port) ∧ ∀ origin target, want ≠ .connect origin target := by
  unfold Splice.want? at wanted
  split at wanted <;> cases wanted <;> exact ⟨nofun, nofun⟩

theorem exists_of_mem_wants_splicing {clock : Nat} {splice : Splice} {want : Want}
    (wanted : want ∈ wants context ⟨clock, .splicing splice, ledger⟩) :
    ∃ source, splice.want? source = some want := by
  rcases List.mem_append.mp wanted with found | found
  next => exact ⟨.client, Option.mem_toList.mp found⟩
  next => exact ⟨.backend, Option.mem_toList.mp found⟩

theorem dialing_of_lookup {port : UInt16} (wanted : .lookup host port ∈ session.wants context) :
    port = context.service.targetPort ∧ ∃ dialer deadline,
      session.phase = .dialing ⟨host, dialer, .resolving⟩ deadline := by
  obtain ⟨clock, phase, ledger⟩ := session
  cases phase with
  | dialing dialing deadline =>
    obtain ⟨asked, dialer, stage⟩ := dialing
    cases stage with
    | resolving =>
      cases List.mem_singleton.mp wanted
      exact ⟨rfl, dialer, deadline, rfl⟩
    | trying => cases List.mem_singleton.mp wanted
  | splicing splice =>
    obtain ⟨source, found⟩ := exists_of_mem_wants_splicing wanted
    exact absurd rfl ((want?_dials_nothing found).1 host port)
  | sniffing | replaying => cases List.mem_singleton.mp wanted
  | rejecting _ stage => cases stage <;> cases List.mem_singleton.mp wanted
  | «over» => cases wanted

theorem dialing_of_connect {origin : Option Ip6} {target : SocketAddress}
    (wanted : .connect origin target ∈ session.wants context) :
    ∃ host dialer later deadline, origin = dialer.source ∧
      session.phase = .dialing ⟨host, dialer, .trying target later⟩ deadline := by
  obtain ⟨clock, phase, ledger⟩ := session
  cases phase with
  | dialing dialing deadline =>
    obtain ⟨host, dialer, stage⟩ := dialing
    cases stage with
    | resolving => cases List.mem_singleton.mp wanted
    | trying next later =>
      cases List.mem_singleton.mp wanted
      exact ⟨host, dialer, later, deadline, rfl, rfl⟩
  | splicing splice =>
    obtain ⟨source, found⟩ := exists_of_mem_wants_splicing wanted
    exact absurd rfl ((want?_dials_nothing found).2 origin target)
  | sniffing | replaying => cases List.mem_singleton.mp wanted
  | rejecting _ stage => cases stage <;> cases List.mem_singleton.mp wanted
  | «over» => cases wanted

def reached (context : Context) (now : Nat) (events : List Event) : Stage :=
  if isConnected events then
    if (written context .backend (start context now) events).length < (sniffed events).length then
      .replaying
    else .splicing
  else
    match (Sniffer.reader.feed (.start context.service.protocol) (sniffed events)).1 with
    | .settled (.ok host) => if permits context host then .dialing else .policyCheck
    | _ => .sniffing

theorem Halts.reached {now : Nat} {stage : Stage}
    (halts : Halts context events session.ledger stage)
    (ran : run context (start context now) events = some session) :
    stage = reached context now events := by
  have told := written_eq_told ran .backend
  unfold Session.reached
  cases stage with
  | sniffing =>
    obtain ⟨undialed, unnamed⟩ := halts
    rw [undialed.unconnected, if_neg Bool.false_ne_true]
    split
    next host fed => exact absurd fed (unnamed host)
    next => rfl
  | policyCheck =>
    obtain ⟨undialed, host, sniffs, forbidden⟩ := halts
    rw [Sniffs] at sniffs
    simp [undialed.unconnected, sniffs, forbidden]
  | dialing =>
    obtain ⟨unconnected, host, passes⟩ := halts
    have sniffs := passes.sniffs
    rw [Sniffs] at sniffs
    simp [unconnected, sniffs, passes.permitted]
  | replaying =>
    obtain ⟨answered, -, short⟩ := halts
    rw [answered, told, if_pos rfl, if_pos short]
  | splicing | closed => exact halts.elim

/-- A host is dialed, looked up and connected to only if it was sniffed and is permitted. A failure
names the last stage that was reached, and what happened up to then is all that has happened. -/
theorem sessions_keep_to_policy {now : Nat}
    (ran : run context (start context now) events = some session) :
    (∀ host ∈ session.ledger.dials, Passes context events session.ledger host) ∧
    (∀ target ∈ session.ledger.tried, ∃ host, Passes context events session.ledger host ∧
      Admits context events host target) ∧
    (∀ host port, .lookup host port ∈ session.wants context →
      Passes context events session.ledger host ∧ port = context.service.targetPort) ∧
    (∀ origin target, .connect origin target ∈ session.wants context →
      ∃ host dialer, Passes context events session.ledger host ∧ context.dialer host = .ok dialer ∧
        origin = dialer.source ∧ Admits context events host target) ∧
    (∀ failure, session.result? = some (.error failure) →
      failure.stage = reached context now events ∧
      Halts context events session.ledger failure.stage ∧
      (isConnected events = false → written context .backend (start context now) events = []) ∧
      written context .backend (start context now) events <+: sniffed events ∧
      arrived .backend events = [] ∧
      written context .client (start context now) events <+:
        failure.rejection context.service.protocol) ∧
    ∀ summary, session.result? = some (.ok summary) →
      Passes context events session.ledger summary.hostname ∧
        sniffed events <+: written context .backend (start context now) events := by
  have gate := gate_run ran
  have flow := flow_run ran
  have told := written_eq_told ran
  have heard := heard_run ran
  refine ⟨fun _ => gate.passes_of_dials, fun _ => gate.passes_of_tried, ?_, ?_, ?_, ?_⟩
  next =>
    intro host port wanted
    obtain ⟨targeted, dialer, deadline, phase⟩ := dialing_of_lookup wanted
    rw [Gate, phase] at gate
    exact ⟨gate.2.1, targeted⟩
  next =>
    intro origin target wanted
    obtain ⟨host, dialer, later, deadline, source, phase⟩ := dialing_of_connect wanted
    rw [Gate, phase] at gate
    obtain ⟨-, passes, asked, admits⟩ := gate
    exact ⟨host, dialer, passes, asked, source, admits target (List.mem_cons_self ..)⟩
  next =>
    intro failure failed
    have phase := result?_eq_some_iff.mp failed
    rw [Gate, phase] at gate
    rw [Flow, phase] at flow
    obtain ⟨unsent, refuses⟩ := flow
    rw [told, told, ← heard]
    exact ⟨Halts.reached gate ran, gate, refuses.untold, refuses.front, refuses.unheard,
      unsent, refuses.reply⟩
  next =>
    intro summary succeeded
    have phase := result?_eq_some_iff.mp succeeded
    rw [Gate, phase] at gate
    rw [Flow, phase] at flow
    obtain ⟨splice, -, splices⟩ := flow
    refine ⟨gate.2, ?_⟩
    rw [told]
    exact splices.sniffed_front (heard .client)

end

-- A backend that answers and breaks off before it has all that was sniffed.
def brokenEvents : List Event :=
  helloApproach ++ [.attempted none, .accepted .backend 40, .writeFailed .backend .brokenPipe,
    .accepted .client 7, .flushed, .shut .client]

def failure? (session : Session) : Option Failure :=
  match session.phase with
  | .over (.error failure) => some failure
  | _ => none

theorem result?_of_failure? {session : Session} {failure : Failure}
    (failed : session.failure? = some failure) : session.result? = some (.error failure) := by
  unfold failure? at failed
  split at failed
  next found =>
    obtain rfl := Option.some.inj failed
    exact result?_eq_some_iff.mpr found
  next => cases failed

theorem brokenEvents_keep_to_policy : ∃ session,
    run helloContext (start helloContext 0) brokenEvents = some session ∧
      session.result? = some (.error (.replay "a" .brokenPipe)) ∧
      reached helloContext 0 brokenEvents = .replaying ∧
      (∃ host, Passes helloContext brokenEvents session.ledger host) ∧
      written helloContext .backend (start helloContext 0) brokenEvents <+: sniffed brokenEvents := by
  have finished : (run helloContext (start helloContext 0) brokenEvents).bind failure? =
      some (.replay "a" .brokenPipe) := by
    decide +kernel
  obtain ⟨session, ran, finished⟩ := Option.bind_eq_some_iff.mp finished
  have failed : session.result? = some (.error (.replay "a" .brokenPipe)) := by
    unfold failure? at finished
    split at finished
    next found =>
      rw [Option.some.inj finished] at found
      exact result?_eq_some_iff.mpr found
    next => cases finished
  obtain ⟨-, -, -, -, fails, -⟩ := sessions_keep_to_policy ran
  obtain ⟨stage, ⟨-, passes, -⟩, -, front, -⟩ := fails _ failed
  exact ⟨session, ran, failed, stage.symm, passes, front⟩

end SniffingRelay.Session
