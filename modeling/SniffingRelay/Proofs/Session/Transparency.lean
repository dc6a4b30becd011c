import SniffingRelay.Proofs.Session.Flow

set_option autoImplicit false

namespace SniffingRelay.Session

structure Sends (stream : List UInt8) (events : List Event) : Prop where
  front : arrived .client events <+: stream
  whole : .ended .client ∈ events → arrived .client events = stream

structure Completes (events : List Event) (session : Session) (summary : Summary) : Prop where
  succeeded : session.result? = some (.ok summary)
  shut : ∀ side, .shut side ∈ events
  unrefused : ∀ fault, .writeFailed .backend fault ∉ relayed events
  unbroken : ∀ fault, .readFailed .client fault ∉ relayed events

theorem result?_eq_some_iff {session : Session} {result : Except Failure Summary} :
    session.result? = some result ↔ session.phase = .over result := by
  unfold result?
  cases session.phase <;> simp

theorem mem_of_mem_relayed {event : Event} {events : List Event} (found : event ∈ relayed events) :
    event ∈ events :=
  (List.dropWhile_suffix _).subset found

section

variable {context : Context} {now : Nat} {events : List Event} {session : Session}

theorem Conveys.told_front {source : Side} {before shuts : Nat} {heard told : List UInt8}
    {half : Half} (conveys : Conveys events source before heard told shuts half) :
    told <+: heard := by
  cases conveys with
  | reading all => exact all ▸ List.prefix_refl _
  | writing all => exact ⟨_, all⟩
  | shutting stopped => exact stopped.front
  | finished stopped => exact stopped.front

theorem Conveys.before_le {source : Side} {before shuts : Nat} {heard told : List UInt8}
    {half : Half} (conveys : Conveys events source before heard told shuts half) :
    before ≤ told.length := by
  cases conveys with
  | reading _ counted => omega
  | writing all counted rest =>
    have size := congrArg List.length all
    rw [List.length_append] at size
    omega
  | shutting stopped =>
    have counted := stopped.counted
    omega
  | finished stopped =>
    have counted := stopped.counted
    omega

theorem Flow.told_front (flow : Flow context events session)
    (heard : (session.ledger.traffic .client).heard.toList = arrived .client events) :
    (session.ledger.traffic .backend).told.toList <+: arrived .client events := by
  have sniffed_first : sniffed events <+: arrived .client events :=
    ⟨_, sniffed_append_arrived_relayed events⟩
  obtain ⟨clock, phase, ledger⟩ := session
  have spliced {splice : Splice} (splices : Splices events ledger splice) :
      (ledger.traffic .backend).told.toList <+: arrived .client events :=
    heard ▸ (splices.conveys .client).told_front
  cases phase with
  | sniffing | dialing => exact (Quiet.untold flow .backend) ▸ List.nil_prefix
  | replaying => exact List.IsPrefix.trans ⟨_, Replays.all flow⟩ sniffed_first
  | splicing => exact spliced flow
  | rejecting => exact (Refuses.front flow).trans sniffed_first
  | «over» result =>
    cases result with
    | error =>
      obtain ⟨_, refuses⟩ := flow
      exact refuses.front.trans sniffed_first
    | ok =>
      obtain ⟨_, -, splices⟩ := flow
      exact spliced splices

theorem Splices.sniffed_front {ledger : Ledger} {splice : Splice}
    (splices : Splices events ledger splice)
    (heard : (ledger.traffic .client).heard.toList = arrived .client events) :
    sniffed events <+: (ledger.traffic .backend).told.toList := by
  have conveys := splices.conveys .client
  have before : splice.before .client = splice.replayed := rfl
  have front := conveys.told_front
  have enough := conveys.before_le
  rw [heard] at front
  rw [before, splices.replayed] at enough
  exact List.prefix_of_prefix_length_le ⟨_, sniffed_append_arrived_relayed events⟩ front enough

theorem Splices.complete {ledger : Ledger} {splice : Splice} (splices : Splices events ledger splice)
    (heard : (ledger.traffic .client).heard.toList = arrived .client events)
    (shut : (ledger.traffic .backend).shuts ≠ 0)
    (unrefused : ∀ fault, .writeFailed .backend fault ∉ relayed events)
    (unbroken : ∀ fault, .readFailed .client fault ∉ relayed events) :
    (ledger.traffic .backend).told.toList = arrived .client events ∧
      splice.summary.bytesToBackend = (arrived .client events).length ∧
        .ended .client ∈ events ∧ (ledger.traffic .backend).shuts = 1 ∧ ShutLast .backend events := by
  have conveys := splices.conveys .client
  rw [heard] at conveys
  have moved : splice.summary.bytesToBackend = splice.replayed + (splice.half .client).moved := rfl
  have before : splice.before .client = splice.replayed := rfl
  rw [moved, ← before]
  generalize splice.half .client = half at conveys ⊢
  cases conveys with
  | reading _ _ unshut => exact absurd unshut shut
  | writing _ _ _ unshut => exact absurd unshut shut
  | shutting _ unshut => exact absurd unshut shut
  | finished stopped once last =>
    obtain ⟨all, counted⟩ := stopped.complete unrefused
    refine ⟨all, all ▸ counted, ?_, once, last⟩
    obtain ⟨fault, found⟩ | ⟨fault, found⟩ | found := stopped.cause
    next => exact absurd found (unrefused fault)
    next => exact absurd found (unbroken fault)
    next => exact mem_of_mem_relayed found

theorem Completes.told {stream : List UInt8} {summary : Summary}
    (completes : Completes events session summary) (sends : Sends stream events)
    (ran : run context (start context now) events = some session) :
    (session.ledger.traffic .backend).told.toList = stream ∧
      summary.bytesToBackend = stream.length ∧ .ended .client ∈ events ∧
        (session.ledger.traffic .backend).shuts = 1 ∧ ShutLast .backend events := by
  have heard := heard_run ran .client
  have shuts := shuts_run ran .backend
  have flow := flow_run ran
  have shut : (session.ledger.traffic .backend).shuts ≠ 0 := by
    rw [shuts]
    exact Nat.ne_of_gt (List.countP_pos_iff.mpr ⟨_, completes.shut .backend, rfl⟩)
  obtain ⟨clock, phase, ledger⟩ := session
  obtain rfl : phase = .over (.ok summary) := result?_eq_some_iff.mp completes.succeeded
  obtain ⟨splice, rfl, splices⟩ := flow
  obtain ⟨all, counted, ended, once, last⟩ :=
    splices.complete heard shut completes.unrefused completes.unbroken
  rw [sends.whole ended] at all counted
  exact ⟨all, counted, ended, once, last⟩

theorem written_eq_told (ran : run context (start context now) events = some session) (side : Side) :
    written context side (start context now) events = (session.ledger.traffic side).told.toList := by
  rw [told_run ran]
  cases side <;> rfl

/-- What a backend takes is a front of what its client sent, the sniffed bytes first. A session that
ends by itself leaves nothing out, so how the bytes were cut does not show. -/
theorem backend_takes_client_stream
    (ran : run context (start context now) events = some session) :
    written context .backend (start context now) events <+:
        sniffed events ++ arrived .client (relayed events) ∧
      sniffed events ++ arrived .client (relayed events) = arrived .client events ∧
      ∀ stream summary, Sends stream events → Completes events session summary →
        (written context .backend (start context now) events = stream ∧
          summary.bytesToBackend = stream.length ∧ .ended .client ∈ events ∧
            (session.ledger.traffic .backend).shuts = 1 ∧ ShutLast .backend events) ∧
        ∀ context' now' events' session' summary',
          run context' (start context' now') events' = some session' → Sends stream events' →
            Completes events' session' summary' →
              written context' .backend (start context' now') events' =
                written context .backend (start context now) events := by
  have told := written_eq_told ran .backend
  refine ⟨?_, sniffed_append_arrived_relayed events, ?_⟩
  next =>
    rw [told, sniffed_append_arrived_relayed]
    exact (flow_run ran).told_front (heard_run ran .client)
  next =>
    intro stream summary sends completes
    have complete := completes.told sends ran
    refine ⟨told ▸ complete, ?_⟩
    intro context' now' events' session' summary' ran' sends' completes'
    rw [written_eq_told ran' .backend, (completes'.told sends' ran').1, told, complete.1]

end

-- A record that holds a ClientHello for the host "a".
def helloRecord : List UInt8 :=
  [22, 3, 1, 0, 57, 1, 0, 0, 53, 3, 3] ++ List.replicate 32 0 ++
    [0, 0, 2, 19, 1, 1, 0, 0, 10, 0, 0, 0, 6, 0, 4, 0, 0, 1, 97]

def helloStream : List UInt8 := helloRecord ++ [1, 2, 3]

def helloContext : Context where
  service := { address := .v4 ⟨0⟩ 443, protocol := .tls, allowList := ⟨["a"]⟩ }
  dialer := fun _ => .ok ⟨none, defaultDialLimit⟩

def helloApproach : List Event :=
  [.received .client (helloRecord.take 2), .received .client ((helloRecord.drop 2).take 3),
    .received .client ((helloRecord.drop 5).take 20), .received .client (helloRecord.drop 25),
    .resolved (.ok [.v4 ⟨1⟩ 443])]

def helloEvents : List Event :=
  helloApproach ++ [.attempted none, .accepted .backend 40, .accepted .backend 22,
    .received .client [1, 2, 3], .received .backend [9], .accepted .backend 2, .accepted .client 1,
    .accepted .backend 1, .ended .client, .shut .backend, .ended .backend, .shut .client]

def summary? (session : Session) : Option Summary :=
  match session.phase with
  | .over (.ok summary) => some summary
  | _ => none

theorem exists_run_helloEvents : ∃ session, run helloContext (start helloContext 0) helloEvents =
    some session ∧ session.phase = .over (.ok ⟨"a", .v4 ⟨1⟩ 443, 65, 1⟩) := by
  have finished : (run helloContext (start helloContext 0) helloEvents).bind summary? =
      some ⟨"a", .v4 ⟨1⟩ 443, 65, 1⟩ := by
    decide +kernel
  obtain ⟨session, ran, finished⟩ := Option.bind_eq_some_iff.mp finished
  refine ⟨session, ran, ?_⟩
  unfold summary? at finished
  split at finished
  next found => rw [found, Option.some.inj finished]
  next => cases finished

theorem backend_takes_helloStream : ∃ session,
    run helloContext (start helloContext 0) helloEvents = some session ∧
      Sends helloStream helloEvents ∧
      Completes helloEvents session ⟨"a", .v4 ⟨1⟩ 443, 65, 1⟩ ∧
      written helloContext .backend (start helloContext 0) helloEvents = helloStream := by
  obtain ⟨session, ran, finished⟩ := exists_run_helloEvents
  have all : arrived .client helloEvents = helloStream := by decide +kernel
  have sends : Sends helloStream helloEvents := ⟨all ▸ List.prefix_refl _, fun _ => all⟩
  have completes : Completes helloEvents session ⟨"a", .v4 ⟨1⟩ 443, 65, 1⟩ := by
    refine ⟨result?_eq_some_iff.mpr finished, ?_, ?_, ?_⟩
    next =>
      intro side
      cases side <;> simp [helloEvents]
    next =>
      intro fault found
      have found := mem_of_mem_relayed found
      simp [helloEvents, helloApproach] at found
    next =>
      intro fault found
      have found := mem_of_mem_relayed found
      simp [helloEvents, helloApproach] at found
  obtain ⟨-, -, whole⟩ := backend_takes_client_stream ran
  exact ⟨session, ran, sends, completes, (whole helloStream _ sends completes).1.1⟩

end SniffingRelay.Session
