import SniffingRelay.Proofs.Http.HeadGrammar
import SniffingRelay.Proofs.Session.Policy
import SniffingRelay.Proofs.Tls.Reassembly

set_option autoImplicit false

namespace SniffingRelay

namespace Tls

-- The input ended within a record.
def HelloError.EndsEarly (error : HelloError) : Prop :=
  error = .recordHeader .earlyEnd ∨ ∃ length, error = .recordFragment length .earlyEnd

theorem PartialRecord.endsEarly_cutShort (arrived : PartialRecord) :
    (arrived.cutShort .ended).EndsEarly := by
  cases arrived with
  | header => exact .inl rfl
  | fragment length => exact .inr ⟨length, rfl⟩

theorem HelloError.EndsEarly.code_alert {error : HelloError} (early : error.EndsEarly) :
    error.alert.code = 80 := by
  obtain rfl | ⟨length, rfl⟩ := early <;> rfl

end Tls

namespace Sniffer

def Sound : Sniffer -> Prop
  | .tls state => state.record.Sound
  | .http _ => True

theorem sound_start (protocol : Protocol) : (start protocol).Sound := by
  cases protocol with
  | tls => exact Tls.PartialRecord.sound_start
  | http => trivial

theorem lively_reader : reader.Lively Sound where
  room_pos sniffer sound := by
    cases sniffer with
    | tls state => exact Tls.Handshake.exact_handshakeReader.room_pos state sound
    | http state => exact Nat.zero_lt_succ 1023
  push sniffer byte next sound pushed := by
    cases sniffer with
    | tls state =>
      obtain ⟨later, answer, rfl⟩ := Progress.exists_of_map_eq_more pushed
      exact Tls.Handshake.exact_handshakeReader.push state byte later sound answer
    | http state =>
      obtain ⟨later, -, rfl⟩ := Progress.exists_of_map_eq_more pushed
      trivial

end Sniffer

def Failure.hostname? : Failure -> Option String
  | .missingHostname => some ""
  | .notPermitted host | .dial host _ | .replay host _ => some host
  | .sniffTimeout _ | .hello _ | .headers _ | .incompleteHeaders => none

theorem Failure.hostname?_of_stage {failure : Failure} (stage : failure.stage = .sniffing) :
    failure.hostname? = none := by
  cases failure with
  | sniffTimeout | hello | headers | incompleteHeaders => rfl
  | missingHostname | notPermitted | dial | replay => cases stage

namespace Session

-- The host that a session has sniffed, as it goes by it, reports it or blames it.
def hostname? (session : Session) : Option String :=
  match session.phase with
  | .sniffing _ _ => none
  | .dialing dialing _ => some dialing.host
  | .replaying replaying => some replaying.host
  | .splicing splice => some splice.host
  | .over (.ok summary) => some summary.hostname
  | .rejecting failure _ _ | .over (.error failure) => failure.hostname?

def Named (context : Context) (events : List Event) (session : Session) : Prop :=
  ∀ host ∈ session.hostname?, Sniffs context events host

section

variable {context : Context} {events : List Event} {session : Session}

theorem Named.later {event : Event} (named : Named context events session)
    (nothing : event.carried .client = []) : Named context (events ++ [event]) session := by
  intro host found
  exact (Sniffs.later nothing).mpr (named host found)

theorem Named.of_eq {next : Session} (named : Named context events session)
    (same : next.hostname? = session.hostname?) : Named context events next := by
  intro host found
  exact named host (same ▸ found)

theorem named_reject_sniffing {failure : Failure} (stage : failure.stage = .sniffing) :
    Named context events (session.reject context failure) := by
  intro host found
  have none_found : (session.reject context failure).hostname? = none :=
    Failure.hostname?_of_stage stage
  rw [none_found] at found
  cases found

theorem named_route_ok {host : String} (sniffs : Sniffs context events host) :
    Named context events (session.route context (.ok host)) := by
  have hostname : (session.route context (.ok host)).hostname? = some host := by
    unfold route
    dsimp only
    split
    next nameless => exact nameless ▸ rfl
    next =>
      split
      next =>
        unfold dial
        dsimp only
        split <;> rfl
      next => rfl
  intro other found
  rw [hostname] at found
  cases found
  exact sniffs

theorem named_route {result : Except Failure String}
    (fed : (Sniffer.reader.feed (.start context.service.protocol) (sniffed events)).1 =
      .settled result) : Named context events (session.route context result) := by
  cases result with
  | error failure => exact named_reject_sniffing (Sniffer.stage_of_feed fed)
  | ok host => exact named_route_ok fed

theorem named_stop (sniffer : Sniffer) (stop : Stop) :
    Named context events (session.route context (Sniffer.reader.finish sniffer stop)) := by
  obtain ⟨failure, finished, stage⟩ := Sniffer.finish_eq_error sniffer stop
  rw [finished]
  exact named_reject_sniffing stage

theorem hostname?_tryNext (dialing : Dialing) (deadline : Nat) (error : DialError)
    (targets : List SocketAddress) :
    (session.tryNext context dialing deadline error targets).hostname? = some dialing.host := by
  cases targets <;> rfl

theorem hostname?_settle (splice : Splice) : (session.settle splice).hostname? = some splice.host := by
  unfold settle
  split <;> rfl

theorem Named.ring (named : Named context events session) :
    Named context events (session.ring context) := by
  obtain ⟨clock, phase, ledger⟩ := session
  unfold Session.ring
  cases phase with
  | sniffing =>
    dsimp only
    split
    next => exact named
    next => exact named_reject_sniffing rfl
  | dialing | rejecting =>
    dsimp only
    split <;> exact named
  | splicing =>
    dsimp only
    split
    next => exact named
    next => split <;> exact named
  | replaying | «over» => exact named

theorem Named.transition {next : Session} {event : Event} (named : Named context events session)
    (gate : Gate context events session) (stepped : Transition context session event next) :
    Named context (events ++ [event]) next := by
  -- A host comes up only where sniffing ends with one; after that it is passed on.
  cases stepped with
  | read => exact nofun
  | sniffed _ _ fed =>
    obtain ⟨undialed, more⟩ := gate
    exact named_route ((feed_sniffed_append undialed.unconnected more _).trans fed)
  | interrupted => exact nofun
  | clientFailed | clientEnded => exact named_stop _ _
  | resolved | refused => exact (named.later rfl).of_eq (hostname?_tryNext ..)
  | unresolved | connected | replaying | replayed | replayFailed | rejecting | rejected
    | rejectionFlushed | rejectionShut | rejectionFailed => exact (named.later rfl).of_eq rfl
  | @moved _ spliced _ source event half alive moves =>
    intro host found
    rw [hostname?_settle, host_advance] at found
    have kept := sniffed_append_of_connected gate.1 [event]
    rw [Sniffs, kept]
    exact named host found
  | @elapsed clock milliseconds phase ledger =>
    have waited : Named context (events ++ [.elapsed milliseconds])
      ⟨clock + milliseconds, phase, ledger⟩ := named.later rfl
    exact waited.ring

theorem named_run {now : Nat} (ran : run context (start context now) events = some session) :
    Named context events session := by
  have all := run_invariant
    (fun history session => (Flow context history session ∧ Gate context history session) ∧
      Named context history session)
    (fun _ _ _ _ holds stepped =>
      ⟨⟨holds.1.1.transition stepped, holds.1.2.transition holds.1.1 stepped⟩,
        holds.2.transition holds.1.2 stepped⟩)
    ⟨⟨flow_run rfl, gate_run rfl⟩, nofun⟩ ran
  exact all.2

end

theorem Sniffs.again {context : Context} {events : List Event} {host : String} {bytes : List UInt8}
    {source : Recording} (sniffs : Sniffs context events host) (gives : source.Gives bytes)
    (front : sniffed events <+: bytes) :
    (Sniffer.reader.run (.start context.service.protocol) source).result = .ok host ∧
      (Sniffer.reader.run (.start context.service.protocol) source).used <+: sniffed events := by
  obtain ⟨later, rfl⟩ := front
  cases fed : Sniffer.reader.feed (.start context.service.protocol) (sniffed events) with
  | mk progress rest =>
    rw [Sniffs, fed] at sniffs
    obtain rfl := sniffs
    obtain ⟨used, split, settles, -⟩ := Reader.exists_front_of_feed fed
    have split' : sniffed events ++ later = used ++ (rest ++ later) := by
      rw [split, List.append_assoc]
    have concluded : Sniffer.reader.conclude (.start context.service.protocol)
        (sniffed events ++ later) = (.ok host, rest ++ later) := by
      rw [Reader.conclude, split', settles]
    obtain ⟨result, same⟩ := Reader.run_of_conclude Sniffer.lively_reader
      (Sniffer.sound_start context.service.protocol) gives split' concluded
    exact ⟨result, same ▸ ⟨rest, split.symm⟩⟩

theorem sniffed_front_of_ok {context : Context} {now : Nat} {events : List Event} {session : Session}
    {summary : Summary} (ran : run context (start context now) events = some session)
    (succeeded : session.result? = some (.ok summary)) :
    sniffed events <+: written context .backend (start context now) events := by
  have flow := flow_run ran
  rw [Flow, result?_eq_some_iff.mp succeeded] at flow
  obtain ⟨splice, -, splices⟩ := flow
  rw [written_eq_told ran]
  exact splices.sniffed_front (heard_run ran .client)

end Session

theorem Tls.delimits_of_not_early {bytes : List UInt8} {source : Recording}
    (gives : source.Gives bytes)
    (whole : ∀ error, (handshakeReader.run {} source).result = .error error → ¬error.EndsEarly) :
    handshakeReader.Delimits {} bytes (handshakeReader.run {} source) fun result =>
      ∃ error, result = .error error ∧ error.EndsEarly ∧ error.alert.code = 80 := by
  have lively := Handshake.exact_handshakeReader.toLively
  have sound : ({} : Handshake).record.Sound := PartialRecord.sound_start
  have early := PartialRecord.endsEarly_cutShort
  rcases Reader.settled_or_ended lively sound gives with ⟨rest, fed, -⟩ | ⟨last, -, ended⟩
  next =>
    exact Reader.delimits_of_settled lively sound gives
      (fun last => ⟨_, rfl, early last.record, (early last.record).code_alert⟩) fed
  next => exact absurd (early last.record) (whole _ ended)

theorem Http.delimits_of_complete {capacity : Nat} {bytes : List UInt8} {source : Recording}
    {header : HostHeader} (positive : 0 < capacity) (gives : source.Gives bytes)
    (found : ((headReader capacity).run {} source).result = .ok header)
    (complete : header.complete = true) :
    (headReader capacity).Delimits {} bytes ((headReader capacity).run {} source) fun result =>
      (∀ header, result = .ok header → header.complete = false) ∧
        ∃ failure, Sniffer.ofHostHeader result = .error failure := by
  have lively := lively_headReader positive
  have unfinished (last : RequestHead) (header : HostHeader)
      (finished : (headReader capacity).finish last .ended = .ok header) :
      header.complete = false := by
    change last.finish .ended = _ at finished
    exact RequestHead.incomplete_of_finish finished
  rcases Reader.settled_or_ended lively trivial gives with ⟨rest, fed, -⟩ | ⟨last, -, ended⟩
  next =>
    refine Reader.delimits_of_settled lively trivial gives (fun last => ⟨unfinished last, ?_⟩) fed
    obtain ⟨failure, failed, -⟩ := Sniffer.finish_eq_error (.http last) .ended
    exact ⟨failure, failed⟩
  next =>
    have incomplete := unfinished last header (ended.symm.trans found)
    rw [complete] at incomplete
    cases incomplete

namespace Session

/-- The bytes that are used for a ClientHello or for a whole head stand for themselves. So what was on
record when a host was sniffed names that host again, and so does all that its backend took. -/
theorem sniffed_bytes_delimit_themselves :
    (∀ bytes source, source.Gives bytes →
      (∀ error, (Tls.handshakeReader.run {} source).result = .error error → ¬error.EndsEarly) →
        Tls.handshakeReader.Delimits {} bytes (Tls.handshakeReader.run {} source) fun result =>
          ∃ error, result = .error error ∧ error.EndsEarly ∧ error.alert.code = 80) ∧
    (∀ capacity bytes source header, 0 < capacity → source.Gives bytes →
      ((Http.headReader capacity).run {} source).result = .ok header → header.complete = true →
        (Http.headReader capacity).Delimits {} bytes ((Http.headReader capacity).run {} source)
          fun result => (∀ header, result = .ok header → header.complete = false) ∧
            ∃ failure, Sniffer.ofHostHeader result = .error failure) ∧
    (∀ context now events session host, run context (start context now) events = some session →
      session.hostname? = some host → ∀ source, source.Gives (sniffed events) →
        (Sniffer.reader.run (.start context.service.protocol) source).result = .ok host) ∧
    ∀ context now events session summary, run context (start context now) events = some session →
      session.result? = some (.ok summary) →
        ∀ source, source.Gives (written context .backend (start context now) events) →
          (Sniffer.reader.run (.start context.service.protocol) source).result =
            .ok summary.hostname := by
  refine ⟨fun _ _ => Tls.delimits_of_not_early, fun _ _ _ _ => Http.delimits_of_complete, ?_, ?_⟩
  next =>
    intro context now events session host ran sniffed source gives
    exact ((named_run ran host sniffed).again gives (List.prefix_refl _)).1
  next =>
    intro context now events session summary ran succeeded source gives
    have hostname : session.hostname? = some summary.hostname := by
      rw [hostname?, result?_eq_some_iff.mp succeeded]
    have front := sniffed_front_of_ok ran succeeded
    exact ((named_run ran summary.hostname hostname).again gives front).1

-- A ClientHello is cut within its record, and bytes follow it that are used for nothing.
def helloSource : Recording where
  ahead :=
    [.bytes (helloStream.take 7), .fault ⟨.interrupted, none⟩, .bytes (helloStream.drop 7)]

def sniffedSource : Recording where
  ahead := [.bytes (sniffed helloEvents)]

theorem helloStream_delimits_itself :
    (helloSource.Gives helloStream ∧
      (Tls.handshakeReader.run {} helloSource).result = .ok ⟨⟨3, 3⟩, "a"⟩ ∧
      (Tls.handshakeReader.run {} helloSource).used = helloRecord ∧
      Tls.handshakeReader.Delimits {} helloStream (Tls.handshakeReader.run {} helloSource)
        fun result => ∃ error, result = .error error ∧ error.EndsEarly ∧ error.alert.code = 80) ∧
    (Http.crookedSource.Gives Http.crookedHead ∧
      ((Http.headReader 7).run {} Http.crookedSource).result = .ok ⟨"a\r", true⟩ ∧
      ((Http.headReader 7).run {} Http.crookedSource).used.length = 42 ∧
      (Http.headReader 7).Delimits {} Http.crookedHead ((Http.headReader 7).run {} Http.crookedSource)
        fun result => (∀ header, result = .ok header → header.complete = false) ∧
          ∃ failure, Sniffer.ofHostHeader result = .error failure) ∧
    ∃ session, run helloContext (start helloContext 0) helloEvents = some session ∧
      session.hostname? = some "a" ∧ sniffedSource.Gives (sniffed helloEvents) ∧
      (Sniffer.reader.run (.start .tls) sniffedSource).result = .ok "a" := by
  obtain ⟨hello, head, again, -⟩ := sniffed_bytes_delimit_themselves
  refine ⟨?_, ?_, ?_⟩
  next =>
    have gives : helloSource.Gives helloStream := ⟨rfl, by decide +kernel, by decide +kernel⟩
    have concluded : Tls.handshakeReader.conclude {} helloStream =
        (.ok ⟨⟨3, 3⟩, "a"⟩, [1, 2, 3]) := by
      cbv
    have split : helloStream = helloRecord ++ [1, 2, 3] := rfl
    obtain ⟨result, used⟩ := Reader.run_of_conclude Tls.Handshake.exact_handshakeReader.toLively
      Tls.PartialRecord.sound_start gives split concluded
    refine ⟨gives, result, used, hello helloStream helloSource gives ?_⟩
    intro error failed
    cases result.symm.trans failed
  next =>
    have positive : 0 < 7 := by decide
    have gives : Http.crookedSource.Gives Http.crookedHead :=
      ⟨rfl, by decide +kernel, by decide +kernel⟩
    have concluded : (Http.headReader 7).conclude {} Http.crookedHead =
        (.ok ⟨"a\r", true⟩, "Host: c\r".toUTF8.data.toList) := by
      cbv
    have split : Http.crookedHead = Http.crookedHead.take 42 ++ "Host: c\r".toUTF8.data.toList := by
      decide +kernel
    obtain ⟨result, used⟩ :=
      Reader.run_of_conclude (Http.lively_headReader positive) trivial gives split concluded
    have count : (Http.crookedHead.take 42).length = 42 := by decide +kernel
    exact ⟨gives, result, used ▸ count, head 7 Http.crookedHead Http.crookedSource _ positive gives result rfl⟩
  next =>
    obtain ⟨session, ran, finished⟩ := exists_run_helloEvents
    have hostname : session.hostname? = some "a" := by rw [hostname?, finished]
    have gives : sniffedSource.Gives (sniffed helloEvents) :=
      ⟨rfl, by decide +kernel, by decide +kernel⟩
    exact ⟨session, ran, hostname, gives,
      again helloContext 0 helloEvents session "a" ran hostname sniffedSource gives⟩

end Session

end SniffingRelay
