import SniffingRelay.Proofs.Stream.Feeding
import SniffingRelay.Session.Sniffer

set_option autoImplicit false

namespace SniffingRelay

theorem Progress.exists_of_map_eq_settled {S T R Q : Type} {progress : Progress S R} {onState : S -> T}
    {onResult : R -> Q} {result : Q} (mapped : progress.map onState onResult = .settled result) :
    ∃ inner, onResult inner = result := by
  cases progress with
  | more => cases mapped
  | settled inner => exact ⟨inner, Progress.settled.inj mapped⟩

theorem Progress.exists_of_map_eq_more {S T R Q : Type} {progress : Progress S R} {onState : S -> T}
    {onResult : R -> Q} {next : T} (mapped : progress.map onState onResult = .more next) :
    ∃ inner, progress = .more inner ∧ onState inner = next := by
  cases progress with
  | more inner => exact ⟨inner, rfl, Progress.more.inj mapped⟩
  | settled => cases mapped

namespace Reader

variable {S R : Type} {reader : Reader S R}

theorem feed_fst_append {state next : S} {front : List UInt8}
    (fed : (reader.feed state front).1 = .more next) (back : List UInt8) :
    (reader.feed state (front ++ back)).1 = (reader.feed next back).1 := by
  rw [feed_append]
  cases answer : reader.feed state front with
  | mk progress spare =>
    rw [answer] at fed
    cases fed
    rfl

theorem exists_push_of_feed {state : S} {bytes : List UInt8} {result : R}
    (fed : (reader.feed state bytes).1 = .settled result) :
    ∃ last byte, reader.push last byte = .settled result := by
  induction bytes generalizing state with
  | nil => cases fed
  | cons byte bytes ih =>
    rw [feed] at fed
    cases pushed : reader.push state byte with
    | more next =>
      rw [pushed] at fed
      exact ih fed
    | settled last =>
      rw [pushed] at fed
      cases fed
      exact ⟨state, byte, pushed⟩

end Reader

namespace Http.RequestHead

theorem complete_of_takeLine {seen : Seen} {line : List UInt8} {header : HostHeader}
    (taken : takeLine seen line = .settled (.ok header)) : line = [] := by
  unfold takeLine at taken
  split at taken
  next => cases taken
  next =>
    split at taken
    next empty => exact List.isEmpty_iff.mp empty
    next =>
      split at taken
      next => cases taken
      next => cases taken
      next => split at taken <;> cases taken

theorem incomplete_of_finish {state : RequestHead} {stop : Stop} {header : HostHeader}
    (finished : state.finish stop = .ok header) : header.complete = false := by
  cases stop with
  | failed fault => cases finished
  | ended =>
    simp only [finish] at finished
    split at finished
    next result settled =>
      subst finished
      unfold takeRest at settled
      split at settled
      next => cases settled
      next some_left =>
        have none_left := complete_of_takeLine settled
        rw [Array.toList_eq_nil_iff] at none_left
        exact absurd (Array.isEmpty_iff.mpr none_left) some_left
    next => cases finished
    next => exact Except.ok.inj finished ▸ rfl

end Http.RequestHead

namespace Sniffer

theorem stage_of_ofHello {result : Except Tls.HelloError Tls.Hello} {failure : Failure}
    (failed : ofHello result = .error failure) : failure.stage = .sniffing := by
  cases result with
  | error => exact Except.error.inj failed ▸ rfl
  | ok => cases failed

theorem stage_of_ofHostHeader {result : Except Http.HeaderError Http.HostHeader} {failure : Failure}
    (failed : ofHostHeader result = .error failure) : failure.stage = .sniffing := by
  cases result with
  | error => exact Except.error.inj failed ▸ rfl
  | ok header =>
    simp only [ofHostHeader] at failed
    split at failed
    next => cases failed
    next => exact Except.error.inj failed ▸ rfl

theorem stage_of_push {sniffer : Sniffer} {byte : UInt8} {failure : Failure}
    (pushed : reader.push sniffer byte = .settled (.error failure)) : failure.stage = .sniffing := by
  cases sniffer with
  | tls state =>
    obtain ⟨result, converted⟩ := Progress.exists_of_map_eq_settled pushed
    exact stage_of_ofHello converted
  | http state =>
    obtain ⟨result, converted⟩ := Progress.exists_of_map_eq_settled pushed
    exact stage_of_ofHostHeader converted

theorem stage_of_feed {sniffer : Sniffer} {bytes : List UInt8} {failure : Failure}
    (fed : (reader.feed sniffer bytes).1 = .settled (.error failure)) :
    failure.stage = .sniffing := by
  obtain ⟨last, byte, pushed⟩ := Reader.exists_push_of_feed fed
  exact stage_of_push pushed

theorem finish_eq_error (sniffer : Sniffer) (stop : Stop) :
    ∃ failure, reader.finish sniffer stop = .error failure ∧ failure.stage = .sniffing := by
  cases sniffer with
  | tls state => exact ⟨_, rfl, rfl⟩
  | http state =>
    have converted : reader.finish (.http state) stop = ofHostHeader (state.finish stop) := rfl
    rw [converted]
    cases answer : state.finish stop with
    | error cause => exact ⟨_, rfl, rfl⟩
    | ok header =>
      have incomplete := Http.RequestHead.incomplete_of_finish answer
      refine ⟨.incompleteHeaders, ?_, rfl⟩
      simp [ofHostHeader, incomplete]

end Sniffer

end SniffingRelay
