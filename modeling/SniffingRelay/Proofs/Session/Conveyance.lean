import SniffingRelay.Proofs.Session.History

set_option autoImplicit false

namespace SniffingRelay.Session

def ShutLast (sink : Side) (events : List Event) : Prop :=
  ∃ front back, events = front ++ .shut sink :: back ∧ ∀ count, .accepted sink count ∉ back

structure Stopped (events : List Event) (source : Side) (before : Nat) (heard told : List UInt8)
    (moved : Nat) : Prop where
  front : told <+: heard
  counted : before + moved ≤ told.length
  complete : (∀ fault, .writeFailed source.other fault ∉ relayed events) →
    told = heard ∧ before + moved = told.length
  cause : (∃ fault, .writeFailed source.other fault ∈ relayed events) ∨
    (∃ fault, .readFailed source fault ∈ relayed events) ∨ .ended source ∈ relayed events

/-- What the half that reads from `source` has made of the bytes it heard, when the other side had
been told `before` bytes of them in advance. -/
inductive Conveys (events : List Event) (source : Side) (before : Nat) (heard told : List UInt8)
    (shuts : Nat) : Half -> Prop where
  | reading {moved : Nat} (all : told = heard) (counted : before + moved = told.length)
      (unshut : shuts = 0) : Conveys events source before heard told shuts ⟨moved, .reading⟩
  | writing {moved size : Nat} {unsent : List UInt8} (all : told ++ unsent = heard)
      (counted : before + moved + size = heard.length) (rest : unsent.length ≤ size)
      (unshut : shuts = 0) :
      Conveys events source before heard told shuts ⟨moved, .writing size unsent⟩
  | shutting {moved : Nat} (stopped : Stopped events source before heard told moved)
      (unshut : shuts = 0) : Conveys events source before heard told shuts ⟨moved, .shutting⟩
  | finished {moved : Nat} (stopped : Stopped events source before heard told moved)
      (shut : shuts = 1) (last : ShutLast source.other events) :
      Conveys events source before heard told shuts ⟨moved, .finished⟩

section

variable {events : List Event} {source : Side} {before shuts : Nat} {heard told : List UInt8}

theorem Stopped.later {moved : Nat} (stopped : Stopped events source before heard told moved)
    (connected : isConnected events = true) (event : Event) :
    Stopped (events ++ [event]) source before heard told moved where
  front := stopped.front
  counted := stopped.counted
  complete unfailed := by
    apply stopped.complete
    intro fault found
    exact unfailed fault (relayed_append connected _ ▸ List.mem_append_left _ found)
  cause := by
    rw [relayed_append connected]
    obtain ⟨fault, found⟩ | ⟨fault, found⟩ | found := stopped.cause
    next => exact .inl ⟨fault, List.mem_append_left _ found⟩
    next => exact .inr (.inl ⟨fault, List.mem_append_left _ found⟩)
    next => exact .inr (.inr (List.mem_append_left _ found))

theorem ShutLast.later {sink : Side} (last : ShutLast sink events) {event : Event}
    (untaken : ∀ count, event ≠ .accepted sink count) : ShutLast sink (events ++ [event]) := by
  obtain ⟨front, back, rfl, after⟩ := last
  refine ⟨front, back ++ [event], by simp, ?_⟩
  intro count found
  rcases List.mem_append.mp found with found | found
  next => exact after count found
  next => exact untaken count (List.mem_singleton.mp found).symm

theorem Conveys.later {half : Half} (conveys : Conveys events source before heard told shuts half)
    (connected : isConnected events = true) {event : Event}
    (untaken : ∀ count, event ≠ .accepted source.other count) :
    Conveys (events ++ [event]) source before heard told shuts half := by
  cases conveys with
  | reading all counted unshut => exact .reading all counted unshut
  | writing all counted rest unshut => exact .writing all counted rest unshut
  | shutting stopped unshut => exact .shutting (stopped.later connected event) unshut
  | finished stopped shut last =>
    exact .finished (stopped.later connected event) shut (last.later untaken)

theorem Conveys.moves {half next : Half} {event : Event} {alive : Bool}
    (conveys : Conveys events source before heard told shuts half)
    (connected : isConnected events = true) (moves : Moves source half event alive next) :
    Conveys (events ++ [event]) source before (heard ++ event.carried source)
      (told ++ event.taken half.unsent source.other)
      (shuts + (event.shuts source.other).toNat) next := by
  -- Every move starts from one stage, so only what is known of that stage is at hand.
  cases moves with
  | @read _ chunk =>
    cases conveys with
    | reading all counted unshut =>
      subst all
      simp only [Event.carried, Event.taken, Event.shuts, if_true, List.append_nil, Bool.toNat_false]
      exact .writing rfl (by rw [List.length_append]; omega) (Nat.le_refl _) unshut
  | ended =>
    cases conveys with
    | reading all counted unshut =>
      simp only [Event.carried, Event.taken, Event.shuts, List.append_nil, Bool.toNat_false]
      refine .shutting ⟨all ▸ List.prefix_refl _, Nat.le_of_eq counted, fun _ => ⟨all, counted⟩, ?_⟩
        unshut
      exact .inr (.inr (by simp [relayed_append connected]))
  | @readFailed _ fault =>
    cases conveys with
    | reading all counted unshut =>
      simp only [Event.carried, Event.taken, Event.shuts, List.append_nil, Bool.toNat_false]
      refine .shutting ⟨all ▸ List.prefix_refl _, Nat.le_of_eq counted, fun _ => ⟨all, counted⟩, ?_⟩
        unshut
      exact .inr (.inl ⟨fault, by simp [relayed_append connected]⟩)
  | @wrote _ _ count unsent =>
    cases conveys with
    | writing all counted rest unshut =>
      simp only [Event.carried, Event.taken, Event.shuts, if_true, Half.unsent, List.append_nil,
        Bool.toNat_false]
      refine .writing ?_ counted (by rw [List.length_drop]; omega) unshut
      rw [List.append_assoc, List.take_append_drop, all]
  | @emptied _ _ unsent =>
    cases conveys with
    | writing all counted rest unshut =>
      simp only [Event.carried, Event.taken, Event.shuts, if_true, Half.unsent, List.append_nil,
        Bool.toNat_false, List.take_length, all]
      exact .reading rfl (by omega) unshut
  | @writeFailed _ _ unsent fault =>
    cases conveys with
    | writing all counted rest unshut =>
      simp only [Event.carried, Event.taken, Event.shuts, List.append_nil, Bool.toNat_false]
      have found : .writeFailed source.other fault ∈
          relayed (events ++ [.writeFailed source.other fault]) := by
        simp [relayed_append connected]
      refine .shutting ⟨⟨unsent, all⟩, ?_, fun unfailed => absurd found (unfailed fault),
        .inl ⟨fault, found⟩⟩ unshut
      have size := congrArg List.length all
      rw [List.length_append] at size
      omega
  | shut =>
    cases conveys with
    | shutting stopped unshut =>
      simp only [Event.carried, Event.taken, Event.shuts, List.append_nil, decide_true,
        Bool.toNat_true, unshut]
      refine .finished (stopped.later connected _) rfl ⟨events, [], rfl, ?_⟩
      intro count found
      exact absurd found List.not_mem_nil

end

end SniffingRelay.Session
