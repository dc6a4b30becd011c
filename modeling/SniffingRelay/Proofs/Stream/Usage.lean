import SniffingRelay.Proofs.Stream.Feeding

set_option autoImplicit false

namespace SniffingRelay

namespace Recording

-- A source from which nothing was taken yet, and that holds these bytes and then ends. How they
-- arrive is left open.
structure Gives (source : Recording) (bytes : List UInt8) : Prop where
  fresh : source.heard.toList = []
  steady : source.Steady
  sent : source.remaining = bytes

theorem heard_read {room : Nat} {source next : Recording} {result : Except Fault (List UInt8)}
    (answer : source.read room = (result, next)) :
    next.heard.toList = source.heard.toList ++ result.toOption.getD [] := by
  unfold read at answer
  split at answer
  next =>
    obtain ⟨rfl, rfl⟩ := Prod.mk.inj answer
    exact (List.append_nil _).symm
  next =>
    obtain ⟨rfl, rfl⟩ := Prod.mk.inj answer
    exact (List.append_nil _).symm
  next =>
    obtain ⟨rfl, rfl⟩ := Prod.mk.inj answer
    exact Transcript.toList_append ..

end Recording

def Reading.used {R : Type} (reading : Reading R) : List UInt8 :=
  let heard := reading.source.heard.toList
  heard.take (heard.length - reading.spare.length)

namespace Reader

variable {S R : Type} {reader : Reader S R}

theorem spare_of_feed_more {state next : S} {bytes spare : List UInt8}
    (fed : reader.feed state bytes = (.more next, spare)) : spare = [] := by
  induction bytes generalizing state with
  | nil => exact (Prod.mk.inj fed).2.symm
  | cons byte bytes ih =>
    rw [feed] at fed
    split at fed
    next => exact ih fed
    next => cases fed

theorem exists_front_of_feed {state : S} {bytes rest : List UInt8} {result : R}
    (fed : reader.feed state bytes = (.settled result, rest)) :
    ∃ front, bytes = front ++ rest ∧
      (∀ tail, reader.feed state (front ++ tail) = (.settled result, tail)) ∧
      ∀ count, count < front.length →
        ∃ next, reader.feed state (front.take count) = (.more next, []) := by
  induction bytes generalizing state with
  | nil => cases fed
  | cons byte bytes ih =>
    rw [feed] at fed
    split at fed
    next next pushed =>
      obtain ⟨front, rfl, settles, waits⟩ := ih fed
      refine ⟨byte :: front, rfl, ?_, ?_⟩
      next =>
        intro tail
        rw [List.cons_append, feed, pushed]
        exact settles tail
      next =>
        intro count short
        cases count with
        | zero => exact ⟨state, rfl⟩
        | succ count =>
          obtain ⟨last, fed⟩ := waits count (Nat.lt_of_succ_lt_succ short)
          refine ⟨last, ?_⟩
          rw [List.take_succ_cons, feed, pushed]
          exact fed
    next last pushed =>
      obtain ⟨settled, rfl⟩ := Prod.mk.inj fed
      obtain rfl := Progress.settled.inj settled
      refine ⟨[byte], rfl, ?_, ?_⟩
      next =>
        intro tail
        rw [List.singleton_append, feed, pushed]
      next =>
        intro count short
        obtain rfl : count = 0 := Nat.lt_one_iff.mp short
        exact ⟨state, rfl⟩

theorem exists_heard_run (state : S) (source : Recording) :
    ∃ used, (reader.run state source).source.heard.toList =
      source.heard.toList ++ used ++ (reader.run state source).spare := by
  fun_induction reader.run state source with
  | case1 _ _ _ answer => exact ⟨[], by simp [Recording.heard_read answer, Except.toOption]⟩
  | case2 _ _ _ answer _ _ _ ih =>
    obtain ⟨used, heard⟩ := ih
    exact ⟨used, by rw [heard, Recording.heard_read answer]; simp [Except.toOption]⟩
  | case3 _ _ _ answer => exact ⟨[], by simp [Recording.heard_read answer, Except.toOption]⟩
  | case4 _ _ first more _ answer _ _ fed =>
    obtain ⟨front, split, -⟩ := exists_front_of_feed fed
    exact ⟨front, by simp [Recording.heard_read answer, Except.toOption, split]⟩
  | case5 _ _ first more _ answer _ _ _ ih =>
    obtain ⟨used, heard⟩ := ih
    refine ⟨first :: more ++ used, ?_⟩
    rw [heard, Recording.heard_read answer]
    simp [Except.toOption]
  | case6 _ _ _ _ answer _ ih =>
    obtain ⟨used, heard⟩ := ih
    exact ⟨used, by rw [heard, Recording.heard_read answer]; simp [Except.toOption]⟩
  | case7 _ _ _ _ answer => exact ⟨[], by simp [Recording.heard_read answer, Except.toOption]⟩

theorem length_spare_run_le {limit : Nat} (bounded : ∀ state, reader.room state ≤ limit) (state : S)
    (source : Recording) : (reader.run state source).spare.length ≤ limit := by
  fun_induction reader.run state source with
  | case4 state _ _ _ _ answer _ spare fed =>
    obtain ⟨front, split, -⟩ := exists_front_of_feed fed
    have size := congrArg List.length split
    rw [List.length_append] at size
    have taken := Recording.length_le_of_read answer
    have room := bounded state
    change spare.length ≤ limit
    omega
  | case2 _ _ _ _ _ _ _ ih | case5 _ _ _ _ _ _ _ _ _ ih | case6 _ _ _ _ _ _ ih => exact ih
  | case1 | case3 | case7 => exact Nat.zero_le _

section

variable {Sound : S -> Prop} {state : S} {source : Recording} {bytes : List UInt8}

theorem used_append_spare (fresh : source.heard.toList = []) :
    (reader.run state source).used ++ (reader.run state source).spare =
      (reader.run state source).source.heard.toList := by
  obtain ⟨used, heard⟩ := reader.exists_heard_run state source
  rw [fresh, List.nil_append] at heard
  rw [Reading.used, heard]
  simp

theorem heard_append_remaining (gives : source.Gives bytes) :
    (reader.run state source).source.heard.toList ++ (reader.run state source).source.remaining =
      bytes := by
  have whole := reader.whole_run state source
  rwa [Recording.whole, Recording.whole, gives.fresh, List.nil_append, gives.sent] at whole

theorem conclude_run (lively : reader.Lively Sound) (sound : Sound state)
    (gives : source.Gives bytes) : ∃ rest,
      reader.conclude state bytes = ((reader.run state source).result, rest) ∧
        bytes = (reader.run state source).used ++ rest := by
  have ran := run_steady lively sound gives.steady
  rw [gives.sent] at ran
  refine ⟨_, ran.symm, ?_⟩
  rw [← List.append_assoc, used_append_spare gives.fresh, heard_append_remaining gives]

theorem run_of_conclude (lively : reader.Lively Sound) (sound : Sound state)
    (gives : source.Gives bytes) {front rest : List UInt8} {result : R}
    (split : bytes = front ++ rest) (concluded : reader.conclude state bytes = (result, rest)) :
    (reader.run state source).result = result ∧ (reader.run state source).used = front := by
  obtain ⟨rest', same, used⟩ := conclude_run lively sound gives
  obtain ⟨rfl, rfl⟩ := Prod.mk.inj (concluded.symm.trans same)
  exact ⟨rfl, (List.append_cancel_right (split.symm.trans used)).symm⟩

theorem settled_or_ended (lively : reader.Lively Sound) (sound : Sound state)
    (gives : source.Gives bytes) :
    (∃ rest, reader.feed state bytes = (.settled (reader.run state source).result, rest) ∧
        bytes = (reader.run state source).used ++ rest) ∨
      ∃ last, reader.feed state bytes = (.more last, []) ∧
        (reader.run state source).result = reader.finish last .ended := by
  obtain ⟨rest, concluded, split⟩ := conclude_run lively sound gives
  rw [conclude] at concluded
  split at concluded
  next last spare fed =>
    obtain rfl := spare_of_feed_more fed
    exact .inr ⟨last, fed, (Prod.mk.inj concluded).1.symm⟩
  next result spare fed =>
    obtain ⟨rfl, rfl⟩ := Prod.mk.inj concluded
    exact .inl ⟨spare, fed, split⟩

/-- The bytes that a reading uses settle it, whatever comes after them, and as long as one of them is
missing it is left open. -/
structure Delimits (reader : Reader S R) (state : S) (bytes : List UInt8) (reading : Reading R)
    (Open : R -> Prop) : Prop where
  settles : ∀ bytes' source', source'.Gives bytes' →
    bytes'.take reading.used.length = bytes.take reading.used.length →
      (reader.run state source').result = reading.result ∧
        (reader.run state source').used = reading.used
  waits : ∀ count source', count < reading.used.length → source'.Gives (bytes.take count) →
    Open (reader.run state source').result

theorem delimits_of_settled (lively : reader.Lively Sound) (sound : Sound state)
    (gives : source.Gives bytes) {rest : List UInt8} {Open : R -> Prop}
    (opens : ∀ last, Open (reader.finish last .ended))
    (fed : reader.feed state bytes = (.settled (reader.run state source).result, rest)) :
    reader.Delimits state bytes (reader.run state source) Open := by
  obtain ⟨front, split, settles, waits⟩ := exists_front_of_feed fed
  have concluded : reader.conclude state bytes = ((reader.run state source).result, rest) := by
    rw [conclude, fed]
  obtain ⟨-, used⟩ := run_of_conclude lively sound gives split concluded
  constructor
  next =>
    intro bytes' source' gives' agree
    have split' := List.take_append_drop front.length bytes'
    rw [used, split, List.take_left] at agree
    rw [agree] at split'
    rw [used]
    refine run_of_conclude lively sound gives' split'.symm ?_
    rw [conclude, ← split', settles]
    simp
  next =>
    intro count source' short gives'
    rw [used] at short
    rw [split, List.take_append_of_le_length (Nat.le_of_lt short)] at gives'
    obtain ⟨last, fed'⟩ := waits count short
    have ended : reader.conclude state (front.take count) = (reader.finish last .ended, []) := by
      rw [conclude, fed']
    obtain ⟨result, -⟩ := run_of_conclude lively sound gives' (List.append_nil _).symm ended
    rw [result]
    exact opens last

end

end Reader

end SniffingRelay
