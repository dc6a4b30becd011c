import SniffingRelay.Proofs.Stream.Usage

set_option autoImplicit false

namespace SniffingRelay

def Arrival.untilStop : List Arrival -> List UInt8 × Fault
  | [] => ([], .earlyEnd)
  | .bytes [] :: _ => ([], .earlyEnd)
  | .bytes (first :: more) :: later =>
      (first :: more ++ (untilStop later).1, (untilStop later).2)
  | .fault cause :: later => if cause.isInterruption then untilStop later else ([], cause)

namespace Recording

variable {source next : Recording} {room count : Nat} {fault : Fault}

def ready (source : Recording) : List UInt8 := (Arrival.untilStop source.ahead).1

def stop (source : Recording) : Fault := (Arrival.untilStop source.ahead).2

theorem untilStop_of_read_nil (positive : 0 < room) (answer : source.read room = (.ok [], next)) :
    source.ready = [] ∧ source.stop = .earlyEnd := by
  obtain ⟨ahead, heard⟩ := source
  match ahead with
  | [] => exact ⟨rfl, rfl⟩
  | .bytes [] :: _ => exact ⟨rfl, rfl⟩
  | .bytes (first :: more) :: _ =>
    obtain ⟨less, rfl⟩ := Nat.exists_eq_add_one.mpr positive
    simp [read] at answer
  | .fault _ :: _ => simp [read] at answer

theorem untilStop_of_read_cons {first : UInt8} {more : List UInt8}
    (answer : source.read room = (.ok (first :: more), next)) :
    source.ready = first :: more ++ next.ready ∧ source.stop = next.stop := by
  obtain ⟨ahead, heard⟩ := source
  match ahead with
  | [] => simp [read] at answer
  | .bytes [] :: _ => simp [read] at answer
  | .fault _ :: _ => simp [read] at answer
  | .bytes (head :: tail) :: later =>
    have whole := List.take_append_drop room (head :: tail)
    simp only [read, List.splitAt_eq, Prod.mk.injEq, Except.ok.injEq] at answer
    obtain ⟨taken, rfl⟩ := answer
    rw [taken] at whole
    cases kept : (head :: tail).drop room with
    | nil =>
      rw [kept, List.append_nil] at whole
      simp [ready, stop, Arrival.untilStop, ← whole]
    | cons first' more' =>
      rw [kept] at whole
      simp [ready, stop, Arrival.untilStop, ← whole]

theorem untilStop_of_read_error (answer : source.read room = (.error fault, next)) :
    (source.ready, source.stop) =
      if fault.isInterruption then (next.ready, next.stop) else ([], fault) := by
  obtain ⟨ahead, heard⟩ := source
  match ahead with
  | [] => simp [read] at answer
  | .bytes _ :: _ => simp [read] at answer
  | .fault cause :: later =>
    obtain ⟨same, rfl⟩ := Prod.mk.inj answer
    obtain rfl := Except.error.inj same
    rfl

-- What is missing after a read is ready just when all was before it.
theorem take_ready_of_read {first : UInt8} {more : List UInt8}
    (answer : source.read count = (.ok (first :: more), next)) :
    source.ready.take count = first :: more ++ next.ready.take (count - (more.length + 1)) ∧
      (count ≤ source.ready.length ↔ count - (more.length + 1) ≤ next.ready.length) := by
  have fits := length_le_of_read answer
  obtain ⟨split, -⟩ := untilStop_of_read_cons answer
  rw [split, List.take_append, List.take_of_length_le fits]
  refine ⟨rfl, ?_⟩
  rw [List.length_append]
  rw [List.length_cons] at fits ⊢
  omega

theorem readExactly_eq (count : Nat) (source : Recording) :
    (source.readExactly count).1 =
      (if count ≤ source.ready.length then .ok (source.ready.take count) else .error source.stop) ∧
    (source.readExactly count).2.heard.toList =
      source.heard.toList ++ source.ready.take count := by
  fun_induction readExactly count source with
  | case1 source => simp
  | case2 count source needed next answer =>
    obtain ⟨exhausted, stopped⟩ := untilStop_of_read_nil (Nat.pos_of_ne_zero needed) answer
    simp [exhausted, stopped, needed, heard_read answer, Except.toOption]
  | case3 count source needed first more next answer rest last continued ih =>
    obtain ⟨taken, enough⟩ := take_ready_of_read answer
    rw [continued] at ih
    obtain ⟨answered, recorded⟩ := ih
    split at answered
    next ready =>
      rw [if_pos (enough.mpr ready), taken, Except.ok.inj answered]
      refine ⟨rfl, recorded.trans ?_⟩
      simp [heard_read answer, Except.toOption]
    next => cases answered
  | case4 count source needed first more next answer fault last continued ih =>
    obtain ⟨taken, enough⟩ := take_ready_of_read answer
    obtain ⟨-, stopped⟩ := untilStop_of_read_cons answer
    rw [continued] at ih
    obtain ⟨answered, recorded⟩ := ih
    split at answered
    next => cases answered
    next short =>
      rw [if_neg (mt enough.mp short), taken, stopped, Except.error.inj answered]
      refine ⟨rfl, recorded.trans ?_⟩
      simp [heard_read answer, Except.toOption]
  | case5 count source needed fault next answer interruption ih =>
    have passed := untilStop_of_read_error answer
    rw [if_pos interruption, Prod.mk.injEq] at passed
    rw [passed.1, passed.2]
    refine ⟨ih.1, ih.2.trans ?_⟩
    simp [heard_read answer, Except.toOption]
  | case6 count source needed fault next answer reported =>
    have stopped := untilStop_of_read_error answer
    rw [if_neg reported, Prod.mk.injEq] at stopped
    simp [stopped, needed, heard_read answer, Except.toOption]

end Recording

end SniffingRelay
