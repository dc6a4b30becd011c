import SniffingRelay.Proofs.Stream.ExactReads

set_option autoImplicit false

namespace SniffingRelay

/-- What can be read exactly. A read that fails may have taken bytes, but never more than it was
for. -/
structure Supply (S : Type) where
  exactly : Nat -> S -> Except Fault (List UInt8) × S
  -- All bytes that were taken so far.
  heard : S -> List UInt8
  bounded : ∀ count source, ∃ taken : List UInt8, taken.length ≤ count ∧
    heard (exactly count source).2 = heard source ++ taken ∧
      ∀ bytes, (exactly count source).1 = .ok bytes → bytes = taken ∧ bytes.length = count

def Recording.supply : Supply Recording where
  exactly := readExactly
  heard source := source.heard.toList
  bounded count source := by
    obtain ⟨answered, recorded⟩ := readExactly_eq count source
    refine ⟨source.ready.take count, List.length_take_le .., recorded, ?_⟩
    intro bytes read
    rw [answered] at read
    split at read
    next ready =>
      obtain rfl := Except.ok.inj read
      exact ⟨rfl, List.length_take_of_le ready⟩
    next => cases read

def Supply.endless (bytes : Nat -> UInt8) : Supply Nat where
  exactly count taken := (.ok ((List.range count).map fun index => bytes (taken + index)), taken + count)
  heard taken := (List.range taken).map bytes
  bounded count taken := by
    refine ⟨(List.range count).map fun index => bytes (taken + index), by simp, ?_, ?_⟩
    next => simp [List.range_add]
    next =>
      intro read same
      obtain rfl := Except.ok.inj same
      simp

namespace Reader

variable {S R : Type} {reader : Reader S R} {count : Nat} {collect : List UInt8 -> S}
  {full : List UInt8 -> Progress S R} {fail : Fault -> R}

theorem run_eq (reader : Reader S R) (state : S) (source : Recording) :
    reader.run state source =
      match source.read (reader.room state) with
      | (.ok [], next) =>
          match reader.resume state with
          | none => ⟨reader.finish state .ended, [], next⟩
          | some later =>
              if next.weight < source.weight then reader.run later next
              else ⟨reader.finish state .ended, [], next⟩
      | (.ok (first :: more), next) =>
          match reader.feed state (first :: more) with
          | (.settled result, spare) => ⟨result, spare, next⟩
          | (.more later, _) => reader.run later next
      | (.error fault, next) =>
          if fault.isInterruption then reader.run state next
          else ⟨reader.finish state (.failed fault), [], next⟩ := by
  rw [run]
  split
  all_goals
    next answer =>
      rewrite [answer]
      rfl

-- The states that `collect` gives are those of a buffer of `count` bytes that fills up.
structure Collects (reader : Reader S R) (count : Nat) (collect : List UInt8 -> S)
    (full : List UInt8 -> Progress S R) (fail : Fault -> R) : Prop where
  room : ∀ got, reader.room (collect got) = count - got.length
  push : ∀ got byte, got.length < count → reader.push (collect got) byte =
    if got.length + 1 < count then .more (collect (got ++ [byte])) else full (got ++ [byte])
  finish : ∀ got stop, reader.finish (collect got) stop = fail stop.fault
  resume : ∀ got, reader.resume (collect got) = none

theorem Collects.feed (collects : reader.Collects count collect full fail) {got bytes : List UInt8}
    (more : bytes ≠ []) (fits : got.length + bytes.length ≤ count) :
    reader.feed (collect got) bytes =
      (if got.length + bytes.length < count then .more (collect (got ++ bytes))
        else full (got ++ bytes), []) := by
  induction bytes generalizing got with
  | nil => exact absurd rfl more
  | cons byte bytes ih =>
    rw [List.length_cons] at fits
    rw [Reader.feed, collects.push got byte (by omega)]
    by_cases single : bytes = []
    next =>
      subst single
      by_cases space : got.length + 1 < count
      next => simp [space, Reader.feed]
      next =>
        simp only [space, if_false]
        cases full (got ++ [byte]) <;> simp [space, Reader.feed]
    next =>
      have present := List.length_pos_iff.mpr single
      have space : got.length + 1 < count := by omega
      simp only [space, if_true]
      rw [ih single (by simp only [List.length_append, List.length_singleton]; omega)]
      simp [Nat.add_comm, Nat.add_left_comm]

def proceed (reader : Reader S R) : Progress S R -> Recording -> Reading R
  | .settled result, source => ⟨result, [], source⟩
  | .more state, source => reader.run state source

-- A read that does not fill the buffer leaves one that is fuller.
theorem Collects.run_of_read (collects : reader.Collects count collect full fail)
    {got more : List UInt8} {first : UInt8} {source next : Recording}
    (answer : source.read (count - got.length) = (.ok (first :: more), next))
    (space : got.length < count) :
    reader.run (collect got) source =
      if more.length + 1 < count - got.length then reader.run (collect (got ++ first :: more)) next
      else reader.proceed (full (got ++ first :: more)) next := by
  have taken := Recording.length_le_of_read answer
  rw [List.length_cons] at taken
  rw [run_eq, collects.room, answer]
  dsimp only
  rw [collects.feed (List.cons_ne_nil first more) (by rw [List.length_cons]; omega), List.length_cons]
  by_cases part : more.length + 1 < count - got.length
  next => rw [if_pos (by omega), if_pos part]
  next =>
    rw [if_neg (by omega), if_neg part]
    cases full (got ++ first :: more) <;> rfl

theorem Collects.run (collects : reader.Collects count collect full fail) {got : List UInt8}
    (space : got.length < count) (source : Recording) :
    reader.run (collect got) source =
      match source.readExactly (count - got.length) with
      | (.ok bytes, next) => reader.proceed (full (got ++ bytes)) next
      | (.error fault, next) => ⟨fail fault, [], next⟩ := by
  generalize missing : count - got.length = left
  fun_induction Recording.readExactly left source generalizing got with
  | case1 => omega
  | case2 left source needed next answer =>
    rw [run_eq, collects.room, missing, answer]
    simp only [collects.resume, collects.finish]
    rfl
  | case3 left source needed first more next answer rest last continued ih =>
    rw [← missing] at answer
    rw [collects.run_of_read answer space]
    by_cases part : more.length + 1 < count - got.length
    next =>
      rw [if_pos part, ih (by simp; omega) (by simp; omega), continued]
      simp
    next =>
      rw [if_neg part]
      have nothing : left - (more.length + 1) = 0 := by omega
      rw [nothing, Recording.readExactly] at continued
      cases continued
      simp
  | case4 left source needed first more next answer fault last continued ih =>
    rw [← missing] at answer
    rw [collects.run_of_read answer space]
    by_cases part : more.length + 1 < count - got.length
    next => rw [if_pos part, ih (by simp; omega) (by simp; omega), continued]
    next =>
      have nothing : left - (more.length + 1) = 0 := by omega
      rw [nothing, Recording.readExactly] at continued
      cases continued
  | case5 left source needed fault next answer interruption ih =>
    rw [run_eq, collects.room, missing, answer]
    simp only [interruption, if_true]
    exact ih space missing
  | case6 left source needed fault next answer reported =>
    rw [run_eq, collects.room, missing, answer]
    simp only [reported, collects.finish]
    rfl

theorem Collects.run_of_ok (collects : reader.Collects count collect full fail)
    (positive : 0 < count) {source next : Recording} {bytes : List UInt8}
    (read : source.readExactly count = (.ok bytes, next)) :
    reader.run (collect []) source = reader.proceed (full bytes) next := by
  have space : ([] : List UInt8).length < count := positive
  rw [collects.run space, List.length_nil, Nat.sub_zero, read]
  rfl

theorem Collects.run_of_error (collects : reader.Collects count collect full fail)
    (positive : 0 < count) {source next : Recording} {fault : Fault}
    (read : source.readExactly count = (.error fault, next)) :
    reader.run (collect []) source = ⟨fail fault, [], next⟩ := by
  have space : ([] : List UInt8).length < count := positive
  rw [collects.run space, List.length_nil, Nat.sub_zero, read]

end Reader

end SniffingRelay
