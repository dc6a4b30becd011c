import SniffingRelay.Stream.Reader

set_option autoImplicit false

-- What a reader makes of a source in which nothing ends the stream early depends on the bytes of
-- the source alone, and no byte gets lost on the way.

namespace SniffingRelay

def Arrival.content : Arrival -> List UInt8
  | .bytes piece => piece
  | .fault _ => []

-- A piece without bytes reads as the end, and every other fault than an interruption is reported.
def Arrival.IsSteady : Arrival -> Prop
  | .bytes piece => piece ≠ []
  | .fault cause => cause.isInterruption = true

instance : DecidablePred Arrival.IsSteady
  | .bytes piece => inferInstanceAs (Decidable (piece ≠ []))
  | .fault cause => inferInstanceAs (Decidable (cause.isInterruption = true))

namespace Recording

def remaining (source : Recording) : List UInt8 := source.ahead.flatMap Arrival.content

def Steady (source : Recording) : Prop := ∀ arrival ∈ source.ahead, arrival.IsSteady

instance (source : Recording) : Decidable source.Steady :=
  inferInstanceAs (Decidable (∀ arrival ∈ source.ahead, arrival.IsSteady))

-- The bytes of a source from the first that was ever taken on.
def whole (source : Recording) : List UInt8 := source.heard.toList ++ source.remaining

theorem whole_read (room : Nat) (source : Recording) :
    (source.read room).2.whole = source.whole := by
  unfold read whole remaining
  split
  next => rfl
  next later found => simp [found, Arrival.content]
  next piece later found =>
    have whole := List.take_append_drop room piece
    by_cases last : (piece.drop room).isEmpty = true
    next =>
      rw [List.isEmpty_iff] at last
      rw [last, List.append_nil] at whole
      simp [found, last, Arrival.content, whole]
    next =>
      simp only [found, last, Arrival.content, List.splitAt_eq, Transcript.toList_append,
        List.append_assoc, List.flatMap_cons, Bool.false_eq_true, if_false]
      rw [← List.append_assoc (piece.take room), whole]

theorem whole_of_read {room : Nat} {source next : Recording} {result : Except Fault (List UInt8)}
    (answer : source.read room = (result, next)) : next.whole = source.whole := by
  rw [← whole_read room source, answer]

theorem length_le_of_read {room : Nat} {source next : Recording} {taken : List UInt8}
    (answer : source.read room = (.ok taken, next)) : taken.length ≤ room := by
  unfold read at answer
  split at answer
  next => simp_all
  next => simp at answer
  next piece later found =>
    simp only [List.splitAt_eq, Prod.mk.injEq, Except.ok.injEq] at answer
    rw [← answer.1]
    exact List.length_take_le room piece

-- A read of a steady source meets the end for good, an interruption, or bytes.
theorem read_steady {room : Nat} {source next : Recording} {result : Except Fault (List UInt8)}
    (positive : 0 < room) (steady : source.Steady) (answer : source.read room = (result, next)) :
    match result with
    | .ok [] => next = source ∧ source.remaining = []
    | .ok (first :: more) => (first :: more).length ≤ room ∧ next.Steady ∧
        source.remaining = first :: more ++ next.remaining
    | .error fault => fault.isInterruption = true ∧ next.Steady ∧
        next.remaining = source.remaining := by
  obtain ⟨ahead, heard⟩ := source
  cases ahead with
  | nil =>
    obtain ⟨rfl, rfl⟩ := Prod.mk.inj answer
    exact ⟨rfl, rfl⟩
  | cons arrival later =>
    have now : arrival.IsSteady := steady arrival (by simp)
    have after : ∀ next ∈ later, next.IsSteady := fun next found => steady next (by simp [found])
    cases arrival with
    | fault cause =>
      obtain ⟨rfl, rfl⟩ := Prod.mk.inj answer
      exact ⟨now, after, rfl⟩
    | bytes piece =>
      have some_taken : piece.take room ≠ [] := by
        rw [ne_eq, List.take_eq_nil_iff]
        rintro (none | nothing)
        next => omega
        next => exact now nothing
      obtain ⟨first, more, taken⟩ := List.exists_cons_of_ne_nil some_taken
      have split : piece = first :: more ++ piece.drop room := by
        rw [← taken, List.take_append_drop]
      have bounded : (first :: more).length ≤ room := taken ▸ List.length_take_le room piece
      simp only [read, List.splitAt_eq, taken, Prod.mk.injEq] at answer
      obtain ⟨rfl, rfl⟩ := answer
      refine ⟨bounded, ?_, ?_⟩
      next =>
        intro next found
        split at found
        next => exact after next found
        next kept =>
          cases found with
          | head => simpa [Arrival.IsSteady] using kept
          | tail _ found => exact after next found
      next =>
        simp only [remaining, List.isEmpty_iff, List.flatMap_cons, Arrival.content]
        by_cases last : piece.drop room = []
        next =>
          rw [last, List.append_nil] at split
          rw [if_pos last, ← split]
        next =>
          rw [if_neg last, List.flatMap_cons, Arrival.content, ← List.append_assoc, ← split]

end Recording

namespace Reader

variable {S R : Type} {reader : Reader S R}

theorem feed_append (state : S) (front back : List UInt8) :
    reader.feed state (front ++ back) =
      match reader.feed state front with
      | (.more next, _) => reader.feed next back
      | (.settled result, spare) => (.settled result, spare ++ back) := by
  induction front generalizing state with
  | nil => rfl
  | cons byte front ih =>
    rw [List.cons_append, feed, feed]
    cases reader.push state byte with
    | more next => exact ih next
    | settled result => rfl

-- States in which a read of at least one byte is asked for, and which bytes do not leave.
structure Lively (reader : Reader S R) (Sound : S -> Prop) : Prop where
  room_pos : ∀ state, Sound state → 0 < reader.room state
  push : ∀ state byte next, Sound state → reader.push state byte = .more next → Sound next

theorem Lively.feed {Sound : S -> Prop} (lively : reader.Lively Sound) {state next : S}
    {bytes spare : List UInt8} (sound : Sound state)
    (fed : reader.feed state bytes = (.more next, spare)) : Sound next := by
  induction bytes generalizing state with
  | nil => exact Progress.more.inj (Prod.mk.inj fed).1 ▸ sound
  | cons byte bytes ih =>
    rw [Reader.feed] at fed
    split at fed
    next later pushed => exact ih (lively.push _ _ _ sound pushed) fed
    next => simp at fed

-- What a reader makes of bytes that come in one piece, and the bytes after those it uses.
def conclude (reader : Reader S R) (state : S) (bytes : List UInt8) : R × List UInt8 :=
  match reader.feed state bytes with
  | (.more last, _) => (reader.finish last .ended, [])
  | (.settled result, rest) => (result, rest)

theorem whole_run (state : S) (source : Recording) :
    (reader.run state source).source.whole = source.whole := by
  fun_induction reader.run state source with
  | case1 _ _ _ answer => exact Recording.whole_of_read answer
  | case2 _ _ _ answer _ _ _ ih => exact ih.trans (Recording.whole_of_read answer)
  | case3 _ _ _ answer => exact Recording.whole_of_read answer
  | case4 _ _ _ _ _ answer => exact Recording.whole_of_read answer
  | case5 _ _ _ _ _ answer _ _ _ ih => exact ih.trans (Recording.whole_of_read answer)
  | case6 _ _ _ _ answer _ ih => exact ih.trans (Recording.whole_of_read answer)
  | case7 _ _ _ _ answer => exact Recording.whole_of_read answer

theorem run_steady {Sound : S -> Prop} (lively : reader.Lively Sound) {state : S}
    {source : Recording} (sound : Sound state) (steady : source.Steady) :
    ((reader.run state source).result,
      (reader.run state source).spare ++ (reader.run state source).source.remaining) =
        reader.conclude state source.remaining := by
  -- An end is final here, so the reader cannot resume after one, and interruptions change nothing.
  fun_induction reader.run state source with
  | case1 state _ _ answer =>
    obtain ⟨rfl, exhausted⟩ := Recording.read_steady (lively.room_pos state sound) steady answer
    simp [conclude, exhausted, feed]
  | case2 state _ _ answer _ _ moved =>
    obtain ⟨rfl, -⟩ := Recording.read_steady (lively.room_pos state sound) steady answer
    exact absurd moved (Nat.lt_irrefl _)
  | case3 state _ _ answer =>
    obtain ⟨rfl, exhausted⟩ := Recording.read_steady (lively.room_pos state sound) steady answer
    simp [conclude, exhausted, feed]
  | case4 state _ _ _ _ answer _ _ fed =>
    obtain ⟨-, -, split⟩ := Recording.read_steady (lively.room_pos state sound) steady answer
    simp only [conclude, split, feed_append, fed]
  | case5 state _ _ _ _ answer _ _ fed ih =>
    obtain ⟨-, steady, split⟩ := Recording.read_steady (lively.room_pos state sound) steady answer
    rw [ih (lively.feed sound fed) steady]
    simp only [conclude, split, feed_append, fed]
  | case6 state _ _ _ answer _ ih =>
    obtain ⟨-, steady, same⟩ := Recording.read_steady (lively.room_pos state sound) steady answer
    rw [ih sound steady, same]
  | case7 state _ _ _ answer reported =>
    obtain ⟨interruption, -⟩ := Recording.read_steady (lively.room_pos state sound) steady answer
    exact absurd interruption reported

-- States that ask for no more bytes than they need, so that none is left over.
structure Exact (reader : Reader S R) (Sound : S -> Prop) : Prop extends reader.Lively Sound where
  narrow : ∀ state byte, Sound state → 1 < reader.room state →
    ∃ next, reader.push state byte = .more next ∧ reader.room next + 1 = reader.room state
  final : ∀ state, reader.resume state = none

theorem Exact.feed {Sound : S -> Prop} (exact : reader.Exact Sound) {state : S}
    {bytes spare : List UInt8} {result : R} (sound : Sound state)
    (fits : bytes.length ≤ reader.room state)
    (fed : reader.feed state bytes = (.settled result, spare)) : spare = [] := by
  induction bytes generalizing state with
  | nil => simp [Reader.feed] at fed
  | cons byte bytes ih =>
    rw [List.length_cons] at fits
    rw [Reader.feed] at fed
    by_cases single : bytes = []
    next =>
      subst single
      split at fed
      next => simp [Reader.feed] at fed
      next => exact (Prod.mk.inj fed).2.symm
    next =>
      have more := List.length_pos_iff.mpr single
      obtain ⟨next, pushed, room⟩ := exact.narrow state byte sound (by omega)
      rw [pushed] at fed
      exact ih (exact.push _ _ _ sound pushed) (by omega) fed

theorem Exact.spare_run {Sound : S -> Prop} (exact : reader.Exact Sound) {state : S}
    (source : Recording) (sound : Sound state) : (reader.run state source).spare = [] := by
  fun_induction reader.run state source with
  | case1 => rfl
  | case2 state _ _ _ _ resumed => simp [exact.final state] at resumed
  | case3 => rfl
  | case4 _ _ _ _ _ answer _ _ fed =>
    exact exact.feed sound (Recording.length_le_of_read answer) fed
  | case5 _ _ _ _ _ _ _ _ fed ih => exact ih (exact.toLively.feed sound fed)
  | case6 _ _ _ _ _ _ ih => exact ih sound
  | case7 => rfl

end Reader

end SniffingRelay
