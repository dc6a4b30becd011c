import SniffingRelay.Proofs.Session.Dismissal

set_option autoImplicit false

-- What one half of a splice makes of its own moves: what it delivers of what it reads, what it
-- counts of that, and how it comes to its end.

namespace SniffingRelay

def Move.chunk? : Move -> Option (List UInt8)
  | .read chunk => some chunk
  | _ => none

def Move.taken (offered : List UInt8) : Move -> List UInt8
  | .wrote count => offered.take count
  | _ => []

def Move.copies : Move -> Bool
  | .read _ | .wrote _ => true
  | .sourceStopped | .sinkFailed | .sinkShut => false

def Move.isOfSource : Move -> Bool
  | .read _ | .sourceStopped => true
  | .wrote _ | .sinkFailed | .sinkShut => false

namespace Half

def run : Half -> List Move -> Option Half
  | half, [] => some half
  | half, move :: later => do run (<- half.step move) later

def chunks (moves : List Move) : List (List UInt8) := moves.filterMap Move.chunk?

def writes : Half -> List Move -> List UInt8
  | _, [] => []
  | half, move :: later =>
      move.taken half.unsent ++ ((half.step move).map fun next => writes next later).getD []

inductive Steps : Half -> Move -> Half -> Prop where
  | read {moved : Nat} {chunk : List UInt8} (some_read : chunk ≠ [])
      (fits : chunk.length ≤ chunkLimit) :
      Steps ⟨moved, .reading⟩ (.read chunk) ⟨moved, .writing chunk.length chunk⟩
  | stopped {moved : Nat} : Steps ⟨moved, .reading⟩ .sourceStopped ⟨moved, .shutting⟩
  | wrote {moved size count : Nat} {unsent : List UInt8} (some_taken : 0 < count)
      (some_left : count < unsent.length) :
      Steps ⟨moved, .writing size unsent⟩ (.wrote count) ⟨moved, .writing size (unsent.drop count)⟩
  | emptied {moved size : Nat} {unsent : List UInt8} (some_taken : 0 < unsent.length) :
      Steps ⟨moved, .writing size unsent⟩ (.wrote unsent.length) ⟨moved + size, .reading⟩
  | failed {moved size : Nat} {unsent : List UInt8} :
      Steps ⟨moved, .writing size unsent⟩ .sinkFailed ⟨moved, .shutting⟩
  | shut {moved : Nat} : Steps ⟨moved, .shutting⟩ .sinkShut ⟨moved, .finished⟩

section

variable {half next last : Half} {move : Move} {moves : List Move}

theorem steps_of_step (stepped : half.step move = some next) : Steps half move next := by
  cases move with
  | read chunk =>
    cases Session.moves_of_read .client stepped with
    | read some_read fits => exact .read some_read fits
  | sourceStopped =>
    obtain ⟨moved, rfl, rfl⟩ := Session.stages_of_sourceStopped stepped
    exact .stopped
  | wrote count =>
    have moves := Session.moves_of_wrote .client stepped
    generalize half.isAlive (.wrote count) = alive at moves
    cases moves with
    | wrote some_taken some_left => exact .wrote some_taken some_left
    | emptied some_taken => exact .emptied some_taken
  | sinkFailed =>
    obtain ⟨moved, size, unsent, rfl, rfl⟩ := Session.stages_of_sinkFailed stepped
    exact .failed
  | sinkShut =>
    obtain ⟨moved, rfl, rfl⟩ := Session.stages_of_sinkShut stepped
    exact .shut

theorem run_append (half : Half) (moves later : List Move) :
    half.run (moves ++ later) = (half.run moves).bind fun next => next.run later := by
  induction moves generalizing half with
  | nil => rfl
  | cons move moves ih =>
    rw [List.cons_append, run, run]
    cases half.step move with
    | none => rfl
    | some next => exact ih next

theorem writes_append (ran : half.run moves = some next) (later : List Move) :
    half.writes (moves ++ later) = half.writes moves ++ next.writes later := by
  induction moves generalizing half with
  | nil => exact Option.some.inj ran ▸ rfl
  | cons move moves ih =>
    obtain ⟨between, stepped, ran⟩ := Option.bind_eq_some_iff.mp ran
    simp [writes, stepped, ih ran]

theorem run_preserves (Holds : List Move -> Half -> Prop)
    (preserved : ∀ history half move next, Holds history half → half.step move = some next →
      Holds (history ++ [move]) next)
    {history : List Move} (holds : Holds history half) (ran : half.run moves = some last) :
    Holds (history ++ moves) last := by
  induction moves generalizing history half with
  | nil =>
    rw [List.append_nil]
    exact Option.some.inj ran ▸ holds
  | cons move moves ih =>
    obtain ⟨next, stepped, ran⟩ := Option.bind_eq_some_iff.mp ran
    have later := ih (preserved history half move next holds stepped) ran
    rwa [List.append_assoc] at later

-- The sink of a finished half was shut, and nothing happens to the half any more.
theorem eq_nil_of_run_finished (finished : half.isFinished = true)
    (ran : half.run moves = some last) : moves = [] := by
  obtain ⟨moved, stage⟩ := half
  obtain rfl : stage = .finished := of_decide_eq_true finished
  cases moves with
  | nil => rfl
  | cons move moves => cases move <;> cases ran

theorem isOfSource_of_step (stepped : half.step move = some next) :
    move.isOfSource = decide (half.stage = .reading) := by
  cases steps_of_step stepped <;> rfl

-- A half has one thing to wait for at a time, so what its source does and what its sink does
-- already say in which order they do it.
theorem moves_eq_of_ends {moves' : List Move} {last' : Half} (ran : half.run moves = some last)
    (ran' : half.run moves' = some last')
    (sources : moves.filter Move.isOfSource = moves'.filter Move.isOfSource)
    (sinks : moves.filter (!·.isOfSource) = moves'.filter (!·.isOfSource)) : moves = moves' := by
  induction moves generalizing half moves' with
  | nil =>
    cases moves' with
    | nil => rfl
    | cons move' moves' => cases kind : move'.isOfSource <;> simp [kind] at sources sinks
  | cons move moves ih =>
    obtain ⟨next, stepped, ran⟩ := Option.bind_eq_some_iff.mp ran
    have kind := isOfSource_of_step stepped
    cases moves' with
    | nil => cases kind : move.isOfSource <;> simp [kind] at sources sinks
    | cons move' moves' =>
      obtain ⟨next', stepped', ran'⟩ := Option.bind_eq_some_iff.mp ran'
      have kind' := isOfSource_of_step stepped'
      rw [← kind] at kind'
      have same : move = move' ∧ moves.filter Move.isOfSource = moves'.filter Move.isOfSource ∧
          moves.filter (!·.isOfSource) = moves'.filter (!·.isOfSource) := by
        cases own : move.isOfSource with
        | true =>
          simp only [own, kind', List.filter_cons, if_true, List.cons.injEq] at sources
          simp [own, kind'] at sinks
          exact ⟨sources.1, sources.2, sinks⟩
        | false =>
          simp [own, kind'] at sources sinks
          exact ⟨sinks.1, sources, sinks.2⟩
      obtain ⟨rfl, sources, sinks⟩ := same
      obtain rfl := Option.some.inj (stepped.symm.trans stepped')
      rw [ih ran ran' sources sinks]

end

/-- Chunks are written one after the other. `whole` counts the bytes of those that were written as a
whole, and `left` is what is missing of the one after them. -/
inductive Tally : List (List UInt8) -> List UInt8 -> Nat -> List UInt8 -> Prop where
  | even (chunks : List (List UInt8)) : Tally chunks chunks.flatten chunks.flatten.length []
  | odd (chunks : List (List UInt8)) {part left : List UInt8} (some_left : left ≠ [])
      (fits : (part ++ left).length ≤ chunkLimit) :
      Tally (chunks ++ [part ++ left]) (chunks.flatten ++ part) chunks.flatten.length left

namespace Tally

variable {chunks : List (List UInt8)} {written left : List UInt8} {whole : Nat}

theorem all (tally : Tally chunks written whole left) : written ++ left = chunks.flatten := by
  cases tally <;> simp

theorem front (tally : Tally chunks written whole left) : written <+: chunks.flatten :=
  ⟨left, tally.all⟩

theorem complete (tally : Tally chunks written whole []) :
    written = chunks.flatten ∧ whole = chunks.flatten.length := by
  cases tally with
  | even => exact ⟨rfl, rfl⟩
  | odd _ some_left => exact absurd rfl some_left

theorem whole_eq (tally : Tally chunks written whole left) (all : written = chunks.flatten) :
    whole = written.length := by
  have rest := tally.all
  rw [← all, List.append_right_eq_self] at rest
  subst rest
  rw [all]
  exact tally.complete.2

theorem bounded (tally : Tally chunks written whole left) :
    whole ≤ written.length ∧ written.length < whole + chunkLimit := by
  cases tally with
  | even => exact ⟨Nat.le_refl _, Nat.lt_add_of_pos_right (by decide)⟩
  | odd _ some_left fits =>
    have missing := List.length_pos_iff.mpr some_left
    simp only [List.length_append] at fits ⊢
    omega

theorem left_le (tally : Tally chunks written whole left) : left.length ≤ chunkLimit := by
  cases tally with
  | even => exact Nat.zero_le _
  | odd _ _ fits =>
    rw [List.length_append] at fits
    exact Nat.le_trans (Nat.le_add_left _ _) fits

theorem read (tally : Tally chunks written whole []) {chunk : List UInt8} (some_read : chunk ≠ [])
    (fits : chunk.length ≤ chunkLimit) : Tally (chunks ++ [chunk]) written whole chunk := by
  obtain ⟨rfl, rfl⟩ := tally.complete
  have begun : Tally (chunks ++ [[] ++ chunk]) (chunks.flatten ++ []) chunks.flatten.length chunk :=
    .odd chunks some_read fits
  rwa [List.append_nil] at begun

theorem wrote (tally : Tally chunks written whole left) {count : Nat}
    (some_left : count < left.length) :
    Tally chunks (written ++ left.take count) whole (left.drop count) := by
  cases tally with
  | even => exact absurd some_left (Nat.not_lt_zero _)
  | @odd chunks part _ _ fits =>
    have same : part ++ left = part ++ left.take count ++ left.drop count := by simp
    have later : left.drop count ≠ [] := by simpa using some_left
    rw [same] at fits ⊢
    rw [List.append_assoc chunks.flatten]
    exact .odd chunks later fits

theorem emptied (tally : Tally chunks written whole left) :
    Tally chunks (written ++ left) (written ++ left).length [] := by
  rw [tally.all]
  exact .even chunks

end Tally

-- How a half comes to the end of copying: with all written that it read, unless a write failed.
structure Stops (moves : List Move) (moved : Nat) : Prop where
  tally : ∃ left, Tally (chunks moves) (writes {} moves) moved left
  cause : ∃ earlier, (∀ move ∈ earlier, move.copies = true) ∧
    (moves = earlier ++ [.sourceStopped] ∧ writes {} moves = (chunks moves).flatten ∨
      moves = earlier ++ [.sinkFailed])

inductive Course : List Move -> Half -> Prop where
  | reading {moves : List Move} {moved : Nat} (copying : ∀ move ∈ moves, move.copies = true)
      (tally : Tally (chunks moves) (writes {} moves) moved []) : Course moves ⟨moved, .reading⟩
  | writing {moves : List Move} {moved size : Nat} {unsent : List UInt8}
      (copying : ∀ move ∈ moves, move.copies = true)
      (tally : Tally (chunks moves) (writes {} moves) moved unsent) (some_left : unsent ≠ [])
      (counted : moved + size = (writes {} moves ++ unsent).length) :
      Course moves ⟨moved, .writing size unsent⟩
  | shutting {moves : List Move} {moved : Nat} (stops : Stops moves moved) :
      Course moves ⟨moved, .shutting⟩
  | finished {moves : List Move} {moved : Nat} (stops : Stops moves moved) :
      Course (moves ++ [.sinkShut]) ⟨moved, .finished⟩

section

variable {half next last : Half} {move : Move} {moves : List Move}

theorem chunks_concat (moves : List Move) (move : Move) :
    chunks (moves ++ [move]) = chunks moves ++ move.chunk?.toList := by
  rw [chunks, List.filterMap_append]
  cases move <;> rfl

theorem writes_concat (ran : run {} moves = some half) (stepped : half.step move = some next) :
    writes {} (moves ++ [move]) = writes {} moves ++ move.taken half.unsent := by
  rw [writes_append ran, writes, stepped]
  exact congrArg _ (List.append_nil _)

theorem writes_concat_shut (half : Half) (moves : List Move) :
    half.writes (moves ++ [.sinkShut]) = half.writes moves := by
  induction moves generalizing half with
  | nil => cases stepped : half.step .sinkShut <;> simp [writes, stepped, Move.taken]
  | cons move moves ih =>
    rw [List.cons_append, writes, writes]
    cases half.step move with
    | none => rfl
    | some next => exact congrArg _ (ih next)

theorem Course.step (course : Course moves half) (ran : run {} moves = some half)
    (stepped : half.step move = some next) : Course (moves ++ [move]) next := by
  have written := writes_concat ran stepped
  have read := chunks_concat moves move
  cases steps_of_step stepped with
  | @read _ chunk some_read fits =>
    cases course with
    | reading copying tally =>
      obtain ⟨all, counted⟩ := tally.complete
      simp only [Move.taken, Move.chunk?, List.append_nil] at written read
      refine .writing (by simpa [Move.copies, or_imp, forall_and] using copying) ?_ some_read ?_
      next =>
        rw [written, read]
        exact tally.read some_read fits
      next => rw [written, List.length_append, all, counted]
  | stopped =>
    cases course with
    | reading copying tally =>
      simp only [Move.taken, Move.chunk?, Option.toList_none, List.append_nil] at written read
      refine .shutting ⟨⟨[], ?_⟩, moves, copying, .inl ⟨rfl, ?_⟩⟩
      next => rwa [written, read]
      next => rw [written, read, tally.complete.1]
  | wrote some_taken some_left =>
    cases course with
    | writing copying tally _ counted =>
      simp only [Move.taken, Move.chunk?, Half.unsent, Option.toList_none, List.append_nil]
        at written read
      refine .writing (by simpa [Move.copies, or_imp, forall_and] using copying) ?_
        (by simpa using some_left) ?_
      next =>
        rw [written, read]
        exact tally.wrote some_left
      next => rw [written, List.append_assoc, List.take_append_drop, counted]
  | emptied some_taken =>
    cases course with
    | writing copying tally _ counted =>
      simp only [Move.taken, Move.chunk?, Half.unsent, List.take_length, Option.toList_none,
        List.append_nil] at written read
      refine .reading (by simpa [Move.copies, or_imp, forall_and] using copying) ?_
      rw [written, read, counted]
      exact tally.emptied
  | @failed _ _ unsent =>
    cases course with
    | writing copying tally =>
      simp only [Move.taken, Move.chunk?, Option.toList_none, List.append_nil] at written read
      refine .shutting ⟨⟨unsent, ?_⟩, moves, copying, .inr rfl⟩
      rwa [written, read]
  | shut =>
    cases course with
    | shutting stops => exact .finished stops

theorem course_run (ran : run {} moves = some last) : Course moves last := by
  have initially : run {} [] = some {} ∧ Course [] {} := ⟨rfl, .reading nofun (.even [])⟩
  have both := run_preserves (fun history half => run {} history = some half ∧ Course history half)
    ?_ initially ran
  next => exact both.2
  next =>
    rintro history half move next ⟨began, course⟩ stepped
    refine ⟨?_, course.step began stepped⟩
    simp [run_append, began, run, stepped]

theorem Stops.unshut {moved : Nat} (stops : Stops moves moved) : .sinkShut ∉ moves := by
  intro shut
  obtain ⟨earlier, copying, ⟨rfl, -⟩ | rfl⟩ := stops.cause
  all_goals
    have among : .sinkShut ∈ earlier := by simpa using shut
    exact Bool.false_ne_true (copying _ among)

theorem Stops.whole {moved : Nat} (stops : Stops moves moved) (stopped : .sourceStopped ∈ moves) :
    writes {} moves = (chunks moves).flatten := by
  obtain ⟨earlier, copying, ⟨-, all⟩ | rfl⟩ := stops.cause
  next => exact all
  next =>
    have among : .sourceStopped ∈ earlier := by simpa using stopped
    exact absurd (copying _ among) Bool.false_ne_true

namespace Course

theorem tally (course : Course moves half) :
    ∃ left, Tally (chunks moves) (writes {} moves) half.moved left := by
  cases course with
  | reading _ tally => exact ⟨_, tally⟩
  | writing _ tally => exact ⟨_, tally⟩
  | shutting stops => exact stops.tally
  | finished stops => simpa [writes_concat_shut, chunks_concat, Move.chunk?] using stops.tally

theorem unsent_le (course : Course moves half) : half.unsent.length ≤ chunkLimit := by
  cases course with
  | writing _ tally => exact tally.left_le
  | reading | shutting | finished => exact Nat.zero_le _

theorem whole (course : Course moves half) (stopped : .sourceStopped ∈ moves) :
    writes {} moves = (chunks moves).flatten := by
  cases course with
  | reading copying => exact absurd (copying _ stopped) Bool.false_ne_true
  | writing copying => exact absurd (copying _ stopped) Bool.false_ne_true
  | shutting stops => exact stops.whole stopped
  | finished stops =>
    have whole := stops.whole (by simpa using stopped)
    simpa [writes_concat_shut, chunks_concat, Move.chunk?] using whole

theorem stopped_of_shut (course : Course moves half) (shut : .sinkShut ∈ moves)
    (unfailed : .sinkFailed ∉ moves) : .sourceStopped ∈ moves := by
  cases course with
  | reading copying => exact absurd (copying _ shut) Bool.false_ne_true
  | writing copying => exact absurd (copying _ shut) Bool.false_ne_true
  | shutting stops => exact absurd shut stops.unshut
  | finished stops =>
    obtain ⟨earlier, -, ⟨rfl, -⟩ | rfl⟩ := stops.cause
    next => simp
    next => exact absurd (by simp) unfailed

theorem isFinished_iff_shut (course : Course moves half) :
    half.isFinished = true ↔ .sinkShut ∈ moves := by
  cases course with
  | reading copying => exact ⟨nofun, fun shut => absurd (copying _ shut) Bool.false_ne_true⟩
  | writing copying => exact ⟨nofun, fun shut => absurd (copying _ shut) Bool.false_ne_true⟩
  | shutting stops => exact ⟨nofun, fun shut => absurd shut stops.unshut⟩
  | finished => exact ⟨fun _ => by simp, fun _ => rfl⟩

theorem shut_last {front back : List Move} (course : Course moves half)
    (split : moves = front ++ .sinkShut :: back) : back = [] ∧ Stops front half.moved := by
  have shut : .sinkShut ∈ moves := by simp [split]
  cases course with
  | reading copying => exact absurd (copying _ shut) Bool.false_ne_true
  | writing copying => exact absurd (copying _ shut) Bool.false_ne_true
  | shutting stops => exact absurd shut stops.unshut
  | @finished earlier _ stops =>
    rcases List.eq_nil_or_concat back with rfl | ⟨init, last, rfl⟩
    next =>
      obtain ⟨rfl, -⟩ := List.append_inj' split rfl
      exact ⟨rfl, stops⟩
    next =>
      have again : earlier ++ [.sinkShut] = (front ++ .sinkShut :: init) ++ [last] := by
        simpa using split
      obtain ⟨rfl, -⟩ := List.append_inj' again rfl
      exact absurd (by simp) stops.unshut

theorem shut_once (course : Course moves half) : moves.count .sinkShut ≤ 1 := by
  by_cases shut : .sinkShut ∈ moves
  next =>
    obtain ⟨front, back, rfl⟩ := List.append_of_mem shut
    obtain ⟨rfl, stops⟩ := course.shut_last rfl
    rw [List.count_append, List.count_eq_zero.mpr stops.unshut]
    exact Nat.le_refl _
  next =>
    rw [List.count_eq_zero.mpr shut]
    exact Nat.zero_le _

end Course

end

end Half

end SniffingRelay
