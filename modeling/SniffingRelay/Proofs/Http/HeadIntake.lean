import SniffingRelay.Proofs.Http.HeadGrammar
import SniffingRelay.Proofs.Stream.Supply

set_option autoImplicit false

namespace SniffingRelay

-- Goes on with bytes that were taken before.
def Reader.takeUp {S R : Type} (reader : Reader S R) (state : S) (spare : List UInt8)
    (source : Recording) : Reading R :=
  match reader.feed state spare with
  | (.settled result, rest) => ⟨result, rest, source⟩
  | (.more later, _) => reader.run later source

theorem Recording.weight_read {room : Nat} {source next : Recording} {taken : List UInt8}
    (answer : source.read room = (.ok taken, next)) : next.weight + taken.length ≤ source.weight := by
  obtain ⟨ahead, heard⟩ := source
  cases ahead with
  | nil =>
    obtain ⟨same, rfl⟩ := Prod.mk.inj answer
    obtain rfl := Except.ok.inj same
    exact Nat.le_refl _
  | cons arrival later =>
    cases arrival with
    | fault cause => cases (Prod.mk.inj answer).1
    | bytes piece =>
      have split := congrArg List.length (List.take_append_drop room piece)
      rw [List.length_append] at split
      simp only [read, List.splitAt_eq, Prod.mk.injEq, Except.ok.injEq] at answer
      obtain ⟨rfl, rfl⟩ := answer
      by_cases last : (piece.drop room).isEmpty = true
      next =>
        simp only [last, weight, List.foldr_cons, Arrival.size, if_true]
        omega
      next =>
        simp only [last, weight, List.foldr_cons, Arrival.size]
        simp
        omega

namespace Http

open RequestHead (lineFeed takeLine)

/-- A source behind a buffer, which is filled by one read when it is empty. -/
structure Buffered where
  source : Recording
  spare : List UInt8 := []
  deriving DecidableEq, Repr

namespace Buffered

def weight (buffered : Buffered) : Nat := buffered.source.weight + buffered.spare.length

def fill (capacity : Nat) (buffered : Buffered) : Except Fault (List UInt8) × Buffered :=
  if buffered.spare.isEmpty then
    match buffered.source.read capacity with
    | (.ok taken, next) => (.ok taken, ⟨next, taken⟩)
    | (.error fault, next) => (.error fault, ⟨next, []⟩)
  else (.ok buffered.spare, buffered)

-- Nothing is read once the limit is reached.
def fillWithin (capacity limit : Nat) (buffered : Buffered) :
    Except Fault (List UInt8) × Buffered :=
  if limit = 0 then (.ok [], buffered)
  else
    let (result, next) := buffered.fill capacity
    (result.map (·.take limit), next)

inductive Filled (capacity limit : Nat) (buffered : Buffered) :
    Except Fault (List UInt8) -> Buffered -> Prop
  | reached (full : limit = 0) : Filled capacity limit buffered (.ok []) buffered
  | kept (space : limit ≠ 0) (some_left : buffered.spare ≠ []) :
      Filled capacity limit buffered (.ok (buffered.spare.take limit)) buffered
  | read {taken : List UInt8} {rest : Recording} (space : limit ≠ 0) (empty : buffered.spare = [])
      (answer : buffered.source.read capacity = (.ok taken, rest)) :
      Filled capacity limit buffered (.ok (taken.take limit)) ⟨rest, taken⟩
  | failed {fault : Fault} {rest : Recording} (space : limit ≠ 0) (empty : buffered.spare = [])
      (answer : buffered.source.read capacity = (.error fault, rest)) :
      Filled capacity limit buffered (.error fault) ⟨rest, []⟩

section

variable {capacity limit : Nat} {buffered next : Buffered} {available : List UInt8} {fault : Fault}

theorem filled_of_fillWithin {result : Except Fault (List UInt8)}
    (filled : buffered.fillWithin capacity limit = (result, next)) :
    Filled capacity limit buffered result next := by
  unfold fillWithin fill at filled
  by_cases full : limit = 0
  next =>
    obtain ⟨rfl, rfl⟩ := Prod.mk.inj ((if_pos full).symm.trans filled)
    exact .reached full
  next =>
    rw [if_neg full] at filled
    by_cases empty : buffered.spare = []
    next =>
      cases answer : buffered.source.read capacity with
      | mk taken rest =>
        rw [if_pos (List.isEmpty_iff.mpr empty), answer] at filled
        cases taken with
        | ok taken =>
          obtain ⟨rfl, rfl⟩ := Prod.mk.inj filled
          exact .read full empty answer
        | error fault =>
          obtain ⟨rfl, rfl⟩ := Prod.mk.inj filled
          exact .failed full empty answer
    next =>
      rw [if_neg (by simpa using empty)] at filled
      obtain ⟨rfl, rfl⟩ := Prod.mk.inj filled
      exact .kept full empty

theorem Filled.weight_le (filled : Filled capacity limit buffered (.ok available) next) :
    next.weight ≤ buffered.weight ∧ available = next.spare.take limit := by
  cases filled with
  | reached full => exact ⟨Nat.le_refl _, by rw [full, List.take_zero]⟩
  | kept => exact ⟨Nat.le_refl _, rfl⟩
  | read space empty answer =>
    have read := Recording.weight_read answer
    exact ⟨Nat.le_trans read (Nat.le_add_right ..), rfl⟩

theorem Filled.weight_lt (filled : Filled capacity limit buffered (.error fault) next) :
    next.weight < buffered.weight := by
  cases filled with
  | failed space empty answer =>
    have read := Recording.weight_read_fault answer
    exact Nat.lt_of_lt_of_le read (Nat.le_add_right ..)

-- The bytes of a filled buffer up to a line feed, or all of them.
def upToFeed (available : List UInt8) : List UInt8 :=
  available.take (available.idxOf lineFeed + 1)

theorem upToFeed_ne_nil {available : List UInt8} (some_left : available ≠ []) :
    upToFeed available ≠ [] := by
  rw [upToFeed, ne_eq, List.take_eq_nil_iff, not_or]
  exact ⟨Nat.succ_ne_zero _, some_left⟩

def consume (count : Nat) (buffered : Buffered) : Buffered :=
  { buffered with spare := buffered.spare.drop count }

theorem Filled.consume_front (filled : Filled capacity limit buffered (.ok available) next) :
    upToFeed available ++ (next.consume (upToFeed available).length).spare = next.spare ∧
      (upToFeed available).length ≤ limit := by
  obtain ⟨-, rfl⟩ := filled.weight_le
  have front : upToFeed (next.spare.take limit) <+: next.spare.take limit := List.take_prefix ..
  refine ⟨List.prefix_iff_eq_append.mp (front.trans (List.take_prefix ..)), ?_⟩
  exact Nat.le_trans front.length_le (List.length_take_le ..)

theorem Filled.weight_consume (filled : Filled capacity limit buffered (.ok available) next) :
    (next.consume (upToFeed available).length).weight + (upToFeed available).length ≤
      buffered.weight := by
  obtain ⟨less, -⟩ := filled.weight_le
  have split := congrArg List.length filled.consume_front.1
  rw [List.length_append] at split
  have kept : (next.consume (upToFeed available).length).source = next.source := rfl
  unfold weight at less ⊢
  rw [kept]
  omega

end

-- Takes bytes up to a line feed, up to the limit or up to an end. Interruptions do not end it.
def readLine (capacity limit : Nat) (buffered : Buffered) : Except Fault (List UInt8) × Buffered :=
  match _filled : buffered.fillWithin capacity limit with
  | (.error fault, next) =>
      if fault.isInterruption then readLine capacity limit next else (.error fault, next)
  | (.ok [], next) => (.ok [], next)
  | (.ok (first :: more), next) =>
      let used := upToFeed (first :: more)
      let after := next.consume used.length
      if lineFeed ∈ used then (.ok used, after)
      else
        let (rest, last) := readLine capacity (limit - used.length) after
        (rest.map (used ++ ·), last)
termination_by buffered.weight
decreasing_by
  · exact (filled_of_fillWithin _filled).weight_lt
  · have some_used := List.length_pos_iff.mpr (upToFeed_ne_nil (List.cons_ne_nil first more))
    have weight := (filled_of_fillWithin _filled).weight_consume
    omega

theorem weight_readLine {capacity limit : Nat} {buffered next : Buffered} {line : List UInt8}
    (read : buffered.readLine capacity limit = (.ok line, next)) :
    next.weight + line.length ≤ buffered.weight := by
  fun_induction readLine capacity limit buffered generalizing line next with
  | case1 limit buffered fault later filled interruption ih =>
    exact Nat.le_trans (ih read) (Nat.le_of_lt (filled_of_fillWithin filled).weight_lt)
  | case2 => cases (Prod.mk.inj read).1
  | case3 limit buffered later filled =>
    obtain ⟨same, rfl⟩ := Prod.mk.inj read
    obtain rfl := Except.ok.inj same
    exact (filled_of_fillWithin filled).weight_le.1
  | case4 limit buffered first more later filled =>
    obtain ⟨same, rfl⟩ := Prod.mk.inj read
    obtain rfl := Except.ok.inj same
    exact (filled_of_fillWithin filled).weight_consume
  | case5 limit buffered first more later filled used after _ rest last =>
    rename_i continued ih
    cases rest with
    | error fault => cases (Prod.mk.inj read).1
    | ok rest =>
      have taken : after.weight + used.length ≤ buffered.weight :=
        (filled_of_fillWithin filled).weight_consume
      have left := ih continued
      obtain ⟨same, rfl⟩ := Prod.mk.inj read
      obtain rfl := Except.ok.inj same
      rw [List.length_append]
      omega

end Buffered

def nextLine (capacity : Nat) (buffered : Buffered) :
    Except HeaderError (Option (List UInt8)) × Buffered :=
  match buffered.readLine capacity lineLimit with
  | (.error fault, next) => (.error (.stream fault), next)
  | (.ok bytes, next) =>
      if bytes.isEmpty then (.ok none, next)
      else
        match line? bytes with
        | none => (.error .lineTooLong, next)
        | some line => (.ok (some line), next)

theorem weight_nextLine {capacity : Nat} {buffered next : Buffered} {line : List UInt8}
    (read : nextLine capacity buffered = (.ok (some line), next)) :
    next.weight < buffered.weight := by
  unfold nextLine at read
  repeat' split at read
  any_goals cases (Prod.mk.inj read).1
  next bytes later taken filled _ _ =>
    have weight := Buffered.weight_readLine taken
    have some_bytes : 0 < bytes.length := List.length_pos_iff.mpr (by simpa using filled)
    obtain ⟨-, rfl⟩ := Prod.mk.inj read
    omega

def readHeaders (capacity : Nat) (host : Option String) (buffered : Buffered) :
    Except HeaderError HostHeader × Buffered :=
  match _read : nextLine capacity buffered with
  | (.error error, next) => (.error error, next)
  | (.ok none, next) => (.ok ⟨host.getD "", false⟩, next)
  | (.ok (some line), next) =>
      if line.isEmpty then (.ok ⟨host.getD "", true⟩, next)
      else
        match named? line with
        | none => readHeaders capacity host next
        | some value =>
            if host.isSome then (.error .multipleHosts, next)
            else
              match text? value with
              | none => (.error .hostNotUtf8, next)
              | some text => readHeaders capacity (some text) next
termination_by buffered.weight
decreasing_by all_goals exact weight_nextLine _read

def readHead (capacity : Nat) (buffered : Buffered) : Except HeaderError HostHeader × Buffered :=
  match nextLine capacity buffered with
  | (.error error, next) => (.error error, next)
  | (.ok none, next) => (.error .missingRequestLine, next)
  | (.ok (some _), next) => readHeaders capacity none next

section

variable {capacity limit : Nat} {seen : Seen} {got : List UInt8} {buffered next : Buffered}
  {source rest : Recording}

theorem takeUp_plain (plain : lineFeed ∉ got) (short : got.length < lineLimit)
    (spare : List UInt8) :
    (headReader capacity).takeUp { seen } (got ++ spare) source =
      (headReader capacity).takeUp { seen, line := got.toArray } spare source := by
  rw [Reader.takeUp, Reader.takeUp, feed_text seen plain short]

structure Follows (capacity : Nat) (seen : Seen) (line : List UInt8)
    (reading : Reading (Except HeaderError HostHeader)) (next : Buffered) : Prop where
  settles : ∀ result, takeLine seen line = .settled result →
    reading = ⟨result, next.spare, next.source⟩
  continues : ∀ later, takeLine seen line = .more later →
    reading = (headReader capacity).takeUp { seen := later } next.spare next.source

theorem read_end {room : Nat} (positive : 0 < room) (answer : source.read room = (.ok [], rest)) :
    rest.weight < source.weight ∨ rest = source := by
  obtain ⟨ahead, heard⟩ := source
  cases ahead with
  | nil => exact .inr (Prod.mk.inj answer).2.symm
  | cons arrival later =>
    cases arrival with
    | fault cause => cases (Prod.mk.inj answer).1
    | bytes piece =>
      simp only [Recording.read, List.splitAt_eq, Prod.mk.injEq, Except.ok.injEq,
        List.take_eq_nil_iff] at answer
      obtain ⟨none | rfl, rfl⟩ := answer
      next => exact absurd none (Nat.ne_of_gt positive)
      next => exact .inl (by simp [Recording.weight, Arrival.size])

theorem room_headReader (capacity : Nat) (state : RequestHead) :
    (headReader capacity).room state = capacity := rfl

theorem run_end_nil (answer : source.read capacity = (.ok [], rest)) :
    (headReader capacity).run { seen } source =
      ⟨(headReader capacity).finish { seen } .ended, [], rest⟩ := by
  rw [Reader.run_eq, room_headReader, answer]
  rfl

theorem follows_end (positive : 0 < capacity) (some_got : got ≠ [])
    (answer : source.read capacity = (.ok [], rest)) :
    Follows capacity seen got ((headReader capacity).run { seen, line := got.toArray } source)
      ⟨rest, []⟩ := by
  have taken := takeRest_text seen some_got
  have finish := @finish_text capacity seen got some_got
  rw [Reader.run_eq, room_headReader, answer]
  constructor
  next =>
    intro result settled
    have final : (headReader capacity).resume { seen, line := got.toArray } = none := by
      simp [headReader, RequestHead.resume, taken, some_got, settled]
    rw [settled] at finish
    dsimp only
    rw [final, finish]
  next =>
    intro later more
    have resumed : (headReader capacity).resume { seen, line := got.toArray } =
        some { seen := later } := by
      simp [headReader, RequestHead.resume, taken, some_got, more]
    rw [more] at finish
    dsimp only
    rw [resumed]
    dsimp only
    -- The reading goes on after the end just if that was an empty piece with more behind it. A
    -- source at its last end has no more lines either way.
    rcases read_end positive answer with less | same
    next =>
      rw [if_pos less]
      rfl
    next =>
      subst same
      rw [if_neg (Nat.lt_irrefl _), finish]
      exact (run_end_nil answer).symm

theorem Buffered.Filled.takeUp {available : List UInt8} (plain : lineFeed ∉ got)
    (size : got.length + limit = lineLimit) (some_left : available ≠ [])
    (filled : Filled capacity limit buffered (.ok available) next) :
    (headReader capacity).takeUp { seen } (got ++ buffered.spare) buffered.source =
      (headReader capacity).takeUp { seen } (got ++ next.spare) next.source := by
  cases filled with
  | reached => exact absurd rfl some_left
  | kept => rfl
  | @read taken rest space empty answer =>
    have short : got.length < lineLimit := by omega
    obtain ⟨first, more, rfl⟩ : ∃ first more, taken = first :: more := by
      refine List.exists_cons_of_ne_nil ?_
      rintro rfl
      exact some_left List.take_nil
    rw [takeUp_plain plain short, takeUp_plain plain short, empty]
    simp only [Reader.takeUp, Reader.feed]
    rw [Reader.run_eq, room_headReader, answer]
    rfl

theorem Buffered.Filled.takeUp_fault {fault : Fault} (plain : lineFeed ∉ got)
    (size : got.length + limit = lineLimit)
    (filled : Filled capacity limit buffered (.error fault) next) :
    (headReader capacity).takeUp { seen } (got ++ buffered.spare) buffered.source =
      if fault.isInterruption then
        (headReader capacity).takeUp { seen } (got ++ next.spare) next.source
      else ⟨.error (.stream fault), next.spare, next.source⟩ := by
  cases filled with
  | @failed _ rest space empty answer =>
    have short : got.length < lineLimit := by omega
    rw [takeUp_plain plain short, takeUp_plain plain short, empty]
    simp only [Reader.takeUp, Reader.feed]
    rw [Reader.run_eq, room_headReader, answer]
    rfl

inductive Stopped (capacity : Nat) (seen : Seen) (reading : Reading (Except HeaderError HostHeader)) :
    Except Fault (List UInt8) -> Buffered -> Prop
  | failed {fault : Fault} {next : Buffered}
      (same : reading = ⟨.error (.stream fault), next.spare, next.source⟩) :
      Stopped capacity seen reading (.error fault) next
  | terminated {text : List UInt8} {next : Buffered} (plain : lineFeed ∉ text)
      (fits : text.length < lineLimit)
      (same : reading = (headReader capacity).takeUp { seen } (text ++ lineFeed :: next.spare)
        next.source) :
      Stopped capacity seen reading (.ok (text ++ [lineFeed])) next
  | full {text : List UInt8} {next : Buffered} (plain : lineFeed ∉ text)
      (size : text.length = lineLimit)
      (same : reading = (headReader capacity).takeUp { seen } (text ++ next.spare) next.source) :
      Stopped capacity seen reading (.ok text) next
  | last {text : List UInt8} {next : Buffered} (plain : lineFeed ∉ text)
      (short : text.length < lineLimit) (filled : text ≠ [])
      (follows : Follows capacity seen text reading next) :
      Stopped capacity seen reading (.ok text) next
  | nothing {next : Buffered}
      (same : reading = ⟨(headReader capacity).finish { seen } .ended, next.spare, next.source⟩) :
      Stopped capacity seen reading (.ok []) next

theorem Buffered.Filled.stopped (positive : 0 < capacity) (plain : lineFeed ∉ got)
    (size : got.length + limit = lineLimit) {available : List UInt8} (none_left : available = [])
    (filled : Filled capacity limit buffered (.ok available) next) :
    Stopped capacity seen
      ((headReader capacity).takeUp { seen } (got ++ buffered.spare) buffered.source) (.ok got) next := by
  cases filled with
  | reached full => exact .full plain (by omega) rfl
  | kept space some_left =>
    rw [List.take_eq_nil_iff] at none_left
    exact absurd none_left (not_or.mpr ⟨space, some_left⟩)
  | @read taken rest space empty answer =>
    obtain rfl := (List.take_eq_nil_iff.mp none_left).resolve_left space
    rw [empty]
    by_cases some_got : got = []
    next =>
      subst some_got
      exact .nothing (run_end_nil answer)
    next =>
      have short : got.length < lineLimit := by omega
      rw [takeUp_plain plain short]
      exact .last plain short some_got (follows_end positive some_got answer)

theorem Buffered.Filled.takeUp_consume {available : List UInt8} (plain : lineFeed ∉ got)
    (size : got.length + limit = lineLimit) (some_left : available ≠ [])
    (filled : Filled capacity limit buffered (.ok available) next) :
    (headReader capacity).takeUp { seen } (got ++ buffered.spare) buffered.source =
      (headReader capacity).takeUp { seen }
        (got ++ upToFeed available ++ (next.consume (upToFeed available).length).spare)
        (next.consume (upToFeed available).length).source := by
  rw [filled.takeUp plain size some_left, List.append_assoc, filled.consume_front.1]
  rfl

theorem Buffered.Filled.terminated {available : List UInt8} (plain : lineFeed ∉ got)
    (size : got.length + limit = lineLimit) (ends : lineFeed ∈ upToFeed available)
    (filled : Filled capacity limit buffered (.ok available) next) :
    Stopped capacity seen
      ((headReader capacity).takeUp { seen } (got ++ buffered.spare) buffered.source)
      (.ok (got ++ upToFeed available)) (next.consume (upToFeed available).length) := by
  have found : lineFeed ∈ available := List.mem_of_mem_take ends
  obtain ⟨text, -, -, text_plain, piece⟩ := exists_text_of_feed found
  have piece : upToFeed available = text ++ [lineFeed] := piece
  have fits := filled.consume_front.2
  rw [filled.takeUp_consume plain size (List.ne_nil_of_mem found), piece]
  rw [piece, List.length_append, List.length_singleton] at fits
  rw [← List.append_assoc, List.append_assoc (got ++ text)]
  refine .terminated (List.not_mem_append plain text_plain) ?_ rfl
  rw [List.length_append]
  omega

-- By the recursion of the layered reader, where `got` is what it has of the line already.
theorem stopped_readLine (positive : 0 < capacity) (plain : lineFeed ∉ got)
    (size : got.length + limit = lineLimit) :
    Stopped capacity seen
      ((headReader capacity).takeUp { seen } (got ++ buffered.spare) buffered.source)
      ((buffered.readLine capacity limit).1.map (got ++ ·)) (buffered.readLine capacity limit).2 := by
  fun_induction Buffered.readLine capacity limit buffered generalizing got with
  | case1 limit buffered fault later filled interruption ih =>
    rw [(Buffered.filled_of_fillWithin filled).takeUp_fault plain size, if_pos interruption]
    exact ih plain size
  | case2 limit buffered fault later filled reported =>
    refine .failed ?_
    rw [(Buffered.filled_of_fillWithin filled).takeUp_fault plain size, if_neg reported]
  | case3 limit buffered later filled =>
    simpa [Except.map] using (Buffered.filled_of_fillWithin filled).stopped positive plain size rfl
  | case4 limit buffered first more later filled used after =>
    rename_i ends
    exact (Buffered.filled_of_fillWithin filled).terminated plain size ends
  | case5 limit buffered first more later filled used after plain_used rest last =>
    rename_i continued ih
    have filled := Buffered.filled_of_fillWithin filled
    have fits : used.length ≤ limit := filled.consume_front.2
    have stopped := @ih (got ++ used) (List.not_mem_append plain plain_used)
      (by rw [List.length_append]; omega)
    have taken := @Buffered.Filled.takeUp_consume capacity limit seen got buffered later
      (first :: more) plain size (List.cons_ne_nil first more) filled
    rw [continued, ← taken] at stopped
    cases rest with
    | error fault => exact stopped
    | ok rest =>
      dsimp only [Except.map] at stopped ⊢
      rwa [← List.append_assoc]

inductive Reached (capacity : Nat) (seen : Seen) (reading : Reading (Except HeaderError HostHeader)) :
    Except HeaderError (Option (List UInt8)) × Buffered -> Prop
  | failed {error : HeaderError} {next : Buffered}
      (same : reading = ⟨.error error, next.spare, next.source⟩) :
      Reached capacity seen reading (.error error, next)
  | nothing {next : Buffered}
      (same : reading = ⟨(headReader capacity).finish { seen } .ended, next.spare, next.source⟩) :
      Reached capacity seen reading (.ok none, next)
  | line {line : List UInt8} {next : Buffered} (follows : Follows capacity seen line reading next) :
      Reached capacity seen reading (.ok (some line), next)

theorem follows_terminated {text : List UInt8} (plain : lineFeed ∉ text)
    (fits : text.length < lineLimit) (next : Buffered) :
    Follows capacity seen (RequestHead.content (text ++ [lineFeed]))
      ((headReader capacity).takeUp { seen } (text ++ lineFeed :: next.spare) next.source) next := by
  constructor
  next =>
    intro result settled
    rw [Reader.takeUp, feed_terminated seen plain fits, settled]
  next =>
    intro later more
    rw [Reader.takeUp, feed_terminated seen plain fits, more]
    rfl

theorem takeUp_full {text : List UInt8} (plain : lineFeed ∉ text) (size : text.length = lineLimit)
    (spare : List UInt8) :
    (headReader capacity).takeUp { seen } (text ++ spare) source =
      ⟨.error .lineTooLong, spare, source⟩ := by
  rw [Reader.takeUp, feed_full seen plain size]

theorem reached_nextLine (positive : 0 < capacity) (seen : Seen) (buffered : Buffered) :
    Reached capacity seen ((headReader capacity).takeUp { seen } buffered.spare buffered.source)
      (nextLine capacity buffered) := by
  have stopped := @stopped_readLine capacity lineLimit seen [] buffered positive
    List.not_mem_nil (Nat.zero_add _)
  rw [nextLine]
  generalize buffered.readLine capacity lineLimit = taken at stopped
  obtain ⟨result, next⟩ := taken
  have whole : result.map ([] ++ ·) = result := by cases result <;> rfl
  rw [List.nil_append, whole] at stopped
  cases stopped with
  | failed same => exact .failed same
  | @terminated text _ plain fits same =>
    have filled : (text ++ [lineFeed]).isEmpty = false := by simp
    simp only [filled, line?_terminated]
    exact .line (same ▸ follows_terminated plain fits next)
  | @full text _ plain size same =>
    have filled : text.isEmpty = false := by
      rw [List.isEmpty_eq_false_iff, ← List.length_pos_iff, size]
      decide
    simp only [filled, line?_full plain size]
    exact .failed (same.trans (takeUp_full plain size _))
  | last plain short filled follows =>
    simp only [List.isEmpty_iff, filled, line?_last plain short, if_false]
    exact .line follows
  | nothing same => exact .nothing same

theorem readHeaders_eq (positive : 0 < capacity) (host : Option String) (buffered : Buffered) :
    (headReader capacity).takeUp { seen := .headers host } buffered.spare buffered.source =
      ⟨(readHeaders capacity host buffered).1, (readHeaders capacity host buffered).2.spare,
        (readHeaders capacity host buffered).2.source⟩ := by
  have reached {host : Option String} {buffered : Buffered} {answer}
      (read : nextLine capacity buffered = answer) :=
    read ▸ reached_nextLine positive (.headers host) buffered
  fun_induction readHeaders capacity host buffered with
  | case1 host buffered error next read =>
    cases reached read with
    | failed same => exact same
  | case2 host buffered next read =>
    cases reached read with
    | nothing same => exact same
  | case3 host buffered line next read empty =>
    cases reached read with
    | line follows => exact follows.settles _ (by simp [takeLine, empty])
  | case4 host buffered line next read filled other ih =>
    cases reached read with
    | line follows =>
      have more := takeLine_of_other host (by simpa using filled) ((hostValue?_eq line).trans other)
      rw [follows.continues _ more, ih]
  | case5 host buffered line next read filled value found named =>
    obtain ⟨name, rfl⟩ := Option.isSome_iff_exists.mp named
    cases reached read with
    | line follows =>
      exact follows.settles _
        (takeLine_of_second name (by simpa using filled) ((hostValue?_eq line).trans found))
  | case6 host buffered line next read filled value found unnamed unreadable =>
    obtain rfl := Option.not_isSome_iff_eq_none.mp unnamed
    cases reached read with
    | line follows =>
      have first := takeLine_of_first (by simpa using filled) ((hostValue?_eq line).trans found)
      rw [unreadable] at first
      exact follows.settles _ first
  | case7 host buffered line next read filled value found unnamed text readable ih =>
    obtain rfl := Option.not_isSome_iff_eq_none.mp unnamed
    cases reached read with
    | line follows =>
      have first := takeLine_of_first (by simpa using filled) ((hostValue?_eq line).trans found)
      rw [readable] at first
      rw [follows.continues _ first, ih]

theorem readHead_eq (positive : 0 < capacity) (source : Recording) :
    readHead capacity { source } =
      (((headReader capacity).run {} source).result,
        { source := ((headReader capacity).run {} source).source
          spare := ((headReader capacity).run {} source).spare }) := by
  have reached := reached_nextLine positive .nothing { source }
  have start : (headReader capacity).takeUp { seen := .nothing } [] source =
      (headReader capacity).run {} source := rfl
  rw [start] at reached
  rw [readHead]
  generalize nextLine capacity { source } = taken at reached
  cases reached with
  | failed same => rw [same]
  | nothing same =>
    rw [same]
    rfl
  | line follows =>
    rw [follows.continues _ rfl, readHeaders_eq positive]

end

end Http

end SniffingRelay
