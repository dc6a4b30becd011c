import Mathlib
import SniffingRelay.Http.HostHeader
import SniffingRelay.Proofs.Stream.Usage

set_option autoImplicit false

namespace SniffingRelay.Http

open RequestHead (lineFeed carriageReturn hostValue? takeLine)

-- Up to the next line feed, but not beyond the limit of a line.
def firstPiece (bytes : List UInt8) : List UInt8 :=
  let reach := bytes.take lineLimit
  reach.take (reach.idxOf lineFeed + 1)

-- The three ways in which a piece ends, and what follows it.
inductive Cut : List UInt8 -> List UInt8 -> List UInt8 -> Prop where
  | terminated {text rest : List UInt8} (plain : lineFeed ∉ text) (fits : text.length < lineLimit) :
      Cut (text ++ lineFeed :: rest) (text ++ [lineFeed]) rest
  | full {text rest : List UInt8} (plain : lineFeed ∉ text) (size : text.length = lineLimit) :
      Cut (text ++ rest) text rest
  | last {text : List UInt8} (plain : lineFeed ∉ text) (some_left : text ≠ [])
      (short : text.length < lineLimit) : Cut text text []

theorem exists_text_of_feed {bytes : List UInt8} (found : lineFeed ∈ bytes) : ∃ text later,
    bytes = text ++ lineFeed :: later ∧ lineFeed ∉ text ∧
      bytes.take (bytes.idxOf lineFeed + 1) = text ++ [lineFeed] := by
  obtain ⟨text, later, rfl, plain⟩ := List.eq_append_cons_of_mem found
  have index : (text ++ lineFeed :: later).idxOf lineFeed = text.length := by
    rw [List.idxOf_append, if_neg plain, List.idxOf_cons_self, Nat.zero_add]
  refine ⟨text, later, rfl, plain, ?_⟩
  rw [index, List.take_length_add_append]
  rfl

theorem take_of_no_feed {bytes : List UInt8} (plain : lineFeed ∉ bytes) :
    bytes.take (bytes.idxOf lineFeed + 1) = bytes := by
  rw [List.idxOf_eq_length plain, List.take_of_length_le (Nat.le_succ _)]

theorem cut_firstPiece {bytes : List UInt8} (some_left : bytes ≠ []) :
    Cut bytes (firstPiece bytes) (bytes.drop (firstPiece bytes).length) := by
  have whole := List.take_append_drop lineLimit bytes
  have reach := List.length_take_le lineLimit bytes
  by_cases found : lineFeed ∈ bytes.take lineLimit
  next =>
    obtain ⟨text, later, split, plain, piece⟩ := exists_text_of_feed found
    have piece : firstPiece bytes = text ++ [lineFeed] := piece
    rw [split, List.append_assoc, List.cons_append] at whole
    rw [split, List.length_append, List.length_cons] at reach
    rw [piece, ← whole, List.length_append, List.drop_length_add_append]
    exact .terminated plain (by omega)
  next =>
    have piece : firstPiece bytes = bytes.take lineLimit := take_of_no_feed found
    rw [piece]
    by_cases size : (bytes.take lineLimit).length = lineLimit
    next =>
      have cut : Cut (bytes.take lineLimit ++ bytes.drop lineLimit) _ _ := .full found size
      rw [whole] at cut
      rwa [size]
    next =>
      have short : bytes.length < lineLimit := by
        rw [List.length_take] at size
        omega
      rw [List.take_of_length_le (Nat.le_of_lt short)] at found ⊢
      rw [List.drop_length]
      exact .last found some_left short

theorem Cut.append {bytes piece rest : List UInt8} (cut : Cut bytes piece rest) :
    piece ++ rest = bytes := by
  cases cut with
  | terminated => simp
  | full => rfl
  | last => exact List.append_nil _

theorem Cut.piece_ne_nil {bytes piece rest : List UInt8} (cut : Cut bytes piece rest) :
    piece ≠ [] := by
  cases cut with
  | terminated => simp
  | full plain size =>
    rintro rfl
    cases size
  | last plain some_left => exact some_left

theorem length_drop_firstPiece_lt {bytes : List UInt8} (some_left : bytes ≠ []) :
    (bytes.drop (firstPiece bytes).length).length < bytes.length := by
  have cut := cut_firstPiece some_left
  have taken := List.length_pos_iff.mpr cut.piece_ne_nil
  have size := congrArg List.length cut.append
  rw [List.length_append] at size
  omega

def pieces (bytes : List UInt8) : List (List UInt8) :=
  if _some_left : bytes = [] then []
  else firstPiece bytes :: pieces (bytes.drop (firstPiece bytes).length)
termination_by bytes.length
decreasing_by exact length_drop_firstPiece_lt _some_left

theorem flatten_pieces (bytes : List UInt8) : (pieces bytes).flatten = bytes := by
  fun_induction pieces bytes with
  | case1 => rfl
  | case2 bytes some_left ih =>
    rw [List.flatten_cons, ih]
    exact (cut_firstPiece some_left).append

-- A piece as a line. An end of line is a line feed with or without a carriage return before it;
-- nothing comes of a piece that is as long as a line may be and has no end.
def line? (piece : List UInt8) : Option (List UInt8) :=
  if piece.getLast? = some lineFeed then
    let text := piece.dropLast
    some (if text.getLast? = some carriageReturn then text.dropLast else text)
  else if piece.length = lineLimit then none
  else some piece

def label : List UInt8 := "Host: ".toUTF8.data.toList

def named? (line : List UInt8) : Option (List UInt8) :=
  if line.take label.length = label then some (line.drop label.length) else none

def value? (piece : List UInt8) : Option (List UInt8) := (line? piece).bind named?

def text? (value : List UInt8) : Option String := String.fromUTF8? ⟨value.toArray⟩

def offence? (before : List (List UInt8)) (piece : List UInt8) : Option HeaderError :=
  if line? piece = none then some .lineTooLong
  else
    match value? piece with
    | none => none
    | some value =>
        if before.filterMap value? ≠ [] then some .multipleHosts
        else if text? value = none then some .hostNotUtf8
        else none

def host (headers : List (List UInt8)) : String :=
  match headers.filterMap value? with
  | [value] => (text? value).getD ""
  | _ => ""

-- Goes through headers until the first empty line or the first that offends, and leaves those
-- behind it.
def judge (before : List (List UInt8)) :
    List (List UInt8) -> Except HeaderError HostHeader × List (List UInt8)
  | [] => (.ok ⟨host before, false⟩, [])
  | piece :: later =>
      if line? piece = some [] then (.ok ⟨host before, true⟩, later)
      else
        match offence? before piece with
        | some error => (.error error, later)
        | none => judge (before ++ [piece]) later

/-- What the pieces of a head say. The first is a request line, of which only the length counts. -/
def outcome : List (List UInt8) -> Except HeaderError HostHeader × List (List UInt8)
  | [] => (.error .missingRequestLine, [])
  | request :: headers =>
      if line? request = none then (.error .lineTooLong, headers) else judge [] headers

theorem line?_terminated (text : List UInt8) :
    line? (text ++ [lineFeed]) = some (RequestHead.content (text ++ [lineFeed])) := by
  rw [line?, if_pos List.getLast?_concat, List.dropLast_concat, RequestHead.content]
  rcases List.eq_nil_or_concat text with rfl | ⟨front, last, rfl⟩
  next => simp
  next =>
    by_cases returned : last = carriageReturn
    next => simp [returned]
    next => simp [returned]

theorem line?_full {text : List UInt8} (plain : lineFeed ∉ text) (size : text.length = lineLimit) :
    line? text = none := by
  rw [line?, if_neg, if_pos size]
  intro last
  exact plain (List.mem_of_getLast? last)

theorem line?_last {text : List UInt8} (plain : lineFeed ∉ text) (short : text.length < lineLimit) :
    line? text = some text := by
  rw [line?, if_neg, if_neg (Nat.ne_of_lt short)]
  intro last
  exact plain (List.mem_of_getLast? last)

variable {capacity : Nat}

-- Bytes before the end of a line are only kept.
theorem feed_plain (seen : Seen) (line : Array UInt8) {text : List UInt8} (plain : lineFeed ∉ text)
    (fits : line.size + text.length < lineLimit) (rest : List UInt8) :
    (headReader capacity).feed { seen, line } (text ++ rest) =
      (headReader capacity).feed { seen, line := line ++ text } rest := by
  induction text generalizing line with
  | nil => simp
  | cons byte text ih =>
    rw [List.mem_cons, not_or] at plain
    rw [List.length_cons] at fits
    have inside : (line.push byte).size ≠ lineLimit := by
      rw [Array.size_push]
      omega
    have pushed : (headReader capacity).push { seen, line } byte =
        .more { seen, line := line.push byte } := by
      change RequestHead.push _ _ = _
      rw [RequestHead.push]
      dsimp only
      rw [if_neg (Ne.symm plain.1), if_neg inside]
    rw [List.cons_append, Reader.feed, pushed]
    dsimp only
    rw [ih (line.push byte) plain.2 (by rw [Array.size_push]; omega)]
    simp

theorem feed_text (seen : Seen) {text : List UInt8} (plain : lineFeed ∉ text)
    (short : text.length < lineLimit) (rest : List UInt8) :
    (headReader capacity).feed { seen } (text ++ rest) =
      (headReader capacity).feed { seen, line := text.toArray } rest := by
  rw [feed_plain seen #[] plain (by simpa using short)]
  simp

theorem feed_terminated (seen : Seen) {text : List UInt8} (plain : lineFeed ∉ text)
    (fits : text.length < lineLimit) (rest : List UInt8) :
    (headReader capacity).feed { seen } (text ++ lineFeed :: rest) =
      match takeLine seen (RequestHead.content (text ++ [lineFeed])) with
      | .more seen => (headReader capacity).feed { seen } rest
      | .settled result => (.settled result, rest) := by
  have pushed : (headReader capacity).push { seen, line := text.toArray } lineFeed =
      (takeLine seen (RequestHead.content (text ++ [lineFeed]))).map (fun seen => { seen }) id := by
    simp [headReader, RequestHead.push]
  rw [feed_text seen plain fits, Reader.feed, pushed]
  cases takeLine seen (RequestHead.content (text ++ [lineFeed])) <;> rfl

theorem feed_full (seen : Seen) {text : List UInt8} (plain : lineFeed ∉ text)
    (size : text.length = lineLimit) (rest : List UInt8) :
    (headReader capacity).feed { seen } (text ++ rest) = (.settled (.error .lineTooLong), rest) := by
  rcases List.eq_nil_or_concat text with rfl | ⟨front, last, rfl⟩
  next => cases size
  next =>
    rw [List.concat_eq_append] at plain size ⊢
    rw [List.mem_append, List.mem_singleton, not_or] at plain
    rw [List.length_append, List.length_singleton] at size
    have pushed : (headReader capacity).push { seen, line := front.toArray } last =
        .settled (.error .lineTooLong) := by
      change RequestHead.push _ _ = _
      rw [RequestHead.push]
      dsimp only
      rw [if_neg (Ne.symm plain.2), if_pos (by simpa using size)]
    rw [List.append_assoc, List.singleton_append, feed_text seen plain.1 (by omega), Reader.feed,
      pushed]

theorem takeRest_text (seen : Seen) {text : List UInt8} (some_left : text ≠ []) :
    RequestHead.takeRest { seen, line := text.toArray } = takeLine seen text := by
  simp [RequestHead.takeRest, some_left]

theorem finish_text (seen : Seen) {text : List UInt8} (some_left : text ≠ []) :
    (headReader capacity).finish { seen, line := text.toArray } .ended =
      match takeLine seen text with
      | .more seen => (headReader capacity).finish { seen } .ended
      | .settled result => result := by
  simp only [headReader, RequestHead.finish, takeRest_text seen some_left]
  cases takeLine seen text with
  | more seen => cases seen <;> rfl
  | settled result => rfl

theorem conclude_cut (seen : Seen) {bytes piece rest : List UInt8} (cut : Cut bytes piece rest) :
    (headReader capacity).conclude { seen } bytes =
      match line? piece with
      | none => (.error .lineTooLong, rest)
      | some line =>
          match takeLine seen line with
          | .more seen => (headReader capacity).conclude { seen } rest
          | .settled result => (result, rest) := by
  cases cut with
  | @terminated text _ plain fits =>
    rw [line?_terminated, Reader.conclude, feed_terminated seen plain fits]
    dsimp only
    cases takeLine seen (RequestHead.content (text ++ [lineFeed])) <;> rfl
  | full plain size => rw [line?_full plain size, Reader.conclude, feed_full seen plain size]
  | last plain some_left short =>
    have kept : (headReader capacity).feed { seen } (bytes ++ []) = _ :=
      feed_text seen plain short []
    rw [List.append_nil] at kept
    rw [line?_last plain short, Reader.conclude, kept]
    dsimp only [Reader.feed]
    rw [finish_text seen some_left]
    cases takeLine seen bytes <;> rfl

def Agrees (named : Option String) (headers : List (List UInt8)) : Prop :=
  (headers.filterMap value?).map text? = named.toList.map some

theorem Agrees.host_eq {named : Option String} {headers : List (List UInt8)}
    (agrees : Agrees named headers) : host headers = named.getD "" := by
  unfold Agrees at agrees
  unfold host
  generalize headers.filterMap value? = values at agrees ⊢
  cases named with
  | none =>
    rw [List.map_eq_nil_iff.mp agrees]
    rfl
  | some name =>
    obtain ⟨value, rfl, read⟩ := List.map_eq_singleton_iff.mp agrees
    simp [read]

theorem Agrees.append {named : Option String} {headers : List (List UInt8)} {piece : List UInt8}
    (agrees : Agrees named headers) (other : value? piece = none) :
    Agrees named (headers ++ [piece]) := by
  unfold Agrees at agrees ⊢
  simpa [other] using agrees

theorem Agrees.append_host {headers : List (List UInt8)} {piece value : List UInt8} {name : String}
    (agrees : Agrees none headers) (found : value? piece = some value)
    (read : text? value = some name) :
    Agrees (some name) (headers ++ [piece]) := by
  unfold Agrees at agrees ⊢
  simpa [found, read] using agrees

theorem hostValue?_eq (line : List UInt8) : hostValue? line = named? line := by
  have same : RequestHead.hostLabel = label := by decide +kernel
  have begins : label.isPrefixOf line = true ↔ line.take label.length = label := by
    rw [List.isPrefixOf_iff_prefix, List.prefix_iff_eq_take, eq_comm]
  simp only [hostValue?, named?, same, begins]

theorem takeLine_of_other (named : Option String) {line : List UInt8} (filled : line ≠ [])
    (other : hostValue? line = none) : takeLine (.headers named) line = .more (.headers named) := by
  simp [takeLine, filled, other]

theorem takeLine_of_second (name : String) {line value : List UInt8} (filled : line ≠ [])
    (found : hostValue? line = some value) :
    takeLine (.headers (some name)) line = .settled (.error .multipleHosts) := by
  simp [takeLine, filled, found]

theorem takeLine_of_first {line value : List UInt8} (filled : line ≠ [])
    (found : hostValue? line = some value) :
    takeLine (.headers none) line =
      match text? value with
      | none => .settled (.error .hostNotUtf8)
      | some text => .more (.headers (some text)) := by
  simp only [takeLine, List.isEmpty_iff, filled, found]
  rfl

-- A line is taken just as the piece that holds it is judged.
theorem takeLine_headers {named : Option String} {before : List (List UInt8)}
    {piece line : List UInt8} (agrees : Agrees named before) (read : line? piece = some line)
    (filled : line ≠ []) :
    match offence? before piece with
    | some error => takeLine (.headers named) line = .settled (.error error)
    | none => ∃ named', takeLine (.headers named) line = .more (.headers named') ∧
        Agrees named' (before ++ [piece]) := by
  have same : value? piece = hostValue? line := by
    rw [value?, read, Option.bind_some, hostValue?_eq]
  have whole : line? piece ≠ none := by simp [read]
  rw [offence?, if_neg whole, same]
  cases found : hostValue? line with
  | none => exact ⟨named, takeLine_of_other named filled found, agrees.append (same.trans found)⟩
  | some value =>
    cases named with
    | some name =>
      have several : before.filterMap value? ≠ [] := by
        intro nothing
        rw [Agrees, nothing] at agrees
        cases agrees
      simp only [several, takeLine_of_second name filled found, ne_eq, not_false_eq_true, if_true]
    | none =>
      have nothing : before.filterMap value? = [] := List.map_eq_nil_iff.mp agrees
      have first := takeLine_of_first filled found
      cases text : text? value with
      | none =>
        rw [text] at first
        simpa [nothing, text] using first
      | some name =>
        rw [text] at first
        simp only [nothing, text]
        exact ⟨some name, first, agrees.append_host (same.trans found) text⟩

theorem conclude_headers {named : Option String} {before : List (List UInt8)}
    (agrees : Agrees named before) (bytes : List UInt8) :
    (headReader capacity).conclude { seen := .headers named } bytes =
      ((judge before (pieces bytes)).1, (judge before (pieces bytes)).2.flatten) := by
  fun_induction pieces bytes generalizing named before with
  | case1 =>
    rw [judge, agrees.host_eq]
    rfl
  | case2 bytes some_left ih =>
    rw [conclude_cut _ (cut_firstPiece some_left), judge]
    cases read : line? (firstPiece bytes) with
    | none => simp [offence?, read, flatten_pieces]
    | some line =>
      by_cases filled : line = []
      next =>
        subst filled
        simp [takeLine, agrees.host_eq, flatten_pieces]
      next =>
        have taken := takeLine_headers agrees read filled
        rw [if_neg (by simpa using filled)]
        dsimp only
        cases offends : offence? before (firstPiece bytes) with
        | some error =>
          rw [offends] at taken
          simp [taken, flatten_pieces]
        | none =>
          rw [offends] at taken
          obtain ⟨named, taken, agrees⟩ := taken
          rw [taken]
          exact ih agrees

theorem conclude_head (bytes : List UInt8) :
    (headReader capacity).conclude {} bytes =
      ((outcome (pieces bytes)).1, (outcome (pieces bytes)).2.flatten) := by
  rw [pieces]
  split
  next nothing =>
    subst nothing
    rfl
  next some_left =>
    rw [conclude_cut _ (cut_firstPiece some_left), outcome]
    cases read : line? (firstPiece bytes) with
    | none => simp [flatten_pieces]
    | some line =>
      have agrees : Agrees none [] := rfl
      simpa [takeLine] using conclude_headers agrees _

theorem offence?_ne_missing (before : List (List UInt8)) (piece : List UInt8) :
    offence? before piece ≠ some .missingRequestLine := by
  unfold offence?
  split
  next => nofun
  next =>
    split
    next => nofun
    next =>
      split
      next => nofun
      next => split <;> nofun

theorem judge_ne_missing (before headers : List (List UInt8)) :
    (judge before headers).1 ≠ .error .missingRequestLine := by
  induction headers generalizing before with
  | nil => nofun
  | cons piece later ih =>
    rw [judge]
    split
    next => nofun
    next =>
      split
      next error offends =>
        rintro ⟨⟩
        exact offence?_ne_missing before piece offends
      next => exact ih _

theorem outcome_missing_iff (bytes : List UInt8) :
    (outcome (pieces bytes)).1 = .error .missingRequestLine ↔ bytes = [] := by
  rw [pieces]
  split
  next nothing => simp [outcome, nothing]
  next some_left =>
    rw [outcome]
    split
    next => simp [some_left]
    next => simp [some_left, judge_ne_missing]

theorem lively_headReader (positive : 0 < capacity) :
    (headReader capacity).Lively fun _ => True where
  room_pos _ _ := positive
  push _ _ _ _ _ := trivial

/-- A head says what its pieces say, and those up to the one that settles it are used. -/
theorem head_says_what_pieces_say {bytes : List UInt8} {source : Recording} (positive : 0 < capacity)
    (gives : source.Gives bytes) :
    ((headReader capacity).run {} source).result = (outcome (pieces bytes)).1 ∧
      bytes = ((headReader capacity).run {} source).used ++ (outcome (pieces bytes)).2.flatten ∧
      (((headReader capacity).run {} source).result = .error .missingRequestLine ↔ bytes = []) := by
  obtain ⟨rest, concluded, split⟩ := Reader.conclude_run (lively_headReader positive) trivial gives
  rw [conclude_head] at concluded
  obtain ⟨result, rfl⟩ := Prod.mk.inj concluded
  exact ⟨result.symm, split, result ▸ outcome_missing_iff bytes⟩

-- Only one carriage return belongs to an end of line, and one without a line feed is none.
def crookedHead : List UInt8 :=
  "GET / HTTP/1.1\r\nhost: b\nHost: a\r\r\nX: \ry\n\r\nHost: c\r".toUTF8.data.toList

def crookedSource : Recording where
  ahead :=
    [.bytes (crookedHead.take 15), .fault ⟨.interrupted, none⟩, .bytes (crookedHead.drop 15)]

theorem crookedHead_says_what_pieces_say :
    crookedSource.Gives crookedHead ∧
      ((headReader 7).run {} crookedSource).result = .ok ⟨"a\r", true⟩ ∧
      crookedHead = ((headReader 7).run {} crookedSource).used ++ "Host: c\r".toUTF8.data.toList := by
  have positive : 0 < 7 := by decide
  have gives : crookedSource.Gives crookedHead := ⟨rfl, by decide +kernel, by decide +kernel⟩
  have judged : outcome (pieces crookedHead) =
      (.ok ⟨"a\r", true⟩, ["Host: c\r".toUTF8.data.toList]) := by
    cbv
  obtain ⟨result, split, -⟩ := head_says_what_pieces_say positive gives
  rw [judged] at result split
  exact ⟨gives, result, by simpa using split⟩

end SniffingRelay.Http
