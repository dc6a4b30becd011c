import SniffingRelay.Proofs.Stream.Supply
import SniffingRelay.Proofs.Tls.Bounds
import SniffingRelay.Proofs.Tls.Reassembly

set_option autoImplicit false

-- The first handshake message is taken from a supply record by record. As in the parser, an access
-- that is out of bounds is a case of its own, and so is a record that adds nothing; neither
-- happens.

namespace SniffingRelay.Tls

-- What is done with a supply. Nothing is left of an access that is out of bounds.
abbrev Intake (S A : Type) : Type := ExceptT HelloError (StateT S Option) A

namespace Intake

variable {S A B : Type}

def exactly (supply : Supply S) (count : Nat) (blame : Fault -> HelloError) :
    Intake S (List UInt8) := fun source =>
  match supply.exactly count source with
  | (.ok bytes, next) => some (.ok bytes, next)
  | (.error fault, next) => some (.error (blame fault), next)

def record (supply : Supply S) (wanted : UInt8) : Intake S (List UInt8) := do
  let header <- exactly supply recordHeaderLength .recordHeader
  let content <- header[0]?
  if content ≠ wanted then throw (.contentType content wanted)
  else
    let length := Hello.bigEndian [<- header[3]?, <- header[4]?]
    exactly supply length (.recordFragment length)

def fragment (supply : Supply S) : Intake S (List UInt8) := do
  let bytes <- record supply handshakeContent
  if bytes.isEmpty then throw .emptyRecord
  else return bytes

def gather (supply : Supply S) (count : Nat) (message : List UInt8) : Intake S (List UInt8) := do
  if count ≤ message.length then return message
  else
    let bytes <- fragment supply
    if message.length < (message ++ bytes).length then gather supply count (message ++ bytes)
    else (none : Option (List UInt8))
termination_by count - message.length
decreasing_by omega

def parsed (body : List UInt8) : Intake S Hello := fun source =>
  Option.map (fun result => (result, source)) (Cursor.parse body)

def afterHeader (supply : Supply S) (message : List UInt8) : Intake S Hello := do
  let length := Hello.bigEndian [<- message[1]?, <- message[2]?, <- message[3]?]
  if messageLimit < length then throw (.messageTooLarge length messageLimit)
  else
    let message <- gather supply (4 + length) message
    let body <- slice? 4 (4 + length) message
    parsed body

def hello (supply : Supply S) : Intake S Hello := do
  let message <- fragment supply
  let kind <- message[0]?
  if kind ≠ 1 then throw (.handshakeType kind)
  else
    let message <- gather supply 4 message
    afterHeader supply message

theorem bind_of_ok {step : Intake S A} {source next : S} {value : A}
    (read : step source = some (.ok value, next)) (later : A -> Intake S B) :
    (step >>= later) source = later value next := by
  change StateT.bind step _ source = _
  rw [StateT.bind, read]
  rfl

theorem bind_of_error {step : Intake S A} {source next : S} {error : HelloError}
    (read : step source = some (.error error, next)) (later : A -> Intake S B) :
    (step >>= later) source = some (.error error, next) := by
  change StateT.bind step _ source = _
  rw [StateT.bind, read]
  rfl

theorem liftM_of_eq_some {access : Option A} {value : A} (found : access = some value) (source : S) :
    (liftM access : Intake S A) source = some (.ok value, source) := by
  rw [found]
  rfl

section

variable {supply : Supply S} {source next : S} {wanted : UInt8}

theorem exactly_eq_ok_iff {count : Nat} {blame : Fault -> HelloError} {bytes : List UInt8} :
    exactly supply count blame source = some (.ok bytes, next) ↔
      supply.exactly count source = (.ok bytes, next) := by
  rw [exactly]
  split <;> simp_all

theorem exactly_eq_error_iff {count : Nat} {blame : Fault -> HelloError} {error : HelloError} :
    exactly supply count blame source = some (.error error, next) ↔
      ∃ fault, supply.exactly count source = (.error fault, next) ∧ blame fault = error := by
  rw [exactly]
  split <;> simp_all [and_comm]

theorem exists_exactly (supply : Supply S) (count : Nat) (blame : Fault -> HelloError) (source : S) :
    ∃ result next taken, exactly supply count blame source = some (result, next) ∧
      supply.heard next = supply.heard source ++ taken ∧ taken.length ≤ count ∧
        ∀ bytes, result = .ok bytes → bytes = taken ∧ bytes.length = count := by
  obtain ⟨taken, short, heard, whole⟩ := supply.bounded count source
  rw [exactly]
  cases read : supply.exactly count source with
  | mk result next =>
    rw [read] at heard whole
    cases result with
    | error fault => exact ⟨_, next, taken, rfl, heard, short, fun _ same => nomatch same⟩
    | ok bytes =>
      refine ⟨_, next, taken, rfl, heard, short, fun _ same => ?_⟩
      exact whole _ (congrArg Except.ok (Except.ok.inj same))

theorem eq_of_recordHeaderLength {header : List UInt8} (size : header.length = recordHeaderLength) :
    ∃ content major minor high low, header = [content, major, minor, high, low] := by
  match header, size with
  | [content, major, minor, high, low], _ => exact ⟨content, major, minor, high, low, rfl⟩

theorem record_of_header {content major minor high low : UInt8}
    (read : exactly supply recordHeaderLength .recordHeader source =
      some (.ok [content, major, minor, high, low], next)) :
    record supply wanted source =
      if content ≠ wanted then some (.error (.contentType content wanted), next)
      else
        let length := Hello.bigEndian [high, low]
        exactly supply length (.recordFragment length) next := by
  have found : [content, major, minor, high, low][0]? = some content := rfl
  rw [record, bind_of_ok read, bind_of_ok (liftM_of_eq_some found next)]
  split
  next => rfl
  next => rfl

structure Outcome (supply : Supply S) (source : S) (result : Except HelloError (List UInt8)) (next : S)
    (taken : List UInt8) : Prop where
  heard : supply.heard next = supply.heard source ++ taken
  short : taken.length ≤ recordHeaderLength + 65535
  whole : ∀ bytes, result = .ok bytes → taken.length = recordHeaderLength + bytes.length

theorem exists_record (supply : Supply S) (wanted : UInt8) (source : S) :
    ∃ result next taken, record supply wanted source = some (result, next) ∧
      Outcome supply source result next taken := by
  obtain ⟨result, next, first, read, heard, first_short, whole⟩ :=
    exists_exactly supply recordHeaderLength .recordHeader source
  cases result with
  | error error =>
    rw [record, bind_of_error read]
    exact ⟨_, next, first, rfl, heard, Nat.le_add_right_of_le first_short, fun _ same => nomatch same⟩
  | ok header =>
    obtain ⟨rfl, size⟩ := whole header rfl
    obtain ⟨content, major, minor, high, low, rfl⟩ := eq_of_recordHeaderLength size
    rw [record_of_header read]
    by_cases other : content = wanted
    next =>
      rw [if_neg (not_not_intro other)]
      have small : Hello.bigEndian [high, low] < 256 ^ 2 := bigEndian_lt [high, low]
      obtain ⟨result, last, rest, read, last_heard, rest_short, whole⟩ :=
        exists_exactly supply (Hello.bigEndian [high, low])
          (.recordFragment (Hello.bigEndian [high, low])) next
      rw [heard, List.append_assoc] at last_heard
      refine ⟨result, last, _, read, last_heard, ?_, fun bytes same => ?_⟩
      next =>
        rw [List.length_append, size]
        omega
      next =>
        obtain ⟨rfl, -⟩ := whole bytes same
        rw [List.length_append, size]
    next =>
      rw [if_pos other]
      exact ⟨_, next, _, rfl, heard, Nat.le_add_right_of_le first_short, fun _ same => nomatch same⟩

theorem exists_fragment (supply : Supply S) (source : S) :
    ∃ result next taken, fragment supply source = some (result, next) ∧
      Outcome supply source result next taken ∧ ∀ bytes, result = .ok bytes → bytes ≠ [] := by
  obtain ⟨result, next, taken, read, outcome⟩ := exists_record supply handshakeContent source
  rw [fragment]
  cases result with
  | error error =>
    rw [bind_of_error read]
    exact ⟨_, next, taken, rfl, outcome, fun _ same => nomatch same⟩
  | ok bytes =>
    rw [bind_of_ok read]
    by_cases empty : bytes = []
    next =>
      subst empty
      exact ⟨_, next, taken, rfl, ⟨outcome.heard, outcome.short, fun _ same => nomatch same⟩,
        fun _ same => nomatch same⟩
    next =>
      rw [if_neg (by simpa using empty)]
      refine ⟨_, next, taken, rfl, outcome, ?_⟩
      rintro _ ⟨⟩
      exact empty

theorem outcome_of_fragment {result : Except HelloError (List UInt8)}
    (read : fragment supply source = some (result, next)) :
    (∃ taken, Outcome supply source result next taken) ∧ ∀ bytes, result = .ok bytes → bytes ≠ [] := by
  obtain ⟨result', next', taken, read', outcome, filled⟩ := exists_fragment supply source
  obtain ⟨rfl, rfl⟩ := Prod.mk.inj (Option.some.inj (read.symm.trans read'))
  exact ⟨⟨taken, outcome⟩, filled⟩

end

end Intake

namespace Handshake

theorem verdict_eq {message : List UInt8} (arrived : message ≠ []) :
    verdict message.toArray =
      if decisive message ≤ message.length then some (outcome message) else none := by
  simpa using verdict_append arrived []

theorem announced_append {message : List UInt8} (long : 4 ≤ message.length) (more : List UInt8) :
    announced (message ++ more) = announced message := by
  rw [announced, List.drop_append_of_le_length (by omega), List.take_append_of_le_length (by simp; omega),
    announced]

theorem verdict_of_short {rest : List UInt8} (short : rest.length < 3) :
    verdict (1 :: rest).toArray = none := by
  rw [verdict_eq (List.cons_ne_nil 1 rest), if_neg]
  have least := four_le_decisive rest
  rw [List.length_cons]
  omega

theorem verdict_of_large {rest : List UInt8} (long : 3 ≤ rest.length)
    (large : messageLimit < announced (1 :: rest)) :
    verdict (1 :: rest).toArray =
      some (.error (.messageTooLarge (announced (1 :: rest)) messageLimit)) := by
  have header : ¬rest.length + 1 < 4 := by omega
  have enough : decisive (1 :: rest) ≤ (1 :: rest).length := by simpa [decisive, large] using long
  rw [verdict_eq (List.cons_ne_nil 1 rest), if_pos enough, outcome]
  simp [header, large]

theorem verdict_of_fitting {rest : List UInt8} (long : 3 ≤ rest.length)
    (fits : announced (1 :: rest) ≤ messageLimit) (more : List UInt8) :
    verdict (1 :: rest ++ more).toArray =
      if 4 + announced (1 :: rest) ≤ (1 :: rest ++ more).length then
        some (Hello.parse (((1 :: rest ++ more).drop 4).take (announced (1 :: rest))))
      else none := by
  have whole : 4 ≤ (1 :: rest).length := Nat.succ_le_succ long
  have same := announced_append whole more
  rw [List.cons_append] at same ⊢
  have header : ¬(rest ++ more).length + 1 < 4 := by
    rw [List.length_append]
    omega
  have admitted := Nat.not_lt.mpr fits
  have reach : decisive (1 :: (rest ++ more)) = 4 + announced (1 :: rest) := by
    rw [List.length_append] at header
    simp [decisive, same, header, admitted]
  rw [verdict_eq (List.cons_ne_nil 1 _), reach]
  split
  next whole =>
    have complete : ¬(rest ++ more).length + 1 < 4 + announced (1 :: rest) := Nat.not_lt.mpr whole
    rw [List.length_append] at header complete
    simp [outcome, same, header, admitted, complete]
  next => rfl

end Handshake

namespace Intake

open Handshake (verdict announced)

variable {S : Type}

inductive Gathers (supply : Supply S) (start : S) : List (List UInt8) -> S -> Prop where
  | none : Gathers supply start [] start
  | more {fragments : List (List UInt8)} {source next : S} {bytes : List UInt8}
      (before : Gathers supply start fragments source)
      (read : fragment supply source = some (.ok bytes, next))
      (pending : verdict (fragments.flatten ++ bytes).toArray = Option.none) :
      Gathers supply start (fragments ++ [bytes]) next

inductive Settles (supply : Supply S) (start : S) : Except HelloError Hello -> S -> Prop where
  | failed {fragments : List (List UInt8)} {source next : S} {error : HelloError}
      (before : Gathers supply start fragments source)
      (read : fragment supply source = some (.error error, next)) :
      Settles supply start (.error error) next
  | decided {fragments : List (List UInt8)} {source next : S} {bytes : List UInt8}
      {result : Except HelloError Hello} (before : Gathers supply start fragments source)
      (read : fragment supply source = some (.ok bytes, next))
      (decides : verdict (fragments.flatten ++ bytes).toArray = some result) :
      Settles supply start result next

-- A message as it is after some record. Whether it is open is not looked at yet.
def Holds (supply : Supply S) (start : S) (message : List UInt8) (now : S) : Prop :=
  ∃ fragments source bytes, Gathers supply start fragments source ∧
    fragment supply source = some (.ok bytes, now) ∧ message = fragments.flatten ++ bytes

section

variable {supply : Supply S} {start now : S} {message : List UInt8}

theorem Holds.gathers (holds : Holds supply start message now)
    (pending : verdict message.toArray = none) :
    ∃ fragments, Gathers supply start fragments now ∧ fragments.flatten = message := by
  obtain ⟨fragments, source, bytes, before, read, rfl⟩ := holds
  exact ⟨_, .more before read pending, by simp⟩

theorem Holds.settles {result : Except HelloError Hello} (holds : Holds supply start message now)
    (decides : verdict message.toArray = some result) : Settles supply start result now := by
  obtain ⟨fragments, source, bytes, before, read, rfl⟩ := holds
  exact .decided before read decides

theorem gather_of_enough {count : Nat} (enough : count ≤ message.length) :
    gather supply count message now = some (.ok message, now) := by
  rw [gather, if_pos enough]
  rfl

theorem gather_of_error {count : Nat} {error : HelloError} {next : S} (few : message.length < count)
    (read : fragment supply now = some (.error error, next)) :
    gather supply count message now = some (.error error, next) := by
  rw [gather, if_neg (Nat.not_le.mpr few), bind_of_error read]

theorem gather_of_ok {count : Nat} {bytes : List UInt8} {next : S} (few : message.length < count)
    (read : fragment supply now = some (.ok bytes, next)) (filled : bytes ≠ []) :
    gather supply count message now = gather supply count (message ++ bytes) next := by
  have longer : message.length < (message ++ bytes).length := by
    have bytes_length := List.length_pos_iff.mpr filled
    rw [List.length_append]
    omega
  rw [gather, if_neg (Nat.not_le.mpr few), bind_of_ok read, if_pos longer]

-- A loop that waits for `count` bytes, all of them on the way open, ends with them or fails.
theorem gather_reaches {count : Nat} (holds : Holds supply start message now)
    (pending : ∀ more, (message ++ more).length < count → verdict (message ++ more).toArray = none) :
    (∃ more next, gather supply count message now = some (.ok (message ++ more), next) ∧
      count ≤ (message ++ more).length ∧ Holds supply start (message ++ more) next) ∨
      ∃ error next, gather supply count message now = some (.error error, next) ∧
        Settles supply start (.error error) next := by
  -- What is missing gets less with each record, as none is empty.
  induction missing : count - message.length using Nat.strongRecOn generalizing message now with
  | _ left ih =>
    by_cases enough : count ≤ message.length
    next =>
      refine .inl ⟨[], now, ?_⟩
      rw [List.append_nil]
      exact ⟨gather_of_enough enough, enough, holds⟩
    next =>
      have few := Nat.not_le.mp enough
      have still : verdict message.toArray = none := by simpa using pending [] (by simpa using few)
      obtain ⟨fragments, before, whole⟩ := holds.gathers still
      obtain ⟨result, next, taken, read, -, filled⟩ := exists_fragment supply now
      cases result with
      | error error => exact .inr ⟨error, next, gather_of_error few read, .failed before read⟩
      | ok bytes =>
        have bytes_length := List.length_pos_iff.mpr (filled bytes rfl)
        have less : count - (message ++ bytes).length < left := by
          rw [List.length_append]
          omega
        have held : Holds supply start (message ++ bytes) next :=
          ⟨fragments, now, bytes, before, read, by rw [whole]⟩
        have open_later (more : List UInt8) (short : (message ++ bytes ++ more).length < count) :
            verdict (message ++ bytes ++ more).toArray = none := by
          rw [List.append_assoc] at short ⊢
          exact pending _ short
        rw [gather_of_ok few read (filled bytes rfl)]
        refine (ih _ less held open_later rfl).imp ?_ id
        rintro ⟨more, last, later⟩
        rw [List.append_assoc] at later
        exact ⟨bytes ++ more, last, later⟩

theorem parsed_eq (body : List UInt8) (source : S) :
    parsed body source = some (Hello.parse body, source) := by
  rw [parsed, Cursor.parse_eq]
  rfl

theorem slice?_eq {count : Nat} (enough : 4 + count ≤ message.length) :
    slice? 4 (4 + count) message = some ((message.drop 4).take count) := by
  rw [slice?, if_pos ⟨Nat.le_add_right 4 count, enough⟩, List.drop_take, Nat.add_sub_cancel_left]

theorem afterHeader_eq {rest : List UInt8} (long : 3 ≤ rest.length) :
    afterHeader supply (1 :: rest) now =
      if messageLimit < announced (1 :: rest) then
        some (.error (.messageTooLarge (announced (1 :: rest)) messageLimit), now)
      else (do
        let message <- gather supply (4 + announced (1 :: rest)) (1 :: rest)
        let body <- slice? 4 (4 + announced (1 :: rest)) message
        parsed body : Intake S Hello) now := by
  match rest, long with
  | high :: middle :: low :: body, _ =>
    have first : (1 :: high :: middle :: low :: body)[1]? = some high := rfl
    have second : (1 :: high :: middle :: low :: body)[2]? = some middle := rfl
    have third : (1 :: high :: middle :: low :: body)[3]? = some low := rfl
    rw [afterHeader, bind_of_ok (liftM_of_eq_some first now), bind_of_ok (liftM_of_eq_some second now),
      bind_of_ok (liftM_of_eq_some third now)]
    split
    next large => exact (if_pos large).symm
    next admitted => exact (if_neg admitted).symm

theorem afterHeader_settles {rest : List UInt8} (long : 3 ≤ rest.length)
    (holds : Holds supply start (1 :: rest) now) :
    ∃ result next, afterHeader supply (1 :: rest) now = some (result, next) ∧
      Settles supply start result next := by
  rw [afterHeader_eq long]
  by_cases large : messageLimit < announced (1 :: rest)
  next =>
    rw [if_pos large]
    exact ⟨_, now, rfl, holds.settles (Handshake.verdict_of_large long large)⟩
  next =>
    rw [if_neg large]
    have fits := Nat.not_lt.mp large
    have pending : ∀ more, (1 :: rest ++ more).length < 4 + announced (1 :: rest) →
        verdict (1 :: rest ++ more).toArray = none := by
      intro more short
      rw [Handshake.verdict_of_fitting long fits more, if_neg (Nat.not_le.mpr short)]
    rcases gather_reaches holds pending with
      ⟨more, last, gathered, enough, holds⟩ | ⟨error, last, failed, settled⟩
    next =>
      rw [bind_of_ok gathered, bind_of_ok (liftM_of_eq_some (slice?_eq enough) last), parsed_eq]
      refine ⟨_, last, rfl, holds.settles ?_⟩
      rw [Handshake.verdict_of_fitting long fits more, if_pos enough]
    next =>
      rw [bind_of_error failed]
      exact ⟨_, last, rfl, settled⟩

theorem hello_settles (supply : Supply S) (start : S) :
    ∃ result next, hello supply start = some (result, next) ∧ Settles supply start result next := by
  obtain ⟨result, now, taken, read, -, filled⟩ := exists_fragment supply start
  rw [hello]
  cases result with
  | error error =>
    rw [bind_of_error read]
    exact ⟨_, now, rfl, .failed .none read⟩
  | ok first =>
    rw [bind_of_ok read]
    obtain ⟨kind, rest, rfl⟩ := List.exists_cons_of_ne_nil (filled first rfl)
    have holds : Holds supply start (kind :: rest) now := ⟨[], start, _, .none, read, rfl⟩
    have found : (kind :: rest)[0]? = some kind := rfl
    rw [bind_of_ok (liftM_of_eq_some found now)]
    by_cases other : kind ≠ 1
    next =>
      rw [if_pos other]
      refine ⟨_, now, rfl, holds.settles ?_⟩
      simp [verdict, other]
    next =>
      rw [if_neg other]
      obtain rfl := Decidable.not_not.mp other
      have open_header : ∀ more, (1 :: rest ++ more).length < 4 →
          verdict (1 :: rest ++ more).toArray = none := by
        intro more short
        have few : (rest ++ more).length < 3 := Nat.lt_of_succ_lt_succ short
        exact Handshake.verdict_of_short few
      rcases gather_reaches holds open_header with
        ⟨more, now, gathered, long, holds⟩ | ⟨error, last, failed, settled⟩
      next =>
        have header : 3 ≤ (rest ++ more).length := Nat.le_of_succ_le_succ long
        rw [bind_of_ok gathered]
        exact afterHeader_settles header holds
      next =>
        rw [bind_of_error failed]
        exact ⟨_, last, rfl, settled⟩

end

end Intake

end SniffingRelay.Tls
