import Mathlib
import SniffingRelay.Listener.Bookkeeping

set_option autoImplicit false

namespace SniffingRelay

namespace Entry

def isOutcome : Entry -> Bool
  | .proxied | .rejected _ => true
  | _ => false

def toBackend : Entry -> Nat
  | .bytesToBackend count => count
  | _ => 0

def fromBackend : Entry -> Nat
  | .bytesFromBackend count => count
  | _ => 0

def sheet (result : Except Failure Summary) : List Entry := onArrival ++ onResult result

def before (entries later : List Entry) : List Entry :=
  entries.take (entries.length - later.length)

theorem before_append (front later : List Entry) : before (front ++ later) later = front := by
  simp [before]

theorem before_of_suffix_cons {entries later : List Entry} {entry : Entry}
    (suffix : entry :: later <:+ entries) :
    before entries later = before entries (entry :: later) ++ [entry] ∧ later <:+ entries := by
  obtain ⟨front, rfl⟩ := suffix
  refine ⟨?_, front ++ [entry], by simp⟩
  rw [before_append, List.append_cons, before_append]

variable {entries first last : List Entry} {result : Except Failure Summary}

-- If all of one kind come after one of another kind, then so they do in every front.
theorem countP_front_le {late early : Entry -> Bool} (front : entries <+: first ++ last)
    (unbegun : first.countP late = 0) (enough : last.countP late ≤ first.countP early) :
    entries.countP late ≤ entries.countP early := by
  rcases List.prefix_or_prefix_of_prefix front (List.prefix_append first last) with inside | beyond
  next =>
    have none : entries.countP late ≤ first.countP late := inside.sublist.countP_le
    omega
  next =>
    have some : entries.countP late ≤ (first ++ last).countP late := front.sublist.countP_le
    have begun : first.countP early ≤ entries.countP early := beyond.sublist.countP_le
    rw [List.countP_append] at some
    omega

structure Orderly (entries : List Entry) : Prop where
  entered_le : entries.count entered ≤ entries.count accepted
  left_le : entries.count left ≤ entries.count entered
  closed_le_left : entries.count closed ≤ entries.count left
  closed_le : entries.count closed ≤ entries.countP isOutcome
  outcomes_le : entries.countP isOutcome ≤ entries.count accepted

theorem orderly_of_front (front : entries <+: sheet result) : Orderly entries := by
  have begun : entries <+: [accepted] ++ (entered :: onResult result) := front
  have arrived : entries <+: onArrival ++ onResult result := front
  have closing : entries <+: (onArrival ++ ofResult result ++ [left]) ++ [closed] := by
    simpa [sheet, onResult] using front
  have unclosed : (onArrival ++ ofResult result ++ [left]).count closed = 0 := by
    cases result <;> rfl
  constructor
  next => exact countP_front_le begun rfl (by cases result <;> exact le_refl 1)
  next => exact countP_front_le arrived rfl (by cases result <;> exact le_refl 1)
  next => exact countP_front_le closing unclosed (by cases result <;> exact le_refl 1)
  next => exact countP_front_le closing unclosed (by cases result <;> exact le_refl 1)
  next => exact countP_front_le begun rfl (by cases result <;> exact le_refl 1)

theorem Orderly.append {more : List Entry} (orderly : Orderly entries) (further : Orderly more) :
    Orderly (entries ++ more) := by
  constructor <;> simp only [List.count_append, List.countP_append]
  next => exact Nat.add_le_add orderly.entered_le further.entered_le
  next => exact Nat.add_le_add orderly.left_le further.left_le
  next => exact Nat.add_le_add orderly.closed_le_left further.closed_le_left
  next => exact Nat.add_le_add orderly.closed_le further.closed_le
  next => exact Nat.add_le_add orderly.outcomes_le further.outcomes_le

theorem Orderly.flatMap {A : Type} {posted : A -> List Entry} {items : List A}
    (each : ∀ item ∈ items, Orderly (posted item)) : Orderly (items.flatMap posted) := by
  induction items with
  | nil => constructor <;> exact Nat.le_refl 0
  | cons item items ih =>
    rw [List.forall_mem_cons] at each
    rw [List.flatMap_cons]
    exact each.1.append (ih each.2)

theorem Orderly.perm {entries' : List Entry} (orderly : Orderly entries)
    (same : entries.Perm entries') : Orderly entries' := by
  constructor <;> simp only [← same.count_eq, ← same.countP_eq]
  exacts [orderly.entered_le, orderly.left_le, orderly.closed_le_left, orderly.closed_le,
    orderly.outcomes_le]

end Entry

namespace Accounts

structure Records (accounts : Accounts) (entries : List Entry) : Prop where
  accepted : accounts.accepted = entries.count Entry.accepted
  active : accounts.active + entries.count Entry.left = entries.count Entry.entered
  closed : accounts.closed = entries.count Entry.closed
  sniffFailed : accounts.sniffFailed = entries.count (Entry.rejected .malformedInput) +
    entries.count (Entry.rejected .unsupportedFeature)
  policyRejected : accounts.policyRejected = entries.count (Entry.rejected .policyRejected)
  backendFailed : accounts.backendFailed = entries.count (Entry.rejected .backendUnavailable)
  replayFailed : accounts.replayFailed = entries.count (Entry.rejected .replayFailed)
  proxied : accounts.proxied = entries.count Entry.proxied
  bytesToBackend : accounts.bytesToBackend = (entries.map Entry.toBackend).sum
  bytesFromBackend : accounts.bytesFromBackend = (entries.map Entry.fromBackend).sum

section

variable {accounts : Accounts} {entries : List Entry} {entry : Entry}

theorem Records.outcomes (records : accounts.Records entries) :
    accounts.outcomes = entries.countP Entry.isOutcome := by
  have kinds : entries.countP Entry.isOutcome = entries.count Entry.proxied +
      (entries.count (Entry.rejected .malformedInput) +
        entries.count (Entry.rejected .unsupportedFeature)) +
      entries.count (Entry.rejected .policyRejected) +
      entries.count (Entry.rejected .backendUnavailable) +
      entries.count (Entry.rejected .replayFailed) := by
    clear records
    induction entries with
    | nil => rfl
    | cons entry entries ih =>
      rw [List.countP_cons, ih]
      cases entry with
      | rejected reason =>
        cases reason <;> simp [Entry.isOutcome] <;> omega
      | proxied =>
        simp [Entry.isOutcome]
        omega
      | _ => simp [Entry.isOutcome]
  rw [Accounts.outcomes, kinds, records.proxied, records.sniffFailed, records.policyRejected,
    records.backendFailed, records.replayFailed]

theorem Records.perm {entries' : List Entry} (records : accounts.Records entries)
    (same : entries.Perm entries') : accounts.Records entries' := by
  constructor <;> simp only [← same.count_eq, ← (same.map _).sum_eq]
  exacts [records.accepted, records.active, records.closed, records.sniffFailed,
    records.policyRejected, records.backendFailed, records.replayFailed, records.proxied,
    records.bytesToBackend, records.bytesFromBackend]

theorem Records.active_pos (records : accounts.Records entries)
    (orderly : Entry.Orderly (.left :: entries)) : 1 ≤ accounts.active := by
  have left_le := orderly.left_le
  have active := records.active
  simp at left_le
  omega

-- Only the count of active connections ever goes down, and zero must not.
theorem Records.post (records : accounts.Records entries)
    (present : entry = .left → 1 ≤ accounts.active) :
    (accounts.post entry).Records (entry :: entries) := by
  obtain ⟨accepted, active, closed, sniffFailed, policyRejected, backendFailed, replayFailed,
    proxied, bytesToBackend, bytesFromBackend⟩ := records
  cases entry with
  | left =>
    have positive := present rfl
    constructor <;> simp [Accounts.post, Entry.toBackend, Entry.fromBackend, *]
    omega
  | rejected reason =>
    cases reason <;> constructor <;>
      simp [Accounts.post, reject, Entry.toBackend, Entry.fromBackend, *] <;> omega
  | _ =>
    constructor <;> simp [Accounts.post, Entry.toBackend, Entry.fromBackend, *] <;> omega

end

end Accounts

namespace ConnectionTask

def posted : ConnectionTask -> List Entry
  | .running => Entry.onArrival
  | .posting result later => Entry.onArrival ++ Entry.before (Entry.onResult result) later

def Sound : ConnectionTask -> Prop
  | .running => True
  | .posting result later => later <:+ Entry.onResult result

end ConnectionTask

namespace Bookkeeping

inductive Steps : Bookkeeping -> Turn -> Bookkeeping -> Prop where
  | arrived {accounts : Accounts} {tasks : List ConnectionTask} :
      Steps ⟨accounts, none, tasks⟩ .arrive ⟨accounts, some Entry.onArrival, tasks⟩
  | entered {accounts : Accounts} {tasks : List ConnectionTask} {entry : Entry}
      {later : List Entry} :
      Steps ⟨accounts, some (entry :: later), tasks⟩ .listener
        ⟨accounts.post entry, some later, tasks⟩
  | started {accounts : Accounts} {tasks : List ConnectionTask} :
      Steps ⟨accounts, some [], tasks⟩ .listener ⟨accounts, none, tasks ++ [ConnectionTask.running]⟩
  | finished {accounts : Accounts} {arriving : Option (List Entry)}
      {front back : List ConnectionTask} {result : Except Failure Summary} :
      Steps ⟨accounts, arriving, front ++ .running :: back⟩ (.finish front.length result)
        ⟨accounts, arriving, front ++ .posting result (Entry.onResult result) :: back⟩
  | posted {accounts : Accounts} {arriving : Option (List Entry)}
      {front back : List ConnectionTask} {result : Except Failure Summary} {entry : Entry}
      {later : List Entry} :
      Steps ⟨accounts, arriving, front ++ .posting result (entry :: later) :: back⟩
        (.post front.length)
        ⟨accounts.post entry, arriving, front ++ .posting result later :: back⟩

section

variable {books next last : Bookkeeping} {turn : Turn} {turns : List Turn}

theorem exists_split_of_set {tasks : List ConnectionTask} {index : Nat} {task : ConnectionTask}
    (found : tasks[index]? = some task) (task' : ConnectionTask) :
    ∃ front back, tasks = front ++ task :: back ∧ index = front.length ∧
      tasks.set index task' = front ++ task' :: back := by
  obtain ⟨inside, rfl⟩ := List.getElem?_eq_some_iff.mp found
  obtain ⟨front, back, split, length, changed⟩ := List.exists_of_set inside
  exact ⟨front, back, split, length.symm, changed⟩

theorem steps_of_step (stepped : books.step turn = some next) : Steps books turn next := by
  obtain ⟨accounts, arriving, tasks⟩ := books
  cases turn with
  | arrive =>
    cases arriving with
    | none =>
      cases stepped
      exact .arrived
    | some later => cases stepped
  | listener =>
    rcases arriving with - | - | ⟨entry, later⟩ <;> cases stepped
    next => exact .started
    next => exact .entered
  | finish index result =>
    simp only [step] at stepped
    split at stepped
    next found =>
      obtain ⟨front, back, rfl, rfl, changed⟩ := exists_split_of_set found
        (.posting result (Entry.onResult result))
      cases stepped
      rw [changed]
      exact .finished
    next => cases stepped
  | post index =>
    simp only [step] at stepped
    split at stepped
    next result entry later found =>
      obtain ⟨front, back, rfl, rfl, changed⟩ := exists_split_of_set found (.posting result later)
      cases stepped
      rw [changed]
      exact .posted
    next => cases stepped

def posted? (books : Bookkeeping) : Turn -> Option Entry
  | .listener => books.arriving.bind List.head?
  | .post task =>
      match books.tasks[task]? with
      | some (.posting _ later) => later.head?
      | _ => none
  | .arrive | .finish .. => none

def journal (books : Bookkeeping) : List Entry :=
  (books.arriving.map (Entry.before Entry.onArrival)).getD [] ++
    books.tasks.flatMap ConnectionTask.posted

structure Sound (books : Bookkeeping) : Prop where
  arriving : ∀ later ∈ books.arriving, later <:+ Entry.onArrival
  tasks : ∀ task ∈ books.tasks, task.Sound

theorem Sound.step (sound : books.Sound) (steps : Steps books turn next) : next.Sound := by
  obtain ⟨arriving, tasks⟩ := sound
  cases steps with
  | arrived => exact ⟨by simp, tasks⟩
  | entered =>
    exact ⟨by simpa using (Entry.before_of_suffix_cons (arriving _ rfl)).2, tasks⟩
  | started => exact ⟨nofun, by simpa [or_imp, forall_and, ConnectionTask.Sound] using tasks⟩
  | finished =>
    refine ⟨arriving, ?_⟩
    simp only [List.forall_mem_append, List.forall_mem_cons] at tasks ⊢
    exact ⟨tasks.1, List.suffix_rfl, tasks.2.2⟩
  | posted =>
    refine ⟨arriving, ?_⟩
    simp only [List.forall_mem_append, List.forall_mem_cons] at tasks ⊢
    exact ⟨tasks.1, (Entry.before_of_suffix_cons tasks.2.1).2, tasks.2.2⟩

theorem journal_step (sound : books.Sound) (steps : Steps books turn next) :
    next.accounts = (books.posted? turn).elim books.accounts books.accounts.post ∧
      next.journal.Perm ((books.posted? turn).toList ++ books.journal) := by
  obtain ⟨entering, tasks⟩ := sound
  cases steps with
  | arrived => exact ⟨rfl, by simp [journal, posted?, Entry.before]⟩
  | entered =>
    refine ⟨rfl, ?_⟩
    simp [journal, posted?, (Entry.before_of_suffix_cons (entering _ rfl)).1]
  | started =>
    refine ⟨rfl, ?_⟩
    simpa [journal, posted?, Entry.before, ConnectionTask.posted] using List.perm_append_comm
  | finished =>
    refine ⟨rfl, ?_⟩
    simp [journal, posted?, ConnectionTask.posted, Entry.before]
  | @posted _ arriving front back result entry later =>
    simp only [List.forall_mem_append, List.forall_mem_cons] at tasks
    have more := (Entry.before_of_suffix_cons tasks.2.1).1
    have moved := @List.perm_middle _ entry
      (((arriving.map (Entry.before Entry.onArrival)).getD [] ++
        front.flatMap ConnectionTask.posted) ++
          ConnectionTask.posted (.posting result (entry :: later)))
      (back.flatMap ConnectionTask.posted)
    refine ⟨by simp [posted?], ?_⟩
    simpa [journal, posted?, ConnectionTask.posted, more] using moved

-- What is posted for each connection is a front of its sheet, whatever the result will be.
theorem orderly_journal (books : Bookkeeping) : Entry.Orderly books.journal := by
  have arrived {entries : List Entry} (front : entries <+: Entry.onArrival) :
      Entry.Orderly entries := by
    have whole := List.prefix_append Entry.onArrival (Entry.onResult (.error .missingHostname))
    exact Entry.orderly_of_front (front.trans whole)
  have entering :
      Entry.Orderly ((books.arriving.map (Entry.before Entry.onArrival)).getD []) := by
    cases books.arriving with
    | none => exact arrived List.nil_prefix
    | some later => exact arrived (List.take_prefix _ _)
  refine entering.append (Entry.Orderly.flatMap ?_)
  intro task among
  cases task with
  | running => exact arrived List.prefix_rfl
  | posting result later =>
    have front := List.take_prefix ((Entry.onResult result).length - later.length)
      (Entry.onResult result)
    exact Entry.orderly_of_front ((List.prefix_append_right_inj Entry.onArrival).mpr front)

structure Balanced (books : Bookkeeping) : Prop where
  sound : books.Sound
  records : books.accounts.Records books.journal

theorem Balanced.active_pos (balanced : books.Balanced) (stepped : books.step turn = some next)
    (leaving : books.posted? turn = some .left) : 1 ≤ books.accounts.active := by
  have steps := steps_of_step stepped
  obtain ⟨-, same⟩ := journal_step balanced.sound steps
  rw [leaving] at same
  exact balanced.records.active_pos ((orderly_journal next).perm same)

theorem Balanced.step (balanced : books.Balanced) (stepped : books.step turn = some next) :
    next.Balanced := by
  have steps := steps_of_step stepped
  obtain ⟨posted, same⟩ := journal_step balanced.sound steps
  refine ⟨balanced.sound.step steps, ?_⟩
  rw [posted]
  cases made : books.posted? turn with
  | none =>
    rw [made] at same
    exact balanced.records.perm same.symm
  | some entry =>
    rw [made] at same
    refine (balanced.records.post ?_).perm same.symm
    rintro rfl
    exact balanced.active_pos stepped made

theorem balanced_start : ({} : Bookkeeping).Balanced := by
  refine ⟨⟨by simp, by simp⟩, ?_⟩
  constructor <;> rfl

theorem balanced_run (balanced : books.Balanced) (ran : books.run turns = some last) :
    last.Balanced := by
  induction turns generalizing books with
  | nil => exact Option.some.inj ran ▸ balanced
  | cons turn turns ih =>
    obtain ⟨next, stepped, ran⟩ := Option.bind_eq_some_iff.mp ran
    exact ih (balanced.step stepped) ran

end

end Bookkeeping

def FailureClass.explains (reason : FailureClass) : Except Failure Summary -> Bool
  | .ok _ => false
  | .error failure => failure.failureClass = reason

/-- What accounts say of the results of all connections. -/
structure Accounts.Settles (accounts : Accounts) (results : List (Except Failure Summary)) :
    Prop where
  accepted : accounts.accepted = results.length
  active : accounts.active = 0
  closed : accounts.closed = results.length
  outcomes : accounts.outcomes = results.length
  proxied : accounts.proxied = results.countP (·.isOk)
  sniffFailed : accounts.sniffFailed = results.countP FailureClass.malformedInput.explains +
    results.countP FailureClass.unsupportedFeature.explains
  policyRejected : accounts.policyRejected = results.countP FailureClass.policyRejected.explains
  backendFailed : accounts.backendFailed = results.countP FailureClass.backendUnavailable.explains
  replayFailed : accounts.replayFailed = results.countP FailureClass.replayFailed.explains
  bytesToBackend : accounts.bytesToBackend =
    ((results.filterMap Except.toOption).map Summary.bytesToBackend).sum
  bytesFromBackend : accounts.bytesFromBackend =
    ((results.filterMap Except.toOption).map Summary.bytesFromBackend).sum

section

variable {results : List (Except Failure Summary)}

theorem Entry.countP_sheets {kind : Entry -> Bool} {holds : Except Failure Summary -> Bool}
    (each : ∀ result, (Entry.sheet result).countP kind = if holds result then 1 else 0) :
    (results.flatMap Entry.sheet).countP kind = results.countP holds := by
  induction results with
  | nil => rfl
  | cons result results ih =>
    rw [List.flatMap_cons, List.countP_append, List.countP_cons, ih, each, Nat.add_comm]

theorem Entry.sum_sheets {amount : Entry -> Nat} {total : Summary -> Nat}
    (each : ∀ result,
      ((Entry.sheet result).map amount).sum = ((Except.toOption result).map total).getD 0) :
    ((results.flatMap Entry.sheet).map amount).sum =
      ((results.filterMap Except.toOption).map total).sum := by
  induction results with
  | nil => rfl
  | cons result results ih =>
    rw [List.flatMap_cons, List.map_append, List.sum_append, ih, each]
    cases result with
    | ok summary => simp [Except.toOption]
    | error failure =>
      rw [List.filterMap_cons_none rfl]
      exact Nat.zero_add _

theorem Accounts.Records.settles {accounts : Accounts}
    (records : accounts.Records (results.flatMap Entry.sheet)) : accounts.Settles results := by
  have once (entry : Entry) (one : ∀ result, (Entry.sheet result).count entry = 1) :
      (results.flatMap Entry.sheet).count entry = results.length := by
    rw [← List.countP_true]
    exact Entry.countP_sheets one
  have entered := once .entered (by rintro (_ | _) <;> rfl)
  have left := once .left (by rintro (_ | _) <;> rfl)
  have failed (reason : FailureClass) : (results.flatMap Entry.sheet).count (Entry.rejected reason) =
      results.countP reason.explains := by
    refine Entry.countP_sheets ?_
    rintro (failure | summary)
    next =>
      simp [Entry.sheet, Entry.onArrival, Entry.onResult, Entry.ofResult, FailureClass.explains,
        List.countP_cons]
    next => rfl
  have active := records.active
  constructor
  next => exact records.accepted.trans (once .accepted (by rintro (_ | _) <;> rfl))
  next => omega
  next => exact records.closed.trans (once .closed (by rintro (_ | _) <;> rfl))
  next =>
    rw [records.outcomes, ← List.countP_true]
    exact Entry.countP_sheets (by rintro (_ | _) <;> rfl)
  next => exact records.proxied.trans (Entry.countP_sheets (by rintro (_ | _) <;> rfl))
  next => rw [records.sniffFailed, failed, failed]
  next => exact records.policyRejected.trans (failed _)
  next => exact records.backendFailed.trans (failed _)
  next => exact records.replayFailed.trans (failed _)
  next =>
    refine records.bytesToBackend.trans (Entry.sum_sheets ?_)
    rintro (_ | _) <;> simp [Entry.sheet, Entry.onArrival, Entry.onResult, Entry.ofResult,
      Entry.toBackend, Except.toOption]
  next =>
    refine records.bytesFromBackend.trans (Entry.sum_sheets ?_)
    rintro (_ | _) <;> simp [Entry.sheet, Entry.onArrival, Entry.onResult, Entry.ofResult,
      Entry.fromBackend, Except.toOption]

end

def ConnectionTask.result? : ConnectionTask -> Option (Except Failure Summary)
  | .running => none
  | .posting result _ => some result

namespace Bookkeeping

def results (books : Bookkeeping) : List (Except Failure Summary) :=
  books.tasks.filterMap ConnectionTask.result?

structure Quiet (books : Bookkeeping) : Prop where
  arriving : books.arriving = none
  tasks : ∀ task ∈ books.tasks, ∃ result, task = .posting result []

theorem journal_quiet {books : Bookkeeping} (quiet : books.Quiet) :
    books.journal = books.results.flatMap Entry.sheet := by
  obtain ⟨accounts, arriving, tasks⟩ := books
  obtain ⟨rfl, ended⟩ := quiet
  simp only [journal, results, Option.map_none, Option.getD_none, List.nil_append]
  induction tasks with
  | nil => rfl
  | cons task tasks ih =>
    rw [List.forall_mem_cons] at ended
    obtain ⟨⟨result, rfl⟩, ended⟩ := ended
    change _ = (result :: tasks.filterMap ConnectionTask.result?).flatMap Entry.sheet
    rw [List.flatMap_cons, List.flatMap_cons, ih ended]
    simp [ConnectionTask.posted, Entry.before, Entry.sheet]

/-- In any interleaving the accounts are consistent at any time, nothing leaves that did not enter,
and when all connections are over the accounts tell their results. -/
theorem accounts_stay_consistent {turns : List Turn} {books : Bookkeeping}
    (ran : ({} : Bookkeeping).run turns = some books) :
    books.accounts.active + books.accounts.closed ≤ books.accounts.accepted ∧
      books.accounts.closed ≤ books.accounts.outcomes ∧
      books.accounts.outcomes ≤ books.accounts.accepted ∧
      (∀ turn next, books.step turn = some next →
        next.accounts = (books.posted? turn).elim books.accounts books.accounts.post ∧
          (books.posted? turn = some .left → 1 ≤ books.accounts.active)) ∧
      (books.Quiet → books.accounts.Settles books.results) := by
  have balanced := balanced_run balanced_start ran
  have orderly := orderly_journal books
  have records := balanced.records
  refine ⟨?_, ?_, ?_, ?_, ?_⟩
  next =>
    have entered := orderly.entered_le
    have left := orderly.closed_le_left
    rw [← records.accepted, ← records.active] at entered
    rw [← records.closed] at left
    omega
  next =>
    rw [records.closed, records.outcomes]
    exact orderly.closed_le
  next =>
    rw [records.outcomes, records.accepted]
    exact orderly.outcomes_le
  next =>
    intro turn next stepped
    obtain ⟨posted, -⟩ := journal_step balanced.sound (steps_of_step stepped)
    exact ⟨posted, balanced.active_pos stepped⟩
  next =>
    intro quiet
    rw [journal_quiet quiet] at records
    exact records.settles

-- One connection is served while another comes and is refused.
def servedSummary : Summary := ⟨"a", .v4 ⟨1⟩ 443, 63, 8⟩

def busyTurns : List Turn :=
  [.arrive, .listener, .listener, .listener, .arrive, .finish 0 (.ok servedSummary), .post 0,
    .listener, .post 0, .post 0, .listener, .listener, .finish 1 (.error .missingHostname)]

def closingTurns : List Turn := [.post 0, .post 1, .post 0, .post 1, .post 1]

def busyBooks : Bookkeeping where
  accounts :=
    { accepted := 2, active := 2, proxied := 1, bytesToBackend := 63, bytesFromBackend := 8 }
  tasks := [.posting (.ok servedSummary) [.left, .closed],
    .posting (.error .missingHostname) [.rejected .policyRejected, .left, .closed]]

def quietBooks : Bookkeeping where
  accounts :=
    { accepted := 2, closed := 2, policyRejected := 1, proxied := 1, bytesToBackend := 63
      bytesFromBackend := 8 }
  tasks := [.posting (.ok servedSummary) [], .posting (.error .missingHostname) []]

theorem busyTurns_stay_consistent :
    ({} : Bookkeeping).run busyTurns = some busyBooks ∧ busyBooks.posted? (.post 0) = some .left ∧
      1 ≤ busyBooks.accounts.active ∧
      ({} : Bookkeeping).run (busyTurns ++ closingTurns) = some quietBooks ∧
      quietBooks.Quiet ∧
      quietBooks.accounts.Settles [.ok servedSummary, .error .missingHostname] := by
  have ran : ({} : Bookkeeping).run busyTurns = some busyBooks := rfl
  have ran' : ({} : Bookkeeping).run (busyTurns ++ closingTurns) = some quietBooks := rfl
  have quiet : quietBooks.Quiet := ⟨rfl, by simp [quietBooks]⟩
  obtain ⟨-, -, -, each, -⟩ := accounts_stay_consistent ran
  obtain ⟨-, -, -, -, settles⟩ := accounts_stay_consistent ran'
  exact ⟨ran, rfl, (each (.post 0) _ rfl).2 rfl, ran', quiet, settles quiet⟩

end Bookkeeping

end SniffingRelay
