import SniffingRelay.Dial.Dialer

set_option autoImplicit false

namespace SniffingRelay.Dialer

-- What is reported of a target that was refused. It names the target or, if that could not be
-- bound, the source.
inductive Reports (dialer : Dialer) (target : SocketAddress) : Refusal -> DialError -> Prop
  | connect {fault : Fault} : Reports dialer target (.connect fault) (.connect target fault)
  | bind {source : Ip6} {fault : Fault} (bound : dialer.source = some source) :
      Reports dialer target (.bind fault) (.bind (.v6 source 0 0) fault)
  -- Without a source nothing is bound, so a refusal is one to connect.
  | unbound {fault : Fault} (own : dialer.source = none) :
      Reports dialer target (.bind fault) (.connect target fault)

/-- How attempts at targets go: up to the first that answers, or else up to the last. -/
inductive Goes (dialer : Dialer) (outcomes : Nat -> Option Refusal) (error : DialError)
    (targets : List SocketAddress) : Attempts -> Prop where
  | nowhere (none_given : targets = []) : Goes dialer outcomes error targets ⟨[], .error error⟩
  | answered (front : List SocketAddress) {rest : List SocketAddress} {target : SocketAddress}
      (split : targets = front ++ target :: rest)
      (refused : ∀ i < front.length, outcomes i ≠ none) (answered : outcomes front.length = none) :
      Goes dialer outcomes error targets ⟨front ++ [target], .ok target⟩
  | refused (front : List SocketAddress) {target : SocketAddress} {refusal : Refusal}
      {reason : DialError} (split : targets = front ++ [target])
      (refused : ∀ i < front.length, outcomes i ≠ none)
      (last : outcomes front.length = some refusal) (reported : dialer.Reports target refusal reason) :
      Goes dialer outcomes error targets ⟨front ++ [target], .error reason⟩

section

variable {dialer : Dialer} {outcomes : Nat -> Option Refusal} {error : DialError}
  {targets : List SocketAddress} {attempts : Attempts} {target : SocketAddress}

theorem refused_before_succ {outcomes : Nat -> Option Refusal} {count : Nat}
    (first : outcomes 0 ≠ none) (later : ∀ i < count, outcomes (i + 1) ≠ none) :
    ∀ i < count + 1, outcomes i ≠ none := by
  intro i before
  cases i with
  | zero => exact first
  | succ i => exact later i (Nat.lt_of_succ_lt_succ before)

theorem reports_failure (dialer : Dialer) (target : SocketAddress) (refusal : Refusal) :
    dialer.Reports target refusal (dialer.failure target refusal) := by
  cases refusal with
  | connect fault => exact .connect
  | bind fault =>
    cases bound : dialer.source with
    | none =>
      simp only [failure, bound]
      exact .unbound bound
    | some source =>
      simp only [failure, bound]
      exact .bind bound

theorem Goes.cons {refusal : Refusal} (first : outcomes 0 = some refusal)
    (goes : Goes dialer (outcomes ∘ Nat.succ) (dialer.failure target refusal) targets attempts) :
    Goes dialer outcomes error (target :: targets)
      { attempts with tried := target :: attempts.tried } := by
  have some_refusal : outcomes 0 ≠ none := by simp [first]
  cases goes with
  | nowhere none_given =>
    exact .refused [] (by simp [none_given]) (by simp) first (reports_failure ..)
  | answered front split refused answered =>
    exact .answered (target :: front) (congrArg (target :: ·) split)
      (refused_before_succ some_refusal refused) answered
  | refused front split refused last reported =>
    exact .refused (target :: front) (congrArg (target :: ·) split)
      (refused_before_succ some_refusal refused) last reported

theorem goes_tryAll (dialer : Dialer) (outcomes : Nat -> Option Refusal) (error : DialError)
    (targets : List SocketAddress) :
    Goes dialer outcomes error targets (tryAll dialer outcomes error targets) := by
  induction targets generalizing outcomes error with
  | nil => exact .nowhere rfl
  | cons target later ih =>
    cases first : outcomes 0 with
    | none =>
      simp only [tryAll, first]
      exact .answered [] rfl (by simp) first
    | some refusal =>
      simp only [tryAll, first]
      exact (ih (outcomes ∘ Nat.succ) (dialer.failure target refusal)).cons first

theorem Goes.tried_front (goes : Goes dialer outcomes error targets attempts) :
    attempts.tried <+: targets := by
  cases goes with
  | nowhere => exact List.nil_prefix
  | answered front split => simp [split]
  | refused front split => simp [split]

end

section

variable {dialer : Dialer} {host : String} {family : Family} {outcomes : Nat -> Option Refusal}
  {found : Except Fault (List SocketAddress)}

theorem goes_connect (dialer : Dialer) (host : String) (family : Family)
    (addresses : List SocketAddress) (outcomes : Nat -> Option Refusal) :
    Goes dialer outcomes (.noAddresses host family) (dialer.targets family addresses)
      (dialer.connect host family (.ok addresses) outcomes) :=
  goes_tryAll dialer outcomes _ _

theorem connect_noAddresses_iff :
    (dialer.connect host family found outcomes).outcome = .error (.noAddresses host family) ↔
      ∃ addresses, found = .ok addresses ∧
        ∀ address ∈ addresses, dialer.mayTry family address = false := by
  cases found with
  | error fault => simp [connect]
  | ok addresses =>
    have goes := goes_connect dialer host family addresses outcomes
    have usable : dialer.targets family addresses = [] ↔
        ∀ address ∈ addresses, dialer.mayTry family address = false := by
      simp [targets, List.filter_eq_nil_iff]
    simp only [Except.ok.injEq, exists_eq_left', ← usable]
    generalize dialer.connect host family (.ok addresses) outcomes = attempts at goes
    cases goes with
    | nowhere none_given => simp [none_given]
    | answered front split => simp [split]
    | refused front split _ _ reported => cases reported <;> simp [split]

theorem connect_resolve_iff {fault : Fault} :
    (dialer.connect host family found outcomes).outcome = .error (.resolve host fault) ↔
      found = .error fault := by
  cases found with
  | error other => simp [connect]
  | ok addresses =>
    have goes := goes_connect dialer host family addresses outcomes
    generalize dialer.connect host family (.ok addresses) outcomes = attempts at goes
    cases goes with
    | nowhere | answered => simp
    | refused _ _ _ _ reported => cases reported <;> simp

theorem isIp6_of_tried {source : Ip6} {target : SocketAddress} (bound : dialer.source = some source)
    (tried : target ∈ (dialer.connect host family found outcomes).tried) : target.isIp6 = true := by
  cases found with
  | error fault => simp [connect] at tried
  | ok addresses =>
    have front := (goes_connect dialer host family addresses outcomes).tried_front
    have usable := (List.mem_filter.mp (front.mem tried)).2
    simp only [mayTry, bound, Bool.and_eq_true] at usable
    simpa using usable.2

/-- What attempts at a host have to come to: of the addresses found they try those that the family
admits and that the source can reach. -/
structure Obeys (dialer : Dialer) (host : String) (family : Family)
    (found : Except Fault (List SocketAddress)) (outcomes : Nat -> Option Refusal)
    (attempts : Attempts) : Prop where
  unresolved : ∀ fault, attempts.outcome = .error (.resolve host fault) ↔ found = .error fault
  untried : ∀ fault, found = .error fault → attempts.tried = []
  unusable : attempts.outcome = .error (.noAddresses host family) ↔
    ∃ addresses, found = .ok addresses ∧
      ∀ address ∈ addresses, dialer.mayTry family address = false
  goes : ∀ addresses, found = .ok addresses →
    Goes dialer outcomes (.noAddresses host family)
      (addresses.filter fun address =>
        family.admits address && (dialer.source.isNone || address.isIp6)) attempts
  bound : ∀ source, dialer.source = some source →
    ∀ target ∈ attempts.tried, target.isIp6 = true

theorem obeys_connect (dialer : Dialer) (host : String) (family : Family)
    (found : Except Fault (List SocketAddress)) (outcomes : Nat -> Option Refusal) :
    dialer.Obeys host family found outcomes (dialer.connect host family found outcomes) where
  unresolved _ := connect_resolve_iff
  untried _ failed := by simp [failed, connect]
  unusable := connect_noAddresses_iff
  goes addresses resolved := resolved ▸ goes_connect dialer host family addresses outcomes
  bound _ bound _ := isIp6_of_tried bound

end

end SniffingRelay.Dialer
