import SniffingRelay.Proofs.Text.Separation
import SniffingRelay.Rehearsal.Launch

set_option autoImplicit false

namespace SniffingRelay

namespace AllowList

variable {text hostname : String}

theorem bytes_injective : Function.Injective bytes := by
  intro first second same
  rw [bytes, bytes, Array.toList_inj] at same
  exact String.toByteArray_inj.mp (ByteArray.ext same)

theorem allows_iff {list : AllowList} : list.allows hostname = true ↔
    list.suffixes = [] ∨ ∃ entry ∈ list.suffixes, bytes entry <:+ bytes hostname := by
  simp [allows, isOpen]

theorem suffixes_ofText (some_text : text ≠ "") :
    (ofText text).suffixes = Pieces.ofText ',' text := by
  rw [ofText, if_neg some_text]

theorem isOpen_ofText : (ofText text).isOpen = true ↔ text = "" := by
  by_cases empty : text = ""
  next => simp [empty, ofText, isOpen]
  next =>
    simp [isOpen, suffixes_ofText empty, Pieces.ofText_ne_nil, empty]

-- Nothing stands between two commas of the text, or between one and an end, or between the ends.
def Gap (text : String) : Prop :=
  ∃ before after, text.toList = before ++ after ∧ Pieces.Between ',' before after

theorem gap_empty : Gap "" := ⟨[], [], rfl, .inl rfl, .inl rfl⟩

theorem gap_comma : Gap "," := ⟨[], [','], rfl, .inl rfl, .inr ⟨[], rfl⟩⟩

theorem empty_mem_iff_gap : "" ∈ Pieces.ofText ',' text ↔ Gap text := by
  rw [Pieces.mem_ofText_iff, Pieces.mem_split_iff, Gap]
  simp

theorem comma_not_mem : "," ∉ Pieces.ofText ',' text := by
  rw [Pieces.mem_ofText_iff, Pieces.mem_split_iff]
  simp

theorem allows_of_gap (gap : Gap text) (hostname : String) :
    (ofText text).allows hostname = true := by
  by_cases empty : text = ""
  next => simp [empty, ofText, allows, isOpen]
  next =>
    rw [allows_iff, suffixes_ofText empty]
    exact .inr ⟨"", empty_mem_iff_gap.mpr gap, List.nil_suffix⟩

theorem gap_of_allows_comma (admitted : (ofText text).allows "," = true) : Gap text := by
  by_cases empty : text = ""
  next => exact empty ▸ gap_empty
  next =>
    rw [allows_iff, suffixes_ofText empty] at admitted
    rcases admitted with none | ⟨entry, found, suffix⟩
    next => exact absurd none (Pieces.ofText_ne_nil ',' text)
    next =>
      have comma : bytes "," = 44 :: bytes "" := by decide
      rw [comma, List.suffix_cons_iff, ← comma] at suffix
      rcases suffix with whole | nothing
      next => exact absurd (bytes_injective whole ▸ found) comma_not_mem
      next =>
        have none : bytes entry = bytes "" := List.suffix_nil.mp nothing
        exact empty_mem_iff_gap.mp (bytes_injective none ▸ found)

end AllowList

namespace Settings

theorem allowList_of_service? {settings : Settings} {protocol : Protocol} {service : Service}
    (enabled : settings.service? protocol = .ok (some service)) :
    service.allowList = .ofText (settings.listener protocol).permitted := by
  simp only [service?] at enabled
  split at enabled
  next => cases enabled
  next => cases enabled
  next =>
    cases enabled
    rfl

end Settings

namespace Launch

theorem told_bind (host : Host) (address : SocketAddress) (state : State) :
    ((bind host address).run state).2.told = state.told := by
  unfold bind
  cases host.bind address with
  | some fault => rfl
  | none =>
    simp only [StateT.run_bind, StateT.run_get]
    change (if _ then _ else _ : StateM State (Except Fault Unit)).run state |>.2.told = _
    split <;> rfl

theorem told_startService_of_entries (host : Host) {service : Service} (state : State)
    (closed : service.allowList.isOpen = false) : ∃ outcome, outcome ≠ Notice.noSuffixes ∧
      ((Startup.startService tell (bind host) service).run state).2.told =
        state.told ++ [outcome] := by
  have quiet := told_bind host service.address state
  simp only [Startup.startService, closed, Bool.false_eq_true, if_false, StateT.run_bind]
  match (bind host service.address).run state, quiet with
  | (.error fault, next), quiet => exact ⟨.bindFailed, by decide, congrArg (· ++ [_]) quiet⟩
  | (.ok socket, next), quiet => exact ⟨.bound, by decide, congrArg (· ++ [_]) quiet⟩

theorem warns_iff (host : Host) (service : Service) :
    .noSuffixes ∈ ((Startup.startService tell (bind host) service).run {}).2.told ↔
      service.allowList.isOpen = true := by
  cases closed : service.allowList.isOpen with
  | true =>
    -- What is told later is told after the warning.
    let restricted : Service := { service with allowList := ⟨[""]⟩ }
    have warned : (Startup.startService tell (bind host) service).run {} =
        (Startup.startService tell (bind host) restricted).run { told := [.noSuffixes] } := by
      simp only [Startup.startService, closed, if_true]
      rfl
    have entries : restricted.allowList.isOpen = false := rfl
    obtain ⟨outcome, -, told⟩ :=
      told_startService_of_entries host { told := [.noSuffixes] } entries
    simp [warned, told]
  | false =>
    obtain ⟨outcome, other, told⟩ := told_startService_of_entries host {} closed
    simp [told, other.symm]

end Launch

namespace AllowList

/-- A list says that it is open, and is announced as such, just for the empty text. What it admits is
every hostname, or every one that is not empty, just when the text has a gap. So it says what it
admits for the empty text and for those without a gap. -/
theorem lists_with_gaps_admit_all (text : String) :
    ((ofText text).isOpen = true ↔ text = "") ∧
    ((∀ hostname, (ofText text).allows hostname = true) ↔ Gap text) ∧
    ((∀ hostname, hostname ≠ "" → (ofText text).allows hostname = true) ↔ Gap text) ∧
    (((ofText text).isOpen = true ↔ ∀ hostname, (ofText text).allows hostname = true) ↔
      text = "" ∨ ¬ Gap text) ∧
    ∀ (settings : Settings) (protocol : Protocol) (service : Service),
      (settings.listener protocol).permitted = text →
      settings.service? protocol = .ok (some service) →
      service.allowList = ofText text ∧
        ∀ host, .noSuffixes ∈
          ((Startup.startService Launch.tell (Launch.bind host) service).run {}).2.told ↔
            text = "" := by
  have opens : (ofText text).isOpen = true ↔ text = "" := isOpen_ofText
  have admits : (∀ hostname, (ofText text).allows hostname = true) ↔ Gap text := by
    constructor
    next =>
      intro all
      exact gap_of_allows_comma (all ",")
    next => exact allows_of_gap
  refine ⟨opens, admits, ?_, ?_, ?_⟩
  next =>
    constructor
    next =>
      intro all
      exact gap_of_allows_comma (all "," (by decide))
    next =>
      intro gap hostname _
      exact allows_of_gap gap hostname
  next =>
    rw [opens, admits]
    by_cases empty : text = ""
    next =>
      subst empty
      exact iff_of_true (iff_of_true rfl gap_empty) (.inl rfl)
    next => simp [empty]
  next =>
    intro settings protocol service permitted enabled
    have list := Settings.allowList_of_service? enabled
    rw [permitted] at list
    refine ⟨list, fun host => ?_⟩
    rw [Launch.warns_iff, list, opens]

-- The text of one comma has a gap on both sides of it.
def commaSettings : Settings := { tls := { listen := ":443", permitted := ",", backendPort := 443 } }

def commaService : Service where
  address := .v4 .unspecified 443
  protocol := .tls
  allowList := ⟨["", ""]⟩
  backendPort := some 443

theorem commaService_admits_all_unannounced :
    (commaSettings.listener .tls).permitted = "," ∧
      commaSettings.service? .tls = .ok (some commaService) ∧
      (∀ hostname, commaService.allowList.allows hostname = true) ∧
      ∀ host, .noSuffixes ∉
        ((Startup.startService Launch.tell (Launch.bind host) commaService).run {}).2.told := by
  have enabled : commaSettings.service? .tls = .ok (some commaService) := by decide +kernel
  obtain ⟨-, admits, -, -, starts⟩ := lists_with_gaps_admit_all ","
  obtain ⟨list, warns⟩ := starts commaSettings .tls commaService rfl enabled
  refine ⟨rfl, enabled, ?_, fun host => ?_⟩
  next =>
    rw [list, admits]
    exact gap_comma
  next =>
    rw [warns]
    decide

theorem comma_list_hides_that_it_is_open :
    (ofText ",").isOpen = false ∧ ∀ hostname, (ofText ",").allows hostname = true :=
  ⟨by decide, allows_of_gap gap_comma⟩

end AllowList

end SniffingRelay
