import SniffingRelay.Proofs.Tls.Defects

set_option autoImplicit false

namespace SniffingRelay.Tls

open Hello (unrefused longSessionId oddCipherSuites)

/-- What the numbers of an error say of the bytes it is about, where `fails` says which bytes get
that error: those that are counted as left are the last ones, and they were not looked at. -/
def HelloError.Truthful (fails : List UInt8 -> Prop) (bytes : List UInt8) : HelloError -> Prop
  | .versionTooOld major minor => major < 3 ∨ major = 3 ∧ minor < 3
  | .truncated _ needed remaining =>
      remaining < needed ∧ ∃ front left, bytes = front ++ left ∧ left.length = remaining ∧
        ∀ other, other.length = remaining → fails (front ++ other)
  | .sessionIdTooLong length => 32 < length
  | .oddCipherSuites length => length % 2 = 1
  | .extensionsMismatch claimed actual | .nameListMismatch claimed actual => claimed ≠ actual
  | .unsupportedNameType kind => kind ≠ 0
  | .nameNotUtf8 => True
  | .recordHeader _ | .recordFragment .. | .contentType .. | .emptyRecord | .handshakeType _
  | .messageTooLarge .. => False

-- A place for the payload of a server_name extension: what a body holds before and after it.
structure PayloadPlace where
  head : HelloHead
  before : List Extension
  after : List UInt8

namespace PayloadPlace

def content (place : PayloadPlace) (payload : List UInt8) : List UInt8 :=
  place.before.flatMap Extension.written ++ (writeNat 2 0 ++ writeVector 2 payload ++ place.after)

def around (place : PayloadPlace) (payload : List UInt8) : List UInt8 :=
  place.head.written ++ writeVector 2 (place.content payload)

def Fits (place : PayloadPlace) (payload : List UInt8) : Prop :=
  (place.content payload).length < 2 ^ 16

theorem Fits.payload_length {place : PayloadPlace} {payload : List UInt8}
    (fits : place.Fits payload) : payload.length < 2 ^ 16 := by
  simp only [Fits, content, List.length_append, length_writeNat, length_writeVector] at fits
  omega

theorem Fits.of_length_eq {place : PayloadPlace} {payload other : List UInt8}
    (fits : place.Fits payload) (same : other.length = payload.length) : place.Fits other := by
  simp only [Fits, content, List.length_append, length_writeNat, length_writeVector] at fits ⊢
  omega

end PayloadPlace

def HelloError.TruthfulWithin (fails : List UInt8 -> Prop) (bytes : List UInt8)
    (error : HelloError) : Prop :=
  error.Truthful fails bytes ∨
    ∃ (place : PayloadPlace) (payload : List UInt8), place.Fits payload ∧
      bytes = place.around payload ∧
        error.Truthful (fun other => fails (place.around other)) payload

namespace HelloError

variable {bytes : List UInt8} {error : HelloError}

theorem Truthful.mono {fails fails' : List UInt8 -> Prop} (truthful : error.Truthful fails bytes)
    (weaker : ∀ other : List UInt8, other.length = bytes.length → fails other → fails' other) :
    error.Truthful fails' bytes := by
  cases error with
  | truncated field needed remaining =>
    obtain ⟨short, front, left, rfl, size, unread⟩ := truthful
    refine ⟨short, front, left, rfl, size, fun other same => ?_⟩
    exact weaker _ (by simp only [List.length_append]; omega) (unread other same)
  | _ => exact truthful

theorem Truthful.after {fails fails' : List UInt8 -> Prop} (front : List UInt8)
    (truthful : error.Truthful fails bytes)
    (moved : ∀ other : List UInt8, other.length = bytes.length → fails other → fails' (front ++ other)) :
    error.Truthful fails' (front ++ bytes) := by
  cases error with
  | truncated field needed remaining =>
    obtain ⟨short, inner, left, rfl, size, unread⟩ := truthful
    refine ⟨short, front ++ inner, left, by simp, size, fun other same => ?_⟩
    rw [List.append_assoc]
    exact moved _ (by simp only [List.length_append]; omega) (unread other same)
  | _ => exact truthful

end HelloError

namespace Defect

variable {bytes : List UInt8} {error : HelloError} {count content : Field}

theorem Vector.truthful {width : Nat} {refusal : Nat -> Option HelloError}
    (refusals : ∀ length named fails, refusal length = some named → named.Truthful fails bytes)
    (defect : Vector width count content refusal bytes error) :
    error.Truthful (Vector width count content refusal · error) bytes := by
  cases defect with
  | count short =>
    refine ⟨short, [], bytes, rfl, rfl, fun other same => ?_⟩
    rw [← same] at short ⊢
    exact .count short
  | refused left fits refused => exact refusals _ _ _ refused
  | @content length left fits admitted short =>
    refine ⟨short, writeNat width length, left, rfl, rfl, fun other same => ?_⟩
    rw [← same] at short ⊢
    exact .content fits admitted short

theorem Span.truthful {mismatch : Nat -> Nat -> HelloError}
    (mismatches : ∀ claimed actual fails, claimed ≠ actual → (mismatch claimed actual).Truthful fails bytes)
    (defect : Span count mismatch bytes error) :
    error.Truthful (Span count mismatch · error) bytes := by
  cases defect with
  | count short =>
    refine ⟨short, [], bytes, rfl, rfl, fun other same => ?_⟩
    rw [← same] at short ⊢
    exact .count short
  | mismatch fits different => exact mismatches _ _ _ different

theorem Vector.truthful_unrefused {width : Nat}
    (defect : Vector width count content unrefused bytes error) :
    error.Truthful (Vector width count content unrefused · error) bytes :=
  defect.truthful fun _ _ _ refused => by simp [unrefused] at refused

theorem Entry.truthful (defect : Entry bytes error) : error.Truthful (Entry · error) bytes := by
  cases defect with
  | kind left unsupported => exact unsupported
  | name defect => exact defect.truthful_unrefused.after [0] fun _ _ broken => .name broken

theorem Names.truthful (defect : Names bytes error) : error.Truthful (Names · error) bytes := by
  cases defect with
  | first defect => exact defect.truthful.mono fun _ _ broken => .first broken
  | notText left fits notText => trivial
  | later before defect =>
    exact defect.truthful.after before.written fun _ _ broken => .later before broken

theorem NameList.truthful (defect : NameList bytes error) :
    error.Truthful (NameList · error) bytes := by
  cases defect with
  | span defect =>
    refine (defect.truthful ?_).mono fun _ _ broken => .span broken
    exact fun _ _ _ different => different
  | @names list _ fits defect =>
    refine defect.truthful.after (writeNat 2 list.length) fun other same broken => ?_
    rw [← same] at fits ⊢
    exact .names fits broken

theorem OneExtension.truthful (defect : OneExtension bytes error) :
    error.Truthful (OneExtension · error) bytes ∨
      ∃ payload left, bytes = writeNat 2 0 ++ writeVector 2 payload ++ left ∧
        NameList payload error := by
  cases defect with
  | kind byte =>
    refine .inl ⟨by decide, [], [byte], rfl, rfl, fun other same => ?_⟩
    obtain ⟨another, rfl⟩ := List.length_eq_one_iff.mp same
    exact .kind another
  | payload kind defect =>
    refine .inl (defect.truthful_unrefused.after (writeNat 2 kind.toNat) fun _ _ broken => ?_)
    exact .payload kind broken
  | names left fits defect => exact .inr ⟨_, left, rfl, defect⟩

theorem Head.truthful (defect : Head bytes error) : error.Truthful (Head · error) bytes := by
  cases defect with
  | version short =>
    refine ⟨by decide, bytes, [], by simp, rfl, fun other same => ?_⟩
    rw [List.length_eq_zero_iff.mp same, List.append_nil]
    exact .version short
  | @old version left old => simpa [Version.isOld, HelloError.Truthful] using old
  | @random version left recent short =>
    refine ⟨short, [version.major, version.minor], left, rfl, rfl, fun other same => ?_⟩
    rw [← same] at short ⊢
    exact .random recent short
  | sessionId recent random_length defect =>
    refine (defect.truthful fun length named _ refused => ?_).after _ fun _ _ broken =>
      .sessionId recent random_length broken
    simp only [longSessionId, Option.ite_none_right_eq_some, Option.some.injEq] at refused
    exact refused.2 ▸ refused.1
  | cipherSuites recent random_length sessionId_length defect =>
    refine (defect.truthful fun length named _ refused => ?_).after _ fun _ _ broken =>
      .cipherSuites recent random_length sessionId_length broken
    simp only [oddCipherSuites, Option.ite_none_right_eq_some, Option.some.injEq] at refused
    exact refused.2 ▸ Nat.mod_two_ne_zero.mp refused.1
  | compression recent random_length sessionId_length even fit defect =>
    exact defect.truthful_unrefused.after _ fun _ _ broken =>
      .compression recent random_length sessionId_length even fit broken

theorem Body.of_nameList {place : PayloadPlace} {payload : List UInt8} (fits : place.Fits payload)
    (defect : NameList payload error) : Body (place.around payload) error :=
  .extensions place.head (.later place.before fits (.names place.after fits.payload_length defect))

theorem Body.truthful (defect : Body bytes error) : error.TruthfulWithin (Body · error) bytes := by
  cases defect with
  | head defect => exact .inl (defect.truthful.mono fun _ _ broken => .head broken)
  | @extensions head left _ defect =>
    cases defect with
    | span present defect =>
      have about : error.Truthful (Span .extensionsLength .extensionsMismatch · error) left := by
        refine defect.truthful ?_
        exact fun _ _ _ different => different
      refine .inl (about.after head.written fun other same broken => ?_)
      have others : other ≠ [] := by
        intro nothing
        simp [nothing, eq_comm, present] at same
      exact .extensions head (.span others broken)
    | @later before left _ fits defect =>
      rcases defect.truthful with about | ⟨payload, after, rfl, list_defect⟩
      next =>
        refine .inl ?_
        rw [writeVector, ← List.append_assoc, ← List.append_assoc]
        refine about.after _ fun other same broken => ?_
        simp only [List.length_append] at fits
        have whole : Extensions _ error :=
          .later before (by simp only [List.length_append]; omega) broken
        rw [writeVector, List.length_append, same] at whole
        simpa using Body.extensions head whole
      next =>
        refine .inr ⟨⟨head, before, after⟩, payload, fits, rfl, ?_⟩
        refine list_defect.truthful.mono fun _ same broken => ?_
        exact .of_nameList (PayloadPlace.Fits.of_length_eq fits same) broken

end Defect

def entriesBefore (names : Option ServerNames) : List UInt8 := names.elim [] ServerNames.written

def HelloError.OfLength : HelloError -> Prop
  | .truncated .. | .sessionIdTooLong _ | .oddCipherSuites _ | .extensionsMismatch ..
  | .nameListMismatch .. => True
  | _ => False

theorem HelloError.alert_code_eq_112_iff (error : HelloError) :
    error.alert.code = 112 ↔ ∃ kind, error = .unsupportedNameType kind := by
  cases error <;> simp [alert, Alert.code]

namespace Defect

-- What stands in a body with a defect that is not one of a length.
inductive Cause : List UInt8 -> HelloError -> Prop where
  | old {version : Version} (left : List UInt8) (old : version.isOld = true) :
      Cause (version.major :: version.minor :: left) (.versionTooOld version.major version.minor)
  | kind {place : PayloadPlace} {names : Option ServerNames} {kind : UInt8} {left : List UInt8}
      (unsupported : kind ≠ 0)
      (fits : place.Fits (writeVector 2 (entriesBefore names ++ kind :: left))) :
      Cause (place.around (writeVector 2 (entriesBefore names ++ kind :: left)))
        (.unsupportedNameType kind)
  | notText {place : PayloadPlace} {name left : List UInt8}
      (notText : ∀ text, name ≠ writeText text)
      (fits : place.Fits (writeVector 2 (writeName name ++ left))) :
      Cause (place.around (writeVector 2 (writeName name ++ left))) .nameNotUtf8
  | length {bytes : List UInt8} {error : HelloError} (about : error.OfLength) : Cause bytes error

variable {bytes : List UInt8} {error : HelloError} {count content : Field}

theorem Vector.ofLength {width : Nat} {refusal : Nat -> Option HelloError}
    (refusals : ∀ length named, refusal length = some named → named.OfLength)
    (defect : Vector width count content refusal bytes error) : error.OfLength := by
  cases defect with
  | count | content => trivial
  | refused left fits refused => exact refusals _ _ refused

theorem Vector.ofLength_unrefused {width : Nat}
    (defect : Vector width count content unrefused bytes error) : error.OfLength :=
  defect.ofLength fun _ _ refused => by simp [unrefused] at refused

theorem Span.ofLength {mismatch : Nat -> Nat -> HelloError}
    (mismatches : ∀ claimed actual, (mismatch claimed actual).OfLength)
    (defect : Span count mismatch bytes error) : error.OfLength := by
  cases defect with
  | count => trivial
  | mismatch => exact mismatches _ _

theorem Entry.cause {place : PayloadPlace} (names : Option ServerNames)
    (fits : place.Fits (writeVector 2 (entriesBefore names ++ bytes))) (defect : Entry bytes error) :
    Cause (place.around (writeVector 2 (entriesBefore names ++ bytes))) error := by
  cases defect with
  | kind left unsupported => exact .kind unsupported fits
  | name defect => exact .length defect.ofLength_unrefused

theorem Names.cause {place : PayloadPlace} {list : List UInt8}
    (fits : place.Fits (writeVector 2 list)) (defect : Names list error) :
    Cause (place.around (writeVector 2 list)) error := by
  cases defect with
  | first defect => exact defect.cause none fits
  | notText left _ notText => exact .notText notText fits
  | later before defect => exact defect.cause (some before) fits

theorem Head.cause (defect : Head bytes error) : Cause bytes error := by
  cases defect with
  | version | random => exact .length trivial
  | old left old => exact .old left old
  | sessionId recent random_length defect =>
    refine .length (defect.ofLength fun length named refused => ?_)
    simp only [longSessionId, Option.ite_none_right_eq_some, Option.some.injEq] at refused
    exact refused.2 ▸ trivial
  | cipherSuites recent random_length sessionId_length defect =>
    refine .length (defect.ofLength fun length named refused => ?_)
    simp only [oddCipherSuites, Option.ite_none_right_eq_some, Option.some.injEq] at refused
    exact refused.2 ▸ trivial
  | compression recent random_length sessionId_length even fit defect =>
    exact .length defect.ofLength_unrefused

theorem Body.cause (defect : Body bytes error) : Cause bytes error := by
  cases defect with
  | head defect => exact defect.cause
  | extensions head defect =>
    cases defect with
    | span present defect =>
      refine .length (defect.ofLength ?_)
      exact fun _ _ => trivial
    | later before fits defect =>
      cases defect with
      | kind => exact .length trivial
      | payload kind defect => exact .length defect.ofLength_unrefused
      | names left payload_fits defect =>
        cases defect with
        | span defect =>
          refine .length (defect.ofLength ?_)
          exact fun _ _ => trivial
        | @names list _ list_fits defect =>
          have placed : (PayloadPlace.mk head before left).Fits (writeVector 2 list) := fits
          exact defect.cause placed

theorem Body.of_names {place : PayloadPlace} {list : List UInt8}
    (fits : place.Fits (writeVector 2 list)) (defect : Names list error) :
    Body (place.around (writeVector 2 list)) error := by
  have size := fits.payload_length
  rw [length_writeVector] at size
  exact .of_nameList fits (.names (by omega) defect)

end Defect

namespace Hello

variable {bytes : List UInt8}

theorem parse_eq_versionTooOld_iff {major minor : UInt8} :
    parse bytes = .error (.versionTooOld major minor) ↔
      (major < 3 ∨ major = 3 ∧ minor < 3) ∧ ∃ left, bytes = major :: minor :: left := by
  rw [parse_eq_error_iff]
  constructor
  next =>
    intro defect
    cases defect.cause with
    | old left old => exact ⟨by simpa [Version.isOld] using old, left, rfl⟩
    | length about => exact about.elim
  next =>
    rintro ⟨old, left, rfl⟩
    have isOld : (Version.mk major minor).isOld = true := by simpa [Version.isOld] using old
    exact .head (.old left isOld)

theorem parse_eq_unsupportedNameType_iff {kind : UInt8} :
    parse bytes = .error (.unsupportedNameType kind) ↔
      kind ≠ 0 ∧ ∃ (place : PayloadPlace) (names : Option ServerNames) (left : List UInt8),
        place.Fits (writeVector 2 (entriesBefore names ++ kind :: left)) ∧
          bytes = place.around (writeVector 2 (entriesBefore names ++ kind :: left)) := by
  rw [parse_eq_error_iff]
  constructor
  next =>
    intro defect
    cases defect.cause with
    | kind unsupported fits => exact ⟨unsupported, _, _, _, fits, rfl⟩
    | length about => exact about.elim
  next =>
    rintro ⟨unsupported, place, names, left, fits, rfl⟩
    refine .of_names fits ?_
    have defect : Defect.Entry (kind :: left) _ := .kind left unsupported
    cases names with
    | none => exact .first defect
    | some before => exact .later before defect

theorem parse_eq_nameNotUtf8_iff :
    parse bytes = .error .nameNotUtf8 ↔
      ∃ (place : PayloadPlace) (name left : List UInt8), (∀ text, name ≠ writeText text) ∧
        place.Fits (writeVector 2 (writeName name ++ left)) ∧
          bytes = place.around (writeVector 2 (writeName name ++ left)) := by
  rw [parse_eq_error_iff]
  constructor
  next =>
    intro defect
    cases defect.cause with
    | notText notText fits => exact ⟨_, _, _, notText, fits, rfl⟩
    | length about => exact about.elim
  next =>
    rintro ⟨place, name, left, notText, fits, rfl⟩
    have size := fits.payload_length
    simp only [List.length_append, length_writeVector, length_writeName] at size
    exact .of_names fits (.notText left (by omega) notText)

/-- A body that is not accepted gets the error of the first rule that it breaks in reading order,
the numbers in the error are true, and the alert tells names of other kinds from the rest. -/
theorem parse_fails_by_first_defect (bytes : List UInt8) :
    (∀ error, parse bytes = .error error ↔ Defect.Body bytes error) ∧
      (∀ major minor, parse bytes = .error (.versionTooOld major minor) ↔
        (major < 3 ∨ major = 3 ∧ minor < 3) ∧ ∃ left, bytes = major :: minor :: left) ∧
      (∀ kind, parse bytes = .error (.unsupportedNameType kind) ↔
        kind ≠ 0 ∧ ∃ (place : PayloadPlace) (names : Option ServerNames) (left : List UInt8),
          place.Fits (writeVector 2 (entriesBefore names ++ kind :: left)) ∧
            bytes = place.around (writeVector 2 (entriesBefore names ++ kind :: left))) ∧
      (parse bytes = .error .nameNotUtf8 ↔
        ∃ (place : PayloadPlace) (name left : List UInt8), (∀ text, name ≠ writeText text) ∧
          place.Fits (writeVector 2 (writeName name ++ left)) ∧
            bytes = place.around (writeVector 2 (writeName name ++ left))) ∧
      (∀ error, parse bytes = .error error →
        error.TruthfulWithin (fun other => parse other = .error error) bytes) ∧
      ((∃ error, parse bytes = .error error ∧ error.alert.code = 112) ↔
        ∃ kind, parse bytes = .error (.unsupportedNameType kind)) ∧
      ((∃ error, parse bytes = .error error ∧ error.alert.code = 80) ↔
        ∃ error, parse bytes = .error error ∧ ∀ kind, error ≠ .unsupportedNameType kind) ∧
      ((∃ error, parse bytes = .error error ∧ error.isUnsupported = true) ↔
        (∃ major minor, parse bytes = .error (.versionTooOld major minor)) ∨
          ∃ kind, parse bytes = .error (.unsupportedNameType kind)) := by
  refine ⟨fun _ => parse_eq_error_iff, fun _ _ => parse_eq_versionTooOld_iff,
    fun _ => parse_eq_unsupportedNameType_iff, parse_eq_nameNotUtf8_iff, ?_, ?_, ?_, ?_⟩
  next =>
    intro error failed
    simp only [parse_eq_error_iff] at failed ⊢
    exact failed.truthful
  next =>
    constructor
    next =>
      rintro ⟨error, failed, code⟩
      obtain ⟨kind, rfl⟩ := error.alert_code_eq_112_iff.mp code
      exact ⟨kind, failed⟩
    next =>
      rintro ⟨kind, failed⟩
      exact ⟨_, failed, rfl⟩
  next =>
    have others (error : HelloError) :
        error.alert.code = 80 ↔ ∀ kind, error ≠ .unsupportedNameType kind := by
      cases error <;> simp [HelloError.alert, Alert.code]
    simp only [others]
  next =>
    constructor
    next =>
      rintro ⟨error, failed, unsupported⟩
      cases (parse_eq_error_iff.mp failed).cause with
      | old => exact .inl ⟨_, _, failed⟩
      | kind => exact .inr ⟨_, failed⟩
      | notText => simp [HelloError.isUnsupported] at unsupported
      | length about => cases error <;> simp_all [HelloError.isUnsupported, HelloError.OfLength]
    next =>
      rintro (⟨major, minor, failed⟩ | ⟨kind, failed⟩)
      next => exact ⟨_, failed, rfl⟩
      next => exact ⟨_, failed, rfl⟩

-- The length of the entry is cut off as well, and a field after its extension is.
def unknownKindPlace : PayloadPlace := ⟨plainHead, [.other 16 (by decide) [2, 104, 50]], [0, 10, 0]⟩

theorem parse_unknownKind :
    parse (unknownKindPlace.around (writeVector 2 [7, 255])) = .error (.unsupportedNameType 7) ∧
      (∃ error, parse (unknownKindPlace.around (writeVector 2 [7, 255])) = .error error ∧
        error.alert.code = 112) ∧
        (HelloError.unsupportedNameType 7).TruthfulWithin
          (fun other => parse other = .error (.unsupportedNameType 7))
          (unknownKindPlace.around (writeVector 2 [7, 255])) := by
  obtain ⟨-, -, kinds, -, truthful, alerts, -⟩ :=
    parse_fails_by_first_defect (unknownKindPlace.around (writeVector 2 [7, 255]))
  have fits : unknownKindPlace.Fits (writeVector 2 [7, 255]) := by
    unfold PayloadPlace.Fits
    decide
  have failed := (kinds 7).mpr ⟨by decide, unknownKindPlace, none, [255], fits, rfl⟩
  exact ⟨failed, alerts.mpr ⟨7, failed⟩, truthful _ failed⟩

end Hello

end SniffingRelay.Tls
