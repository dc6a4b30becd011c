import SniffingRelay.Proofs.Tls.Vectors

set_option autoImplicit false

-- A body that is not accepted breaks a rule, and the first one that it breaks in reading order
-- names the error. The defects of each part are given beside its grammar: what stands before a
-- defect is well formed, and nothing is said about what follows it.

namespace SniffingRelay.Tls

open Hello (unrefused longSessionId oddCipherSuites)

namespace Defect

inductive Vector (width : Nat) (count content : Field) (refusal : Nat -> Option HelloError) :
    List UInt8 -> HelloError -> Prop where
  | count {left : List UInt8} (short : left.length < width) :
      Vector width count content refusal left (.truncated count width left.length)
  | refused {length : Nat} (left : List UInt8) {error : HelloError} (fits : length < 256 ^ width)
      (refused : refusal length = some error) :
      Vector width count content refusal (writeNat width length ++ left) error
  | content {length : Nat} {left : List UInt8} (fits : length < 256 ^ width)
      (admitted : refusal length = none) (short : left.length < length) :
      Vector width count content refusal (writeNat width length ++ left)
        (.truncated content length left.length)

inductive Span (count : Field) (mismatch : Nat -> Nat -> HelloError) :
    List UInt8 -> HelloError -> Prop where
  | count {left : List UInt8} (short : left.length < 2) :
      Span count mismatch left (.truncated count 2 left.length)
  | mismatch {claimed : Nat} {left : List UInt8} (fits : claimed < 2 ^ 16)
      (different : claimed ≠ left.length) :
      Span count mismatch (writeNat 2 claimed ++ left) (mismatch claimed left.length)

-- The length and the bytes of a name of another kind are not looked at.
inductive Entry : List UInt8 -> HelloError -> Prop where
  | kind {kind : UInt8} (left : List UInt8) (unsupported : kind ≠ 0) :
      Entry (kind :: left) (.unsupportedNameType kind)
  | name {left : List UInt8} {error : HelloError}
      (defect : Vector 2 .hostNameLength .hostName unrefused left error) : Entry (0 :: left) error

-- Only the first name has to be text.
inductive Names : List UInt8 -> HelloError -> Prop where
  | first {left : List UInt8} {error : HelloError} (defect : Entry left error) : Names left error
  | notText {name : List UInt8} (left : List UInt8) (fits : name.length < 2 ^ 16)
      (notText : ∀ text, name ≠ writeText text) : Names (writeName name ++ left) .nameNotUtf8
  | later (before : ServerNames) {left : List UInt8} {error : HelloError}
      (defect : Entry left error) : Names (before.written ++ left) error

theorem Entry.ne_nil {left : List UInt8} {error : HelloError} (defect : Entry left error) :
    left ≠ [] := by
  cases defect <;> simp

inductive NameList : List UInt8 -> HelloError -> Prop where
  | span {payload : List UInt8} {error : HelloError}
      (defect : Span .nameListLength .nameListMismatch payload error) : NameList payload error
  | names {list : List UInt8} {error : HelloError} (fits : list.length < 2 ^ 16)
      (defect : Names list error) : NameList (writeVector 2 list) error

-- A list of names is looked at once the whole payload is there.
inductive OneExtension : List UInt8 -> HelloError -> Prop where
  | kind (byte : UInt8) : OneExtension [byte] (.truncated .extensionType 2 1)
  | payload (kind : UInt16) {left : List UInt8} {error : HelloError}
      (defect : Vector 2 .extensionLength .extensionPayload unrefused left error) :
      OneExtension (writeNat 2 kind.toNat ++ left) error
  | names {payload : List UInt8} (left : List UInt8) {error : HelloError}
      (fits : payload.length < 2 ^ 16) (defect : NameList payload error) :
      OneExtension (writeNat 2 0 ++ writeVector 2 payload ++ left) error

theorem OneExtension.ne_nil {left : List UInt8} {error : HelloError}
    (defect : OneExtension left error) : left ≠ [] := by
  cases defect <;> simp [writeNat, Digits.ofNat]

inductive Extensions : List UInt8 -> HelloError -> Prop where
  | span {left : List UInt8} {error : HelloError} (present : left ≠ [])
      (defect : Span .extensionsLength .extensionsMismatch left error) : Extensions left error
  | later (before : List Extension) {left : List UInt8} {error : HelloError}
      (fits : (before.flatMap Extension.written ++ left).length < 2 ^ 16)
      (defect : OneExtension left error) :
      Extensions (writeVector 2 (before.flatMap Extension.written ++ left)) error

inductive Head : List UInt8 -> HelloError -> Prop where
  | version {left : List UInt8} (short : left.length < 2) : Head left (.truncated .version 1 0)
  | old {version : Version} (left : List UInt8) (old : version.isOld = true) :
      Head (version.major :: version.minor :: left) (.versionTooOld version.major version.minor)
  | random {version : Version} {left : List UInt8} (recent : version.isOld = false)
      (short : left.length < 32) :
      Head (version.major :: version.minor :: left) (.truncated .random 32 left.length)
  | sessionId {version : Version} {random left : List UInt8} {error : HelloError}
      (recent : version.isOld = false) (random_length : random.length = 32)
      (defect : Vector 1 .sessionIdLength .sessionId longSessionId left error) :
      Head (version.major :: version.minor :: random ++ left) error
  | cipherSuites {version : Version} {random sessionId left : List UInt8} {error : HelloError}
      (recent : version.isOld = false) (random_length : random.length = 32)
      (sessionId_length : sessionId.length ≤ 32)
      (defect : Vector 2 .cipherSuitesLength .cipherSuites oddCipherSuites left error) :
      Head (version.major :: version.minor :: random ++ writeVector 1 sessionId ++ left) error
  | compression {version : Version} {random sessionId cipherSuites left : List UInt8}
      {error : HelloError} (recent : version.isOld = false) (random_length : random.length = 32)
      (sessionId_length : sessionId.length ≤ 32) (cipherSuites_even : cipherSuites.length % 2 = 0)
      (cipherSuites_fit : cipherSuites.length < 2 ^ 16)
      (defect : Vector 1 .compressionLength .compression unrefused left error) :
      Head (version.major :: version.minor :: random ++ writeVector 1 sessionId
        ++ writeVector 2 cipherSuites ++ left) error

inductive Body : List UInt8 -> HelloError -> Prop where
  | head {bytes : List UInt8} {error : HelloError} (defect : Head bytes error) : Body bytes error
  | extensions (head : HelloHead) {left : List UInt8} {error : HelloError}
      (defect : Extensions left error) : Body (head.written ++ left) error

end Defect

namespace Hello

variable {field count content : Field} {bytes : List UInt8} {error : HelloError}

theorem vector_eq_error_iff {width : Nat} {refusal : Nat -> Option HelloError} :
    vector width count content refusal bytes = .error error ↔
      Defect.Vector width count content refusal bytes error := by
  simp only [vector, bind_eq_error_iff, Prod.exists, number_eq_ok_iff, number_eq_error_iff]
  constructor
  next =>
    rintro (⟨short, rfl⟩ | ⟨length, left, ⟨fits, rfl⟩, broken⟩)
    next => exact .count short
    next =>
      split at broken
      next named refused => exact Except.error.inj broken ▸ .refused left fits refused
      next admitted =>
        obtain ⟨short, rfl⟩ := take_eq_error_iff.mp broken
        exact .content fits admitted short
  next =>
    intro defect
    cases defect with
    | count short => exact .inl ⟨short, rfl⟩
    | refused left fits refused => exact .inr ⟨_, left, ⟨fits, rfl⟩, by simp [refused]⟩
    | content fits admitted short =>
      exact .inr ⟨_, _, ⟨fits, rfl⟩, by simp [admitted, take_eq_error_iff, short]⟩

theorem span_eq_error_iff {mismatch : Nat -> Nat -> HelloError} :
    span count mismatch bytes = .error error ↔ Defect.Span count mismatch bytes error := by
  simp only [span, bind_eq_error_iff, ite_error_eq_error_iff, Prod.exists, number_eq_ok_iff,
    number_eq_error_iff, pure, Except.pure, reduceCtorEq, and_false, or_false]
  constructor
  next =>
    rintro (⟨short, rfl⟩ | ⟨claimed, left, ⟨fits, rfl⟩, different, rfl⟩)
    next => exact .count short
    next => exact .mismatch fits different
  next =>
    intro defect
    cases defect with
    | count short => exact .inl ⟨short, rfl⟩
    | mismatch fits different => exact .inr ⟨_, _, ⟨fits, rfl⟩, different, rfl⟩

theorem entry_eq_error_iff (present : bytes ≠ []) :
    entry bytes = .error error ↔ Defect.Entry bytes error := by
  simp only [entry, bind_eq_error_iff, ite_error_eq_error_iff, Prod.exists, byte_eq_ok_iff,
    byte_eq_error_iff, vector_eq_error_iff, present, false_and, false_or]
  constructor
  next =>
    rintro ⟨kind, left, rfl, ⟨unsupported, rfl⟩ | ⟨known, defect⟩⟩
    next => exact .kind left unsupported
    next =>
      obtain rfl := Decidable.not_not.mp known
      exact .name defect
  next =>
    intro defect
    cases defect with
    | kind left unsupported => exact ⟨_, left, rfl, .inl ⟨unsupported, rfl⟩⟩
    | name defect => exact ⟨0, _, rfl, .inr ⟨not_not_intro rfl, defect⟩⟩

theorem names_of_defect (first : Option String) (defect : Defect.Entry bytes error) :
    names first bytes = .error error := by
  have present := defect.ne_nil
  have broken := (entry_eq_error_iff present).mpr defect
  simp [names_of_entry _ present, broken, bind, Except.bind]

theorem names_of_text {first : Option String} {name rest : List UInt8} {found : String}
    (fits : name.length < 2 ^ 16) (text : (first <|> utf8? name) = some found) :
    names first (writeName name ++ rest) = names (some found) rest := by
  have read : entry (writeName name ++ rest) = .ok (name, rest) := entry_eq_ok_iff.mpr ⟨fits, rfl⟩
  rw [names_of_entry _ (by simp [writeName]), read]
  simp [bind, Except.bind, text]

theorem names_of_notText {name : List UInt8} (fits : name.length < 2 ^ 16) (notText : utf8? name = none)
    (rest : List UInt8) : names none (writeName name ++ rest) = .error .nameNotUtf8 := by
  have read : entry (writeName name ++ rest) = .ok (name, rest) := entry_eq_ok_iff.mpr ⟨fits, rfl⟩
  rw [names_of_entry _ (by simp [writeName]), read]
  simp [bind, Except.bind, notText]

theorem entry_of_names_eq_error {first : Option String} (failed : names first bytes = .error error) :
    Defect.Entry bytes error ∨
      ∃ name rest, name.length < 2 ^ 16 ∧ bytes = writeName name ++ rest := by
  by_cases present : bytes = []
  next => simp [present, names_nil] at failed
  next =>
    rw [names_of_entry _ present, bind_eq_error_iff] at failed
    rcases failed with broken | ⟨⟨name, rest⟩, read, -⟩
    next => exact .inl ((entry_eq_error_iff present).mp broken)
    next =>
      obtain ⟨fits, split⟩ := entry_eq_ok_iff.mp read
      exact .inr ⟨name, rest, fits, split⟩

theorem names_some_eq_error_iff {found : String} (short : bytes.length < 2 ^ 16) :
    names (some found) bytes = .error error ↔
      ∃ (before : List (List UInt8)) (left : List UInt8),
        bytes = before.flatMap writeName ++ left ∧ Defect.Entry left error := by
  constructor
  next =>
    intro failed
    induction size : bytes.length using Nat.strongRecOn generalizing bytes with
    | _ count ih =>
      rcases entry_of_names_eq_error failed with defect | ⟨name, rest, fits, rfl⟩
      next => exact ⟨[], bytes, rfl, defect⟩
      next =>
        rw [names_of_text fits rfl] at failed
        simp only [List.length_append, length_writeName] at size short
        obtain ⟨before, left, rfl, defect⟩ := ih rest.length (by omega) (by omega) failed rfl
        exact ⟨name :: before, left, by simp, defect⟩
  next =>
    rintro ⟨before, left, rfl, defect⟩
    induction before with
    | nil => exact names_of_defect _ defect
    | cons name before ih =>
      simp only [List.flatMap_cons, List.append_assoc, List.length_append, length_writeName] at short
      rw [List.flatMap_cons, List.append_assoc, names_of_text (by omega) rfl]
      exact ih (by rw [List.length_append]; omega)

theorem names_none_eq_error_iff (short : bytes.length < 2 ^ 16) :
    names none bytes = .error error ↔ Defect.Names bytes error := by
  constructor
  next =>
    intro failed
    rcases entry_of_names_eq_error failed with defect | ⟨name, rest, fits, rfl⟩
    next => exact .first defect
    next =>
      simp only [List.length_append, length_writeName] at short
      cases text : utf8? name with
      | none =>
        rw [names_of_notText fits text] at failed
        cases failed
        exact .notText rest fits (utf8?_eq_none_iff.mp text)
      | some found =>
        rw [names_of_text fits text] at failed
        obtain ⟨before, left, rfl, defect⟩ := (names_some_eq_error_iff (by omega)).mp failed
        obtain rfl := utf8?_eq_some_iff.mp text
        have whole := Defect.Names.later ⟨found, before⟩ defect
        rwa [ServerNames.written, List.append_assoc] at whole
  next =>
    intro defect
    cases defect with
    | first defect => exact names_of_defect none defect
    | notText left fits notText => exact names_of_notText fits (utf8?_eq_none_iff.mpr notText) left
    | @later before left _ defect =>
      have text : utf8? (writeText before.first) = some before.first := utf8?_eq_some_iff.mpr rfl
      simp only [ServerNames.written, List.length_append, length_writeName] at short
      rw [ServerNames.written, List.append_assoc, names_of_text (by omega) text]
      refine (names_some_eq_error_iff ?_).mpr ⟨before.later, left, rfl, defect⟩
      rw [List.length_append]
      omega

theorem nameList_eq_error_iff {payload : List UInt8} :
    nameList payload = .error error ↔ Defect.NameList payload error := by
  simp only [nameList_eq_span, bind_eq_error_iff, span_eq_error_iff, span_eq_ok_iff]
  constructor
  next =>
    rintro (defect | ⟨list, ⟨fits, rfl⟩, failed⟩)
    next => exact .span defect
    next => exact .names fits ((names_none_eq_error_iff fits).mp failed)
  next =>
    intro defect
    cases defect with
    | span defect => exact .inl defect
    | names fits defect => exact .inr ⟨_, ⟨fits, rfl⟩, (names_none_eq_error_iff fits).mpr defect⟩

theorem extensions_of_defect (found : Option String) (defect : Defect.OneExtension bytes error) :
    extensions found bytes = .error error := by
  rw [extensions_of_vector found defect.ne_nil, bind_eq_error_iff]
  cases defect with
  | kind byte => exact .inl rfl
  | @payload kind left _ defect =>
    have kindRead : number 2 .extensionType (writeNat 2 kind.toNat ++ left) = .ok (kind.toNat, left) :=
      number_eq_ok_iff.mpr ⟨kind.toNat_lt, rfl⟩
    exact .inr ⟨_, kindRead, bind_eq_error_iff.mpr (.inl (vector_eq_error_iff.mpr defect))⟩
  | @names payload left _ fits defect =>
    have kindRead : number 2 .extensionType (writeNat 2 0 ++ writeVector 2 payload ++ left) =
        .ok (0, writeVector 2 payload ++ left) :=
      number_eq_ok_iff.mpr ⟨by simp, by rw [List.append_assoc]⟩
    have payloadRead : vector 2 .extensionLength .extensionPayload unrefused
        (writeVector 2 payload ++ left) = .ok (payload, left) :=
      vector_eq_ok_iff.mpr ⟨fits, rfl, rfl⟩
    have broken := nameList_eq_error_iff.mpr defect
    exact .inr ⟨_, kindRead, by simp [payloadRead, broken, bind, Except.bind]⟩

theorem exists_extension_or_defect (present : bytes ≠ []) :
    (∃ (extension : Extension) (rest : List UInt8), bytes = extension.written ++ rest) ∨
      ∃ error, Defect.OneExtension bytes error := by
  cases kindRead : number 2 .extensionType bytes with
  | error broken =>
    obtain ⟨short, rfl⟩ := number_eq_error_iff.mp kindRead
    match bytes, present, short with
    | [byte], _, _ => exact .inr ⟨_, .kind byte⟩
  | ok read =>
    obtain ⟨kind, left⟩ := read
    obtain ⟨kind_lt, rfl⟩ := number_eq_ok_iff.mp kindRead
    have code : (UInt16.ofNat kind).toNat = kind := by simpa using kind_lt
    cases payloadRead : vector 2 .extensionLength .extensionPayload unrefused left with
    | error broken =>
      have defect := Defect.OneExtension.payload (UInt16.ofNat kind) (vector_eq_error_iff.mp payloadRead)
      rw [code] at defect
      exact .inr ⟨broken, defect⟩
    | ok read =>
      obtain ⟨payload, rest⟩ := read
      obtain ⟨fits, -, rfl⟩ := vector_eq_ok_iff.mp payloadRead
      by_cases related : kind = 0
      next =>
        subst related
        cases listRead : nameList payload with
        | error broken =>
          have defect := Defect.OneExtension.names rest fits (nameList_eq_error_iff.mp listRead)
          rw [List.append_assoc] at defect
          exact .inr ⟨broken, defect⟩
        | ok name =>
          obtain ⟨list, rfl, -⟩ := (nameList_eq_ok_iff fits).mp listRead
          exact .inl ⟨.serverName list, rest, by simp [Extension.written, Extension.kind, Extension.payload]⟩
      next =>
        have unrelated : UInt16.ofNat kind ≠ 0 := by
          intro zero
          rw [zero] at code
          exact related code.symm
        refine .inl ⟨.other (UInt16.ofNat kind) unrelated payload, rest, ?_⟩
        simp [Extension.written, Extension.kind, Extension.payload, code]

theorem extensions_eq_error_iff {found : Option String} (short : bytes.length < 2 ^ 16) :
    extensions found bytes = .error error ↔
      ∃ (before : List Extension) (left : List UInt8),
        bytes = before.flatMap Extension.written ++ left ∧ Defect.OneExtension left error := by
  constructor
  next =>
    intro failed
    induction size : bytes.length using Nat.strongRecOn generalizing bytes found with
    | _ count ih =>
      by_cases present : bytes = []
      next => simp [present, extensions_nil] at failed
      next =>
        rcases exists_extension_or_defect present with ⟨extension, rest, rfl⟩ | ⟨named, defect⟩
        next =>
          rw [extensions_written found short] at failed
          simp only [Extension.written, List.length_append, length_writeNat] at size short
          obtain ⟨before, left, rfl, defect⟩ := ih rest.length (by omega) (by omega) failed rfl
          exact ⟨extension :: before, left, by simp, defect⟩
        next =>
          rw [extensions_of_defect found defect] at failed
          cases failed
          exact ⟨[], bytes, rfl, defect⟩
  next =>
    rintro ⟨before, left, rfl, defect⟩
    induction before generalizing found with
    | nil => exact extensions_of_defect found defect
    | cons extension before ih =>
      rw [List.flatMap_cons, List.append_assoc] at short ⊢
      rw [extensions_written found short]
      rw [List.length_append] at short
      exact ih (by omega)

theorem afterHead_eq_error_iff {version : Version} :
    afterHead version bytes = .error error ↔ Defect.Extensions bytes error := by
  by_cases present : bytes = []
  next =>
    subst present
    constructor
    next => simp [afterHead]
    next =>
      intro defect
      cases defect with
      | span present => exact absurd rfl present
  next =>
    simp only [afterHead_of_span version present, bind_eq_error_iff, span_eq_error_iff, span_eq_ok_iff,
      pure, Except.pure, reduceCtorEq, and_false, exists_false, or_false]
    constructor
    next =>
      rintro (defect | ⟨rest, ⟨fits, rfl⟩, failed⟩)
      next => exact .span present defect
      next =>
        obtain ⟨before, left, rfl, defect⟩ := (extensions_eq_error_iff fits).mp failed
        exact .later before fits defect
    next =>
      intro defect
      cases defect with
      | span present defect => exact .inl defect
      | later before fits defect =>
        exact .inr ⟨_, ⟨fits, rfl⟩, (extensions_eq_error_iff fits).mpr ⟨before, _, rfl, defect⟩⟩

theorem recentVersion_eq_error_iff :
    recentVersion bytes = .error error ↔
      bytes.length < 2 ∧ error = .truncated .version 1 0 ∨
        ∃ (version : Version) (left : List UInt8), version.isOld = true ∧
          bytes = version.major :: version.minor :: left ∧
            error = .versionTooOld version.major version.minor := by
  simp only [recentVersion, bind_eq_error_iff, ite_error_eq_error_iff, Prod.exists, byte_eq_ok_iff,
    byte_eq_error_iff, pure, Except.pure, reduceCtorEq, and_false, or_false]
  constructor
  next =>
    rintro (⟨rfl, rfl⟩ | ⟨major, _, rfl, ⟨rfl, rfl⟩ | ⟨minor, left, rfl, old, rfl⟩⟩)
    next => simp
    next => simp
    next => exact .inr ⟨⟨major, minor⟩, left, old, rfl, rfl⟩
  next =>
    rintro (⟨short, rfl⟩ | ⟨version, left, old, rfl, rfl⟩)
    next =>
      cases bytes with
      | nil => simp
      | cons major rest =>
        obtain rfl := List.length_eq_zero_iff.mp (Nat.lt_one_iff.mp (Nat.lt_of_succ_lt_succ short))
        simp
    next => simp [old]

theorem head_eq_error_iff : head bytes = .error error ↔ Defect.Head bytes error := by
  simp only [head, bind_eq_error_iff, Prod.exists, recentVersion_eq_ok_iff, recentVersion_eq_error_iff,
    take_eq_ok_iff, take_eq_error_iff, vector_eq_ok_iff, vector_eq_error_iff,
    longSessionId_eq_none_iff, oddCipherSuites_eq_none_iff, pure, Except.pure, reduceCtorEq, and_false,
    exists_false, or_false]
  constructor
  next =>
    rintro ((⟨short, rfl⟩ | ⟨version, left, old, rfl, rfl⟩) | ⟨version, _, ⟨recent, rfl⟩, later⟩)
    next => exact .version short
    next => exact .old left old
    next =>
      rcases later with ⟨short, rfl⟩ | ⟨random, _, ⟨random_length, rfl⟩, later⟩
      next => exact .random recent short
      next =>
        rcases later with defect | ⟨sessionId, _, ⟨-, sessionId_length, rfl⟩, later⟩
        next => exact .sessionId recent random_length defect
        next =>
          rcases later with defect | ⟨cipherSuites, left, ⟨fit, even, rfl⟩, defect⟩
          next =>
            have whole := Defect.Head.cipherSuites recent random_length sessionId_length defect
            simpa using whole
          next =>
            have whole :=
              Defect.Head.compression recent random_length sessionId_length even fit defect
            simpa using whole
  next =>
    intro defect
    cases defect with
    | version short => exact .inl (.inl ⟨short, rfl⟩)
    | old left old => exact .inl (.inr ⟨_, left, old, rfl, rfl⟩)
    | random recent short => exact .inr ⟨_, _, ⟨recent, rfl⟩, .inl ⟨short, rfl⟩⟩
    | sessionId recent random_length defect =>
      exact .inr ⟨_, _, ⟨recent, rfl⟩, .inr ⟨_, _, ⟨random_length, rfl⟩, .inl defect⟩⟩
    | cipherSuites recent random_length sessionId_length defect =>
      refine .inr ⟨_, _, ⟨recent, ?_⟩, .inr ⟨_, _, ⟨random_length, rfl⟩,
        .inr ⟨_, _, ⟨?_, sessionId_length, rfl⟩, .inl defect⟩⟩⟩
      next => simp
      next => omega
    | compression recent random_length sessionId_length even fit defect =>
      refine .inr ⟨_, _, ⟨recent, ?_⟩, .inr ⟨_, _, ⟨random_length, rfl⟩,
        .inr ⟨_, _, ⟨?_, sessionId_length, rfl⟩, .inr ⟨_, _, ⟨fit, even, rfl⟩, defect⟩⟩⟩⟩
      next => simp
      next => omega

theorem head_eq_ok_iff {version : Version} {rest : List UInt8} :
    head bytes = .ok (version, rest) ↔
      ∃ head : HelloHead, head.version = version ∧ bytes = head.written ++ rest := by
  simp only [head, bind_eq_ok_iff, Prod.exists, recentVersion_eq_ok_iff, take_eq_ok_iff, vector_eq_ok_iff,
    longSessionId_eq_none_iff, oddCipherSuites_eq_none_iff, unrefused, pure, Except.pure,
    Except.ok.injEq, Prod.mk.injEq]
  constructor
  next =>
    rintro ⟨version, _, ⟨recent, rfl⟩, random, _, ⟨random_length, rfl⟩, sessionId, _,
      ⟨-, sessionId_length, rfl⟩, cipherSuites, _, ⟨cipherSuites_fit, cipherSuites_even, rfl⟩,
      compression, _, ⟨compression_fit, -, rfl⟩, rfl, rfl⟩
    refine ⟨{
      version, random, random_length, sessionId, sessionId_length, cipherSuites, cipherSuites_even
      cipherSuites_fit, compression, compression_fit
      recent := isOld_eq_false_iff.mp recent }, rfl, ?_⟩
    simp [HelloHead.written]
  next =>
    rintro ⟨head, rfl, rfl⟩
    have sessionId_length := head.sessionId_length
    refine ⟨head.version, _, ⟨isOld_eq_false_iff.mpr head.recent, ?_⟩, head.random, _,
      ⟨head.random_length, rfl⟩, head.sessionId, _, ⟨by omega, sessionId_length, rfl⟩,
      head.cipherSuites, _, ⟨head.cipherSuites_fit, head.cipherSuites_even, rfl⟩,
      head.compression, rest, ⟨head.compression_fit, trivial, rfl⟩, rfl, rfl⟩
    simp [HelloHead.written]

theorem parse_eq_error_iff : parse bytes = .error error ↔ Defect.Body bytes error := by
  simp only [parse_eq_head, bind_eq_error_iff, Prod.exists, head_eq_ok_iff, head_eq_error_iff,
    afterHead_eq_error_iff]
  constructor
  next =>
    rintro (defect | ⟨_, left, ⟨head, rfl, rfl⟩, defect⟩)
    next => exact .head defect
    next => exact .extensions head defect
  next =>
    intro defect
    cases defect with
    | head defect => exact .inl defect
    | extensions head defect => exact .inr ⟨_, _, ⟨head, rfl, rfl⟩, defect⟩

end Hello

def plainHead : HelloHead where
  version := ⟨3, 3⟩
  recent := by decide
  random := List.replicate 32 7
  random_length := rfl
  sessionId := []
  sessionId_length := by decide
  cipherSuites := [19, 1]
  cipherSuites_even := rfl
  cipherSuites_fit := by decide
  compression := [0]
  compression_fit := by decide

end SniffingRelay.Tls
