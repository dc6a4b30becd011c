import SniffingRelay.Proofs.Tls.HelloGrammar

set_option autoImplicit false

namespace SniffingRelay.Tls

namespace Hello

variable {A B : Type} {field count content : Field} {bytes rest : List UInt8} {error : HelloError}

theorem bind_eq_error_iff {part : Except HelloError A} {next : A -> Except HelloError B} :
    part >>= next = .error error ↔
      part = .error error ∨ ∃ value, part = .ok value ∧ next value = .error error := by
  cases part <;> simp [bind, Except.bind]

theorem ite_error_eq_error_iff {broken : Prop} [Decidable broken] {named : HelloError}
    {next : Except HelloError A} :
    (if broken then .error named else next) = .error error ↔
      broken ∧ error = named ∨ ¬broken ∧ next = .error error := by
  by_cases broken <;> simp_all [eq_comm]

theorem ite_error_bind {broken : Prop} [Decidable broken] {part : Except HelloError A}
    {next : A -> Except HelloError B} :
    (if broken then .error error else part) >>= next =
      if broken then .error error else part >>= next := by
  by_cases broken <;> simp_all [bind, Except.bind]

theorem utf8?_eq_none_iff : utf8? bytes = none ↔ ∀ text, bytes ≠ writeText text := by
  simp only [Option.eq_none_iff_forall_ne_some, ne_eq, utf8?_eq_some_iff]

def number (width : Nat) (field : Field) (bytes : List UInt8) : Except HelloError (Nat × List UInt8) :=
  if bytes.length < width then .error (.truncated field width bytes.length)
  else .ok (bigEndian (bytes.take width), bytes.drop width)

theorem number_eq_ok_iff {width value : Nat} :
    number width field bytes = .ok (value, rest) ↔
      value < 256 ^ width ∧ bytes = writeNat width value ++ rest := by
  constructor
  next =>
    intro read
    simp only [number] at read
    split at read
    next => simp at read
    next long =>
      simp only [Except.ok.injEq, Prod.mk.injEq] at read
      obtain ⟨rfl, rfl⟩ := read
      have size : (bytes.take width).length = width := by simp; omega
      have small := bigEndian_lt (bytes.take width)
      have written := writeNat_bigEndian (bytes.take width)
      rw [size] at small written
      exact ⟨small, by rw [written, List.take_append_drop]⟩
  next =>
    rintro ⟨small, rfl⟩
    have size : (writeNat width value).length = width := length_writeNat width value
    have read := bigEndian_writeNat width value
    rw [Nat.mod_eq_of_lt small] at read
    simp [number, size, List.take_left' size, List.drop_left' size, read]

theorem number_eq_error_iff {width : Nat} :
    number width field bytes = .error error ↔
      bytes.length < width ∧ error = .truncated field width bytes.length := by
  by_cases short : bytes.length < width <;> simp [number, short, eq_comm]

theorem number_one (bytes : List UInt8) :
    number 1 field bytes = (do
      let (value, rest) <- (byte field bytes : Except HelloError (UInt8 × List UInt8))
      return (value.toNat, rest)) := by
  cases bytes with
  | nil => rfl
  | cons first rest =>
    simp [byte, number, bigEndian, Digits.toNat, bind, Except.bind, pure, Except.pure]

theorem word_eq_number (bytes : List UInt8) : word field bytes = number 2 field bytes := by
  match bytes with
  | [] | [_] => rfl
  | high :: low :: rest => simp [word, number]

theorem byte_eq_error_iff :
    byte field bytes = .error error ↔ bytes = [] ∧ error = .truncated field 1 0 := by
  cases bytes <;> simp [byte, eq_comm]

theorem take_eq_error_iff {length : Nat} :
    take field length bytes = .error error ↔
      bytes.length < length ∧ error = .truncated field length bytes.length := by
  by_cases short : bytes.length < length
  next =>
    have part : length ≠ min length bytes.length := by omega
    simp [take, short, part, eq_comm]
  next => simp [take, short, Nat.not_lt.mp short]

-- The count of a vector can be refused before its content is looked at.
def vector (width : Nat) (count content : Field) (refusal : Nat -> Option HelloError)
    (bytes : List UInt8) : Except HelloError (List UInt8 × List UInt8) := do
  let (length, rest) <- number width count bytes
  match refusal length with
  | some error => .error error
  | none => take content length rest

def unrefused (_ : Nat) : Option HelloError := none

theorem vector_eq_ok_iff {width : Nat} {refusal : Nat -> Option HelloError} {taken : List UInt8} :
    vector width count content refusal bytes = .ok (taken, rest) ↔
      taken.length < 256 ^ width ∧ refusal taken.length = none ∧
        bytes = writeVector width taken ++ rest := by
  simp only [vector, bind_eq_ok_iff, Prod.exists, number_eq_ok_iff]
  constructor
  next =>
    rintro ⟨length, left, ⟨fits, rfl⟩, read⟩
    split at read
    next => cases read
    next admitted =>
      obtain ⟨rfl, rfl⟩ := take_eq_ok_iff.mp read
      exact ⟨fits, admitted, by simp [writeVector]⟩
  next =>
    rintro ⟨fits, admitted, rfl⟩
    refine ⟨taken.length, taken ++ rest, ⟨fits, by simp [writeVector]⟩, ?_⟩
    simp [admitted, take_append]

-- A vector that has to be all that is left.
def span (count : Field) (mismatch : Nat -> Nat -> HelloError) (bytes : List UInt8) :
    Except HelloError (List UInt8) := do
  let (length, rest) <- number 2 count bytes
  if length ≠ rest.length then .error (mismatch length rest.length) else return rest

theorem span_eq_ok_iff {mismatch : Nat -> Nat -> HelloError} :
    span count mismatch bytes = .ok rest ↔ rest.length < 2 ^ 16 ∧ bytes = writeVector 2 rest := by
  simp only [span, bind_eq_ok_iff, ite_error_eq_ok_iff, Prod.exists, number_eq_ok_iff, pure,
    Except.pure, Except.ok.injEq]
  constructor
  next =>
    rintro ⟨length, left, ⟨fits, rfl⟩, same, rfl⟩
    obtain rfl := Decidable.not_not.mp same
    exact ⟨fits, rfl⟩
  next =>
    rintro ⟨fits, rfl⟩
    exact ⟨_, _, ⟨fits, rfl⟩, not_not_intro rfl, rfl⟩

def entry (bytes : List UInt8) : Except HelloError (List UInt8 × List UInt8) := do
  let (kind, rest) <- byte .nameType bytes
  if kind ≠ 0 then .error (.unsupportedNameType kind)
  else vector 2 .hostNameLength .hostName unrefused rest

theorem entry_eq_ok_iff {name : List UInt8} :
    entry bytes = .ok (name, rest) ↔ name.length < 2 ^ 16 ∧ bytes = writeName name ++ rest := by
  simp only [entry, bind_eq_ok_iff, ite_error_eq_ok_iff, Prod.exists, byte_eq_ok_iff,
    vector_eq_ok_iff, unrefused, true_and]
  constructor
  next =>
    rintro ⟨kind, _, rfl, known, fits, rfl⟩
    obtain rfl := Decidable.not_not.mp known
    exact ⟨fits, rfl⟩
  next =>
    rintro ⟨fits, rfl⟩
    exact ⟨0, _, rfl, not_not_intro rfl, fits, rfl⟩

theorem names_of_entry (first : Option String) (present : bytes ≠ []) :
    names first bytes = (do
      let (name, rest) <- entry bytes
      match first <|> utf8? name with
      | some found => names (some found) rest
      | none => .error .nameNotUtf8) := by
  have read := names_eq first bytes
  rw [if_neg (by simpa using present)] at read
  simp only [entry, vector, word_eq_number, bind_assoc, ite_error_bind, unrefused] at read ⊢
  exact read

theorem nameList_eq_span (payload : List UInt8) :
    nameList payload = span .nameListLength .nameListMismatch payload >>= names none := by
  simp only [nameList, span, word_eq_number, bind_assoc, ite_error_bind, pure_bind]
  rfl

theorem extensions_of_vector (found : Option String) (present : bytes ≠ []) :
    extensions found bytes = (do
      let (kind, rest) <- number 2 .extensionType bytes
      let (payload, rest) <- vector 2 .extensionLength .extensionPayload unrefused rest
      if kind ≠ 0 then extensions found rest
      else
        let name <- nameList payload
        extensions (found <|> name) rest) := by
  rw [extensions_eq, if_neg (by simpa using present)]
  simp only [vector, word_eq_number, bind_assoc, unrefused]

theorem afterHead_of_span (version : Version) (present : bytes ≠ []) :
    afterHead version bytes = (do
      let rest <- span .extensionsLength .extensionsMismatch bytes
      let name <- extensions none rest
      return ⟨version, name.getD ""⟩) := by
  rw [afterHead, if_neg (by simpa using present)]
  simp only [span, word_eq_number, bind_assoc, ite_error_bind, pure_bind]

def recentVersion (bytes : List UInt8) : Except HelloError (Version × List UInt8) := do
  let (major, rest) <- byte .version bytes
  let (minor, rest) <- byte .version rest
  if Version.isOld ⟨major, minor⟩ then .error (.versionTooOld major minor)
  else return (⟨major, minor⟩, rest)

def longSessionId (length : Nat) : Option HelloError :=
  if 32 < length then some (.sessionIdTooLong length) else none

def oddCipherSuites (length : Nat) : Option HelloError :=
  if length % 2 ≠ 0 then some (.oddCipherSuites length) else none

theorem longSessionId_eq_none_iff {length : Nat} : longSessionId length = none ↔ length ≤ 32 := by
  simp [longSessionId]

theorem oddCipherSuites_eq_none_iff {length : Nat} :
    oddCipherSuites length = none ↔ length % 2 = 0 := by
  simp [oddCipherSuites]

def head (bytes : List UInt8) : Except HelloError (Version × List UInt8) := do
  let (version, rest) <- recentVersion bytes
  let (_, rest) <- take .random 32 rest
  let (_, rest) <- vector 1 .sessionIdLength .sessionId longSessionId rest
  let (_, rest) <- vector 2 .cipherSuitesLength .cipherSuites oddCipherSuites rest
  let (_, rest) <- vector 1 .compressionLength .compression unrefused rest
  return (version, rest)

theorem refused_bind {broken : Prop} [Decidable broken] {part : Except HelloError A}
    {next : A -> Except HelloError B} :
    (match if broken then some error else none with
      | some error => .error error
      | none => part) >>= next = if broken then .error error else part >>= next := by
  by_cases broken <;> simp_all [bind, Except.bind]

theorem parse_eq_head (bytes : List UInt8) :
    parse bytes = (do
      let (version, rest) <- head bytes
      afterHead version rest) := by
  rw [parse_eq]
  simp only [head, recentVersion, vector, number_one, word_eq_number, longSessionId, oddCipherSuites,
    unrefused, bind_assoc, pure_bind, ite_error_bind, refused_bind]

theorem recentVersion_eq_ok_iff {version : Version} :
    recentVersion bytes = .ok (version, rest) ↔
      version.isOld = false ∧ bytes = version.major :: version.minor :: rest := by
  simp only [recentVersion, bind_eq_ok_iff, ite_error_eq_ok_iff, Prod.exists, byte_eq_ok_iff, pure,
    Except.pure, Except.ok.injEq, Prod.mk.injEq]
  constructor
  next =>
    rintro ⟨major, _, rfl, minor, _, rfl, recent, rfl, rfl⟩
    exact ⟨by simpa using recent, rfl⟩
  next =>
    rintro ⟨recent, rfl⟩
    exact ⟨_, _, rfl, _, _, rfl, by simp [recent], rfl, rfl⟩

end Hello

end SniffingRelay.Tls
