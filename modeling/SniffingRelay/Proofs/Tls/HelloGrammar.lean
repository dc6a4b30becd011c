import SniffingRelay.Proofs.Tls.ExtensionGrammar

set_option autoImplicit false

-- Bodies as data that is well formed by construction, each with the bytes it is written in and the
-- hello that it means. The parser accepts what is written from such data and nothing else.

namespace SniffingRelay.Tls

structure HelloHead where
  version : Version
  recent : 3 < version.major ∨ version.major = 3 ∧ 3 ≤ version.minor
  random : List UInt8
  random_length : random.length = 32
  sessionId : List UInt8
  sessionId_length : sessionId.length ≤ 32
  cipherSuites : List UInt8
  cipherSuites_even : cipherSuites.length % 2 = 0
  cipherSuites_fit : cipherSuites.length < 2 ^ 16
  compression : List UInt8
  compression_fit : compression.length < 2 ^ 8

def HelloHead.written (head : HelloHead) : List UInt8 :=
  head.version.major :: head.version.minor :: head.random ++ writeVector 1 head.sessionId
    ++ writeVector 2 head.cipherSuites ++ writeVector 1 head.compression

structure HelloBody where
  head : HelloHead
  extensions : Option (List Extension)
  extensions_fit : ∀ list ∈ extensions, (list.flatMap Extension.written).length < 2 ^ 16

namespace HelloBody

def written (body : HelloBody) : List UInt8 :=
  body.head.written
    ++ body.extensions.elim [] fun list => writeVector 2 (list.flatMap Extension.written)

-- The name is the first one of the first extension that has any.
def hello (body : HelloBody) : Hello where
  version := body.head.version
  serverName := ((body.extensions.getD []).findSome? Extension.name?).getD ""

end HelloBody

namespace Hello

def afterHead (version : Version) (rest : List UInt8) : Except HelloError Hello :=
  if rest.isEmpty then .ok ⟨version, ""⟩
  else do
    let (length, rest) <- word .extensionsLength rest
    if length ≠ rest.length then .error (.extensionsMismatch length rest.length)
    else
      let name <- extensions none rest
      return ⟨version, name.getD ""⟩

theorem isOld_eq_false_iff {version : Version} :
    version.isOld = false ↔ 3 < version.major ∨ version.major = 3 ∧ 3 ≤ version.minor := by
  have three : (3 : UInt8).toNat = 3 := rfl
  simp only [Version.isOld, UInt8.lt_iff_toNat_lt, UInt8.le_iff_toNat_le, ← UInt8.toNat_inj, three,
    Bool.or_eq_false_iff, Bool.and_eq_false_iff, decide_eq_false_iff_not, beq_eq_false_iff_ne, ne_eq]
  omega

theorem parse_eq (bytes : List UInt8) :
    parse bytes = (do
      let (major, rest) <- byte .version bytes
      let (minor, rest) <- byte .version rest
      if Version.isOld ⟨major, minor⟩ then .error (.versionTooOld major minor)
      else
        let (_, rest) <- take .random 32 rest
        let (sessionIdLength, rest) <- byte .sessionIdLength rest
        if 32 < sessionIdLength.toNat then .error (.sessionIdTooLong sessionIdLength.toNat)
        else
          let (_, rest) <- take .sessionId sessionIdLength.toNat rest
          let (cipherSuitesLength, rest) <- word .cipherSuitesLength rest
          if cipherSuitesLength % 2 ≠ 0 then .error (.oddCipherSuites cipherSuitesLength)
          else
            let (_, rest) <- take .cipherSuites cipherSuitesLength rest
            let (compressionLength, rest) <- byte .compressionLength rest
            let (_, rest) <- take .compression compressionLength.toNat rest
            afterHead ⟨major, minor⟩ rest) := rfl

theorem parse_head_append (head : HelloHead) (rest : List UInt8) :
    parse (head.written ++ rest) = afterHead head.version rest := by
  have recent := isOld_eq_false_iff.mpr head.recent
  have sessionId_small := head.sessionId_length
  have sessionId_toNat : head.sessionId.length % 2 ^ 8 = head.sessionId.length := by omega
  have compression_toNat : head.compression.length % 2 ^ 8 = head.compression.length :=
    Nat.mod_eq_of_lt head.compression_fit
  simp only [parse_eq, HelloHead.written, writeVector, writeNat_one, List.cons_append,
    List.nil_append, List.append_assoc, byte_cons, take_append head.random_length, bind,
    Except.bind, UInt8.toNat_ofNat', sessionId_toNat, compression_toNat, recent,
    take_append rfl, word_writeNat head.cipherSuites_fit, head.cipherSuites_even]
  simp [Nat.not_lt.mpr sessionId_small]

theorem exists_head_of_parse_eq_ok {bytes : List UInt8} {hello : Hello}
    (accepted : parse bytes = .ok hello) :
    ∃ (head : HelloHead) (rest : List UInt8), bytes = head.written ++ rest := by
  simp only [parse_eq, bind_eq_ok_iff, ite_error_eq_ok_iff, Prod.exists, byte_eq_ok_iff,
    word_eq_ok_iff, take_eq_ok_iff] at accepted
  obtain ⟨major, _, rfl, minor, _, rfl, recent, random, _, ⟨random_length, rfl⟩,
    sessionIdLength, _, rfl, sessionId_short, sessionId, _, ⟨sessionId_length, rfl⟩,
    _, _, ⟨cipherSuites_fit, rfl⟩, cipherSuites_even, cipherSuites, _, ⟨rfl, rfl⟩,
    compressionLength, _, rfl, compression, rest, ⟨compression_length, rfl⟩, -⟩ := accepted
  refine ⟨{
    version := ⟨major, minor⟩
    recent := isOld_eq_false_iff.mp (by simpa using recent)
    random, random_length, sessionId, cipherSuites, cipherSuites_fit, compression
    sessionId_length := by omega
    cipherSuites_even := by simpa using cipherSuites_even
    compression_fit := compression_length ▸ compressionLength.toNat_lt }, rest, ?_⟩
  simp [HelloHead.written, writeVector, writeNat_one, sessionId_length, compression_length]

theorem afterHead_eq_ok_iff {version : Version} {rest : List UInt8} {hello : Hello} :
    afterHead version rest = .ok hello ↔
      rest = [] ∧ hello = ⟨version, ""⟩ ∨
        ∃ list : List Extension, (list.flatMap Extension.written).length < 2 ^ 16 ∧
          rest = writeVector 2 (list.flatMap Extension.written) ∧
            hello = ⟨version, (list.findSome? Extension.name?).getD ""⟩ := by
  by_cases empty : rest = []
  next =>
    subst empty
    constructor
    next =>
      intro accepted
      exact .inl ⟨rfl, (Except.ok.inj accepted).symm⟩
    next =>
      rintro (⟨-, rfl⟩ | ⟨list, -, written, -⟩)
      next => rfl
      next => simp [writeVector, writeNat, Digits.ofNat] at written
  next =>
    simp only [afterHead, List.isEmpty_iff, empty, if_false, false_and, false_or, bind_eq_ok_iff,
      ite_error_eq_ok_iff, Prod.exists, word_eq_ok_iff, pure, Except.pure, Except.ok.injEq]
    constructor
    next =>
      rintro ⟨length, rest, ⟨small, rfl⟩, same, name, accepted, rfl⟩
      obtain rfl := Decidable.not_not.mp same
      obtain ⟨list, rfl, rfl⟩ := (extensions_eq_ok_iff small).mp accepted
      exact ⟨list, small, rfl, rfl⟩
    next =>
      rintro ⟨list, small, rfl, rfl⟩
      exact ⟨_, _, ⟨small, rfl⟩, not_not_intro rfl, _,
        (extensions_eq_ok_iff small).mpr ⟨list, rfl, rfl⟩, rfl⟩

theorem exists_body_of_parse_eq_ok {bytes : List UInt8} {hello : Hello}
    (accepted : parse bytes = .ok hello) :
    ∃ body : HelloBody, bytes = body.written ∧ hello = body.hello := by
  obtain ⟨head, rest, rfl⟩ := exists_head_of_parse_eq_ok accepted
  rw [parse_head_append, afterHead_eq_ok_iff] at accepted
  obtain ⟨rfl, rfl⟩ | ⟨list, small, rfl, rfl⟩ := accepted
  next => exact ⟨⟨head, none, by simp⟩, rfl, rfl⟩
  next => exact ⟨⟨head, some list, by simpa using small⟩, rfl, rfl⟩

theorem parse_written (body : HelloBody) : parse body.written = .ok body.hello := by
  obtain ⟨head, extensions, fit⟩ := body
  rw [HelloBody.written, parse_head_append, afterHead_eq_ok_iff]
  cases extensions with
  | none => exact .inl ⟨rfl, rfl⟩
  | some list => exact .inr ⟨list, fit list rfl, rfl, rfl⟩

/-- What the parser accepts is what can be written, and it reads back what was written. -/
theorem parse_accepts_exactly_written :
    (∀ (bytes : List UInt8) (hello : Hello), parse bytes = .ok hello ↔
      ∃ body : HelloBody, bytes = body.written ∧ hello = body.hello) ∧
      ∀ body : HelloBody, parse body.written = .ok body.hello := by
  refine ⟨fun bytes hello => ⟨exists_body_of_parse_eq_ok, ?_⟩, parse_written⟩
  rintro ⟨body, rfl, rfl⟩
  exact parse_written body

end Hello

end SniffingRelay.Tls
