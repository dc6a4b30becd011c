import SniffingRelay.Proofs.Tls.Encoding

set_option autoImplicit false

-- Extensions as data, each with the bytes it is written in and the name that it gives. The readers
-- of lists of names and of extensions accept what is written from such data and nothing else.

namespace SniffingRelay.Tls

-- The names of a server_name extension. Those after the first need not be text.
structure ServerNames where
  first : String
  later : List (List UInt8)

def writeName (name : List UInt8) : List UInt8 := 0 :: writeVector 2 name

@[simp] theorem length_writeName (name : List UInt8) :
    (writeName name).length = name.length + 3 := by
  simp only [writeName, List.length_cons, length_writeVector]
  omega

def ServerNames.written (names : ServerNames) : List UInt8 :=
  writeName (writeText names.first) ++ names.later.flatMap writeName

inductive Extension where
  | serverName (names : Option ServerNames)
  | other (kind : UInt16) (unrelated : kind ≠ 0) (payload : List UInt8)

namespace Extension

def kind : Extension -> UInt16
  | .serverName _ => 0
  | .other kind _ _ => kind

def payload : Extension -> List UInt8
  | .serverName names => writeVector 2 (names.elim [] ServerNames.written)
  | .other _ _ payload => payload

def name? : Extension -> Option String
  | .serverName names => names.map ServerNames.first
  | .other .. => none

def written (extension : Extension) : List UInt8 :=
  writeNat 2 extension.kind.toNat ++ writeVector 2 extension.payload

end Extension

namespace Hello

theorem bind_eq_ok_iff {A B : Type} {part : Except HelloError A} {next : A -> Except HelloError B}
    {result : B} : part >>= next = .ok result ↔ ∃ value, part = .ok value ∧ next value = .ok result := by
  cases part <;> simp [bind, Except.bind]

theorem ite_error_eq_ok_iff {A : Type} {broken : Prop} [Decidable broken] {error : HelloError}
    {next : Except HelloError A} {result : A} :
    (if broken then .error error else next) = .ok result ↔ ¬broken ∧ next = .ok result := by
  by_cases broken <;> simp_all

theorem names_eq (first : Option String) (bytes : List UInt8) :
    names first bytes =
      if bytes.isEmpty then .ok first
      else (do
        let (kind, rest) <- byte .nameType bytes
        if kind ≠ 0 then .error (.unsupportedNameType kind)
        else
          let (length, rest) <- word .hostNameLength rest
          let (name, rest) <- take .hostName length rest
          match first <|> utf8? name with
          | some found => names (some found) rest
          | none => .error .nameNotUtf8) := by
  rw [names]
  split
  next => rfl
  next =>
    simp only [bind, Except.bind]
    split
    next typeRead => rw [typeRead]
    next kind afterType typeRead =>
      rw [typeRead]
      simp only
      split
      next => rfl
      next =>
        split
        next lengthRead => rw [lengthRead]
        next length afterLength lengthRead =>
          rw [lengthRead]
          simp only
          split
          next nameRead => rw [nameRead]
          next name rest nameRead =>
            rewrite [nameRead]
            rfl

theorem names_nil (first : Option String) : names first [] = .ok first := by
  rw [names_eq]
  rfl

-- A list that is accepted is empty or an entry before a list that is accepted.
theorem names_eq_ok_iff {first result : Option String} {bytes : List UInt8} :
    names first bytes = .ok result ↔
      bytes = [] ∧ result = first ∨
        ∃ name rest, name.length < 2 ^ 16 ∧ bytes = writeName name ++ rest ∧
          ∃ found, (first <|> utf8? name) = some found ∧ names (some found) rest = .ok result := by
  rw [names_eq]
  split
  next empty =>
    rw [List.isEmpty_iff] at empty
    simpa [empty, writeName] using ⟨Eq.symm, Eq.symm⟩
  next more =>
    simp only [bind_eq_ok_iff, ite_error_eq_ok_iff, Prod.exists, byte_eq_ok_iff, word_eq_ok_iff,
      take_eq_ok_iff]
    constructor
    next =>
      rintro ⟨kind, _, rfl, known, length, _, ⟨fits, rfl⟩, name, rest, ⟨rfl, rfl⟩, accepted⟩
      refine .inr ⟨name, rest, fits, ?_, ?_⟩
      next => simp [Decidable.not_not.mp known, writeName, writeVector]
      next =>
        split at accepted
        next found readable => exact ⟨found, readable, accepted⟩
        next => simp at accepted
    next =>
      rintro (⟨rfl, -⟩ | ⟨name, rest, fits, rfl, found, readable, accepted⟩)
      next => simp at more
      next =>
        refine ⟨0, writeVector 2 name ++ rest, rfl, not_not_intro rfl, name.length, name ++ rest,
          ⟨fits, ?_⟩, name, rest, ⟨rfl, rfl⟩, ?_⟩
        next => rw [writeVector, List.append_assoc]
        next =>
          rw [readable]
          exact accepted

theorem names_some_eq_ok_iff {found : String} {result : Option String} {bytes : List UInt8}
    (short : bytes.length < 2 ^ 16) :
    names (some found) bytes = .ok result ↔
      result = some found ∧ ∃ later : List (List UInt8), bytes = later.flatMap writeName := by
  constructor
  next =>
    intro accepted
    -- An entry takes at least three bytes, so what is behind it is shorter.
    induction size : bytes.length using Nat.strongRecOn generalizing bytes with
    | _ count ih =>
      obtain ⟨rfl, rfl⟩ | ⟨name, rest, -, rfl, other, readable, accepted⟩ :=
        names_eq_ok_iff.mp accepted
      next => exact ⟨rfl, [], rfl⟩
      next =>
        rw [List.length_append, length_writeName] at size short
        obtain rfl : found = other := by simpa using readable
        obtain ⟨same, later, rfl⟩ := ih rest.length (by omega) (by omega) accepted rfl
        exact ⟨same, name :: later, rfl⟩
  next =>
    rintro ⟨rfl, later, rfl⟩
    induction later with
    | nil => exact names_nil _
    | cons name later ih =>
      rw [List.flatMap_cons, List.length_append, length_writeName] at short
      exact names_eq_ok_iff.mpr (.inr ⟨name, _, by omega, rfl, found, rfl, ih (by omega)⟩)

theorem names_none_eq_ok_iff {result : Option String} {bytes : List UInt8}
    (short : bytes.length < 2 ^ 16) :
    names none bytes = .ok result ↔
      ∃ list : Option ServerNames, bytes = list.elim [] ServerNames.written ∧
        result = list.map ServerNames.first := by
  constructor
  next =>
    intro accepted
    obtain ⟨rfl, rfl⟩ | ⟨name, rest, -, rfl, found, readable, accepted⟩ :=
      names_eq_ok_iff.mp accepted
    next => exact ⟨none, rfl, rfl⟩
    next =>
      rw [List.length_append] at short
      obtain ⟨rfl, later, rfl⟩ := (names_some_eq_ok_iff (by omega)).mp accepted
      obtain rfl := utf8?_eq_some_iff.mp readable
      exact ⟨some ⟨found, later⟩, rfl, rfl⟩
  next =>
    rintro ⟨list, rfl, rfl⟩
    cases list with
    | none => exact names_nil none
    | some list =>
      simp only [Option.elim_some, ServerNames.written, List.length_append,
        length_writeName] at short
      refine names_eq_ok_iff.mpr (.inr ⟨writeText list.first, _, by omega, rfl, list.first, ?_, ?_⟩)
      next => exact utf8?_eq_some_iff.mpr rfl
      next => exact (names_some_eq_ok_iff (by omega)).mpr ⟨rfl, list.later, rfl⟩

theorem nameList_eq_ok_iff {result : Option String} {payload : List UInt8}
    (short : payload.length < 2 ^ 16) :
    nameList payload = .ok result ↔
      ∃ list : Option ServerNames, payload = writeVector 2 (list.elim [] ServerNames.written) ∧
        result = list.map ServerNames.first := by
  simp only [nameList, bind_eq_ok_iff, Prod.exists, word_eq_ok_iff]
  constructor
  next =>
    rintro ⟨length, rest, ⟨-, rfl⟩, accepted⟩
    rw [List.length_append] at short
    split at accepted
    next => simp [throw, throwThe, MonadExceptOf.throw, bind, Except.bind] at accepted
    next exact_length =>
      obtain ⟨list, rfl, rfl⟩ := (names_none_eq_ok_iff (by omega)).mp accepted
      exact ⟨list, by rw [writeVector, Decidable.not_not.mp exact_length], rfl⟩
  next =>
    rintro ⟨list, rfl, rfl⟩
    rw [length_writeVector] at short
    refine ⟨_, list.elim [] ServerNames.written, ⟨by omega, rfl⟩, ?_⟩
    rw [if_neg (by simp)]
    exact (names_none_eq_ok_iff (by omega)).mpr ⟨list, rfl, rfl⟩

theorem extensions_eq (found : Option String) (bytes : List UInt8) :
    extensions found bytes =
      if bytes.isEmpty then .ok found
      else (do
        let (kind, rest) <- word .extensionType bytes
        let (length, rest) <- word .extensionLength rest
        let (payload, rest) <- take .extensionPayload length rest
        if kind ≠ 0 then extensions found rest
        else
          let name <- nameList payload
          extensions (found <|> name) rest) := by
  rw [extensions]
  split
  next => rfl
  next =>
    simp only [bind, Except.bind]
    split
    next typeRead => rw [typeRead]
    next kind afterType typeRead =>
      rw [typeRead]
      simp only
      split
      next lengthRead => rw [lengthRead]
      next length afterLength lengthRead =>
        rw [lengthRead]
        simp only
        split
        next payloadRead => rw [payloadRead]
        next payload rest payloadRead =>
          rw [payloadRead]
          simp only
          cases nameList payload <;> rfl

theorem extensions_nil (found : Option String) : extensions found [] = .ok found := by
  rw [extensions_eq]
  rfl

theorem extensions_written (found : Option String) {extension : Extension} {rest : List UInt8}
    (short : (extension.written ++ rest).length < 2 ^ 16) :
    extensions found (extension.written ++ rest) = extensions (found <|> extension.name?) rest := by
  simp only [Extension.written, List.length_append, length_writeNat, length_writeVector] at short
  have kind_lt := extension.kind.toNat_lt
  rw [extensions_eq, if_neg (by simp [Extension.written, writeVector, writeNat, Digits.ofNat])]
  simp only [Extension.written, writeVector, List.append_assoc, bind, Except.bind, take_append rfl,
    word_writeNat kind_lt, word_writeNat (show extension.payload.length < 2 ^ 16 by omega)]
  cases extension with
  | other kind unrelated payload =>
    rw [if_pos]
    next => simp [Extension.name?]
    next => simpa [Extension.kind, ← UInt16.toNat_inj] using unrelated
  | serverName list =>
    have listRead : nameList (Extension.serverName list).payload =
        .ok (list.map ServerNames.first) :=
      (nameList_eq_ok_iff (by omega)).mpr ⟨list, rfl, rfl⟩
    rw [if_neg (by simp [Extension.kind]), listRead]
    rfl

theorem exists_of_extensions_eq_ok {found result : Option String} {bytes : List UInt8}
    (short : bytes.length < 2 ^ 16) (accepted : extensions found bytes = .ok result)
    (more : bytes ≠ []) :
    ∃ (extension : Extension) (rest : List UInt8), bytes = extension.written ++ rest := by
  rw [extensions_eq, if_neg (by simpa using more)] at accepted
  simp only [bind_eq_ok_iff, Prod.exists, word_eq_ok_iff, take_eq_ok_iff] at accepted
  obtain ⟨kind, _, ⟨kind_lt, rfl⟩, length, _, ⟨-, rfl⟩, payload, rest, ⟨rfl, rfl⟩, accepted⟩ :=
    accepted
  split at accepted
  next unrelated =>
    have code : (UInt16.ofNat kind).toNat = kind := by simpa using kind_lt
    refine ⟨.other (UInt16.ofNat kind) ?_ payload, rest, ?_⟩
    next =>
      intro zero
      simp [zero] at code
      omega
    next => simp [Extension.written, Extension.kind, Extension.payload, code, writeVector]
  next related =>
    simp only [List.length_append] at short
    obtain ⟨name, listRead, -⟩ := bind_eq_ok_iff.mp accepted
    obtain ⟨list, rfl, rfl⟩ := (nameList_eq_ok_iff (by omega)).mp listRead
    refine ⟨.serverName list, rest, ?_⟩
    simp [Extension.written, Extension.kind, Extension.payload, Decidable.not_not.mp related,
      writeVector]

theorem extensions_eq_ok_iff {found result : Option String} {bytes : List UInt8}
    (short : bytes.length < 2 ^ 16) :
    extensions found bytes = .ok result ↔
      ∃ list : List Extension, bytes = list.flatMap Extension.written ∧
        result = (found <|> list.findSome? Extension.name?) := by
  constructor
  next =>
    intro accepted
    induction size : bytes.length using Nat.strongRecOn generalizing bytes found with
    | _ count ih =>
      by_cases empty : bytes = []
      next =>
        subst empty
        rw [extensions_nil, Except.ok.injEq] at accepted
        exact ⟨[], rfl, by simp [accepted]⟩
      next =>
        obtain ⟨extension, rest, rfl⟩ := exists_of_extensions_eq_ok short accepted empty
        rw [extensions_written found short] at accepted
        simp only [Extension.written, List.length_append, length_writeNat] at size short
        obtain ⟨list, rfl, rfl⟩ := ih rest.length (by omega) (by omega) accepted rfl
        refine ⟨extension :: list, rfl, ?_⟩
        cases found <;> cases named : extension.name? <;> simp [named]
  next =>
    rintro ⟨list, rfl, rfl⟩
    induction list generalizing found with
    | nil => simp [extensions_nil]
    | cons extension list ih =>
      rw [List.flatMap_cons] at short ⊢
      rw [extensions_written found short, ih (by simp at short ⊢; omega)]
      cases found <;> cases named : extension.name? <;> simp [named]

end Hello

end SniffingRelay.Tls
