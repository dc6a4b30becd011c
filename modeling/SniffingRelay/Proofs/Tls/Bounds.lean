import SniffingRelay.Proofs.Tls.Vectors

set_option autoImplicit false

-- The parser with a cursor over slices, where each access beyond a slice is a case of its own and
-- so is a round of a loop that takes nothing. Neither ever happens: the cursor reads what the
-- parser reads.

namespace SniffingRelay.Tls

def splitAt? (count : Nat) (bytes : List UInt8) : Option (List UInt8 × List UInt8) :=
  if count ≤ bytes.length then some (bytes.splitAt count) else none

def slice? (first last : Nat) (bytes : List UInt8) : Option (List UInt8) :=
  if first ≤ last ∧ last ≤ bytes.length then some ((bytes.take last).drop first) else none

/-- What is done with a cursor. Nothing is left of an access that is out of bounds. -/
abbrev Cursor (A : Type) : Type := StateT (List UInt8) (ExceptT HelloError Option) A

namespace Cursor

variable {A B : Type}

def take (field : Field) (count : Nat) : Cursor (List UInt8) := fun rest =>
  if rest.length < count then some (.error (.truncated field count rest.length))
  else (splitAt? count rest).map .ok

def skip (field : Field) (count : Nat) : Cursor Unit := do
  let _ <- take field count

def byte (field : Field) : Cursor UInt8 := do
  let bytes <- take field 1
  bytes[0]?

def word (field : Field) : Cursor Nat := do
  let bytes <- take field 2
  return Hello.bigEndian [<- bytes[0]?, <- bytes[1]?]

def remaining : Cursor Nat := do
  return (<- get).length

def isEmpty : Cursor Bool := do
  return (<- get).isEmpty

def whileLeft (round : A -> Cursor A) (value : A) (bytes : List UInt8) :
    Option (Except HelloError (A × List UInt8)) :=
  if bytes.isEmpty then some (.ok (value, bytes))
  else
    match round value bytes with
    | none => none
    | some (.error error) => some (.error error)
    | some (.ok (next, rest)) =>
        if rest.length < bytes.length then whileLeft round next rest else none
termination_by bytes.length

def keepFirst (first : Option String) (name : List UInt8) : Cursor (Option String) :=
  if first.isSome then return first
  else
    match Hello.utf8? name with
    | some text => return some text
    | none => throw .nameNotUtf8

def name (first : Option String) : Cursor (Option String) := do
  let kind <- byte .nameType
  if kind ≠ 0 then throw (.unsupportedNameType kind)
  else
    let length <- word .hostNameLength
    let name <- take .hostName length
    keepFirst first name

def nameList (payload : List UInt8) : ExceptT HelloError Option (Option String) :=
  StateT.run' (do
    let length <- word .nameListLength
    let left <- remaining
    if length ≠ left then throw (.nameListMismatch length left)
    else whileLeft name none) payload

def extension (found : Option String) : Cursor (Option String) := do
  let kind <- word .extensionType
  let length <- word .extensionLength
  let payload <- take .extensionPayload length
  if kind ≠ 0 then return found
  else
    let name <- nameList payload
    return found <|> name

def parse (body : List UInt8) : ExceptT HelloError Option Hello :=
  StateT.run' (do
    let major <- byte .version
    let minor <- byte .version
    if Version.isOld ⟨major, minor⟩ then throw (.versionTooOld major minor)
    else
      skip .random 32
      let sessionIdLength <- byte .sessionIdLength
      if 32 < sessionIdLength.toNat then throw (.sessionIdTooLong sessionIdLength.toNat)
      else
        skip .sessionId sessionIdLength.toNat
        let cipherSuitesLength <- word .cipherSuitesLength
        if cipherSuitesLength % 2 ≠ 0 then throw (.oddCipherSuites cipherSuitesLength)
        else
          skip .cipherSuites cipherSuitesLength
          let compressionLength <- byte .compressionLength
          skip .compression compressionLength.toNat
          let last <- isEmpty
          if last then return ⟨⟨major, minor⟩, ""⟩
          else
            let length <- word .extensionsLength
            let left <- remaining
            if length ≠ left then throw (.extensionsMismatch length left)
            else
              let name <- whileLeft extension none
              return ⟨⟨major, minor⟩, name.getD ""⟩) body

def within (plain : List UInt8 -> Except HelloError (A × List UInt8)) : Cursor A :=
  fun bytes => some (plain bytes)

theorem within_bind (plain : List UInt8 -> Except HelloError (A × List UInt8))
    (next : A -> List UInt8 -> Except HelloError (B × List UInt8)) :
    (within plain >>= fun value => within (next value)) =
      within fun bytes => plain bytes >>= fun read => next read.1 read.2 := by
  funext bytes
  change ExceptT.bind (within plain bytes) _ = _
  cases read : plain bytes <;>
    simp [within, read, ExceptT.bind, ExceptT.bindCont, ExceptT.mk, bind, Except.bind]

theorem bind_of_ok {cursor : Cursor A} {bytes rest : List UInt8} {value : A}
    (read : cursor bytes = some (.ok (value, rest))) (next : A -> Cursor B) :
    (cursor >>= next) bytes = next value rest := by
  change ExceptT.bind (cursor bytes) _ = _
  rw [read]
  rfl

theorem pure_eq (value : A) : (pure value : Cursor A) = within fun bytes => .ok (value, bytes) := rfl

theorem throw_eq (error : HelloError) :
    (throw error : Cursor A) = within fun _ => .error error := rfl

theorem ite_eq (broken : Prop) [Decidable broken]
    (yes no : List UInt8 -> Except HelloError (A × List UInt8)) :
    (if broken then within yes else within no) =
      within fun bytes => if broken then yes bytes else no bytes := by
  split <;> rfl

theorem take_eq (field : Field) (count : Nat) : take field count = within (Hello.take field count) := by
  funext bytes
  by_cases short : bytes.length < count
  next =>
    have refused : Hello.take field count bytes = .error (.truncated field count bytes.length) :=
      Hello.take_eq_error_iff.mpr ⟨short, rfl⟩
    simp [take, within, short, refused]
  next =>
    have enough := Nat.not_lt.mp short
    have taken : Hello.take field count bytes = .ok (bytes.take count, bytes.drop count) :=
      Hello.take_eq_ok_iff.mpr ⟨List.length_take_of_le enough, (List.take_append_drop ..).symm⟩
    simp [take, within, short, enough, splitAt?, taken]

theorem skip_eq (field : Field) (count : Nat) :
    skip field count = within fun bytes => do
      let (_, rest) <- (Hello.take field count bytes : Except HelloError (List UInt8 × List UInt8))
      return ((), rest) := by
  simp only [skip, take_eq, pure_eq, within_bind]
  rfl

theorem byte_eq (field : Field) : byte field = within (Hello.byte field) := by
  simp only [byte, take_eq]
  funext bytes
  cases bytes with
  | nil => rfl
  | cons first rest =>
    have width : [first].length = 1 := rfl
    have taken : within (Hello.take field 1) (first :: rest) = some (.ok ([first], rest)) :=
      congrArg some (Hello.take_append width rest)
    exact bind_of_ok taken _

theorem word_eq (field : Field) : word field = within (Hello.word field) := by
  simp only [word, take_eq]
  funext bytes
  match bytes with
  | [] | [_] => rfl
  | high :: low :: rest =>
    have width : [high, low].length = 2 := rfl
    have taken : within (Hello.take field 2) (high :: low :: rest) = some (.ok ([high, low], rest)) :=
      congrArg some (Hello.take_append width rest)
    exact bind_of_ok taken _

theorem whileLeft_eq {round : A -> Cursor A} {plain : A -> List UInt8 -> Except HelloError (A × List UInt8)}
    {loop : A -> List UInt8 -> Except HelloError A} (rounds : ∀ value, round value = within (plain value))
    (shortens : ∀ value bytes next rest, plain value bytes = .ok (next, rest) → rest.length < bytes.length)
    (loop_nil : ∀ value, loop value [] = .ok value)
    (loop_round : ∀ value bytes, bytes ≠ [] →
      loop value bytes = plain value bytes >>= fun read => loop read.1 read.2) (value : A) :
    whileLeft round value = within fun bytes => (fun last => (last, [])) <$> loop value bytes := by
  funext bytes
  induction size : bytes.length using Nat.strongRecOn generalizing value bytes with
  | _ count ih =>
    rw [whileLeft]
    by_cases present : bytes = []
    next => simp [present, within, loop_nil]
    next =>
      simp only [List.isEmpty_iff, present, if_false, rounds]
      simp only [within, loop_round _ _ present]
      cases read : plain value bytes with
      | error error => rfl
      | ok read =>
        have shorter := shortens _ _ _ _ read
        simp only [shorter, if_true]
        exact ih _ (size ▸ shorter) _ _ rfl

-- One entry of a list of names, with the name that the list has after it.
def nameAfter (first : Option String) (bytes : List UInt8) :
    Except HelloError (Option String × List UInt8) := do
  let (name, rest) <- Hello.entry bytes
  match first <|> Hello.utf8? name with
  | some found => .ok (some found, rest)
  | none => .error .nameNotUtf8

theorem keepFirst_eq (first : Option String) (name : List UInt8) :
    keepFirst first name = within fun bytes =>
      match first <|> Hello.utf8? name with
      | some found => .ok (some found, bytes)
      | none => .error .nameNotUtf8 := by
  cases first with
  | some found => rfl
  | none =>
    rw [keepFirst]
    cases Hello.utf8? name <;> rfl

theorem name_eq (first : Option String) : name first = within (nameAfter first) := by
  simp only [name, byte_eq, word_eq, take_eq, throw_eq, keepFirst_eq, within_bind, ite_eq]
  congr 1
  funext bytes
  unfold nameAfter Hello.entry
  simp only [Hello.vector, Hello.word_eq_number, bind_assoc, Hello.ite_error_bind, Hello.unrefused]

theorem length_of_entry {bytes name rest : List UInt8} (read : Hello.entry bytes = .ok (name, rest)) :
    rest.length < bytes.length := by
  obtain ⟨-, rfl⟩ := Hello.entry_eq_ok_iff.mp read
  rw [List.length_append, length_writeName]
  omega

theorem whileLeft_name (first : Option String) :
    whileLeft name first = within fun bytes => (fun last => (last, [])) <$> Hello.names first bytes := by
  apply whileLeft_eq name_eq
  next =>
    intro first bytes next rest read
    obtain ⟨⟨name, left⟩, entered, kept⟩ := Hello.bind_eq_ok_iff.mp read
    dsimp only at kept
    split at kept
    next =>
      obtain ⟨-, rfl⟩ := Prod.mk.inj (Except.ok.inj kept)
      exact length_of_entry entered
    next => cases kept
  next => exact Hello.names_nil
  next =>
    intro first bytes present
    rw [Hello.names_of_entry first present, nameAfter, bind_assoc]
    congr 1
    funext read
    obtain ⟨name, rest⟩ := read
    dsimp only
    cases first <|> Hello.utf8? name <;> rfl

theorem run'_within (plain : List UInt8 -> Except HelloError (A × List UInt8)) (bytes : List UInt8) :
    StateT.run' (within plain) bytes = some (Prod.fst <$> plain bytes) := by
  change ExceptT.map Prod.fst (some (plain bytes)) = _
  cases plain bytes <;> rfl

theorem remaining_eq : remaining = within fun bytes => .ok (bytes.length, bytes) := rfl

theorem isEmpty_eq : isEmpty = within fun bytes => .ok (bytes.isEmpty, bytes) := rfl

theorem map_error (onValue : A -> B) (error : HelloError) :
    onValue <$> (.error error : Except HelloError A) = .error error := rfl

theorem nameList_eq (payload : List UInt8) : nameList payload = some (Hello.nameList payload) := by
  simp only [nameList, word_eq, remaining_eq, throw_eq, whileLeft_name, within_bind, ite_eq, run'_within]
  simp only [Hello.nameList_eq_span, Hello.span, ← Hello.word_eq_number, bind_assoc, Hello.ite_error_bind,
    map_bind, apply_ite (Prod.fst <$> ·), map_error, Functor.map_map, id_map']
  rfl

def foundAfter (found : Option String) (bytes : List UInt8) :
    Except HelloError (Option String × List UInt8) := do
  let (kind, rest) <- Hello.number 2 .extensionType bytes
  let (payload, rest) <- Hello.vector 2 .extensionLength .extensionPayload Hello.unrefused rest
  if kind ≠ 0 then .ok (found, rest)
  else
    let name <- Hello.nameList payload
    .ok (found <|> name, rest)

theorem liftM_nameList (payload : List UInt8) :
    (liftM (nameList payload) : Cursor (Option String)) =
      within fun bytes => (fun name => (name, bytes)) <$> Hello.nameList payload := by
  rw [nameList_eq]
  funext bytes
  cases Hello.nameList payload <;> rfl

theorem extension_eq (found : Option String) : extension found = within (foundAfter found) := by
  simp only [extension, word_eq, take_eq, pure_eq, liftM_nameList, within_bind, ite_eq]
  congr 1
  funext bytes
  unfold foundAfter
  simp only [Hello.vector, ← Hello.word_eq_number, bind_assoc, Hello.unrefused, bind_map_left]

theorem whileLeft_extension (found : Option String) :
    whileLeft extension found =
      within fun bytes => (fun last => (last, [])) <$> Hello.extensions found bytes := by
  apply whileLeft_eq extension_eq
  next =>
    intro found bytes next rest read
    obtain ⟨⟨kind, left⟩, kindRead, afterKind⟩ := Hello.bind_eq_ok_iff.mp read
    obtain ⟨⟨payload, last⟩, payloadRead, kept⟩ := Hello.bind_eq_ok_iff.mp afterKind
    have same : last = rest := by
      dsimp only at kept
      split at kept
      next => exact (Prod.mk.inj (Except.ok.inj kept)).2
      next =>
        obtain ⟨name, -, kept⟩ := Hello.bind_eq_ok_iff.mp kept
        exact (Prod.mk.inj (Except.ok.inj kept)).2
    obtain ⟨-, rfl⟩ := Hello.number_eq_ok_iff.mp kindRead
    obtain ⟨-, -, rfl⟩ := Hello.vector_eq_ok_iff.mp payloadRead
    rw [same]
    simp only [List.length_append, length_writeNat, length_writeVector]
    omega
  next => exact Hello.extensions_nil
  next =>
    intro found bytes present
    rw [Hello.extensions_of_vector found present, foundAfter]
    simp only [bind_assoc]
    congr 1
    funext kindRead
    obtain ⟨kind, rest⟩ := kindRead
    dsimp only
    congr 1
    funext payloadRead
    obtain ⟨payload, rest⟩ := payloadRead
    dsimp only
    split
    next => rfl
    next =>
      rw [bind_assoc]
      rfl

theorem parse_eq (body : List UInt8) : parse body = some (Hello.parse body) := by
  simp only [parse, byte_eq, word_eq, skip_eq, pure_eq, throw_eq, remaining_eq, isEmpty_eq,
    whileLeft_extension, within_bind, ite_eq, run'_within]
  simp only [Hello.parse_eq, Hello.afterHead, map_bind, apply_ite (Prod.fst <$> ·), map_error, bind_assoc,
    bind_map_left, pure_bind]
  rfl

end Cursor

end SniffingRelay.Tls
