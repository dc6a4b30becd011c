import SniffingRelay.Proofs.Tls.Defects

set_option autoImplicit false

namespace SniffingRelay.Tls

-- Where the vector that begins at `start` ends, by its count.
def vectorEnd (width start : Nat) (body : List UInt8) : Nat :=
  start + width + Hello.bigEndian ((body.drop start).take width)

theorem vectorEnd_append {width : Nat} {content : List UInt8} (fits : content.length < 256 ^ width)
    (front back : List UInt8) :
    vectorEnd width front.length (front ++ writeVector width content ++ back) =
      (front ++ writeVector width content).length := by
  have size := length_writeNat width content.length
  have count := bigEndian_writeNat width content.length
  rw [Nat.mod_eq_of_lt fits] at count
  rw [vectorEnd, List.append_assoc, List.drop_left, writeVector, List.append_assoc, List.take_left' size,
    count]
  simp [Nat.add_assoc]

-- The place behind the compression methods, from the counts of the three vectors up to there.
def headEnd (body : List UInt8) : Nat :=
  vectorEnd 1 (vectorEnd 2 (vectorEnd 1 34 body) body) body

theorem headEnd_written (head : HelloHead) (rest : List UInt8) :
    headEnd (head.written ++ rest) = head.written.length := by
  have fixed : (head.version.major :: head.version.minor :: head.random).length = 34 := by
    simp [head.random_length]
  have sessionId_fits : head.sessionId.length < 256 ^ 1 := by
    have sessionId_length := head.sessionId_length
    omega
  have sessionId := vectorEnd_append sessionId_fits
    (head.version.major :: head.version.minor :: head.random)
    (writeVector 2 head.cipherSuites ++ (writeVector 1 head.compression ++ rest))
  have cipherSuites_fit : head.cipherSuites.length < 256 ^ 2 := head.cipherSuites_fit
  have compression_fit : head.compression.length < 256 ^ 1 := head.compression_fit
  have cipherSuites := vectorEnd_append cipherSuites_fit
    (head.version.major :: head.version.minor :: head.random ++ writeVector 1 head.sessionId)
    (writeVector 1 head.compression ++ rest)
  have compression := vectorEnd_append compression_fit
    (head.version.major :: head.version.minor :: head.random ++ writeVector 1 head.sessionId
      ++ writeVector 2 head.cipherSuites) rest
  simp only [fixed, List.append_assoc] at sessionId cipherSuites compression
  simp only [headEnd, HelloHead.written, List.append_assoc, sessionId, cipherSuites, compression]

namespace Defect

variable {bytes : List UInt8} {error : HelloError} {count content : Field}

def Short (error : HelloError) : Prop := ∃ field needed remaining, error = .truncated field needed remaining

theorem Vector.short_or_append {width : Nat} {refusal : Nat -> Option HelloError} (more : List UInt8)
    (defect : Vector width count content refusal bytes error) :
    Short error ∨ Vector width count content refusal (bytes ++ more) error := by
  cases defect with
  | count | content => exact .inl ⟨_, _, _, rfl⟩
  | refused left fits refused =>
    rw [List.append_assoc]
    exact .inr (.refused _ fits refused)

theorem Head.short_or_append (more : List UInt8) (defect : Head bytes error) :
    Short error ∨ Head (bytes ++ more) error := by
  cases defect with
  | version | random => exact .inl ⟨_, _, _, rfl⟩
  | old left old => exact .inr (.old _ old)
  | sessionId recent random_length defect =>
    rw [List.append_assoc]
    exact (defect.short_or_append more).imp id (.sessionId recent random_length)
  | cipherSuites recent random_length sessionId_length defect =>
    rw [List.append_assoc]
    exact (defect.short_or_append more).imp id (.cipherSuites recent random_length sessionId_length)
  | compression recent random_length sessionId_length even fit defect =>
    rw [List.append_assoc]
    exact (defect.short_or_append more).imp id
      (.compression recent random_length sessionId_length even fit)

end Defect

namespace Hello

variable {body : List UInt8} {hello : Hello} {version : Version}

theorem headEnd_le_of_take_eq {n : Nat} {head : HelloHead} {rest : List UInt8}
    (begun : body.take n = head.written ++ rest) : headEnd body ≤ n := by
  have whole := List.take_append_drop n body
  rw [begun, List.append_assoc] at whole
  have sizes := congrArg List.length begun
  simp only [List.length_take, List.length_append] at sizes
  rw [← whole, headEnd_written]
  omega

theorem parse_cut_head {n : Nat} (accepted : parse body = .ok hello) (early : n < headEnd body) :
    ∃ error, Defect.Short error ∧ parse (body.take n) = .error error := by
  cases result : parse (body.take n) with
  | ok cut =>
    obtain ⟨head, rest, begun⟩ := exists_head_of_parse_eq_ok result
    exact absurd (headEnd_le_of_take_eq begun) (Nat.not_le.mpr early)
  | error error =>
    refine ⟨error, ?_, rfl⟩
    generalize begun : body.take n = front at result
    cases parse_eq_error_iff.mp result with
    | extensions head defect => exact absurd (headEnd_le_of_take_eq begun) (Nat.not_le.mpr early)
    | head defect =>
      apply (defect.short_or_append (body.drop n)).resolve_right
      intro kept
      rw [← begun, List.take_append_drop] at kept
      rw [parse_eq_error_iff.mpr (.head kept)] at accepted
      cases accepted

theorem afterHead_of_ne_length {claimed : Nat} {left : List UInt8} (fits : claimed < 2 ^ 16)
    (different : claimed ≠ left.length) :
    afterHead version (writeNat 2 claimed ++ left) =
      .error (.extensionsMismatch claimed left.length) := by
  rw [afterHead_eq_error_iff]
  exact .span (by simp [writeNat, Digits.ofNat]) (.mismatch fits different)

theorem afterHead_take {content : List UInt8} {n : Nat} (fits : content.length < 2 ^ 16)
    (cut : n < 2 + content.length) :
    afterHead version ((writeVector 2 content).take n) =
      match n with
      | 0 => .ok ⟨version, ""⟩
      | 1 => .error (.truncated .extensionsLength 2 1)
      | kept + 2 => .error (.extensionsMismatch content.length kept) := by
  match n with
  | 0 => rfl
  | 1 =>
    obtain ⟨high, low, count⟩ := List.length_eq_two.mp (length_writeNat 2 content.length)
    simp [writeVector, count, afterHead, word, bind, Except.bind]
  | kept + 2 =>
    have size := length_writeNat 2 content.length
    have front : (writeVector 2 content).take (kept + 2) =
        writeNat 2 content.length ++ content.take kept := by
      rw [writeVector, List.take_append, size, List.take_of_length_le (by omega), Nat.add_sub_cancel]
    have kept_length : (content.take kept).length = kept := by
      rw [List.length_take]
      omega
    rw [front, afterHead_of_ne_length fits (by omega), kept_length]

theorem exists_span_of_parse_eq_ok (accepted : parse body = .ok hello) :
    ∃ (head : HelloHead) (rest : List UInt8), body = head.written ++ rest ∧
      head.version = hello.version ∧
        (rest = [] ∨ ∃ content : List UInt8, content.length < 2 ^ 16 ∧ rest = writeVector 2 content) := by
  obtain ⟨head, rest, rfl⟩ := exists_head_of_parse_eq_ok accepted
  rw [parse_head_append, afterHead_eq_ok_iff] at accepted
  rcases accepted with ⟨rfl, rfl⟩ | ⟨list, fits, rfl, rfl⟩
  next => exact ⟨head, [], rfl, rfl, .inl rfl⟩
  next => exact ⟨head, _, rfl, rfl, .inr ⟨_, fits, rfl⟩⟩

theorem parse_take_head_add (head : HelloHead) {content : List UInt8} {n : Nat}
    (fits : content.length < 2 ^ 16) (cut : n < 2 + content.length) :
    parse ((head.written ++ writeVector 2 content).take (head.written.length + n)) =
      match n with
      | 0 => .ok ⟨head.version, ""⟩
      | 1 => .error (.truncated .extensionsLength 2 1)
      | kept + 2 => .error (.extensionsMismatch content.length kept) := by
  rw [List.take_length_add_append, parse_head_append, afterHead_take fits cut]

theorem parse_append_extensions (head : HelloHead) {content more : List UInt8}
    (fits : content.length < 2 ^ 16) (present : more ≠ []) :
    parse (head.written ++ writeVector 2 content ++ more) =
      .error (.extensionsMismatch content.length (content.length + more.length)) := by
  have more_length := List.length_pos_iff.mpr present
  have different : content.length ≠ (content ++ more).length := by
    rw [List.length_append]
    omega
  rw [List.append_assoc, parse_head_append, writeVector, List.append_assoc,
    afterHead_of_ne_length fits different, List.length_append]

/-- A body that was cut is refused, except where its extensions begin, and it has no name there.
With extensions it cannot be followed by anything either. -/
theorem parse_of_cut_body (body : List UInt8) (hello : Hello) (accepted : parse body = .ok hello) :
    headEnd body ≤ body.length ∧
      (∃ head : HelloHead, head.version = hello.version ∧ body.take (headEnd body) = head.written) ∧
      (headEnd body < body.length → ∃ content : List UInt8, content.length < 2 ^ 16 ∧
        body.drop (headEnd body) = writeVector 2 content) ∧
      (∀ n < body.length,
        (n < headEnd body → ∃ field needed remaining,
          parse (body.take n) = .error (.truncated field needed remaining)) ∧
        (n = headEnd body → parse (body.take n) = .ok ⟨hello.version, ""⟩) ∧
        (n = headEnd body + 1 → parse (body.take n) = .error (.truncated .extensionsLength 2 1)) ∧
        (headEnd body + 2 ≤ n → parse (body.take n) =
          .error (.extensionsMismatch (body.length - headEnd body - 2) (n - headEnd body - 2))) ∧
        ∀ cut, parse (body.take n) = .ok cut → cut.serverName = "") ∧
      (headEnd body < body.length → ∀ more ≠ [], parse (body ++ more) =
        .error (.extensionsMismatch (body.length - headEnd body - 2)
          (body.length - headEnd body - 2 + more.length))) := by
  have early (n : Nat) (cut : n < headEnd body) : ∃ field needed remaining,
      parse (body.take n) = .error (.truncated field needed remaining) := by
    obtain ⟨_, ⟨field, needed, remaining, rfl⟩, failed⟩ := parse_cut_head accepted cut
    exact ⟨field, needed, remaining, failed⟩
  obtain ⟨head, rest, rfl, version, shape⟩ := exists_span_of_parse_eq_ok accepted
  rw [headEnd_written] at early ⊢
  refine ⟨by simp, ⟨head, version, by simp⟩, ?_⟩
  rcases shape with rfl | ⟨content, fits, rfl⟩
  next =>
    simp only [List.append_nil] at early ⊢
    refine ⟨fun present => absurd present (Nat.lt_irrefl _), fun n cut => ?_,
      fun present => absurd present (Nat.lt_irrefl _)⟩
    refine ⟨early n, by omega, by omega, by omega, fun hello' accepted' => ?_⟩
    obtain ⟨_, _, _, failed⟩ := early n cut
    simp [failed] at accepted'
  next =>
    have sizes : (head.written ++ writeVector 2 content).length =
        head.written.length + (2 + content.length) := by simp
    have claimed : head.written.length + (2 + content.length) - head.written.length - 2 =
        content.length := by omega
    rw [sizes, claimed]
    refine ⟨fun _ => ⟨content, fits, by simp⟩, fun n cut => ?_,
      fun _ more present => parse_append_extensions head fits present⟩
    by_cases inHead : n < head.written.length
    next =>
      refine ⟨early n, by omega, by omega, by omega, fun hello' accepted' => ?_⟩
      obtain ⟨_, _, _, failed⟩ := early n inHead
      simp [failed] at accepted'
    next =>
      obtain ⟨kept, rfl⟩ := Nat.exists_eq_add_of_le (Nat.not_lt.mp inHead)
      have within : kept < 2 + content.length := by omega
      clear cut
      rw [parse_take_head_add head fits within, version]
      match kept with
      | 0 | 1 | kept + 2 => simp

-- Two extensions, so that most cuts fall into them.
def namedBody : HelloBody where
  head := plainHead
  extensions := some [.serverName (some ⟨"a.b", []⟩), .other 10 (by decide) [0, 2, 0, 29]]
  extensions_fit := by
    rintro _ ⟨⟩
    decide

theorem parse_of_cut_namedBody :
    parse namedBody.written = .ok ⟨⟨3, 3⟩, "a.b"⟩ ∧
      parse (namedBody.written.take 41) = .ok ⟨⟨3, 3⟩, ""⟩ ∧
        parse (namedBody.written.take 60) = .error (.extensionsMismatch 20 17) ∧
          parse (namedBody.written ++ [0]) = .error (.extensionsMismatch 20 21) := by
  have accepted : parse namedBody.written = .ok ⟨⟨3, 3⟩, "a.b"⟩ := parse_written namedBody
  have size : namedBody.written.length = 63 := by decide
  have place : headEnd namedBody.written = 41 := headEnd_written plainHead _
  obtain ⟨-, -, -, cuts, more⟩ := parse_of_cut_body _ _ accepted
  rw [size, place] at cuts more
  exact ⟨accepted, (cuts 41 (by decide)).2.1 rfl, (cuts 60 (by decide)).2.2.2.1 (by decide),
    more (by decide) [0] (by simp)⟩

end Hello

end SniffingRelay.Tls
