import SniffingRelay.Proofs.Ip.AddressText

set_option autoImplicit false

namespace SniffingRelay

namespace Blank

def Trims (text core : List Char) : Prop :=
  ∃ front back, text = front ++ core ++ back ∧ (∀ c ∈ front, isBlank c = true) ∧
    (∀ c ∈ back, isBlank c = true) ∧ (∀ c, core.head? = some c → isBlank c = false) ∧
      ∀ c, core.getLast? = some c → isBlank c = false

section

variable {text core : List Char}

theorem isBlank_of_graphic {c : Char} (low : 33 ≤ c.toNat) (high : c.toNat ≤ 126) :
    isBlank c = false := by
  simp only [isBlank, ranges, List.any_cons, List.any_nil, Bool.or_false, Bool.or_eq_false_iff,
    Bool.and_eq_false_iff, decide_eq_false_iff_not, Nat.not_le]
  omega

theorem dropWhile_of_head? (plain : ∀ c, core.head? = some c → isBlank c = false) :
    core.dropWhile isBlank = core := by
  cases core with
  | nil => rfl
  | cons c core => simp [plain c rfl]

theorem trim_of_trims (trims : Trims text core) : trim text = core := by
  obtain ⟨front, back, rfl, front_blank, back_blank, first, last⟩ := trims
  cases core with
  | nil =>
    have all : (front ++ [] ++ back).dropWhile isBlank = [] := by
      simpa [List.dropWhile_eq_nil_iff] using fun c found => found.elim (front_blank c) (back_blank c)
    rw [trim, all]
    rfl
  | cons c core =>
    have ahead : (front ++ c :: core ++ back).dropWhile isBlank = c :: core ++ back := by
      rw [List.append_assoc, List.dropWhile_append_of_pos front_blank]
      exact dropWhile_of_head? first
    have reversed : ∀ c ∈ back.reverse, isBlank c = true := by simpa using back_blank
    have last : ∀ d, (c :: core).reverse.head? = some d → isBlank d = false := by
      rw [List.head?_reverse]
      exact last
    rw [trim, ahead, List.reverse_append, List.dropWhile_append_of_pos reversed,
      dropWhile_of_head? last, List.reverse_reverse]

theorem isBlank_of_head?_dropWhile {text : List Char} {c : Char}
    (first : (text.dropWhile isBlank).head? = some c) : isBlank c = false := by
  have plain := List.head?_dropWhile_not isBlank text
  rwa [first] at plain

theorem trims_trim (text : List Char) : Trims text (trim text) := by
  have split : text.dropWhile isBlank =
      trim text ++ ((text.dropWhile isBlank).reverse.takeWhile isBlank).reverse := by
    rw [trim, ← List.reverse_append, List.takeWhile_append_dropWhile, List.reverse_reverse]
  refine ⟨text.takeWhile isBlank, ((text.dropWhile isBlank).reverse.takeWhile isBlank).reverse,
    ?_, ?_, ?_, ?_, ?_⟩
  next => rw [List.append_assoc, ← split, List.takeWhile_append_dropWhile]
  next => exact fun c found => List.mem_takeWhile_imp found
  next => exact fun c found => List.mem_takeWhile_imp (List.mem_reverse.mp found)
  next =>
    intro c first
    apply isBlank_of_head?_dropWhile
    rw [split, List.head?_append, first]
    rfl
  next =>
    intro c last
    rw [trim, List.getLast?_reverse] at last
    exact isBlank_of_head?_dropWhile last

theorem trim_eq_iff : trim text = core ↔ Trims text core := by
  constructor
  next => exact fun same => same ▸ trims_trim text
  next => exact trim_of_trims

end

end Blank

namespace Prefix

structure Cuts (text before after : List Char) : Prop where
  whole : text = before ++ '/' :: after
  first : '/' ∉ before

theorem splitSlash_eq_some_iff {text before after : List Char} :
    splitSlash text = some (before, after) ↔ Cuts text before after := by
  induction text generalizing before with
  | nil =>
    constructor
    next => exact nofun
    next => exact fun cuts => absurd cuts.whole (by simp)
  | cons c text ih =>
    by_cases slash : c = '/'
    next =>
      subst slash
      simp only [splitSlash, if_true, Option.some.injEq, Prod.mk.injEq]
      constructor
      next =>
        rintro ⟨rfl, rfl⟩
        exact ⟨rfl, List.not_mem_nil⟩
      next =>
        rintro ⟨whole, first⟩
        cases before with
        | nil => exact ⟨rfl, (List.cons.inj whole).2⟩
        | cons d before =>
          obtain ⟨rfl, -⟩ := List.cons.inj whole
          exact absurd (List.mem_cons_self ..) first
    next =>
      simp only [splitSlash, if_neg slash, Option.map_eq_some_iff, Prod.mk.injEq]
      constructor
      next =>
        rintro ⟨⟨front, _⟩, split, rfl, rfl⟩
        obtain ⟨rfl, first⟩ := ih.mp split
        exact ⟨rfl, by simp [Ne.symm slash, first]⟩
      next =>
        rintro ⟨whole, first⟩
        cases before with
        | nil => exact absurd (List.cons.inj whole).1 slash
        | cons d before =>
          obtain ⟨rfl, rest⟩ := List.cons.inj whole
          have cuts : Cuts text before after := ⟨rest, fun found => first (List.mem_cons_of_mem _ found)⟩
          exact ⟨(before, after), ih.mpr cuts, rfl, rfl⟩

theorem splitSlash_eq_none_iff {text : List Char} : splitSlash text = none ↔ '/' ∉ text := by
  induction text with
  | nil => simp [splitSlash]
  | cons c text ih =>
    by_cases slash : c = '/' <;> simp [splitSlash, slash, ih, eq_comm]

/-- A trimmed text that says an address and, after a slash, a number of one byte. -/
def Says (core : List Char) (address : Ip6) (length : Nat) : Prop :=
  ∃ before after, Cuts core before after ∧ Ip6.ofText? (String.ofList before) = some address ∧
    Numeral.Reads after length ∧ length ≤ 255

inductive Flawed (text : String) (core : List Char) : PrefixError -> Prop where
  | missingSlash (absent : '/' ∉ core) : Flawed text core (.missingSlash text)
  | notAnAddress {before after : List Char} (cuts : Cuts core before after)
      (unread : Ip6.ofText? (String.ofList before) = none) :
      Flawed text core (.notAnAddress (String.ofList before))
  | notALength {before after : List Char} {address : Ip6} (cuts : Cuts core before after)
      (found : Ip6.ofText? (String.ofList before) = some address)
      (unread : ∀ length, Numeral.Reads after length → 255 < length) :
      Flawed text core (.notALength (String.ofList after))
  | lengthOver128 {address : Ip6} {length : Nat} (said : Says core address length)
      (long : 128 < length) : Flawed text core (.lengthOver128 length)

section

variable {text : String} {address : Ip6} {length : Nat} {range : Prefix} {error : PrefixError}

theorem ofCidr_of_said (said : Says (Blank.trim text.toList) address length) :
    ofCidr text = new address length := by
  obtain ⟨before, after, cuts, found, number, byte⟩ := said
  simp only [ofCidr, splitSlash_eq_some_iff.mpr cuts, found,
    Numeral.read_eq_ok_iff.mpr ⟨number, byte⟩]

theorem ofCidr_of_flawed (flawed : Flawed text (Blank.trim text.toList) error) :
    ofCidr text = .error error := by
  cases flawed with
  | missingSlash absent => simp only [ofCidr, splitSlash_eq_none_iff.mpr absent]
  | notAnAddress cuts unread => simp only [ofCidr, splitSlash_eq_some_iff.mpr cuts, unread]
  | @notALength before after address cuts found unread =>
    cases number : Numeral.read 255 after with
    | ok length =>
      obtain ⟨reads, byte⟩ := Numeral.read_eq_ok_iff.mp number
      exact absurd (unread length reads) (Nat.not_lt.mpr byte)
    | error => simp only [ofCidr, splitSlash_eq_some_iff.mpr cuts, found, number]
  | lengthOver128 said long => rw [ofCidr_of_said said, new_of_long long]

theorem says_or_flawed (text : String) (core : List Char) :
    (∃ address length, Says core address length) ∨ ∃ error, Flawed text core error := by
  cases split : splitSlash core with
  | none => exact .inr ⟨_, .missingSlash (splitSlash_eq_none_iff.mp split)⟩
  | some parts =>
    obtain ⟨before, after⟩ := parts
    have cuts := splitSlash_eq_some_iff.mp split
    cases found : Ip6.ofText? (String.ofList before) with
    | none => exact .inr ⟨_, .notAnAddress cuts found⟩
    | some address =>
      cases number : Numeral.read 255 after with
      | ok length =>
        obtain ⟨reads, byte⟩ := Numeral.read_eq_ok_iff.mp number
        exact .inl ⟨address, length, before, after, cuts, found, reads, byte⟩
      | error =>
        refine .inr ⟨_, .notALength cuts found ?_⟩
        intro length reads
        by_contra byte
        rw [Numeral.read_eq_ok_iff.mpr ⟨reads, Nat.le_of_not_lt byte⟩] at number
        cases number

theorem ofCidr_eq_ok_iff : ofCidr text = .ok range ↔
    ∃ address length, Says (Blank.trim text.toList) address length ∧ length ≤ 128 ∧
      new address length = .ok range := by
  constructor
  next =>
    intro read
    rcases says_or_flawed text (Blank.trim text.toList) with ⟨address, length, said⟩ | ⟨_, flawed⟩
    next =>
      rw [ofCidr_of_said said] at read
      refine ⟨address, length, said, ?_, read⟩
      by_contra long
      rw [new_of_long (Nat.lt_of_not_le long)] at read
      cases read
    next =>
      rw [ofCidr_of_flawed flawed] at read
      cases read
  next =>
    rintro ⟨address, length, said, -, made⟩
    rw [ofCidr_of_said said, made]

theorem ofCidr_eq_error_iff : ofCidr text = .error error ↔
    Flawed text (Blank.trim text.toList) error := by
  constructor
  next =>
    intro failed
    rcases says_or_flawed text (Blank.trim text.toList) with ⟨address, length, said⟩ | ⟨_, flawed⟩
    next =>
      rw [ofCidr_of_said said] at failed
      by_cases fits : length ≤ 128
      next =>
        rw [new_of_fits fits] at failed
        cases failed
      next =>
        rw [new_of_long (Nat.lt_of_not_le fits)] at failed
        cases failed
        exact .lengthOver128 said (Nat.lt_of_not_le fits)
    next =>
      rw [ofCidr_of_flawed flawed] at failed
      cases failed
      exact flawed
  next => exact ofCidr_of_flawed

theorem toList_text (range : Prefix) : range.text.toList =
    range.address.text.toList ++ '/' :: Nat.toDigits 10 range.length := by
  simp [Prefix.text, Numeral.decimal]

theorem graphic_of_mem_text {c : Char} (found : c ∈ range.text.toList) :
    33 ≤ c.toNat ∧ c.toNat ≤ 126 := by
  rw [toList_text, List.mem_append, List.mem_cons] at found
  rcases found with found | rfl | found
  next =>
    rcases Ip6.mem_text found with digit | rfl | rfl
    next =>
      have bounds := Numeral.bounds_of_digit? digit
      omega
    next => decide
    next => decide
  next => decide
  next =>
    have digits : ∀ c ∈ Nat.toDigits 10 range.length, (Numeral.digit? 10 c).isSome = true :=
      (Numeral.spells_toDigits (by decide) (by decide) range.length).digits
    have bounds := Numeral.bounds_of_digit? (digits c found)
    omega

theorem says_text (range : Prefix) : Says range.text.toList range.address range.length := by
  have cuts : Cuts range.text.toList range.address.text.toList (Nat.toDigits 10 range.length) := by
    refine ⟨range.toList_text, ?_⟩
    intro found
    have other := Ip6.mem_text found
    revert other
    decide
  have found : Ip6.ofText? (String.ofList range.address.text.toList) = some range.address := by
    rw [String.ofList_toList, Ip6.ofText?_text]
  exact ⟨_, _, cuts, found, Numeral.reads_toDigits _, Nat.le_trans range.length_le (by decide)⟩

theorem Masked.ofCidr_text (masked : range.Masked) {front back : String}
    (front_blank : ∀ c ∈ front.toList, Blank.isBlank c = true)
    (back_blank : ∀ c ∈ back.toList, Blank.isBlank c = true) :
    ofCidr (front ++ range.text ++ back) = .ok range := by
  have graphic (c : Char) (found : c ∈ range.text.toList) : Blank.isBlank c = false :=
    Blank.isBlank_of_graphic (graphic_of_mem_text found).1 (graphic_of_mem_text found).2
  have trims : Blank.Trims (front ++ range.text ++ back).toList range.text.toList := by
    refine ⟨front.toList, back.toList, ?_, front_blank, back_blank, ?_, ?_⟩
    next => rw [String.toList_append, String.toList_append]
    next => exact fun c first => graphic c (List.mem_of_head? first)
    next => exact fun c last => graphic c (List.mem_of_getLast? last)
  have said : Says (Blank.trim (front ++ range.text ++ back).toList) range.address range.length := by
    rw [Blank.trim_eq_iff.mpr trims]
    exact says_text range
  obtain ⟨address, length, fits⟩ := range
  have same : clearHost address length = address := masked
  rw [ofCidr_of_said said, new_of_fits fits]
  simp only [same]

/-- A prefix that was made is read back from its text, and so is the subnet it makes, with any blanks
around it. A text is read as a prefix just when it is an address, a slash and a length up to 128 but
for blanks around it, and else refused for what is wrong with it first. -/
theorem cidr_texts_are_read_exactly :
    (∀ address length, length ≤ 128 → ∃ range, new address length = .ok range ∧
      ∀ front back : String, (∀ c ∈ front.toList, Blank.isBlank c = true) →
        (∀ c ∈ back.toList, Blank.isBlank c = true) →
        ofCidr (front ++ range.text ++ back) = .ok range ∧
        (1 ≤ length → length ≤ 96 → ∃ subnet, Subnet.new range = .ok subnet ∧
          subnet.base = range ∧ Subnet.ofCidr (front ++ subnet.text ++ back) = .ok subnet)) ∧
    ∀ text : String, (∃ core, Blank.Trims text.toList core) ∧
      ∀ core, Blank.Trims text.toList core →
        (∀ range, ofCidr text = .ok range ↔ ∃ address length, Says core address length ∧
          length ≤ 128 ∧ new address length = .ok range) ∧
        ∀ error, ofCidr text = .error error ↔ Flawed text core error := by
  refine ⟨?_, ?_⟩
  next =>
    intro address length fits
    refine ⟨⟨clearHost address length, length, fits⟩, new_of_fits fits, ?_⟩
    intro front back front_blank back_blank
    have masked : Masked ⟨clearHost address length, length, fits⟩ := masked_of_new (new_of_fits fits)
    have read := masked.ofCidr_text front_blank back_blank
    refine ⟨read, ?_⟩
    intro nonempty embeds
    have made := Subnet.new_of_fits ⟨clearHost address length, length, fits⟩ nonempty embeds
    exact ⟨_, made, rfl, (Subnet.ofCidr_of_base read).trans made⟩
  next =>
    intro text
    refine ⟨⟨_, Blank.trims_trim _⟩, ?_⟩
    intro core trims
    obtain rfl := Blank.trim_of_trims trims
    exact ⟨fun _ => ofCidr_eq_ok_iff, fun _ => ofCidr_eq_error_iff⟩

theorem mapped_prefix_is_read_exactly : ∃ range,
    120 ≤ 128 ∧ new (.ofIp4 (.ofOctets [192, 0, 2, 7])) 120 = .ok range ∧
    range.text = "::ffff:192.0.2.0/120" ∧
    ofCidr " \t::ffff:192.0.2.0/120\n" = .ok range ∧
    ofCidr "::ffff:192.0.2.0/+0129" = .error (.lengthOver128 129) := by
  obtain ⟨readBack, exactly⟩ := cidr_texts_are_read_exactly
  obtain ⟨range, made, same⟩ := readBack (.ofIp4 (.ofOctets [192, 0, 2, 7])) 120 (by decide)
  have text : range.text = "::ffff:192.0.2.0/120" := by
    have cleared := (new_of_fits (by decide)).symm.trans made
    cases cleared
    decide +kernel
  have read := (same " \t" "\n" (by simp [Blank.isBlank, Blank.ranges])
    (by simp [Blank.isBlank, Blank.ranges])).1
  rw [text] at read
  obtain ⟨-, whole⟩ := exactly "::ffff:192.0.2.0/+0129"
  have trims : Blank.Trims "::ffff:192.0.2.0/+0129".toList "::ffff:192.0.2.0/+0129".toList := by
    refine ⟨[], [], rfl, nofun, nofun, ?_, ?_⟩ <;>
      rintro c ⟨⟩ <;> rfl
  have said : Says "::ffff:192.0.2.0/+0129".toList (.ofIp4 (.ofOctets [192, 0, 2, 0])) 129 :=
    ⟨"::ffff:192.0.2.0".toList, "+0129".toList, ⟨by simp, by simp⟩, by decide +kernel,
      ⟨"0129".toList, .inr rfl, by decide, by simp [Numeral.digit?], rfl⟩, by decide⟩
  have refused := ((whole _ trims).2 _).mpr (.lengthOver128 said (by decide))
  exact ⟨range, by decide, made, text, read, refused⟩

end

end Prefix

end SniffingRelay
