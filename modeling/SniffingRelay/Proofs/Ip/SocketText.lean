import SniffingRelay.Ip.SocketAddress
import SniffingRelay.Proofs.Ip.AddressText
import SniffingRelay.Proofs.Text.Fronts

set_option autoImplicit false

namespace SniffingRelay

open Numeral TextReader

namespace Ip4

variable {rest : List Char}

theorem leaves_read : Leaves read := by
  have number : Leaves octet := leaves_number
  have last (a b c : Nat) : Leaves fun text =>
      (octet text).bind fun d => some (ofOctets [a, b, c, d.1], d.2) :=
    number.bind fun d => leaves_pure (ofOctets [a, b, c, d])
  exact number.bind fun a => (number.bind fun b => (number.bind fun c =>
    (last a b c).after_char '.').after_char '.').after_char '.'

theorem passes_read (stops : Stops 10 rest) (other : rest.head? ≠ some '.') : Passes rest read := by
  have number : Passes rest octet := passes_number stops
  have last (a b c : Nat) : Passes rest fun text =>
      (octet text).bind fun d => some (ofOctets [a, b, c, d.1], d.2) :=
    number.bind fun d => passes_pure rest (ofOctets [a, b, c, d])
  exact number.bind fun a => (number.bind fun b => (number.bind fun c =>
    (last a b c).after_char other).after_char other).after_char other

theorem ofText?_text (address : Ip4) : ofText? address.text = some address := by
  have ends : Stops 10 [] := nofun
  have read := address.read_text ends
  rw [List.append_nil] at read
  exact whole_eq_some_iff.mpr read

end Ip4

namespace Ip6

-- Where an address text ends, since nothing that could be in one follows.
structure Halts (rest : List Char) : Prop where
  stops : Stops 16 rest
  undotted : rest.head? ≠ some '.'
  uncoloned : rest.head? ≠ some ':'

variable {rest : List Char}

theorem Halts.stops_decimal (halts : Halts rest) : Stops 10 rest :=
  fun c first => digit?_ten_eq_none (halts.stops c first)

theorem halts_of_head {c : Char} (other : digit? 16 c = none) (plain : c ≠ '.' ∧ c ≠ ':')
    (rest : List Char) : Halts (c :: rest) where
  stops := stops_cons other rest
  undotted same := plain.1 (Option.some.inj same)
  uncoloned same := plain.2 (Option.some.inj same)

-- Where the first group is looked for.
def start (joined : Bool) (text : List Char) : Option (List Char) :=
  if joined then char ':' text else some text

-- What follows the two colons that stand for zeros.
def back (front : List Nat) : TextReader Ip6 := fun text =>
  let tail := readGroups (7 - front.length) false text
  let zeros := List.replicate (8 - front.length - tail.groups.length) 0
  some (ofGroups (front ++ zeros ++ tail.groups), tail.rest)

section

variable {A : Type} {reader : TextReader A}

theorem leaves_start (leaves : Leaves reader) (joined : Bool) :
    Leaves fun text => (start joined text).bind reader := by
  cases joined with
  | false => exact leaves
  | true => exact leaves.after_char ':'

theorem passes_start (halts : Halts rest) (passes : Passes rest reader) (joined : Bool) :
    Passes rest fun text => (start joined text).bind reader := by
  cases joined with
  | false => exact passes
  | true => exact passes.after_char halts.uncoloned

end

-- By induction on the room, which a group makes smaller and a dotted address ends.
theorem suffix_of_readGroups (room : Nat) (joined : Bool) (text : List Char) :
    (readGroups room joined text).rest <:+ text := by
  induction room generalizing joined text with
  | zero => exact List.suffix_refl _
  | succ room ih =>
    rw [readGroups]
    dsimp only
    split
    next embedded after found =>
      obtain ⟨-, found⟩ := Option.ite_none_right_eq_some.mp found
      exact leaves_start Ip4.leaves_read joined _ _ _ found
    next =>
      split
      next first after found =>
        exact (ih true after).trans (leaves_start leaves_number joined _ _ _ found)
      next => exact List.suffix_refl _

theorem readGroups_append (halts : Halts rest) (room : Nat) (joined : Bool) (text : List Char) :
    readGroups room joined (text ++ rest) =
      ⟨(readGroups room joined text).groups, (readGroups room joined text).dotted,
        (readGroups room joined text).rest ++ rest⟩ := by
  induction room generalizing joined text with
  | zero => rfl
  | succ room ih =>
    have dotted : Passes rest Ip4.read := Ip4.passes_read halts.stops_decimal halts.undotted
    have plain : Passes rest group := passes_number halts.stops
    have embedded := passes_start halts dotted joined text
    have single := passes_start halts plain joined text
    simp only [start] at embedded single
    rw [readGroups, readGroups]
    dsimp only
    rw [embedded, single]
    generalize (if joined then char ':' text else some text).bind Ip4.read = address
    generalize (if joined then char ':' text else some text).bind group = own
    by_cases space : 0 < room
    next => cases address <;> cases own <;> simp [space, ih]
    next => cases own <;> simp [space, ih]

theorem leaves_back (front : List Nat) : Leaves (back front) := by
  rintro text _ _ ⟨⟩
  exact suffix_of_readGroups _ false text

theorem passes_back (halts : Halts rest) (front : List Nat) : Passes rest (back front) := by
  intro text
  rw [back, readGroups_append halts]
  rfl

-- The two colons are looked for one by one.
theorem read_eq (text : List Char) : read text =
    let head := readGroups 8 false text
    if head.groups.length = 8 then some (ofGroups head.groups, head.rest)
    else if head.dotted then none
    else (char ':' head.rest).bind fun after => (char ':' after).bind (back head.groups) := by
  rw [read]
  dsimp only
  generalize readGroups 8 false text = head
  obtain ⟨groups, dotted, rest⟩ := head
  obtain - | ⟨c, - | ⟨d, rest⟩⟩ := rest
  next => rfl
  next => by_cases first : c = ':' <;> simp [char, first]
  next => by_cases first : c = ':' <;> by_cases second : d = ':' <;> simp [char, back, first, second]

theorem leaves_read : Leaves read := by
  intro text address after found
  rw [read_eq] at found
  have front := suffix_of_readGroups 8 false text
  generalize readGroups 8 false text = head at found front
  dsimp only at found
  split at found
  next =>
    obtain ⟨-, rfl⟩ := Prod.mk.inj (Option.some.inj found)
    exact front
  next =>
    obtain ⟨-, found⟩ := Option.ite_none_left_eq_some.mp found
    have compressed := ((leaves_back head.groups).after_char ':').after_char ':'
    exact (compressed _ _ _ found).trans front

theorem passes_read (halts : Halts rest) : Passes rest read := by
  intro text
  rw [read_eq, read_eq, readGroups_append halts]
  generalize readGroups 8 false text = head
  dsimp only
  split
  next => rfl
  next =>
    split
    next => rfl
    next =>
      have compressed :=
        ((passes_back halts head.groups).after_char halts.uncoloned).after_char halts.uncoloned
      exact compressed head.rest

end Ip6

namespace SocketAddress

/-- A text of a socket address: an address text and a port of any number of digits. IPv6 stands in
brackets, with its scope after a percent sign if it has one. -/
inductive Written : List Char -> SocketAddress -> Prop
  | v4 {host port : List Char} {address : Ip4} {number : UInt16}
      (own : Ip4.ofText? (String.ofList host) = some address)
      (ported : Spells 10 port number.toNat) :
      Written (host ++ ':' :: port) (.v4 address number)
  | v6 {host port : List Char} {address : Ip6} {number : UInt16}
      (own : Ip6.ofText? (String.ofList host) = some address)
      (ported : Spells 10 port number.toNat) :
      Written ('[' :: (host ++ ']' :: ':' :: port)) (.v6 address number 0)
  | v6_scope {host zone port : List Char} {address : Ip6} {number : UInt16} {scope : UInt32}
      (own : Ip6.ofText? (String.ofList host) = some address)
      (zoned : Spells 10 zone scope.toNat) (ported : Spells 10 port number.toNat) :
      Written ('[' :: (host ++ '%' :: (zone ++ ']' :: ':' :: port))) (.v6 address number scope)

section

variable {text rest : List Char} {address : SocketAddress} {number : UInt16} {scope : UInt32}

theorem readPort_eq_some_iff : readPort text = some (number, []) ↔
    ∃ port, text = ':' :: port ∧ Spells 10 port number.toNat := by
  constructor
  next =>
    intro read
    obtain ⟨after, colon, read⟩ := Option.bind_eq_some_iff.mp read
    obtain ⟨⟨value, left⟩, digits, same⟩ := Option.bind_eq_some_iff.mp read
    obtain ⟨rfl, rfl⟩ := Prod.mk.inj (Option.some.inj same)
    obtain ⟨port, rfl, spells, within, -⟩ := number_eq_some_iff.mp digits
    refine ⟨port, by rw [char_eq_some_iff.mp colon, List.append_nil], ?_⟩
    rwa [UInt16.toNat_ofNat_of_lt' (Nat.lt_succ_of_le within)]
  next =>
    rintro ⟨port, rfl, spells⟩
    have read : TextReader.number 10 none true 0xffff port = some (number.toNat, []) :=
      number_eq_some_iff.mpr
        ⟨port, (List.append_nil port).symm, spells, Nat.le_of_lt_succ number.toNat_lt, nofun⟩
    simp [readPort, char, read]

theorem readScope_eq_iff : readScope text = (scope, ']' :: rest) ↔
    (text = ']' :: rest ∧ scope = 0) ∨
      ∃ zone, text = '%' :: (zone ++ ']' :: rest) ∧ Spells 10 zone scope.toNat := by
  constructor
  next =>
    intro read
    unfold readScope at read
    split at read
    next value left found =>
      obtain ⟨rfl, rfl⟩ := Prod.mk.inj read
      obtain ⟨after, percent, digits⟩ := Option.bind_eq_some_iff.mp found
      obtain ⟨zone, rfl, spells, within, -⟩ := number_eq_some_iff.mp digits
      refine .inr ⟨zone, char_eq_some_iff.mp percent, ?_⟩
      rwa [UInt32.toNat_ofNat_of_lt' (Nat.lt_succ_of_le within)]
    next =>
      obtain ⟨rfl, rfl⟩ := Prod.mk.inj read
      exact .inl ⟨rfl, rfl⟩
  next =>
    rintro (⟨rfl, rfl⟩ | ⟨zone, rfl, spells⟩)
    next => rfl
    next =>
      have stops : Stops 10 (']' :: rest) := stops_cons rfl rest
      have read : TextReader.number 10 none true 0xffffffff (zone ++ ']' :: rest) =
          some (scope.toNat, ']' :: rest) :=
        number_eq_some_iff.mpr ⟨zone, rfl, spells, Nat.le_of_lt_succ scope.toNat_lt, stops⟩
      simp [readScope, char, read]

theorem whole_host {A : Type} {reader : TextReader A} {host : List Char} {value : A} :
    reader host = some (value, []) ↔ whole reader (String.ofList host) = some value := by
  rw [whole_eq_some_iff, String.toList_ofList]

theorem readIp4_eq_some_iff : readIp4 text = some (address, []) ↔
    ∃ host port own, ∃ number : UInt16, text = host ++ ':' :: port ∧
      Ip4.ofText? (String.ofList host) = some own ∧ Spells 10 port number.toNat ∧
        address = .v4 own number := by
  have front {own : Ip4} {port : List Char} : Ip4.read text = some (own, ':' :: port) ↔
      ∃ host, text = host ++ ':' :: port ∧ Ip4.read host = some (own, []) :=
    TextReader.eq_some_iff Ip4.leaves_read (Ip4.passes_read (stops_cons rfl port) (by simp))
  constructor
  next =>
    intro read
    obtain ⟨⟨own, after⟩, host_read, read⟩ := Option.bind_eq_some_iff.mp read
    obtain ⟨⟨number, left⟩, port_read, same⟩ := Option.bind_eq_some_iff.mp read
    obtain ⟨rfl, rfl⟩ := Prod.mk.inj (Option.some.inj same)
    obtain ⟨port, rfl, ported⟩ := readPort_eq_some_iff.mp port_read
    obtain ⟨host, rfl, own_text⟩ := front.mp host_read
    exact ⟨host, port, own, number, rfl, whole_host.mp own_text, ported, rfl⟩
  next =>
    rintro ⟨host, port, own, number, same, host_read, ported, rfl⟩
    simp [readIp4, front.mpr ⟨host, same, whole_host.mpr host_read⟩,
      readPort_eq_some_iff.mpr ⟨port, rfl, ported⟩]

theorem front_ip6 {own : Ip6} {c : Char} (other : digit? 16 c = none) (plain : c ≠ '.' ∧ c ≠ ':') :
    Ip6.read text = some (own, c :: rest) ↔
      ∃ host, text = host ++ c :: rest ∧ Ip6.ofText? (String.ofList host) = some own := by
  rw [TextReader.eq_some_iff Ip6.leaves_read (Ip6.passes_read (Ip6.halts_of_head other plain rest))]
  simp only [whole_host]
  rfl

theorem readIp6_eq_some_iff : readIp6 text = some (address, []) ↔
    ∃ inside own after port, ∃ number : UInt16, ∃ scope, text = '[' :: inside ∧
      Ip6.read inside = some (own, after) ∧ readScope after = (scope, ']' :: ':' :: port) ∧
        Spells 10 port number.toNat ∧ address = .v6 own number scope := by
  constructor
  next =>
    intro read
    obtain ⟨inside, bracket, read⟩ := Option.bind_eq_some_iff.mp read
    obtain ⟨⟨own, after⟩, host_read, read⟩ := Option.bind_eq_some_iff.mp read
    obtain ⟨beyond, closing, read⟩ := Option.bind_eq_some_iff.mp read
    obtain ⟨⟨number, left⟩, port_read, same⟩ := Option.bind_eq_some_iff.mp read
    obtain ⟨rfl, rfl⟩ := Prod.mk.inj (Option.some.inj same)
    obtain ⟨port, rfl, ported⟩ := readPort_eq_some_iff.mp port_read
    have zoned : readScope after = ((readScope after).1, ']' :: ':' :: port) :=
      Prod.ext rfl (char_eq_some_iff.mp closing)
    exact ⟨inside, own, after, port, number, _, char_eq_some_iff.mp bracket, host_read, zoned,
      ported, rfl⟩
  next =>
    rintro ⟨inside, own, after, port, number, scope, rfl, host_read, zoned, ported, rfl⟩
    simp [readIp6, char, host_read, zoned, readPort_eq_some_iff.mpr ⟨port, rfl, ported⟩]

theorem readIp4_bracket (text : List Char) : readIp4 ('[' :: text) = none := by
  have stops : Stops 10 ('[' :: text) := stops_cons rfl text
  simp [readIp4, Ip4.read_of_stops stops]

-- What is read the second way begins with a bracket, and nothing of that is read the first way.
theorem read_iff_either : read text = some (address, []) ↔
    readIp4 text = some (address, []) ∨ readIp6 text = some (address, []) := by
  have others (other : readIp6 text = some (address, [])) : readIp4 text = none := by
    obtain ⟨inside, -, -, -, -, -, rfl, -⟩ := readIp6_eq_some_iff.mp other
    exact readIp4_bracket inside
  cases first : readIp4 text with
  | none => simp [read, first]
  | some found =>
    have only : readIp6 text ≠ some (address, []) := by
      intro other
      cases first.symm.trans (others other)
    simp [read, first, only]

theorem read_iff_written : read text = some (address, []) ↔ Written text address := by
  rw [read_iff_either, readIp4_eq_some_iff, readIp6_eq_some_iff]
  constructor
  next =>
    rintro (⟨host, port, own, number, rfl, host_read, ported, rfl⟩ |
      ⟨inside, own, after, port, number, scope, rfl, host_read, zoned, ported, rfl⟩)
    next => exact .v4 host_read ported
    next =>
      obtain ⟨rfl, rfl⟩ | ⟨zone, rfl, spells⟩ := readScope_eq_iff.mp zoned
      next =>
        obtain ⟨host, rfl, own_text⟩ := (front_ip6 (by decide) (by decide)).mp host_read
        exact .v6 own_text ported
      next =>
        obtain ⟨host, rfl, own_text⟩ := (front_ip6 (by decide) (by decide)).mp host_read
        exact .v6_scope own_text spells ported
  next =>
    intro written
    cases written with
    | v4 own ported => exact .inl ⟨_, _, _, _, rfl, own, ported, rfl⟩
    | v6 own ported =>
      refine .inr ⟨_, _, _, _, _, _, rfl, (front_ip6 ?_ ?_).mpr ⟨_, rfl, own⟩,
        readScope_eq_iff.mpr (.inl ⟨rfl, rfl⟩), ported, rfl⟩
      all_goals decide
    | v6_scope own zoned ported =>
      refine .inr ⟨_, _, _, _, _, _, rfl, (front_ip6 ?_ ?_).mpr ⟨_, rfl, own⟩,
        readScope_eq_iff.mpr (.inr ⟨_, rfl, zoned⟩), ported, rfl⟩
      all_goals decide

theorem ofText?_iff_written {text : String} :
    ofText? text = some address ↔ Written text.toList address :=
  whole_eq_some_iff.trans read_iff_written

theorem ofText?_eq_none_iff {text : String} :
    ofText? text = none ↔ ¬∃ address, Written text.toList address := by
  simp only [← ofText?_iff_written, Option.eq_none_iff_forall_ne_some, not_exists, ne_eq]

theorem not_written_colon (text : List Char) : ¬Written (':' :: text) address := by
  have stops : Stops 10 (':' :: text) := stops_cons rfl text
  rw [← read_iff_written, read_iff_either]
  simp [readIp4, readIp6, Ip4.read_of_stops stops, char]

theorem not_written_nil : ¬Written [] address := by
  have ends : Stops 10 [] := nofun
  rw [← read_iff_written, read_iff_either]
  simp [readIp4, readIp6, Ip4.read_of_stops ends, char]

theorem text_written (address : SocketAddress) : Written address.text.toList address := by
  have spelled (value : Nat) : Spells 10 (decimal value).toList value := by
    rw [decimal, String.toList_ofList]
    exact spells_toDigits (by decide) (by decide) value
  cases address with
  | v4 own port =>
    have written : Written (own.text.toList ++ ':' :: (decimal port.toNat).toList) (.v4 own port) :=
      .v4 (by rw [String.ofList_toList, Ip4.ofText?_text]) (spelled _)
    simpa [text] using written
  | v6 own port scope =>
    have host : Ip6.ofText? (String.ofList own.text.toList) = some own := by
      rw [String.ofList_toList, Ip6.ofText?_text]
    by_cases plain : scope = 0
    next =>
      subst plain
      simpa [text] using Written.v6 host (spelled port.toNat)
    next => simpa [text, plain] using Written.v6_scope host (spelled scope.toNat) (spelled port.toNat)

end

end SocketAddress

end SniffingRelay
