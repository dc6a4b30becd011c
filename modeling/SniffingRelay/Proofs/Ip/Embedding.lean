import SniffingRelay.Dial.Dialer
import SniffingRelay.Proofs.Ip.Masking

set_option autoImplicit false

namespace SniffingRelay

namespace Digits

theorem ofNat_append (base front back value : Nat) :
    ofNat base (front + back) value =
      ofNat base front (value / base ^ back) ++ ofNat base back value := by
  induction back generalizing value with
  | zero => simp [ofNat]
  | succ back ih =>
    rw [← Nat.add_assoc, ofNat, ofNat, ih, Nat.div_div_eq_div_mul, ← Nat.pow_succ',
      List.append_assoc]

theorem ofNat_mod (base count value : Nat) :
    ofNat base count (value % base ^ count) = ofNat base count value := by
  induction count generalizing value with
  | zero => rfl
  | succ count ih =>
    rw [ofNat, ofNat, Nat.pow_succ', Nat.mod_mul_right_mod, Nat.mod_mul_right_div_self, ih]

theorem ofNat_div_take (base front back value : Nat) :
    (ofNat base (front + back) value).take front = ofNat base front (value / base ^ back) := by
  rw [ofNat_append, List.take_left' (length_ofNat _ _ _)]

-- The digits of two words, one after the other, if those of the second fill it.
theorem ofNat_append_word {base back width lower : Nat} (fills : base ^ back = 2 ^ lower)
    (front : Nat) (high : BitVec width) (low : BitVec lower) :
    ofNat base (front + back) (high ++ low).toNat =
      ofNat base front high.toNat ++ ofNat base back low.toNat := by
  have value : (high ++ low).toNat = high.toNat * base ^ back + low.toNat := by
    rw [BitVec.toNat_append, ← Nat.shiftLeft_add_eq_or_of_lt low.isLt, Nat.shiftLeft_eq, fills]
  have less : low.toNat < base ^ back := fills ▸ low.isLt
  have above : (high.toNat * base ^ back + low.toNat) / base ^ back = high.toNat := by
    rw [Nat.mul_comm, Nat.mul_add_div (by omega), Nat.div_eq_of_lt less, Nat.add_zero]
  have below : (high.toNat * base ^ back + low.toNat) % base ^ back = low.toNat := by
    rw [Nat.mul_comm, Nat.mul_add_mod, Nat.mod_eq_of_lt less]
  rw [value, ofNat_append, above, ← ofNat_mod base back, below]

end Digits

theorem Ip6.octets_append (front : BitVec 96) (client : Ip4) :
    Ip6.octets ⟨front ++ client.bits⟩ = Digits.ofNat 256 12 front.toNat ++ client.octets := by
  have fills : 256 ^ 4 = 2 ^ 32 := by norm_num
  have split := Digits.ofNat_append_word fills 12 front client.bits
  exact split

namespace Subnet

variable {subnet : Subnet} {client client' : Ip4} {i : Nat}

theorem getLsbD_synthesize : (subnet.synthesize client).bits.getLsbD i =
    if i < 32 then client.bits.getLsbD i else subnet.base.address.bits.getLsbD i := by
  rw [synthesize, BitVec.getLsbD_append]
  by_cases own : i < 32
  next => simp [own]
  next =>
    by_cases inside : i < 128
    next =>
      have among : i - 32 < 96 := by omega
      have same : 32 + (i - 32) = i := by omega
      simp [own, among, same]
    next =>
      have outside : ¬ i - 32 < 96 := by omega
      simp [own, outside, BitVec.getLsbD_of_ge _ _ (Nat.le_of_not_lt inside)]

theorem octets_synthesize (subnet : Subnet) (client : Ip4) : (subnet.synthesize client).octets =
    subnet.base.address.octets.take 12 ++ client.octets := by
  have small := subnet.base.address.bits.isLt
  have front : (subnet.base.address.bits.extractLsb' 32 96).toNat =
      subnet.base.address.bits.toNat / 256 ^ 4 := by
    rw [BitVec.extractLsb'_toNat, Nat.shiftRight_eq_div_pow]
    omega
  rw [synthesize, Ip6.octets_append, front, ← Digits.ofNat_div_take]
  rfl

theorem synthesize_injective : Function.Injective subnet.synthesize := by
  intro client client' same
  have last := congrArg (fun address => address.bits.extractLsb' 0 32) same
  simp only [synthesize, BitVec.extractLsb'_append_eq_right] at last
  exact congrArg Ip4.mk last

theorem contains_synthesize (masked : subnet.base.Masked) :
    subnet.base.contains (subnet.synthesize client) = true := by
  have room : subnet.base.length ≤ 96 := subnet.embeds
  rw [masked.contains_iff]
  intro i kept
  have above : ¬ i < 32 := by omega
  rw [getLsbD_synthesize, if_neg above]

/-- An address inside the subnet, with the octets of a client last and nothing between them and the
bits of the prefix. -/
structure Holds (subnet : Subnet) (client : Ip4) (source : Ip6) : Prop where
  inside : subnet.base.contains source = true
  octets : source.octets = subnet.base.address.octets.take 12 ++ client.octets
  between : ∀ i, 32 ≤ i → i < 128 - subnet.base.length → source.bits.getLsbD i = false

theorem holds_synthesize (masked : subnet.base.Masked) :
    subnet.Holds client (subnet.synthesize client) where
  inside := contains_synthesize masked
  octets := octets_synthesize subnet client
  between := by
    intro i above host
    rw [getLsbD_synthesize, if_neg (Nat.not_lt.mpr above), masked.getLsbD_eq_false host]

end Subnet

namespace Subnet

theorem ofCidr_eq (text : String) : ofCidr text = (Prefix.ofCidr text).bind new := rfl

theorem base_of_new {base : Prefix} {subnet : Subnet} (made : new base = .ok subnet) :
    subnet.base = base := by
  unfold new at made
  split at made
  next => cases made
  next =>
    split at made
    next => cases made
    next =>
      cases made
      rfl

theorem ofCidr_of_base {text : String} {base : Prefix} (read : Prefix.ofCidr text = .ok base) :
    ofCidr text = new base := by
  rw [ofCidr_eq, read]
  rfl

theorem base_of_ofCidr {text : String} {subnet : Subnet} (made : ofCidr text = .ok subnet) :
    Prefix.ofCidr text = .ok subnet.base := by
  cases read : Prefix.ofCidr text with
  | error error =>
    rw [ofCidr_eq, read] at made
    cases made
  | ok base =>
    rw [ofCidr_of_base read] at made
    rw [base_of_new made]

theorem new_of_fits (base : Prefix) (nonempty : 1 ≤ base.length) (embeds : base.length ≤ 96) :
    new base = .ok ⟨base, nonempty, embeds⟩ := by
  have filled : base.length ≠ 0 := by omega
  have short : ¬ longestEmbedding < base.length := Nat.not_lt.mpr embeds
  rw [new, dif_neg filled, dif_neg short]

theorem exists_of_ofCidr_iff {text : String} : (∃ subnet, ofCidr text = .ok subnet) ↔
    ∃ base, Prefix.ofCidr text = .ok base ∧ 1 ≤ base.length ∧ base.length ≤ 96 := by
  constructor
  next =>
    rintro ⟨subnet, made⟩
    exact ⟨subnet.base, base_of_ofCidr made, subnet.nonempty, subnet.embeds⟩
  next =>
    rintro ⟨base, read, nonempty, embeds⟩
    exact ⟨⟨base, nonempty, embeds⟩, (ofCidr_of_base read).trans (new_of_fits base nonempty embeds)⟩

end Subnet

-- An address is that of an IPv4 client as it stands or in its IPv6 form.
inductive Ip.IsClient : Ip -> Ip4 -> Prop where
  | plain (client : Ip4) : Ip.IsClient (.v4 client) client
  | mapped (client : Ip4) : Ip.IsClient (.v6 (.ofIp4 client)) client

theorem Ip6.toIp4?_ofIp4 (client : Ip4) : (ofIp4 client).toIp4? = some client := by
  rw [toIp4?, ofIp4, BitVec.extractLsb'_append_eq_left, BitVec.extractLsb'_append_eq_right,
    if_pos rfl]

theorem Ip6.eq_ofIp4_of_toIp4? {address : Ip6} {client : Ip4}
    (held : address.toIp4? = some client) : address = ofIp4 client := by
  unfold toIp4? at held
  split at held
  next form =>
    cases held
    have whole : address.bits.extractLsb' 32 96 ++ address.bits.extractLsb' 0 32 = address.bits :=
      BitVec.extractLsb'_append_extractLsb'
    rw [ofIp4, ← form, whole]
  next => cases held

namespace Origin

variable {subnet : Subnet} {limit : Nat}

theorem clientIp4?_eq_some_iff {ip : Ip} {client : Ip4} :
    clientIp4? ip = some client ↔ ip.IsClient client := by
  constructor
  next =>
    intro held
    cases ip with
    | v4 address =>
      cases held
      exact .plain _
    | v6 address =>
      obtain rfl := Ip6.eq_ofIp4_of_toIp4? held
      exact .mapped client
  next =>
    intro isClient
    cases isClient with
    | plain => rfl
    | mapped => exact Ip6.toIp4?_ofIp4 client

theorem isClient_unique {ip : Ip} {client client' : Ip4} (isClient : ip.IsClient client)
    (isClient' : ip.IsClient client') : client = client' := by
  rw [← clientIp4?_eq_some_iff] at isClient isClient'
  exact Option.some.inj (isClient.symm.trans isClient')

theorem clientIp4?_eq_none_iff {ip : Ip} : clientIp4? ip = none ↔
    ∃ address, ip = .v6 address ∧ ∀ client, address ≠ .ofIp4 client := by
  constructor
  next =>
    intro absent
    cases ip with
    | v4 address => cases absent
    | v6 address =>
      refine ⟨address, rfl, ?_⟩
      rintro client rfl
      rw [clientIp4?_eq_some_iff.mpr (.mapped client)] at absent
      cases absent
  next =>
    rintro ⟨address, rfl, foreign⟩
    rw [Option.eq_none_iff_forall_ne_some]
    intro client held
    exact foreign client (Ip6.eq_ofIp4_of_toIp4? held)

theorem dialerFor_within (subnet : Subnet) (limit : Nat) (peer : SocketAddress) :
    dialerFor (.within subnet) limit peer =
      match clientIp4? peer.ip with
      | none => .error (.notEmbeddable peer.ip)
      | some client => .ok ⟨some (subnet.synthesize client), limit⟩ := by
  rw [dialerFor, sourceFor]
  cases clientIp4? peer.ip <;> rfl

theorem dialerFor_ok_iff {peer : SocketAddress} {dialer : Dialer} :
    dialerFor (.within subnet) limit peer = .ok dialer ↔
      ∃ client, peer.ip.IsClient client ∧ dialer = ⟨some (subnet.synthesize client), limit⟩ := by
  simp only [dialerFor_within, ← clientIp4?_eq_some_iff]
  cases clientIp4? peer.ip with
  | none => simp
  | some client => simp [eq_comm]

theorem dialerFor_error_iff {peer : SocketAddress} {error : DialError} :
    dialerFor (.within subnet) limit peer = .error error ↔
      error = .notEmbeddable peer.ip ∧
        ∃ address, peer.ip = .v6 address ∧ ∀ client, address ≠ .ofIp4 client := by
  rw [dialerFor_within, ← clientIp4?_eq_none_iff]
  cases clientIp4? peer.ip with
  | none => simp [eq_comm]
  | some client => simp

theorem sources_eq_iff {p q : SocketAddress} {first second : Dialer}
    (made : dialerFor (.within subnet) limit p = .ok first)
    (made' : dialerFor (.within subnet) limit q = .ok second) :
    first.source = second.source ↔ ∃ client, p.ip.IsClient client ∧ q.ip.IsClient client := by
  obtain ⟨client, isClient, rfl⟩ := dialerFor_ok_iff.mp made
  obtain ⟨client', isClient', rfl⟩ := dialerFor_ok_iff.mp made'
  constructor
  next =>
    intro same
    obtain rfl := Subnet.synthesize_injective (Option.some.inj same)
    exact ⟨client, isClient, isClient'⟩
  next =>
    rintro ⟨shared, ofFirst, ofSecond⟩
    rw [isClient_unique isClient ofFirst, isClient_unique isClient' ofSecond]

theorem ofCidr?_some (text : String) : ofCidr? (some text) = (Subnet.ofCidr text).map .within := by
  rw [ofCidr?]
  cases Subnet.ofCidr text <;> rfl

theorem exists_of_ofCidr?_some {text : String} {origin : Origin}
    (made : ofCidr? (some text) = .ok origin) :
    ∃ subnet, Subnet.ofCidr text = .ok subnet ∧ origin = .within subnet := by
  rw [ofCidr?_some] at made
  cases read : Subnet.ofCidr text with
  | error error =>
    rw [read] at made
    cases made
  | ok subnet =>
    rw [read] at made
    cases made
    exact ⟨subnet, rfl, rfl⟩

/-- A text is accepted for the prefixes of 1 to 96 bits that it can say. The clients of an accepted
subnet have addresses in it that hold their own, and two dialers have one source just when their
peers are one client. Peers that are no IPv4 clients have no dialer. -/
theorem subnets_tell_clients_apart (text : String) (limit : Nat) :
    ofCidr? (some text) = (Subnet.ofCidr text).map .within ∧
    ((∃ origin, ofCidr? (some text) = .ok origin) ↔
      ∃ range, Prefix.ofCidr text = .ok range ∧ 1 ≤ range.length ∧ range.length ≤ 96) ∧
    (∀ range, Prefix.ofCidr text = .ok range → range.length = 0 →
      ofCidr? (some text) = .error .everyAddress) ∧
    (∀ range, Prefix.ofCidr text = .ok range → 97 ≤ range.length →
      range.length ≤ 128 ∧ ofCidr? (some text) = .error (.tooLongToEmbed range.length)) ∧
    (∀ error, Prefix.ofCidr text = .error error → ofCidr? (some text) = .error error) ∧
    ∀ origin, ofCidr? (some text) = .ok origin →
      ∃ subnet, origin = .within subnet ∧ Prefix.ofCidr text = .ok subnet.base ∧
        (∀ client, subnet.Holds client (subnet.synthesize client)) ∧
        (∀ peer dialer, origin.dialerFor limit peer = .ok dialer ↔
          ∃ client, peer.ip.IsClient client ∧ dialer = ⟨some (subnet.synthesize client), limit⟩) ∧
        (∀ p q first second, origin.dialerFor limit p = .ok first →
          origin.dialerFor limit q = .ok second →
          (first.source = second.source ↔ ∃ client, p.ip.IsClient client ∧ q.ip.IsClient client)) ∧
        ∀ peer error, origin.dialerFor limit peer = .error error ↔
          error = .notEmbeddable peer.ip ∧
            ∃ address, peer.ip = .v6 address ∧ ∀ client, address ≠ .ofIp4 client := by
  have mapped := ofCidr?_some text
  refine ⟨mapped, ?accepted, ?everything, ?long, ?unread, ?within⟩
  case accepted =>
    rw [← Subnet.exists_of_ofCidr_iff]
    constructor
    next =>
      rintro ⟨origin, made⟩
      obtain ⟨subnet, accepted, -⟩ := exists_of_ofCidr?_some made
      exact ⟨subnet, accepted⟩
    next =>
      rintro ⟨subnet, accepted⟩
      refine ⟨.within subnet, ?_⟩
      rw [mapped, accepted]
      rfl
  case everything =>
    intro range read empty
    rw [mapped, Subnet.ofCidr_of_base read, Subnet.new, dif_pos empty]
    rfl
  case long =>
    intro range read long
    have filled : range.length ≠ 0 := by omega
    have beyond : longestEmbedding < range.length := long
    refine ⟨range.length_le, ?_⟩
    rw [mapped, Subnet.ofCidr_of_base read, Subnet.new, dif_neg filled, dif_pos beyond]
    rfl
  case unread =>
    intro error read
    rw [mapped, Subnet.ofCidr_eq, read]
    rfl
  case within =>
    intro origin made
    obtain ⟨subnet, accepted, rfl⟩ := exists_of_ofCidr?_some made
    have read := Subnet.base_of_ofCidr accepted
    have masked := Prefix.masked_of_ofCidr read
    exact ⟨subnet, rfl, read, fun client => Subnet.holds_synthesize masked,
      fun peer dialer => dialerFor_ok_iff, fun p q first second => sources_eq_iff,
      fun peer error => dialerFor_error_iff⟩

-- A client over IPv4 and over IPv6, another client, and one that has no IPv4 address.
theorem documentation_subnet_tells_clients_apart :
    ∃ origin first second third,
      ofCidr? (some "2001:db8:aa::1/47") = .ok origin ∧
      origin.dialerFor 3000 (.v4 (.ofOctets [192, 0, 2, 7]) 50000) = .ok first ∧
      origin.dialerFor 3000 (.v6 (.ofIp4 (.ofOctets [192, 0, 2, 7])) 443 0) = .ok second ∧
      origin.dialerFor 3000 (.v4 (.ofOctets [192, 0, 2, 8]) 50000) = .ok third ∧
      first.source = second.source ∧ first.source ≠ third.source ∧
      origin.dialerFor 3000 (.v6 .loopback 50000 0) = .error (.notEmbeddable (.v6 .loopback)) := by
  have accepted : ∃ origin, ofCidr? (some "2001:db8:aa::1/47") = .ok origin := ⟨_, rfl⟩
  obtain ⟨origin, made⟩ := accepted
  obtain ⟨-, -, -, -, -, within⟩ := subnets_tell_clients_apart "2001:db8:aa::1/47" 3000
  obtain ⟨subnet, -, -, -, dialers, sources, refusals⟩ := within origin made
  have plain := (dialers (.v4 (.ofOctets [192, 0, 2, 7]) 50000) _).mpr ⟨_, .plain _, rfl⟩
  have mapped := (dialers (.v6 (.ofIp4 (.ofOctets [192, 0, 2, 7])) 443 0) _).mpr ⟨_, .mapped _, rfl⟩
  have other := (dialers (.v4 (.ofOctets [192, 0, 2, 8]) 50000) _).mpr ⟨_, .plain _, rfl⟩
  refine ⟨origin, _, _, _, made, plain, mapped, other, ?same, ?apart, ?refused⟩
  case same => exact (sources _ _ _ _ plain mapped).mpr ⟨_, .plain _, .mapped _⟩
  case apart =>
    rw [ne_eq, sources _ _ _ _ plain other]
    rintro ⟨client, ofFirst, ofThird⟩
    cases ofFirst
    cases ofThird
  case refused => exact (refusals _ _).mpr ⟨rfl, clientIp4?_eq_none_iff.mp rfl⟩

end Origin

end SniffingRelay
