import SniffingRelay.Ip.Printer
import SniffingRelay.Proofs.Ip.Embedding
import SniffingRelay.Proofs.Text.Numbers

set_option autoImplicit false

namespace SniffingRelay

open Numeral

namespace Ip4

section

variable {text rest : List Char} {value : Nat}

theorem octet_toDigits (fits : value < 256) (stops : Stops 10 rest) :
    octet (Nat.toDigits 10 value ++ rest) = some (value, rest) := by
  refine TextReader.number_toDigits (by decide) (by decide) stops ?_ (Nat.le_of_lt_succ fits)
  rintro most ⟨⟩
  exact ⟨by decide, Nat.lt_of_lt_of_le fits (by decide)⟩

theorem stops_dot (rest : List Char) : Stops 10 ('.' :: rest) := by
  rintro c ⟨⟩
  rfl

theorem toList_text (address : Ip4) : ∃ a b c d,
    address.octets = [a, b, c, d] ∧ a < 256 ∧ b < 256 ∧ c < 256 ∧ d < 256 ∧
      address.text.toList = Nat.toDigits 10 a ++ '.' :: (Nat.toDigits 10 b ++ '.' ::
        (Nat.toDigits 10 c ++ '.' :: Nat.toDigits 10 d)) := by
  obtain ⟨a, b, c, d, octets⟩ : ∃ a b c d, address.octets = [a, b, c, d] := ⟨_, _, _, _, rfl⟩
  have fits : ∀ octet ∈ [a, b, c, d], octet < 256 := by
    intro octet found
    rw [← octets] at found
    exact Digits.lt_of_mem_ofNat (by decide) found
  refine ⟨a, b, c, d, octets, ?_⟩
  simp only [List.forall_mem_cons] at fits
  refine ⟨fits.1, fits.2.1, fits.2.2.1, fits.2.2.2.1, ?_⟩
  simp [Ip4.text, octets, Numeral.decimal]

theorem read_text (address : Ip4) (stops : Stops 10 rest) :
    read (address.text.toList ++ rest) = some (address, rest) := by
  obtain ⟨a, b, c, d, octets, a_fits, b_fits, c_fits, d_fits, text⟩ := address.toList_text
  have same : ofOctets [a, b, c, d] = address := octets ▸ ofOctets_octets address
  rw [text]
  simp [read, TextReader.char, octet_toDigits, stops_dot, stops, a_fits, b_fits, c_fits, d_fits, same]

theorem digit_or_dot_of_mem_text {address : Ip4} {c : Char} (found : c ∈ address.text.toList) :
    (digit? 10 c).isSome = true ∨ c = '.' := by
  obtain ⟨a, b, c, d, -, -, -, -, -, text⟩ := address.toList_text
  have digit (value : Nat) : ∀ c ∈ Nat.toDigits 10 value, (digit? 10 c).isSome = true :=
    (spells_toDigits (by decide) (by decide) value).digits
  rw [text] at found
  simp only [List.mem_append, List.mem_cons] at found
  rcases found with found | found | found | found | found | found | found
  all_goals first
    | exact .inr found
    | exact .inl (digit _ _ found)

theorem read_of_undotted (undotted : '.' ∉ text) : read text = none := by
  cases first : octet text with
  | none => simp [read, first]
  | some found =>
    obtain ⟨value, rest⟩ := found
    have after : rest <:+ text := TextReader.suffix_of_number first
    cases rest with
    | nil => simp [read, first, TextReader.char]
    | cons c rest =>
      have other : c ≠ '.' := fun same => undotted (same ▸ after.subset (List.mem_cons_self ..))
      simp [read, first, TextReader.char, other]

theorem read_of_stops (stops : Stops 10 text) : read text = none := by
  simp [read, octet, TextReader.number, digitRun_of_stops stops]

end

end Ip4

namespace Ip6

def colons (groups : List Nat) : List Char := groups.flatMap fun group => ':' :: Nat.toDigits 16 group

def joined : List Nat -> List Char
  | [] => []
  | group :: groups => Nat.toDigits 16 group ++ colons groups

-- Where no group goes on and none follows.
structure Closes (rest : List Char) : Prop where
  stops : Stops 16 rest
  undotted : '.' ∉ rest
  closed : ∀ more, rest = ':' :: more → group more = none

section

variable {rest : List Char} {groups : List Nat} {value room : Nat}

theorem toList_groupsText (groups : List Nat) : (groupsText groups).toList = joined groups := by
  rw [groupsText, String.toList_intercalate]
  induction groups with
  | nil => rfl
  | cons group groups ih =>
    cases groups with
    | nil => simp [joined, colons, hexadecimal]
    | cons next later =>
      rw [List.map_map] at ih ⊢
      simp only [List.map_cons, List.intercalate_cons_cons] at ih ⊢
      rw [ih]
      simp [joined, colons, hexadecimal]

theorem group_toDigits (fits : value < 65536) (stops : Stops 16 rest) :
    group (Nat.toDigits 16 value ++ rest) = some (value, rest) := by
  refine TextReader.number_toDigits (by decide) (by decide) stops ?_ (Nat.le_of_lt_succ fits)
  rintro most ⟨⟩
  exact ⟨by decide, fits⟩

theorem group_of_stops (stops : Stops 16 rest) : group rest = none := by
  simp [group, TextReader.number, digitRun_of_stops stops]

theorem undotted_toDigits (value : Nat) : '.' ∉ Nat.toDigits 16 value := by
  intro found
  have dot := (spells_toDigits (by decide) (by decide) value).digits '.' found
  revert dot
  decide

theorem undotted_colons (groups : List Nat) : '.' ∉ colons groups := by
  simp [colons, undotted_toDigits]

theorem undotted_joined (groups : List Nat) : '.' ∉ joined groups := by
  cases groups <;> simp [joined, undotted_toDigits, undotted_colons]

theorem stops_colon (rest : List Char) : Stops 16 (':' :: rest) := by
  rintro c ⟨⟩
  rfl

theorem Closes.stops_colons (closes : Closes rest) (groups : List Nat) :
    Stops 16 (colons groups ++ rest) := by
  cases groups with
  | nil => exact closes.stops
  | cons => exact stops_colon _

theorem undotted_start {text front : List Char} {joined : Bool} (undotted : '.' ∉ text)
    (started : (if joined then TextReader.char ':' text else some text) = some front) :
    '.' ∉ front := by
  cases joined with
  | false =>
    obtain rfl := Option.some.inj started
    exact undotted
  | true =>
    cases text with
    | nil => cases started
    | cons c text =>
      have after : front = text := by
        simp only [TextReader.char, if_true] at started
        split at started
        next => exact (Option.some.inj started).symm
        next => cases started
      exact fun found => undotted (after ▸ List.mem_cons_of_mem _ found)

theorem readGroups_of_group {text after : List Char} {joined : Bool} {first : Nat}
    (plain : (if joined then TextReader.char ':' text else some text).bind Ip4.read = none)
    (own : (if joined then TextReader.char ':' text else some text).bind group = some (first, after))
    (room : Nat) : readGroups (room + 1) joined text =
      ⟨first :: (readGroups room true after).groups, (readGroups room true after).dotted,
        (readGroups room true after).rest⟩ := by
  simp only [readGroups, plain, ite_self, own]

theorem readGroups_of_end {text : List Char} {joined : Bool}
    (plain : (if joined then TextReader.char ':' text else some text).bind Ip4.read = none)
    (ends : (if joined then TextReader.char ':' text else some text).bind group = none)
    (room : Nat) : readGroups (room + 1) joined text = ⟨[], false, text⟩ := by
  simp only [readGroups, plain, ite_self, ends]

-- Without a dot there is no IPv4 address to take for groups.
theorem plain_of_undotted {text : List Char} (undotted : '.' ∉ text) (joined : Bool) :
    (if joined then TextReader.char ':' text else some text).bind Ip4.read = none := by
  rw [Option.bind_eq_none_iff]
  intro front started
  exact Ip4.read_of_undotted (undotted_start undotted started)

theorem readGroups_colons (closes : Closes rest) (fits : ∀ group ∈ groups, group < 65536)
    (short : groups.length ≤ room) :
    readGroups room true (colons groups ++ rest) = ⟨groups, false, rest⟩ := by
  induction groups generalizing room with
  | nil =>
    cases room with
    | zero => rfl
    | succ room =>
      have ends : (TextReader.char ':' rest).bind group = none := by
        cases rest with
        | nil => rfl
        | cons c more =>
          by_cases colon : c = ':'
          next =>
            subst colon
            exact closes.closed more rfl
          next => simp [TextReader.char, colon]
      exact readGroups_of_end (plain_of_undotted closes.undotted true) ends room
  | cons first groups ih =>
    cases room with
    | zero => cases short
    | succ room =>
      obtain ⟨first_fits, fits⟩ := List.forall_mem_cons.mp fits
      have undotted : '.' ∉ colons (first :: groups) ++ rest := by
        simp [undotted_colons, closes.undotted]
      have own : (TextReader.char ':' (colons (first :: groups) ++ rest)).bind group =
          some (first, colons groups ++ rest) := by
        have read := group_toDigits first_fits (closes.stops_colons groups)
        simpa [colons, TextReader.char] using read
      rw [readGroups_of_group (plain_of_undotted undotted true) own,
        ih fits (Nat.le_of_succ_le_succ short)]

theorem readGroups_joined (closes : Closes rest) (fits : ∀ group ∈ groups, group < 65536)
    (short : groups.length ≤ room) :
    readGroups room false (joined groups ++ rest) = ⟨groups, false, rest⟩ := by
  cases room with
  | zero =>
    obtain rfl := List.length_eq_zero_iff.mp (Nat.le_zero.mp short)
    rfl
  | succ room =>
    cases groups with
    | nil =>
      exact readGroups_of_end (plain_of_undotted closes.undotted false)
        (group_of_stops closes.stops) room
    | cons first groups =>
      obtain ⟨first_fits, fits⟩ := List.forall_mem_cons.mp fits
      have undotted : '.' ∉ joined (first :: groups) ++ rest := by
        simp [undotted_joined, closes.undotted]
      have own : group (joined (first :: groups) ++ rest) = some (first, colons groups ++ rest) := by
        rw [joined, List.append_assoc]
        exact group_toDigits first_fits (closes.stops_colons groups)
      rw [readGroups_of_group (plain_of_undotted undotted false) own,
        readGroups_colons closes fits (Nat.le_of_succ_le_succ short)]

-- Where no address goes on.
structure Ends (rest : List Char) : Prop where
  stops : Stops 16 rest
  undotted : '.' ∉ rest
  uncoloned : rest.head? ≠ some ':'

theorem Ends.closes (ends : Ends rest) : Closes rest where
  stops := ends.stops
  undotted := ends.undotted
  closed _ same := absurd (same ▸ rfl) ends.uncoloned

theorem Ends.stops_decimal (ends : Ends rest) : Stops 10 rest :=
  fun c first => digit?_ten_eq_none (ends.stops c first)

theorem closes_colons (undotted : '.' ∉ rest) : Closes (':' :: ':' :: rest) where
  stops := stops_colon _
  undotted := by simpa using undotted
  closed _ same := (List.cons.inj same).2 ▸ group_of_stops (stops_colon rest)

theorem read_joined (ends : Ends rest) (fits : ∀ group ∈ groups, group < 65536)
    (eight : groups.length = 8) : read (joined groups ++ rest) = some (ofGroups groups, rest) := by
  simp [read, readGroups_joined ends.closes fits (Nat.le_of_eq eight), eight]

theorem read_compressed {front back : List Nat} (ends : Ends rest)
    (front_fits : ∀ group ∈ front, group < 65536) (back_fits : ∀ group ∈ back, group < 65536)
    (short : front.length + back.length < 8) :
    read (joined front ++ ':' :: ':' :: (joined back ++ rest)) =
      some (ofGroups (front ++ List.replicate (8 - front.length - back.length) 0 ++ back), rest) := by
  have undotted : '.' ∉ joined back ++ rest := by simp [undotted_joined, ends.undotted]
  have head : readGroups 8 false (joined front ++ ':' :: ':' :: (joined back ++ rest)) = _ :=
    readGroups_joined (closes_colons undotted) front_fits (by omega)
  have tail : readGroups (7 - front.length) false (joined back ++ rest) = _ :=
    readGroups_joined ends.closes back_fits (by omega)
  have more : front.length ≠ 8 := by omega
  simp [read, head, tail, more]

theorem longestZeros_length (groups : List Nat) : (longestZeros groups).length = 0 ∨
    (longestZeros groups).length = zerosFrom groups (longestZeros groups).start := by
  have kept (starts : List Nat) (best : ZeroRun)
      (run : best.length = 0 ∨ best.length = zerosFrom groups best.start) :
      let longest := starts.foldl (fun best start =>
        if best.length < zerosFrom groups start then ⟨start, zerosFrom groups start⟩ else best) best
      longest.length = 0 ∨ longest.length = zerosFrom groups longest.start := by
    induction starts generalizing best with
    | nil => exact run
    | cons start starts ih =>
      apply ih
      dsimp only
      split
      next => exact .inr rfl
      next => exact run
  exact kept (List.range groups.length) ⟨0, 0⟩ (.inl rfl)

theorem split_zeros (groups : List Nat) (start : Nat) :
    groups = groups.take start ++ List.replicate (zerosFrom groups start) 0 ++
      groups.drop (start + zerosFrom groups start) := by
  have zeros : (groups.drop start).takeWhile (· = 0) =
      List.replicate (zerosFrom groups start) 0 := by
    apply List.eq_replicate_iff.mpr
    refine ⟨rfl, ?_⟩
    intro group found
    simpa using List.mem_takeWhile_imp found
  have front : (groups.drop start).take (zerosFrom groups start) =
      List.replicate (zerosFrom groups start) 0 := by
    rw [← zeros]
    exact (List.prefix_iff_eq_take.mp (List.takeWhile_prefix _)).symm
  rw [← front, ← List.drop_drop, List.append_assoc, List.take_append_drop, List.take_append_drop]

theorem groups_ofIp4 (client : Ip4) : (ofIp4 client).groups =
    List.replicate 5 0 ++ [0xffff] ++ Digits.ofNat 65536 2 client.bits.toNat := by
  have fills : 65536 ^ 2 = 2 ^ 32 := by norm_num
  have split := Digits.ofNat_append_word fills 6 0xffff#96 client.bits
  exact split

theorem lt_of_mem_groups {address : Ip6} {group : Nat} (found : group ∈ address.groups) :
    group < 65536 :=
  Digits.lt_of_mem_ofNat (by decide) found

theorem stops_f (rest : List Char) : Stops 10 ('f' :: rest) := by
  rintro c ⟨⟩
  rfl

theorem readGroups_mapped (client : Ip4) (stops : Stops 10 rest) :
    readGroups 7 false ('f' :: 'f' :: 'f' :: 'f' :: ':' :: (client.text.toList ++ rest)) =
      ⟨0xffff :: Digits.ofNat 65536 2 client.bits.toNat, true, rest⟩ := by
  have plain := Ip4.read_of_stops (stops_f ('f' :: 'f' :: 'f' :: ':' :: (client.text.toList ++ rest)))
  have first : group ('f' :: 'f' :: 'f' :: 'f' :: ':' :: (client.text.toList ++ rest)) =
      some (0xffff, ':' :: (client.text.toList ++ rest)) :=
    @group_toDigits (':' :: (client.text.toList ++ rest)) 0xffff (by decide) (stops_colon _)
  have later : readGroups 6 true (':' :: (client.text.toList ++ rest)) =
      ⟨Digits.ofNat 65536 2 client.bits.toNat, true, rest⟩ := by
    simp [readGroups, TextReader.char, Ip4.read_text client stops]
  rw [@readGroups_of_group _ _ false _ plain first, later]

theorem read_mapped (client : Ip4) (stops : Stops 10 rest) :
    read ("::ffff:".toList ++ client.text.toList ++ rest) = some (ofIp4 client, rest) := by
  have text : "::ffff:".toList ++ client.text.toList ++ rest =
      ':' :: ':' :: 'f' :: 'f' :: 'f' :: 'f' :: ':' :: (client.text.toList ++ rest) := rfl
  have head (rest : List Char) : readGroups 8 false (':' :: rest) = ⟨[], false, ':' :: rest⟩ := by
    have colon : Stops 10 (':' :: rest) := by
      rintro c ⟨⟩
      rfl
    exact @readGroups_of_end _ false (Ip4.read_of_stops colon) (group_of_stops (stops_colon rest)) 7
  have groups := ofGroups_groups (ofIp4 client)
  rw [groups_ofIp4] at groups
  rw [text, read, head]
  simpa [readGroups_mapped client stops] using groups

theorem read_shortened (address : Ip6) (ends : Ends rest)
    (long : 1 < (longestZeros address.groups).length) :
    read ((groupsText (address.groups.take (longestZeros address.groups).start)).toList ++
      "::".toList ++ (groupsText (address.groups.drop ((longestZeros address.groups).start +
        (longestZeros address.groups).length))).toList ++ rest) = some (address, rest) := by
  generalize run_eq : longestZeros address.groups = run at long ⊢
  have length : run.length = zerosFrom address.groups run.start := by
    have either := longestZeros_length address.groups
    rw [run_eq] at either
    exact either.resolve_left (by omega)
  have split := split_zeros address.groups run.start
  rw [← length] at split
  have eight : address.groups.length = 8 := Digits.length_ofNat ..
  have sum := congrArg List.length split
  simp only [List.length_append, List.length_replicate, eight] at sum
  have read : read (joined (address.groups.take run.start) ++
      ':' :: ':' :: (joined (address.groups.drop (run.start + run.length)) ++ rest)) = _ :=
    read_compressed ends (fun group found => lt_of_mem_groups (List.mem_of_mem_take found))
      (fun group found => lt_of_mem_groups (List.mem_of_mem_drop found)) (by omega)
  have zeros : 8 - (address.groups.take run.start).length -
      (address.groups.drop (run.start + run.length)).length = run.length := by omega
  rw [zeros, ← split, ofGroups_groups] at read
  simpa [toList_groupsText] using read

theorem digit_or_colon_of_mem_joined {groups : List Nat} {c : Char} (found : c ∈ joined groups) :
    (digit? 16 c).isSome = true ∨ c = ':' := by
  have digit (value : Nat) : ∀ c ∈ Nat.toDigits 16 value, (digit? 16 c).isSome = true :=
    (spells_toDigits (by decide) (by decide) value).digits
  cases groups with
  | nil => cases found
  | cons first groups =>
    simp only [joined, colons, List.mem_append, List.mem_flatMap, List.mem_cons] at found
    rcases found with found | ⟨group, -, found | found⟩
    next => exact .inl (digit first c found)
    next => exact .inr found
    next => exact .inl (digit group c found)

theorem mem_text {address : Ip6} {c : Char} (found : c ∈ address.text.toList) :
    (digit? 16 c).isSome = true ∨ c = ':' ∨ c = '.' := by
  have groups {groups : List Nat} (found : c ∈ (groupsText groups).toList) :
      (digit? 16 c).isSome = true ∨ c = ':' ∨ c = '.' := by
    rw [toList_groupsText] at found
    exact (digit_or_colon_of_mem_joined found).imp_right .inl
  unfold text at found
  split at found
  next client _ =>
    rw [String.toList_append, List.mem_append] at found
    rcases found with found | found
    next =>
      have known : c = ':' ∨ c = 'f' ∨ c = ':' := by simpa using found
      rcases known with rfl | rfl | rfl
      next => exact .inr (.inl rfl)
      next => exact .inl rfl
      next => exact .inr (.inl rfl)
    next =>
      refine (Ip4.digit_or_dot_of_mem_text found).imp ?_ .inr
      rw [Option.isSome_iff_ne_none, Option.isSome_iff_ne_none]
      exact mt digit?_ten_eq_none
  next =>
    dsimp only at found
    split at found
    next =>
      rw [String.toList_append, String.toList_append, List.mem_append, List.mem_append] at found
      rcases found with (found | found) | found
      next => exact groups found
      next => exact .inr (.inl (by simpa using found))
      next => exact groups found
    next => exact groups found

theorem read_text (address : Ip6) (ends : Ends rest) :
    read (address.text.toList ++ rest) = some (address, rest) := by
  unfold text
  split
  next client mapped =>
    rw [String.toList_append, eq_ofIp4_of_toIp4? mapped]
    exact read_mapped client ends.stops_decimal
  next =>
    dsimp only
    split
    next long =>
      rw [String.toList_append, String.toList_append]
      exact read_shortened address ends long
    next =>
      rw [toList_groupsText, read_joined ends (fun _ found => lt_of_mem_groups found)
        (Digits.length_ofNat ..), ofGroups_groups]

theorem ofText?_text (address : Ip6) : ofText? address.text = some address := by
  have ends : Ends [] := ⟨nofun, List.not_mem_nil, nofun⟩
  have read := read_text address ends
  rw [List.append_nil] at read
  simp only [ofText?, TextReader.whole, read]

end

end Ip6

end SniffingRelay
