import SniffingRelay.Proofs.AllowList.Openness

set_option autoImplicit false

namespace SniffingRelay.AllowList

/-- What stands between two commas of the text, or between one and an end, or between the ends, and
holds no comma itself. -/
def Entry (text entry : String) : Prop :=
  ',' ∉ entry.toList ∧ ∃ before after, text.toList = before ++ entry.toList ++ after ∧
    Pieces.Between ',' before after

section

variable {text entry hostname : String} {list : AllowList}

theorem entry_iff : Entry text entry ↔ entry ∈ Pieces.ofText ',' text := by
  rw [Pieces.mem_ofText_iff, Pieces.mem_split_iff, Entry]

theorem entry_empty : Entry "" "" := by
  rw [entry_iff]
  exact List.mem_singleton.mpr rfl

theorem entry_joined_iff (first second : String) :
    Entry (first ++ "," ++ second) entry ↔ Entry first entry ∨ Entry second entry := by
  have joined : (first ++ "," ++ second).toList = first.toList ++ ',' :: second.toList := by simp
  simp only [entry_iff, Pieces.mem_ofText_iff, joined, Pieces.split_append, List.mem_append]

-- The empty text has an empty entry, which admits everything just as a list without entries does.
theorem allows_ofText_iff : (ofText text).allows hostname = true ↔
    ∃ entry, Entry text entry ∧ bytes entry <:+ bytes hostname := by
  by_cases empty : text = ""
  next =>
    subst empty
    have open_list : (ofText "").allows hostname = true := allows_of_gap gap_empty hostname
    exact iff_of_true open_list ⟨"", entry_empty, List.nil_suffix⟩
  next =>
    simp only [allows_iff, suffixes_ofText empty, Pieces.ofText_ne_nil, false_or, entry_iff]

theorem allows_congr {first second : AllowList}
    (same : ∀ entry, entry ∈ first.suffixes ↔ entry ∈ second.suffixes) (hostname : String) :
    first.allows hostname = second.allows hostname := by
  have none_iff : first.suffixes = [] ↔ second.suffixes = [] := by
    simp only [List.eq_nil_iff_forall_not_mem, same]
  rw [Bool.eq_iff_iff, allows_iff, allows_iff, none_iff]
  simp only [same]

theorem toList_text (some_entry : list.suffixes ≠ []) :
    list.text.toList = [','].intercalate (list.suffixes.map String.toList) := by
  have closed : list.isOpen = false := by simp [isOpen, some_entry]
  rw [AllowList.text, closed, if_neg Bool.false_ne_true, String.toList_intercalate]
  rfl

theorem text_ofText (some_text : text ≠ "") : (ofText text).text = text := by
  have some_entry : (ofText text).suffixes ≠ [] := by
    rw [suffixes_ofText some_text]
    exact Pieces.ofText_ne_nil ',' text
  have pieces : (Pieces.ofText ',' text).map String.toList = Pieces.split ',' text.toList := by
    simp [Pieces.ofText]
  apply String.toList_inj.mp
  rw [toList_text some_entry, suffixes_ofText some_text, pieces, Pieces.intercalate_split]

theorem ofText_list_text (plain : ∀ entry ∈ list.suffixes, ',' ∉ entry.toList)
    (some_entry : list.suffixes ≠ []) :
    Pieces.ofText ',' list.text = list.suffixes := by
  have whole : ∀ piece ∈ list.suffixes.map String.toList, ',' ∉ piece := by simpa using plain
  rw [Pieces.ofText, toList_text some_entry, Pieces.split_intercalate whole (by simpa using some_entry)]
  simp

-- A list that permits everything is not written as the text that it is read from, and neither is an
-- empty entry by itself.
theorem ofText_text_iff (plain : ∀ entry ∈ list.suffixes, ',' ∉ entry.toList) :
    ofText list.text = list ↔ list.suffixes ≠ [] ∧ list.suffixes ≠ [""] := by
  constructor
  next =>
    intro same
    by_cases none : list.suffixes = []
    next =>
      have text : list.text = "<all hostnames>" := by rw [AllowList.text, isOpen, none]; rfl
      have entries := congrArg suffixes same
      rw [text, suffixes_ofText (by decide), none] at entries
      exact absurd entries (Pieces.ofText_ne_nil ',' _)
    next =>
      refine ⟨none, ?_⟩
      intro single
      have text : list.text = "" := by rw [AllowList.text, isOpen, single]; rfl
      have entries := congrArg suffixes same
      rw [text, single] at entries
      cases entries
  next =>
    rintro ⟨some_entry, more⟩
    have entries := ofText_list_text plain some_entry
    have some_text : list.text ≠ "" := by
      intro empty
      rw [empty] at entries
      exact more entries.symm
    have same : (ofText list.text).suffixes = list.suffixes := by
      rw [suffixes_ofText some_text, entries]
    exact congrArg AllowList.mk same

/-- A list admits the hostnames that end in one of its entries, byte for byte, and it is written as
the text it was read from. Texts joined by a comma admit what either admits, and neither the order of
entries nor how often one stands there makes a difference. A list of entries without commas is read
back from its text, but for the list without entries and that of one empty entry. -/
theorem lists_admit_by_their_entries :
    (∀ text, text ≠ "" →
      (∀ hostname, (ofText text).allows hostname = true ↔
        ∃ entry, Entry text entry ∧ bytes entry <:+ bytes hostname) ∧
      (ofText text).text = text) ∧
    (∀ first second hostname, (ofText (first ++ "," ++ second)).allows hostname = true ↔
      (ofText first).allows hostname = true ∨ (ofText second).allows hostname = true) ∧
    (∀ first second, (∀ entry, Entry first entry ↔ Entry second entry) →
      ∀ hostname, (ofText first).allows hostname = (ofText second).allows hostname) ∧
    (∀ first second : AllowList, (∀ entry, entry ∈ first.suffixes ↔ entry ∈ second.suffixes) →
      ∀ hostname, first.allows hostname = second.allows hostname) ∧
    ∀ list : AllowList, (∀ entry ∈ list.suffixes, ',' ∉ entry.toList) →
      (ofText list.text = list ↔ list.suffixes ≠ [] ∧ list.suffixes ≠ [""]) := by
  refine ⟨?_, ?_, ?_, fun first second => allows_congr, fun list => ofText_text_iff⟩
  next =>
    intro text some_text
    exact ⟨fun hostname => allows_ofText_iff, text_ofText some_text⟩
  next =>
    intro first second hostname
    simp only [allows_ofText_iff, entry_joined_iff, or_and_right, exists_or]
  next =>
    intro first second same hostname
    rw [Bool.eq_iff_iff, allows_ofText_iff, allows_ofText_iff]
    simp only [same]

-- The last entry begins with a blank, and its letter has two bytes.
theorem list_with_blank_admits_by_its_entries :
    "B.test,b, é" ≠ "" ∧ (ofText "B.test,b, é").allows "x é" = true ∧
      (ofText "B.test,b, é").allows "xé" = false ∧ (ofText "B.test,b, é").text = "B.test,b, é" ∧
      (∀ entry, Entry "B.test,b, é" entry ↔ Entry " é,b,B.test,b" entry) ∧
      (ofText " é,b,B.test,b").allows "xé" = false ∧
      (∀ entry, entry ∈ ["b", ""] ↔ entry ∈ ["", "b", "b"]) ∧
      AllowList.allows ⟨["b", ""]⟩ "B" = AllowList.allows ⟨["", "b", "b"]⟩ "B" ∧
      (∀ entry ∈ ["B.test", "", " é"], ',' ∉ entry.toList) ∧
      ofText (AllowList.text ⟨["B.test", "", " é"]⟩) = ⟨["B.test", "", " é"]⟩ := by
  obtain ⟨exactly, -, rearranged, repeated, back⟩ := lists_admit_by_their_entries
  obtain ⟨admits, written⟩ := exactly "B.test,b, é" (by decide)
  have pieces : Pieces.ofText ',' "B.test,b, é" = ["B.test", "b", " é"] := by decide +kernel
  have pieces' : Pieces.ofText ',' " é,b,B.test,b" = [" é", "b", "B.test", "b"] := by decide +kernel
  have entries (entry : String) :
      Entry "B.test,b, é" entry ↔ entry = "B.test" ∨ entry = "b" ∨ entry = " é" := by
    rw [entry_iff, pieces]
    simp
  have same (entry : String) : Entry "B.test,b, é" entry ↔ Entry " é,b,B.test,b" entry := by
    rw [entries, entry_iff, pieces']
    simp only [List.mem_cons, List.not_mem_nil, or_false]
    tauto
  have inside : (ofText "B.test,b, é").allows "x é" = true :=
    (admits _).mpr ⟨" é", (entries _).mpr (.inr (.inr rfl)), by decide +kernel⟩
  have outside : (ofText "B.test,b, é").allows "xé" = false := by
    rw [Bool.eq_false_iff, ne_eq, admits]
    rintro ⟨entry, found, suffix⟩
    rcases (entries entry).mp found with rfl | rfl | rfl
    all_goals revert suffix
    all_goals decide +kernel
  have twice : ∀ entry, entry ∈ ["b", ""] ↔ entry ∈ ["", "b", "b"] := by simp [or_comm]
  have plain : ∀ entry ∈ ["B.test", "", " é"], ',' ∉ entry.toList := by decide +kernel
  exact ⟨by decide, inside, outside, written, same, (rearranged _ _ same "xé").symm.trans outside,
    twice, repeated ⟨["b", ""]⟩ ⟨["", "b", "b"]⟩ twice "B", plain,
    (back ⟨["B.test", "", " é"]⟩ plain).mpr ⟨by simp, by simp⟩⟩

end

end SniffingRelay.AllowList
