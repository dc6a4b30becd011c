import Mathlib
import SniffingRelay.Text.Pieces

set_option autoImplicit false

namespace SniffingRelay.Pieces

variable {separator : Char} {text piece before after : List Char}

theorem split_eq_splitOn (separator : Char) (text : List Char) :
    split separator text = text.splitOn separator := by
  induction text with
  | nil => rfl
  | cons c rest ih =>
    obtain ⟨first, later, pieces⟩ :=
      List.exists_cons_of_ne_nil (List.splitOn_ne_nil separator rest)
    have stepped : (c :: rest).splitOn separator = if (c == separator) = true
        then [] :: rest.splitOn separator else (rest.splitOn separator).modifyHead (List.cons c) :=
      List.splitOnP_cons_eq_if_modifyHead c rest
    rw [split, ih, stepped, pieces]
    by_cases same : c = separator
    next => rw [if_pos same, if_pos (beq_iff_eq.mpr same)]
    next => rw [if_neg same, if_neg (mt beq_iff_eq.mp same), List.modifyHead_cons]

theorem split_append (separator : Char) (before after : List Char) :
    split separator (before ++ separator :: after) =
      split separator before ++ split separator after := by
  simp only [split_eq_splitOn]
  exact List.splitOnP_append_cons _ _ (beq_self_eq_true separator)

theorem split_of_not_mem (whole : separator ∉ text) : split separator text = [text] := by
  rw [split_eq_splitOn]
  exact List.splitOn_eq_singleton whole

theorem intercalate_split (separator : Char) (text : List Char) :
    [separator].intercalate (split separator text) = text := by
  rw [split_eq_splitOn]
  exact List.intercalate_splitOn separator

theorem split_intercalate {pieces : List (List Char)} (plain : ∀ piece ∈ pieces, separator ∉ piece)
    (some_piece : pieces ≠ []) : split separator ([separator].intercalate pieces) = pieces := by
  rw [split_eq_splitOn]
  exact List.splitOn_intercalate separator plain some_piece

structure Between (separator : Char) (before after : List Char) : Prop where
  start : before = [] ∨ ∃ front, before = front ++ [separator]
  stop : after = [] ∨ ∃ rest, after = separator :: rest

theorem Between.of_mem (found : piece ∈ split separator text) : separator ∉ piece ∧
    ∃ before after, text = before ++ piece ++ after ∧ Between separator before after := by
  induction length : text.length using Nat.strong_induction_on generalizing text with
  | _ length ih =>
    by_cases cut : separator ∈ text
    next =>
      obtain ⟨first, rest, rfl, plain⟩ := List.eq_append_cons_of_mem cut
      rw [split_append, split_of_not_mem plain, List.singleton_append, List.mem_cons] at found
      rcases found with rfl | later
      next => exact ⟨plain, [], separator :: rest, rfl, .inl rfl, .inr ⟨rest, rfl⟩⟩
      next =>
        have shorter : rest.length < (first ++ separator :: rest).length := by simp; omega
        rw [length] at shorter
        obtain ⟨whole, before, after, rfl, between⟩ := ih _ shorter later rfl
        refine ⟨whole, first ++ separator :: before, after, by simp, .inr ?_, between.stop⟩
        rcases between.start with rfl | ⟨front, rfl⟩
        next => exact ⟨first, rfl⟩
        next => exact ⟨first ++ separator :: front, by simp⟩
    next =>
      rw [split_of_not_mem cut, List.mem_singleton] at found
      subst found
      exact ⟨cut, [], [], by simp, .inl rfl, .inl rfl⟩

theorem Between.mem (between : Between separator before after) (whole : separator ∉ piece) :
    piece ∈ split separator (before ++ piece ++ after) := by
  have stopped : piece ∈ split separator (piece ++ after) := by
    rcases between.stop with rfl | ⟨rest, rfl⟩
    next => simp [split_of_not_mem whole]
    next => simp [split_append, split_of_not_mem whole]
  rcases between.start with rfl | ⟨front, rfl⟩
  next => exact stopped
  next =>
    rw [List.append_assoc, List.append_assoc, List.singleton_append, split_append]
    exact List.mem_append_right _ stopped

theorem mem_split_iff : piece ∈ split separator text ↔ separator ∉ piece ∧
    ∃ before after, text = before ++ piece ++ after ∧ Between separator before after := by
  constructor
  next => exact Between.of_mem
  next =>
    rintro ⟨whole, before, after, rfl, between⟩
    exact between.mem whole

theorem ofText_ne_nil (separator : Char) (text : String) : ofText separator text ≠ [] := by
  rw [ofText, split_eq_splitOn, ne_eq, List.map_eq_nil_iff]
  exact List.splitOn_ne_nil separator text.toList

theorem mem_ofText_iff {entry text : String} :
    entry ∈ ofText separator text ↔ entry.toList ∈ split separator text.toList := by
  rw [ofText, List.mem_map]
  constructor
  next =>
    rintro ⟨piece, found, rfl⟩
    rwa [String.toList_ofList]
  next =>
    intro found
    exact ⟨entry.toList, found, String.ofList_toList⟩

end SniffingRelay.Pieces
