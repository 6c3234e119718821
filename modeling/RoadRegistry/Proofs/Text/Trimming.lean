import Mathlib.Data.List.DropRight
import RoadRegistry.Text.Blank

namespace RoadRegistry.Text

theorem trim_eq_nil_iff {chars : List Char} :
    trim chars = [] ↔ ∀ c ∈ chars, isBlankChar c = true := by
  simp only [trim, trimEnd, trimStart, List.reverse_eq_nil_iff, List.dropWhile_eq_nil_iff,
    List.mem_reverse]
  constructor
  · intro blank c member
    rw [← List.takeWhile_append_dropWhile (p := isBlankChar) (l := chars)] at member
    rcases List.mem_append.mp member with first | later
    · exact List.mem_takeWhile_imp first
    · exact blank c later
  · exact fun blank c member => blank c ((List.dropWhile_sublist _).mem member)

theorem isBlank_eq_false_iff {text : String} :
    isBlank text = false ↔ ∃ c ∈ text.toList, isBlankChar c = false := by
  rw [isBlank, List.isEmpty_eq_false_iff, ne_eq, trim_eq_nil_iff]
  simp

theorem isEmpty_trim (chars : List Char) :
    (trim chars).isEmpty = chars.all isBlankChar := by
  rw [Bool.eq_iff_iff, List.isEmpty_iff, trim_eq_nil_iff, List.all_eq_true]

structure Tight (chars : List Char) : Prop where
  first : ∀ c ∈ chars.head?, isBlankChar c = false
  last : ∀ c ∈ chars.getLast?, isBlankChar c = false

theorem trimEnd_eq_rdropWhile (chars : List Char) : trimEnd chars = chars.rdropWhile isBlankChar :=
  rfl

theorem exists_eq_trim (chars : List Char) :
    ∃ before after, chars = before ++ trim chars ++ after ∧
      ∀ c ∈ before ++ after, isBlankChar c = true := by
  refine ⟨chars.takeWhile isBlankChar, (trimStart chars).rtakeWhile isBlankChar, ?_, ?_⟩
  · rw [trim, trimEnd_eq_rdropWhile, List.append_assoc, List.rdropWhile_append_rtakeWhile,
      trimStart, List.takeWhile_append_dropWhile]
  · intro c member
    rcases List.mem_append.mp member with before | after
    · exact List.mem_takeWhile_imp before
    · exact List.mem_rtakeWhile_imp after

theorem head?_trimStart {chars : List Char} {c : Char} (first : c ∈ (trimStart chars).head?) :
    isBlankChar c = false := by
  have stops := List.head?_dropWhile_not isBlankChar chars
  rw [trimStart, Option.mem_def] at first
  rw [first] at stops
  exact stops

theorem getLast?_trimEnd {chars : List Char} {c : Char} (last : c ∈ (trimEnd chars).getLast?) :
    isBlankChar c = false := by
  rw [trimEnd, List.getLast?_reverse] at last
  exact head?_trimStart last

theorem trim_tight (chars : List Char) : Tight (trim chars) where
  first c first := by
    obtain ⟨rest, split⟩ := List.rdropWhile_prefix isBlankChar (trimStart chars)
    have start : (trimStart chars).head? = some c := by
      rw [← split, ← trimEnd_eq_rdropWhile, ← trim, List.head?_append, Option.mem_def.mp first,
        Option.some_or]
    exact head?_trimStart start
  last _ last := getLast?_trimEnd last

theorem trim_eq_self {chars : List Char} (tight : Tight chars) : trim chars = chars := by
  have start : trimStart chars = chars := by
    cases chars with
    | nil => rfl
    | cons c rest => exact List.dropWhile_cons_of_neg (by simp [tight.first c rfl])
  rw [trim, start, trimEnd_eq_rdropWhile, List.rdropWhile_eq_self_iff]
  intro nonempty
  rw [tight.last _ (List.getLast?_eq_some_getLast nonempty)]
  exact Bool.false_ne_true

theorem mem_of_mem_trim {chars : List Char} {c : Char} (member : c ∈ trim chars) : c ∈ chars := by
  obtain ⟨before, after, split, -⟩ := exists_eq_trim chars
  rw [split]
  exact List.mem_append_left _ (List.mem_append_right _ member)

end RoadRegistry.Text
