import Mathlib.Data.List.DropRight
import AssessmentChat.Text.Blank

namespace AssessmentChat

/-!
# Trimmed texts

What trimming leaves of a text is empty or tidy: it begins and ends with a
character that is not white space.  A tidy text is left as it is, and two of them
with a space between them are one.
-/

/-- A text that is not empty and has no white space around it. -/
structure IsTidy (text : String) : Prop where
  nonempty :
    text.toList ≠ []
  begins :
    ∀ character ∈ text.toList.head?, isBlank character = false
  ends :
    ∀ character ∈ text.toList.getLast?, isBlank character = false

theorem trimStart_begins
    {characters : List Char}
    {character : Char}
    (first : character ∈ (trimStart characters).head?) :
    isBlank character = false := by
  have notBlank := List.head?_dropWhile_not isBlank characters
  rw [trimStart] at first
  rwa [first] at notBlank

theorem trimEnd_ends
    {characters : List Char}
    {character : Char}
    (last : character ∈ (trimEnd characters).getLast?) :
    isBlank character = false := by
  rw [trimEnd, List.getLast?_reverse] at last
  exact trimStart_begins last

/-- Trimming the end leaves the beginning as it is. -/
theorem head?_trimEnd
    {characters : List Char}
    (nonempty : trimEnd characters ≠ []) :
    (trimEnd characters).head? = characters.head? := by
  obtain ⟨dropped, shape⟩ := List.rdropWhile_prefix isBlank characters
  calc
    (trimEnd characters).head? =
        (trimEnd characters ++ dropped).head? :=
      (List.head?_append_of_ne_nil _ nonempty).symm
    _ = characters.head? :=
      congrArg List.head? shape

/-- What is left of a text is tidy, unless nothing is. -/
theorem isTidy_trim
    {text : String}
    (nonempty : (trim text).isEmpty = false) :
    IsTidy (trim text) := by
  have left : trimEnd (trimStart text.toList) ≠ [] := by
    intro nothing
    simp [trim, nothing] at nonempty
  constructor
  · simpa [trim] using left
  · intro character first
    rw [trim, String.toList_ofList, head?_trimEnd left] at first
    exact trimStart_begins first
  · intro character last
    rw [trim, String.toList_ofList] at last
    exact trimEnd_ends last

/-- Nothing is left of a text exactly if it has white space only. -/
theorem isEmpty_trim_iff
    {text : String} :
    (trim text).isEmpty = true ↔
      ∀ character ∈ text.toList, isBlank character = true := by
  have left :
      (trim text).isEmpty = true ↔ trimEnd (trimStart text.toList) = [] := by
    simp [trim, String.isEmpty_iff]
  rw [left, trimEnd, List.reverse_eq_nil_iff, List.dropWhile_eq_nil_iff]
  simp only [List.mem_reverse]
  constructor
  · intro allBlank
    cases rest : trimStart text.toList with
    | nil =>
        exact List.dropWhile_eq_nil_iff.mp rest
    | cons first others =>
        have notBlank : isBlank first = false :=
          @trimStart_begins text.toList first (by simp [rest])
        rw [allBlank first (by simp [rest])] at notBlank
        cases notBlank
  · intro allBlank character among
    exact allBlank character
      ((List.dropWhile_sublist isBlank).subset among)

namespace IsTidy

variable {text other : String}

theorem isEmpty_eq_false
    (tidy : IsTidy text) :
    text.isEmpty = false := by
  rw [Bool.eq_false_iff, ne_eq, String.isEmpty_iff]
  rintro rfl
  exact tidy.nonempty rfl

/-- There is nothing to trim. -/
theorem trim_eq
    (tidy : IsTidy text) :
    trim text = text := by
  have startKept : trimStart text.toList = text.toList := by
    cases characters : text.toList with
    | nil =>
        rfl
    | cons first rest =>
        have notBlank := tidy.begins first (by simp [characters])
        simp [trimStart, notBlank]
  have endKept : trimEnd text.toList = text.toList := by
    refine List.rdropWhile_eq_self_iff.mpr fun nonempty => ?_
    have last := List.getLast?_eq_some_getLast nonempty
    simp [tidy.ends _ last]
  rw [trim, startKept, endKept, String.ofList_toList]

/-- Two texts with a space between them. -/
theorem spaced
    (tidy : IsTidy text)
    (tidyToo : IsTidy other) :
    IsTidy (text ++ " " ++ other) := by
  constructor
  · simp [tidy.nonempty]
  · intro character first
    rw [String.toList_append, String.toList_append, List.append_assoc,
      List.head?_append_of_ne_nil _ tidy.nonempty] at first
    exact tidy.begins character first
  · intro character last
    rw [String.toList_append,
      List.getLast?_append_of_ne_nil _ tidyToo.nonempty] at last
    exact tidyToo.ends character last

end IsTidy

/-- Trimming twice is trimming once. -/
@[simp] theorem trim_trim
    (text : String) :
    trim (trim text) = trim text := by
  cases nothing : (trim text).isEmpty with
  | true =>
      rw [String.isEmpty_iff.mp nothing]
      rfl
  | false =>
      exact (isTidy_trim nothing).trim_eq

end AssessmentChat
