import JobNode.Text.Basic

/-!
# White space around a text

A trimmed text is what is left between white space, and white space around a text does not matter to
what is left of it.

* `exists_trimChars`: a text is its trimmed text between white space.
* `trimChars_padded`: more white space around a text leaves the same.
* `trimChars_of_solid`: nothing is taken from a text that neither begins nor ends with white space.
-/

namespace JobNode.Text

variable {before cs after : List Char}

/-- The characters begin with none that is white space. -/
def Solid (cs : List Char) : Prop := ∀ c ∈ cs.head?, isBlank c = false

theorem trimLeft_of_solid (solid : Solid cs) : trimLeft cs = cs := by
  cases cs with
  | nil => rfl
  | cons c rest => exact trimLeft_cons_of_not_blank (solid c rfl)

theorem solid_trimLeft (cs : List Char) : Solid (trimLeft cs) := by
  intro c head
  have stopped := List.head?_dropWhile_not isBlank cs
  rw [← trimLeft, Option.mem_def.1 head] at stopped
  exact stopped

theorem exists_trimLeft (cs : List Char) :
    ∃ before, before.all isBlank = true ∧ cs = before ++ trimLeft cs :=
  ⟨cs.takeWhile isBlank, List.all_takeWhile, (List.takeWhile_append_dropWhile).symm⟩

theorem trimLeft_padded (blank : before.all isBlank = true) (cs : List Char) :
    trimLeft (before ++ cs) = trimLeft cs :=
  List.dropWhile_append_of_pos (List.all_eq_true.1 blank)

theorem trimLeft_of_blank (blank : cs.all isBlank = true) : trimLeft cs = [] := by
  have padded := trimLeft_padded blank []
  rwa [List.append_nil] at padded

theorem trimRight_eq (cs : List Char) : trimRight cs = (trimLeft cs.reverse).reverse := rfl

/-- A text is its trimmed text between white space. -/
theorem exists_trimChars (cs : List Char) :
    ∃ before after, before.all isBlank = true ∧ after.all isBlank = true ∧
      cs = before ++ trimChars cs ++ after := by
  obtain ⟨before, blank, front⟩ := exists_trimLeft cs
  obtain ⟨after, blank', back⟩ := exists_trimLeft (trimLeft cs).reverse
  refine ⟨before, after.reverse, blank, by rwa [List.all_reverse], ?_⟩
  have turned := congrArg List.reverse back
  rw [List.reverse_reverse, List.reverse_append] at turned
  rw [List.append_assoc, trimChars, trimRight_eq, ← turned]
  exact front

/-- White space around a text does not matter. -/
theorem trimChars_padded (blank : before.all isBlank = true) (blank' : after.all isBlank = true)
    (cs : List Char) : trimChars (before ++ cs ++ after) = trimChars cs := by
  rw [List.append_assoc, trimChars, trimChars, trimLeft_padded blank]
  obtain ⟨front, blankFront, eq⟩ := exists_trimLeft cs
  -- the white space behind the text is all there is, or is met before the rest from the end
  cases left : trimLeft cs with
  | nil =>
    rw [left, List.append_nil] at eq
    rw [eq, trimLeft_padded blankFront, trimLeft_of_blank blank']
  | cons c rest =>
    have solid := solid_trimLeft cs
    rw [left] at eq solid
    have stays : trimLeft (cs ++ after) = c :: rest ++ after := by
      rw [eq, List.append_assoc, trimLeft_padded blankFront]
      exact trimLeft_of_solid solid
    rw [stays, trimRight_eq, trimRight_eq, List.reverse_append,
      trimLeft_padded (by rwa [List.all_reverse])]

/-- Nothing is taken from a text that neither begins nor ends with white space. -/
theorem trimChars_of_solid (front : Solid cs) (back : Solid cs.reverse) : trimChars cs = cs := by
  rw [trimChars, trimLeft_of_solid front, trimRight_eq, trimLeft_of_solid back,
    List.reverse_reverse]

theorem trimChars_eq_nil_iff : trimChars cs = [] ↔ cs.all isBlank = true := by
  constructor
  · intro nothing
    obtain ⟨before, after, blank, blank', eq⟩ := exists_trimChars cs
    rw [eq, nothing, List.append_nil, List.all_append, blank, blank']
    rfl
  · intro blank
    rw [trimChars, trimLeft_of_blank blank]
    rfl

end JobNode.Text
