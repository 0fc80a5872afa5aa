import OptionProject.Library.Text

/-!
# Fields of a text

A text is split at a separator into fields, and the fields are joined again.

## Main definitions

* `join` — `separator.join(fields)`.

## Main results

* `join_splitOn` — the fields of a text give back the text.
* `splitOn_append` — a field in front.
* `length_splitOn` — how many fields there are.
-/
namespace OptionProject.Library

/-- `separator.join(fields)`. -/
def join (separator : Char) (fields : List String) : String :=
  .ofList ([separator].intercalate (fields.map String.toList))

variable {sep : Char} {mark s front back : String}

@[simp] theorem join_splitOn (sep : Char) (s : String) : join sep (splitOn sep s) = s := by
  simp [join, splitOn, Function.comp_def, List.intercalate_splitOn]

theorem splitOn_join {fields : List String} (free : ∀ field ∈ fields, sep ∉ field.toList)
    (nonempty : fields ≠ []) : splitOn sep (join sep fields) = fields := by
  rw [splitOn, join, String.toList_ofList, List.splitOn_intercalate]
  · simp [Function.comp_def]
  · simpa using free
  · simpa using nonempty

/-- A joined text has the separator and what is in the fields, and nothing else. -/
theorem mem_join {fields : List String} {c : Char} (mem : c ∈ (join sep fields).toList) :
    c = sep ∨ ∃ field ∈ fields, c ∈ field.toList := by
  rw [join, String.toList_ofList] at mem
  induction fields with
  | nil => simp at mem
  | cons field rest ih =>
    cases rest with
    | nil => exact .inr ⟨field, List.mem_cons_self, by simpa using mem⟩
    | cons next rest =>
      simp only [List.map_cons, List.intercalate_cons_cons, List.mem_append, List.mem_singleton,
        or_assoc] at mem ih
      rcases mem with here | same | later
      · exact .inr ⟨field, List.mem_cons_self, here⟩
      · exact .inl same
      · rcases ih later with same | ⟨found, member, there⟩
        · exact .inl same
        · exact .inr ⟨found, List.mem_cons_of_mem _ member, there⟩

theorem splitOn_ne_nil (sep : Char) (s : String) : splitOn sep s ≠ [] := by
  simp [splitOn, List.splitOn_ne_nil]

theorem splitOn_of_free (free : sep ∉ s.toList) : splitOn sep s = [s] := by
  simp [splitOn, List.splitOn_eq_singleton free]

theorem splitOn_append (single : mark.toList = [sep]) (free : sep ∉ front.toList) :
    splitOn sep (front ++ (mark ++ back)) = front :: splitOn sep back := by
  simp [splitOn, single, List.splitOn_append_cons_self_of_not_mem free]

/-- The first separator of a text. -/
theorem free_or_append (sep : Char) (mark s : String) (single : mark.toList = [sep]) :
    sep ∉ s.toList ∨ ∃ front back, s = front ++ (mark ++ back) ∧ sep ∉ front.toList := by
  by_cases mem : sep ∈ s.toList
  · obtain ⟨front, back, split, free⟩ := List.eq_append_cons_of_mem mem
    refine .inr ⟨String.ofList front, String.ofList back, ?_, by simpa using free⟩
    simp [← String.toList_inj, split, single]
  · exact .inl mem

/-- A text of several fields starts with the first of them. -/
theorem eq_append_of_splitOn {first second : String} {rest : List String} (mark : String)
    (single : mark.toList = [sep]) (parts : splitOn sep s = first :: second :: rest) :
    ∃ back, s = first ++ (mark ++ back) := by
  rcases free_or_append sep mark s single with free | ⟨front, back, rfl, free⟩
  · rw [splitOn_of_free free] at parts
    cases parts
  · rw [splitOn_append single free] at parts
    obtain ⟨rfl, -⟩ := List.cons.inj parts
    exact ⟨back, rfl⟩

/-- A field has no separator in it. -/
theorem free_of_mem_splitOn {field : String} (mem : field ∈ splitOn sep s) :
    sep ∉ field.toList := by
  have free (cs field : List Char) (mem : field ∈ cs.splitOn sep) : sep ∉ field := by
    induction cs generalizing field with
    | nil => simp_all
    | cons c cs ih =>
      rw [List.splitOn_cons_eq_if_modifyHead] at mem
      cases parts : cs.splitOn sep with
      | nil => exact absurd parts (List.splitOn_ne_nil sep cs)
      | cons first rest =>
        simp only [parts, List.modifyHead_cons] at mem ih
        grind
  obtain ⟨cs, there, rfl⟩ := List.mem_map.mp mem
  simpa using free _ cs there

theorem length_splitOn (sep : Char) (s : String) :
    (splitOn sep s).length = s.toList.count sep + 1 := by
  rw [splitOn, List.length_map]
  induction s.toList with
  | nil => rfl
  | cons c cs ih =>
    rw [List.splitOn_cons_eq_if_modifyHead]
    grind

end OptionProject.Library
