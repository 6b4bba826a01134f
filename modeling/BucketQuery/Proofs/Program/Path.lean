import BucketQuery.Program.Path

set_option autoImplicit false

/-! # Where paths lead

A path that is expanded starts at the root, whatever was written, as long as the working directory
does (`isAbsolute_expand`).
-/

namespace BucketQuery.Path

theorem isAbsolute_iff (path : String) : isAbsolute path = true ↔ path.toList.head? = some '/' :=
  beq_iff_eq

theorem isAbsolute_append {base : String} (h : isAbsolute base = true) (rest : String) :
    isAbsolute (base ++ rest) = true := by
  rw [isAbsolute_iff] at h
  rw [isAbsolute_iff, String.toList_append, List.head?_append, h]
  rfl

theorem ne_empty_of_isAbsolute {path : String} (h : isAbsolute path = true) : path ≠ "" := by
  rintro rfl
  cases h

/-- From an absolute directory every path is absolute. -/
theorem isAbsolute_join {base : String} (h : isAbsolute base = true) (path : String) :
    isAbsolute (join base path) = true := by
  unfold join
  by_cases hpath : isAbsolute path = true
  · simp [hpath]
  · have hjoined : (isAbsolute path || decide (base = "")) = false := by
      simp [hpath, ne_empty_of_isAbsolute h]
    rw [hjoined, if_neg Bool.false_ne_true]
    split
    · exact isAbsolute_append h _
    · rw [String.append_assoc]
      exact isAbsolute_append h _

/-- **An expanded path is absolute** when the working directory is. -/
theorem isAbsolute_expand {place : Place} (h : isAbsolute place.work = true) (text : String) :
    isAbsolute (expand place text) = true := by
  have hjoined (path : String) :
      isAbsolute (if isAbsolute path then path else join place.work path) = true := by
    by_cases hpath : isAbsolute path = true
    · rw [if_pos hpath, hpath]
    · rw [if_neg hpath]
      exact isAbsolute_join h path
  unfold expand
  by_cases hempty : trimBlanks text = ""
  · simp only [hempty, if_pos]
    exact h
  · simp only [hempty, if_false]
    exact hjoined _

/-- A path as seen from a named directory has a slash. -/
theorem slash_mem_join {base : String} (h : base ≠ "") (path : String) :
    '/' ∈ (join base path).toList := by
  unfold join
  by_cases hpath : isAbsolute path = true
  · rw [if_pos (by simp [hpath])]
    exact List.mem_of_head? ((isAbsolute_iff path).mp hpath)
  · have hjoined : (isAbsolute path || decide (base = "")) = false := by
      simp [hpath, h]
    rw [hjoined, if_neg Bool.false_ne_true]
    split
    · next hlast =>
      rw [String.toList_append]
      exact List.mem_append_left _ (List.mem_of_getLast? hlast)
    · simp

end BucketQuery.Path
