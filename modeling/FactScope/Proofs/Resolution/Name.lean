import FactScope.Proofs.Text.Lowercase
import FactScope.QualifiedName

namespace FactScope.QualifiedName

open Text.Lowercase

theorem boundary_sep : Boundary sep where
  lowerAt_self before after := by
    rw [lowerAt, if_neg (by decide)]
    decide +kernel
  eq_of_mem {before after c} h := by
    rw [lowerAt] at h
    split at h
    · rw [List.mem_singleton] at h
      split at h <;> exact absurd h (by decide)
    · exact eq_of_mem_lowerChar (by decide) (by decide +kernel) (by decide) h
  not_ignorable := by decide
  not_cased := by decide

theorem isQualified_iff {name : List Char} : isQualified name = true ↔ sep ∈ name := by
  simp [isQualified]

theorem isAbsolute_iff {name : List Char} : isAbsolute name = true ↔ name.head? = some sep := by
  simp [isAbsolute]

theorem sameName_iff {a b : List Char} : sameName a b = true ↔ lower a = lower b :=
  beq_iff_eq

theorem isAbsolute_of_sameName {a b : List Char} (h : sameName a b = true) :
    isAbsolute a = isAbsolute b := by
  rw [Bool.eq_iff_iff, isAbsolute_iff, isAbsolute_iff, ← boundary_sep.head?_lower_iff,
    sameName_iff.mp h, boundary_sep.head?_lower_iff]

theorem sep_mem_of_sameName {a b : List Char} (h : sameName a b = true) : sep ∈ a ↔ sep ∈ b := by
  rw [← boundary_sep.mem_lower_iff a, sameName_iff.mp h, boundary_sep.mem_lower_iff]

theorem isAbsolute_of_not_mem {name : List Char} (h : sep ∉ name) : isAbsolute name = false := by
  cases name with
  | nil => rfl
  | cons c rest =>
      rw [isAbsolute_cons, beq_eq_false_iff_ne]
      rintro rfl
      exact h (by simp)

/-- A name that begins with one without separators is absolute only if that one is empty. -/
theorem isAbsolute_append {segment : List Char} (hne : segment ≠ []) (h : sep ∉ segment)
    (rest : List Char) : isAbsolute (segment ++ rest) = false := by
  obtain ⟨c, others, rfl⟩ := List.exists_cons_of_ne_nil hne
  have hfirst : isAbsolute (c :: others) = false := isAbsolute_of_not_mem h
  exact hfirst

end FactScope.QualifiedName
