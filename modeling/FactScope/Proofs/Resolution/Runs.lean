import FactScope.Proofs.Resolution.Namespace
import Mathlib.Data.List.DropRight
import Mathlib.Data.Nat.Init

namespace FactScope

namespace QualifiedName

/-- The maximal runs of separators of a name are halved, rounding up, and its other characters stay
in their order between them. A run is maximal as what follows it does not begin with a separator. -/
inductive Halved : List Char → List Char → Prop where
  | nil : Halved [] []
  | other {c : Char} {name out : List Char} (h : c ≠ sep) (rest : Halved name out) :
      Halved (c :: name) (c :: out)
  | run {count : Nat} {name out : List Char} (hcount : 0 < count) (hend : name.head? ≠ some sep)
      (rest : Halved name out) :
      Halved (List.replicate count sep ++ name) (List.replicate ((count + 1) / 2) sep ++ out)

variable {name out rest : List Char} {c : Char}

theorem collapse_run (h : rest.head? ≠ some sep) (count : Nat) :
    collapse (List.replicate count sep ++ rest) =
      List.replicate ((count + 1) / 2) sep ++ collapse rest := by
  -- Pairs are taken from the left, so a run gets shorter by two and its half by one.
  induction count using Nat.twoStepInduction with
  | zero => rfl
  | one => exact collapse_cons_of_head? fun hpair => h hpair.2
  | more count ih _ =>
      have hhalf : (count + 2 + 1) / 2 = (count + 1) / 2 + 1 := by omega
      rw [hhalf, List.replicate_succ, List.replicate_succ, List.replicate_succ, List.cons_append,
        List.cons_append, collapse_sep_sep, ih, List.cons_append]

theorem Halved.eq_collapse (h : Halved name out) : out = collapse name := by
  induction h with
  | nil => rfl
  | other hc _ ih => rw [collapse_cons_of_head? fun hpair => hc hpair.1, ih]
  | run _ hend _ ih => rw [collapse_run hend, ih]

theorem Halved.cons (h : Halved name out) (hc : ¬(c = sep ∧ name.head? = some sep)) :
    Halved (c :: name) (c :: out) := by
  by_cases hsep : c = sep
  · subst hsep
    exact .run Nat.one_pos (fun hhead => hc ⟨rfl, hhead⟩) h
  · exact .other hsep h

theorem Halved.cons_pair (h : Halved name out) : Halved (sep :: sep :: name) (sep :: out) := by
  cases h with
  | nil => exact .run Nat.two_pos (by simp) .nil
  | other hc rest => exact .run Nat.two_pos (by simpa using hc) (.other hc rest)
  | @run count name out hcount hend rest =>
      have hhalf : (count + 2 + 1) / 2 = (count + 1) / 2 + 1 := by omega
      have hlonger := Halved.run (Nat.lt_add_right 2 hcount) hend rest
      rw [hhalf] at hlonger
      exact hlonger

theorem halved_collapse (name : List Char) : Halved name (collapse name) := by
  fun_induction collapse name with
  | case1 => exact .nil
  | case2 c => exact Halved.nil.cons (by simp)
  | case3 c d rest hpair ih =>
      obtain ⟨rfl, rfl⟩ := hpair
      exact ih.cons_pair
  | case4 c d rest hpair ih => exact ih.cons (by simpa using hpair)

theorem halved_iff : Halved name out ↔ out = collapse name := by
  constructor
  · exact Halved.eq_collapse
  · rintro rfl
    exact halved_collapse name

theorem collapse_ne_nil (h : name ≠ []) : collapse name ≠ [] := by
  intro hnil
  have hhead := head?_collapse name
  rw [hnil] at hhead
  exact h (List.head?_eq_none_iff.mp hhead.symm)

theorem getLast?_collapse (name : List Char) : (collapse name).getLast? = name.getLast? := by
  fun_induction collapse name with
  | case1 => rfl
  | case2 => rfl
  | case3 c d rest hpair ih =>
      obtain ⟨rfl, rfl⟩ := hpair
      cases rest with
      | nil => rfl
      | cons e rest =>
          rw [List.getLast?_cons_of_ne_nil (collapse_ne_nil (List.cons_ne_nil e rest)), ih]
          rfl
  | case4 c d rest hpair ih =>
      rw [List.getLast?_cons_of_ne_nil (collapse_ne_nil (List.cons_ne_nil d rest)), ih]
      rfl

theorem Halved.filter_eq (h : Halved name out) :
    out.filter (· ≠ sep) = name.filter (· ≠ sep) := by
  induction h with
  | nil => rfl
  | other hc _ ih => rw [List.filter_cons, List.filter_cons, ih]
  | run _ _ _ ih => simpa using ih

def bare (name : List Char) : List Char :=
  (relative name).rdropWhile (· == sep)

theorem relative_eq_self (h : name.head? ≠ some sep) : relative name = name := by
  cases name with
  | nil => rfl
  | cons c rest =>
      have hc : ¬(c == sep) = true := by simpa using h
      exact List.dropWhile_cons_of_neg hc

theorem relative_sep_cons (rest : List Char) : relative (sep :: rest) = relative rest := rfl

theorem rdropWhile_eq_self (h : name.getLast? ≠ some sep) :
    name.rdropWhile (· == sep) = name := by
  rw [List.rdropWhile_eq_self_iff]
  intro hne hlast
  rw [List.getLast?_eq_some_getLast hne, beq_iff_eq.mp hlast] at h
  exact h rfl

namespace Inner

variable {inner : List Char}

theorem relative_append (h : Inner inner) (right : List Char) :
    relative (inner ++ right) = inner ++ right :=
  relative_eq_self (by rw [List.head?_append_of_ne_nil _ h.ne_nil]; exact h.head?_ne)

theorem rdropWhile_concat (h : Inner inner) : (inner ++ [sep]).rdropWhile (· == sep) = inner := by
  rw [List.rdropWhile_concat_pos (· == sep) inner sep (beq_self_eq_true sep),
    rdropWhile_eq_self h.getLast?_ne]

theorem bare_padded (h : Inner inner) (hname : Padded inner name) : bare name = inner := by
  have hrelative : relative inner = inner := relative_eq_self h.head?_ne
  cases hname with
  | bare => rw [bare, hrelative, rdropWhile_eq_self h.getLast?_ne]
  | before => rw [bare, relative_sep_cons, hrelative, rdropWhile_eq_self h.getLast?_ne]
  | after => rw [bare, h.relative_append, h.rdropWhile_concat]
  | around => rw [bare, List.cons_append, relative_sep_cons, h.relative_append, h.rdropWhile_concat]

theorem spaced_around (h : Inner inner) : Spaced (sep :: inner ++ [sep]) := by
  rw [List.cons_append, spaced_cons_iff, List.head?_append_of_ne_nil _ h.ne_nil,
    spaced_append_iff]
  exact ⟨fun hpair => h.head?_ne hpair.2, h.spaced, List.isChain_singleton sep,
    fun hpair => h.getLast?_ne hpair.1⟩

end Inner

/-- A name without adjacent separators that is not made of separators is put between two of them in
place of those that it has at its ends. -/
theorem collapse_around (h : Spaced name) (hother : ∃ c ∈ name, c ≠ sep) :
    collapse (sep :: name ++ [sep]) = sep :: bare name ++ [sep] ∧
      Spaced (collapse (sep :: name ++ [sep])) := by
  obtain ⟨c, hmem, hc⟩ := hother
  have hlone : name ≠ [sep] := by
    rintro rfl
    exact hc (List.mem_singleton.mp hmem)
  obtain ⟨inner, hinner, hpadded⟩ := exists_inner h (List.ne_nil_of_mem hmem) hlone
  rw [hinner.collapse_padded hpadded, hinner.bare_padded hpadded]
  exact ⟨rfl, hinner.spaced_around⟩

end QualifiedName

namespace Forest

open QualifiedName

/-- Where a namespace is visible, the current one begins and ends with a separator and is the
visible one between separators with every maximal run of them halved. If the visible namespace has
no adjacent separators, and is not one itself, it stands between two separators in place of those at
its ends. -/
theorem currentNamespace_by_runs (f : Forest) (i : Nat) {written : String}
    (hseen : f.see i .space = .text written) (hne : written ≠ "") :
    ∃ space, (f.scope i).currentNamespace = .ok space ∧
      space.toList.head? = some sep ∧ space.toList.getLast? = some sep ∧
      (∀ out, Halved (sep :: written.toList ++ [sep]) out ↔ out = space.toList) ∧
      space.toList.filter (· ≠ sep) = written.toList.filter (· ≠ sep) ∧
      (Spaced written.toList → (∃ c ∈ written.toList, c ≠ sep) →
        space.toList = sep :: bare written.toList ++ [sep] ∧ Spaced space.toList) := by
  refine ⟨_, Scope.currentNamespace_text hseen hne, ?_⟩
  rw [String.toList_ofList]
  refine ⟨?_, ?_, fun out => halved_iff, ?_, collapse_around⟩
  · rw [head?_collapse]
    rfl
  · rw [getLast?_collapse, List.getLast?_concat]
  · rw [(halved_collapse _).filter_eq]
    simp

/-- Between separators the first namespace has runs of four, two, one and three of them, which are
halved. -/
theorem currentNamespace_by_runs_of_two_roots :
    let f := (Session.start.run [.newRoot [("namespace", .text "\\\\\\A\\\\b\\C\\\\")],
      .newRoot [("namespace", .text "App\\Models\\")]]).forest
    (∃ space, (f.scope 0).currentNamespace = .ok space ∧
      Halved "\\\\\\\\A\\\\b\\C\\\\\\".toList space.toList ∧ space = "\\\\A\\b\\C\\\\") ∧
    ∃ space, (f.scope 1).currentNamespace = .ok space ∧
      space.toList = sep :: bare "App\\Models\\".toList ++ [sep] ∧ Spaced space.toList ∧
        space = "\\App\\Models\\" := by
  intro f
  have hvalues : (f.scope 0).currentNamespace = .ok "\\\\A\\b\\C\\\\" ∧
      (f.scope 1).currentNamespace = .ok "\\App\\Models\\" := by decide +kernel
  have hseen : f.see 0 .space = .text "\\\\\\A\\\\b\\C\\\\" ∧
      f.see 1 .space = .text "App\\Models\\" := by decide +kernel
  obtain ⟨first, hfirst, -, -, hhalved, -⟩ := currentNamespace_by_runs f 0 hseen.1 (by decide)
  obtain ⟨second, hsecond, -, -, -, -, haround⟩ :=
    currentNamespace_by_runs f 1 hseen.2 (by decide)
  obtain ⟨hbare, hspaced⟩ := haround (by decide) ⟨'A', by decide, by decide⟩
  refine ⟨⟨first, hfirst, (hhalved _).mpr rfl, ?_⟩, second, hsecond, hbare, hspaced, ?_⟩
  · exact Except.ok.inj (hfirst.symm.trans hvalues.1)
  · exact Except.ok.inj (hsecond.symm.trans hvalues.2)

end Forest

end FactScope
