import FactScope.Text.Lowercase

namespace FactScope.Text.Lowercase

open CaseTable

structure Boundary (d : Char) : Prop where
  lowerAt_self : ∀ before after, lowerAt before d after = [d]
  eq_of_mem : ∀ {before after c}, d ∈ lowerAt before c after → d = c
  not_ignorable : isIgnorable d = false
  not_cased : isCased d = false

theorem shiftBy_cases (spans : List Span) (code : Nat) :
    shiftBy spans code = code ∨ ∃ span ∈ spans, span.first ≤ code ∧
      shiftBy spans code = (code + span.shift).toNat := by
  induction spans with
  | nil => exact .inl rfl
  | cons span rest ih =>
      rw [shiftBy]
      split
      · exact .inl rfl
      · split
        · split
          · exact .inr ⟨span, by simp, by omega, rfl⟩
          · exact .inl rfl
        · rcases ih with h | ⟨other, hmem, hle, h⟩
          · exact .inl h
          · exact .inr ⟨other, by simp [hmem], hle, h⟩

theorem eq_of_shiftBy_eq {spans : List Span} {code target : Nat}
    (hspans : ∀ span ∈ spans, (target : Int) < span.first + span.shift)
    (h : shiftBy spans code = target) : code = target := by
  rcases shiftBy_cases spans code with hsame | ⟨span, hmem, hle, hshift⟩
  · exact hsame.symm.trans h
  · have := hspans span hmem
    omega

theorem eq_of_ofNat_eq {code : Nat} {c : Char} (hc : c.toNat ≠ 0) (h : Char.ofNat code = c) :
    code = c.toNat := by
  subst h
  rcases Decidable.em code.isValidChar with hvalid | hinvalid
  · have hchar : Char.ofNat code = Char.ofNatAux code hvalid := dif_pos hvalid
    rw [hchar]
    rfl
  · have hchar : Char.ofNat code = '\x00' := dif_neg hinvalid
    rw [hchar] at hc
    exact absurd rfl hc

theorem eq_of_mem_lowerChar {c d : Char} (hd : d.toNat ≠ 0)
    (hspans : ∀ span ∈ spans, (d.toNat : Int) < span.first + span.shift)
    (hdot : d ∉ lowerChar 'İ') (h : d ∈ lowerChar c) : d = c := by
  by_cases hc : c = 'İ'
  · exact absurd (hc ▸ h) hdot
  · rw [lowerChar, if_neg hc, List.mem_singleton] at h
    have hcode := eq_of_shiftBy_eq hspans (eq_of_ofNat_eq hd h.symm)
    exact Char.toNat_inj.mp hcode.symm

/-- Text whose characters have one character each as their lower case. -/
def Narrow (text : List Char) : Prop :=
  ∀ c ∈ text, (lower [c]).length ≤ 1

instance (text : List Char) : Decidable (Narrow text) :=
  List.decidableBAll _ text

theorem length_lowerAt (before after : List Char) (c : Char) :
    (lowerAt before c after).length = (lower [c]).length := by
  rw [lower, lowerFrom, lowerFrom, List.append_nil, lowerAt, lowerAt]
  split <;> rfl

theorem Narrow.length_lowerFrom {text : List Char} (h : Narrow text) (before : List Char) :
    (lowerFrom before text).length = text.length := by
  induction text generalizing before with
  | nil => rfl
  | cons c after ih =>
      have hone : (lowerAt before c after).length ≤ 1 := by
        rw [length_lowerAt]
        exact h c List.mem_cons_self
      have hpos : 0 < (lowerAt before c after).length :=
        List.length_pos_iff.mpr (lowerAt_ne_nil before after c)
      have hafter := ih (fun other hother => h other (List.mem_cons_of_mem c hother)) (c :: before)
      rw [lowerFrom, List.length_append, List.length_cons, hafter]
      omega

theorem Narrow.length_lower {text : List Char} (h : Narrow text) :
    (lower text).length = text.length :=
  h.length_lowerFrom []

theorem Narrow.length_le {text other : List Char} (h : Narrow text)
    (hlower : lower other = lower text) : other.length ≤ text.length := by
  have hother := length_le_length_lowerFrom [] other
  rw [← lower, hlower, h.length_lower] at hother
  exact hother

theorem exists_lowerFrom_concat (before text : List Char) (c : Char) :
    ∃ first, lowerFrom before (text ++ [c]) = first ++ lowerAt (text.reverse ++ before) c [] := by
  induction text generalizing before with
  | nil => exact ⟨[], by simp [lowerFrom]⟩
  | cons other after ih =>
      obtain ⟨first, hfirst⟩ := ih (other :: before)
      refine ⟨lowerAt before other (after ++ [c]) ++ first, ?_⟩
      rw [List.cons_append, lowerFrom, hfirst, List.append_assoc, List.reverse_cons,
        List.append_assoc, List.singleton_append]

namespace Boundary

variable {d : Char}

theorem startsCased_append (hd : Boundary d) (text after : List Char) :
    startsCased (text ++ d :: after) = startsCased text := by
  induction text with
  | nil => simp [startsCased, hd.not_ignorable, hd.not_cased]
  | cons c rest ih =>
      cases hc : isIgnorable c with
      | true => simpa [startsCased, hc] using ih
      | false => simp [startsCased, hc]

theorem endsWord_before (hd : Boundary d) (near far after : List Char) :
    endsWord (near ++ d :: far) after = endsWord near after := by
  rw [endsWord, endsWord, hd.startsCased_append]

theorem endsWord_after (hd : Boundary d) (before near far : List Char) :
    endsWord before (near ++ d :: far) = endsWord before near := by
  rw [endsWord, endsWord, hd.startsCased_append]

/-- What lies before a boundary does not matter behind it. -/
theorem lowerFrom_append (hd : Boundary d) (near far text : List Char) :
    lowerFrom (near ++ d :: far) text = lowerFrom near text := by
  induction text generalizing near with
  | nil => rfl
  | cons c after ih =>
      have hrest := ih (c :: near)
      rw [List.cons_append] at hrest
      rw [lowerFrom, lowerFrom, hrest, lowerAt, lowerAt, hd.endsWord_before]

theorem lowerFrom_split (hd : Boundary d) (before text rest : List Char) :
    lowerFrom before (text ++ d :: rest) = lowerFrom before text ++ d :: lower rest := by
  induction text generalizing before with
  | nil =>
      change lowerAt before d rest ++ lowerFrom ([] ++ d :: before) rest = _
      rw [hd.lowerAt_self, hd.lowerFrom_append]
      rfl
  | cons c after ih =>
      rw [List.cons_append, lowerFrom, lowerFrom, ih, List.append_assoc, lowerAt, lowerAt,
        hd.endsWord_after]

theorem lower_split (hd : Boundary d) (text rest : List Char) :
    lower (text ++ d :: rest) = lower text ++ d :: lower rest :=
  hd.lowerFrom_split [] text rest

theorem mem_lowerFrom_iff (hd : Boundary d) (before text : List Char) :
    d ∈ lowerFrom before text ↔ d ∈ text := by
  induction text generalizing before with
  | nil => rfl
  | cons c after ih =>
      rw [lowerFrom, List.mem_append, ih, List.mem_cons]
      constructor
      · rintro (h | h)
        · exact .inl (hd.eq_of_mem h)
        · exact .inr h
      · rintro (rfl | h)
        · exact .inl (by simp [hd.lowerAt_self])
        · exact .inr h

theorem mem_lower_iff (hd : Boundary d) (text : List Char) : d ∈ lower text ↔ d ∈ text :=
  hd.mem_lowerFrom_iff [] text

theorem head?_lower_iff (hd : Boundary d) (text : List Char) :
    (lower text).head? = some d ↔ text.head? = some d := by
  cases text with
  | nil => rfl
  | cons c after =>
      obtain ⟨first, others, hlower⟩ := List.exists_cons_of_ne_nil (lowerAt_ne_nil [] after c)
      have hfirst : first ∈ lowerAt [] c after := by simp [hlower]
      simp only [lower, lowerFrom, hlower, List.cons_append, List.head?_cons, Option.some.injEq]
      constructor
      · rintro rfl
        exact (hd.eq_of_mem hfirst).symm
      · rintro rfl
        rw [hd.lowerAt_self, List.mem_singleton] at hfirst
        exact hfirst

theorem getLast?_of_getLast?_lower (hd : Boundary d) {text : List Char}
    (h : (lower text).getLast? = some d) : text.getLast? = some d := by
  rcases List.eq_nil_or_concat text with rfl | ⟨others, c, rfl⟩
  · cases h
  · rw [List.concat_eq_append] at h ⊢
    obtain ⟨first, hfirst⟩ := exists_lowerFrom_concat [] others c
    have hne := lowerAt_ne_nil (others.reverse ++ []) [] c
    rw [lower, hfirst, List.getLast?_append, List.getLast?_eq_some_getLast hne,
      Option.some_or, ← List.getLast?_eq_some_getLast hne] at h
    rw [hd.eq_of_mem (List.mem_of_getLast? h), List.getLast?_concat]

end Boundary

end FactScope.Text.Lowercase
