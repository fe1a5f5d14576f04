import FactScope.Proofs.Value.Json
import FactScope.Proofs.Workspace.Frame
import FactScope.Proofs.Workspace.Values
import FactScope.VersionMatch

namespace FactScope

namespace Value

variable {a b value : Value} {m n : Int} {d e : Decimal}

/-- Equality of scalars: numbers and truth values by their number, everything else by itself. -/
inductive SameScalar : Value → Value → Prop where
  | null : SameScalar .null .null
  | text (s : String) : SameScalar (.text s) (.text s)
  | integers {a b : Value} {n : Int} (ha : a.integer? = some n) (hb : b.integer? = some n) :
      SameScalar a b
  | wholeLeft {d : Decimal} {b : Value} {n : Int} (hb : b.integer? = some n)
      (hd : d.isInt n = true) : SameScalar (.decimal d) b
  | wholeRight {a : Value} {d : Decimal} {n : Int} (ha : a.integer? = some n)
      (hd : d.isInt n = true) : SameScalar a (.decimal d)
  | decimals {d e : Decimal} (h : d.sameNumber e = true) : SameScalar (.decimal d) (.decimal e)

def IsRecorded (value : Value) : Prop :=
  value.isJson = true ∨ ∃ name, value = .logger name

theorem hashable_eq_false_iff (h : value.IsRecorded) :
    value.hashable = false ↔ value.kind = .list ∨ value.kind = .object := by
  rcases h with hjson | ⟨name, rfl⟩
  · cases value <;> simp_all [isJson, hashable, kind]
  · simp [hashable, kind]

theorem scalar_cases (h : value.IsRecorded) (hhash : value.hashable = true) :
    value = .null ∨ (∃ s, value = .text s) ∨ (∃ n, value.integer? = some n) ∨
      (∃ d, value = .decimal d) ∨ ∃ name, value = .logger name := by
  rcases h with hjson | hlogger
  · cases value <;> simp_all [isJson, hashable, integer?]
  · simp [hlogger]

theorem alike_iff_of_integer? (ha : a.integer? = some m) (hb : b.integer? = some n) :
    a.alike b = true ↔ m = n := by
  cases a with
  | bool x =>
      cases ha
      cases b <;> simp_all [alike, integer?] <;> exact eq_comm
  | int x =>
      cases ha
      cases b <;> simp_all [alike, integer?] <;> exact eq_comm
  | _ => cases ha

theorem decimal_alike_iff (hb : b.integer? = some n) :
    (Value.decimal d).alike b = true ↔ d.isInt n = true := by
  cases b <;> simp_all [alike, integer?]

theorem alike_decimal_iff (ha : a.integer? = some m) :
    a.alike (.decimal d) = true ↔ d.isInt m = true := by
  cases a <;> simp_all [alike, integer?]

theorem integer?_of_alike (ha : a.integer? = some m) (hb : b.isJson = true)
    (h : a.alike b = true) : (∃ n, b.integer? = some n) ∨ ∃ d, b = .decimal d := by
  cases a with
  | bool x => cases b <;> simp_all [alike, integer?]
  | int x => cases b <;> simp_all [alike, integer?]
  | _ => cases ha

theorem alike_iff_sameScalar (ha : a.IsRecorded) (hb : b.isJson = true)
    (hhash : a.hashable = true) : a.alike b = true ↔ SameScalar a b := by
  constructor
  · intro h
    rcases scalar_cases ha hhash with rfl | ⟨s, rfl⟩ | ⟨m, hm⟩ | ⟨d, rfl⟩ | ⟨name, rfl⟩
    · cases b <;> simp [alike, integer?] at h
      exact .null
    · exact text_alike_iff.mp h ▸ .text s
    · rcases integer?_of_alike hm hb h with ⟨n, hn⟩ | ⟨d, rfl⟩
      · exact .integers hm ((alike_iff_of_integer? hm hn).mp h ▸ hn)
      · exact .wholeRight hm ((alike_decimal_iff hm).mp h)
    · cases b with
      | decimal e => exact .decimals (by simpa [alike] using h)
      | bool x => exact .wholeLeft rfl ((decimal_alike_iff rfl).mp h)
      | int x => exact .wholeLeft rfl ((decimal_alike_iff rfl).mp h)
      | _ => simp [alike, integer?] at h
    · cases b <;> simp_all [alike, isJson, integer?]
  · rintro (_ | s | ⟨ha, hb⟩ | ⟨hb, hd⟩ | ⟨ha, hd⟩ | h)
    · simp [alike]
    · exact text_alike_iff.mpr rfl
    · exact (alike_iff_of_integer? ha hb).mpr rfl
    · exact (decimal_alike_iff hb).mpr hd
    · exact (alike_decimal_iff ha).mpr hd
    · simpa [alike] using h

end Value

namespace VersionMatch

variable {current : Value} {cs ds : List Value}

/-- The first candidate that no set can hold is at fault, and without one the current version if no
set can hold it. -/
theorem isAmong_eq_error_iff {fault : Fault} :
    isAmong current cs = .error fault ↔
      (∃ before c after, cs = before ++ c :: after ∧ (∀ b ∈ before, b.hashable = true) ∧
        c.hashable = false ∧ fault = .notHashable c.kind) ∨
      (∀ c ∈ cs, c.hashable = true) ∧ current.hashable = false ∧
        fault = .notHashable current.kind := by
  unfold isAmong
  cases hfind : cs.find? (!·.hashable) with
  | some c =>
      obtain ⟨hc, before, after, rfl, hbefore⟩ := List.find?_eq_some_iff_append.mp hfind
      simp only [Bool.not_eq_eq_eq_not, Bool.not_true, Bool.not_not] at hc hbefore
      constructor
      · intro h
        cases h
        exact .inl ⟨before, c, after, rfl, hbefore, hc, rfl⟩
      · rintro (⟨before', c', after', hsplit, hbefore', hc', rfl⟩ | ⟨hall, -⟩)
        · have hfirst : (before ++ c :: after).find? (!·.hashable) = some c' := by
            rw [hsplit, List.find?_eq_some_iff_append]
            refine ⟨by simp [hc'], before', after', rfl, fun b hb => by simp [hbefore' b hb]⟩
          cases hfind.symm.trans hfirst
          rfl
        · have hheld := hall c (by simp)
          rw [hc] at hheld
          cases hheld
  | none =>
      have hall : ∀ c ∈ cs, c.hashable = true := by simpa using List.find?_eq_none.mp hfind
      constructor
      · intro h
        cases hcurrent : current.hashable with
        | true => simp [hcurrent] at h
        | false =>
            simp only [hcurrent, Bool.false_eq_true, if_false, Except.error.injEq] at h
            exact .inr ⟨hall, rfl, h.symm⟩
      · rintro (⟨before, c, after, rfl, -, hc, -⟩ | ⟨-, hcurrent, rfl⟩)
        · have hheld := hall c (by simp)
          rw [hc] at hheld
          cases hheld
        · simp [hcurrent]

/-- Neither order nor repetition of the candidates matters to success and answer. -/
theorem isAmong_congr (h : ∀ c, c ∈ cs ↔ c ∈ ds) (answer : Bool) :
    isAmong current cs = .ok answer ↔ isAmong current ds = .ok answer := by
  have hany : cs.any current.alike = ds.any current.alike := by
    rw [Bool.eq_iff_iff, List.any_eq_true, List.any_eq_true]
    exact exists_congr fun c => and_congr_left fun _ => h c
  rw [isAmong_eq_ok_iff, isAmong_eq_ok_iff, hany]
  simp only [h]

theorem isAmong_of_hashable (h : ∀ c ∈ cs, c.hashable = true) :
    isAmong current cs =
      if current.hashable then .ok (cs.any current.alike)
      else .error (.notHashable current.kind) := by
  have hfind : cs.find? (!·.hashable) = none := by
    rw [List.find?_eq_none]
    intro c hc
    simp [h c hc]
  rw [isAmong, hfind]

theorem isAmong_append (hcs : ∀ c ∈ cs, c.hashable = true) (hds : ∀ d ∈ ds, d.hashable = true) :
    isAmong current (cs ++ ds) = do
      return (← isAmong current cs) || (← isAmong current ds) := by
  have hboth : ∀ c ∈ cs ++ ds, c.hashable = true := fun c hc =>
    (List.mem_append.mp hc).elim (hcs c) (hds c)
  rw [isAmong_of_hashable hcs, isAmong_of_hashable hds, isAmong_of_hashable hboth,
    List.any_append]
  cases current.hashable <;> rfl

end VersionMatch

namespace Forest

variable {f : Forest} {default : Version} {i : Nat}

theorem matchesVersion_of_candidates {versions : Value} {cs : List Value}
    (h : VersionMatch.candidates versions = .ok cs) :
    f.matchesVersion default i versions =
      VersionMatch.isAmong (f.currentVersion default i) cs := by
  rw [matchesVersion, h]
  rfl

end Forest

namespace Workspace

theorem isRecorded_currentVersion (acts : List Act)
    (hacts : ∀ act ∈ acts, act.Gives fun value => value.isJson = true) (i : Nat) :
    ((start.run acts).forest.currentVersion (start.run acts).default i).IsRecorded := by
  have hgives : ∀ act ∈ acts, act.Gives Value.IsRecorded := by
    intro act hact
    have hjson := hacts act hact
    cases act with
    | hold contents => exact fun entry hentry => .inl (hjson entry hentry)
    | edit place contents => exact fun entry hentry => .inl (hjson entry hentry)
    | _ => trivial
  have hholds : (start.run acts).Holds Value.IsRecorded :=
    (Holds.start Value.IsRecorded).run (.inr ⟨_, rfl⟩) (fun _ => .inl rfl) acts hgives
  unfold Forest.currentVersion Value.orElse
  split
  · exact hholds.see (.inl rfl) i .version
  · exact .inl rfl

/-- In every state that callers can reach the version of a node is looked up in the set of the
candidates, which fails by the first candidate that no set can hold or else by the version, and the
answer is whether a candidate equals the version. Where callers hand over JSON, what sets cannot
hold are lists and objects, and candidates are compared as scalars. -/
theorem matches_by_membership (acts : List Act) (i : Fin (start.run acts).forest.size) :
    let w := start.run acts
    let seen := w.forest.see i .version
    let current := if seen.truthy then seen else .text w.default.text
    let answers := w.forest.matchesVersion w.default i
    (∀ versions cs, VersionMatch.candidates versions = .ok cs →
      (∀ fault, answers versions = .error fault ↔
        (∃ before c after, cs = before ++ c :: after ∧ (∀ b ∈ before, b.hashable = true) ∧
          c.hashable = false ∧ fault = .notHashable c.kind) ∨
        (∀ c ∈ cs, c.hashable = true) ∧ current.hashable = false ∧
          fault = .notHashable current.kind) ∧
      (∀ answer, answers versions = .ok answer ↔
        (∀ c ∈ cs, c.hashable = true) ∧ current.hashable = true ∧
          (answer = true ↔ ∃ c ∈ cs, current.alike c = true)) ∧
      ∀ others ds, VersionMatch.candidates others = .ok ds → (∀ c, c ∈ cs ↔ c ∈ ds) →
        ∀ answer, answers versions = .ok answer ↔ answers others = .ok answer) ∧
    (∀ cs ds : List Value, (∀ c ∈ cs, c.hashable = true) → (∀ d ∈ ds, d.hashable = true) →
      answers (.list (cs ++ ds)) = do
        return (← answers (.list cs)) || (← answers (.list ds))) ∧
    (∀ s, answers (.text s) = answers (.list [.text s])) ∧
    ((∀ act ∈ acts, act.Gives fun value => value.isJson = true) →
      ∀ c : Value, (c.isJson = true ∨ c = current →
        (c.hashable = false ↔ c.kind = .list ∨ c.kind = .object)) ∧
      (c.isJson = true → current.hashable = true →
        (current.alike c = true ↔ Value.SameScalar current c))) := by
  intro w seen current answers
  have hanswers : ∀ {versions cs}, VersionMatch.candidates versions = .ok cs →
      answers versions = VersionMatch.isAmong current cs :=
    fun hcs => Forest.matchesVersion_of_candidates hcs
  refine ⟨fun versions cs hcs => ⟨fun fault => ?_, fun answer => ?_, ?_⟩, ?_, fun s => rfl, ?_⟩
  · rw [hanswers hcs]
    exact VersionMatch.isAmong_eq_error_iff
  · rw [hanswers hcs, VersionMatch.isAmong_eq_ok_iff]
    refine and_congr_right fun _ => and_congr_right fun _ => ?_
    rw [Bool.eq_iff_iff, List.any_eq_true]
  · intro others ds hds hsame answer
    rw [hanswers hcs, hanswers hds]
    exact VersionMatch.isAmong_congr hsame answer
  · intro cs ds hcs hds
    exact VersionMatch.isAmong_append hcs hds
  · intro hacts c
    have hcurrent : current.IsRecorded := isRecorded_currentVersion acts hacts i
    refine ⟨fun hc => Value.hashable_eq_false_iff ?_, fun hc hhash =>
      Value.alike_iff_sameScalar hcurrent hc hhash⟩
    rcases hc with hjson | rfl
    · exact .inl hjson
    · exact hcurrent

example : VersionMatch.isAmong (.int 1) [.text "1", .bool true] = .ok true ∧
    VersionMatch.isAmong (.text "a") [.text "a", .list []] = .error (.notHashable .list) :=
  ⟨rfl, rfl⟩

end Workspace

end FactScope
