namespace FactScope.Except

variable {ε α β : Type}

theorem bind_eq_ok_iff {first : Except ε α} {next : α → Except ε β} {result : β} :
    first >>= next = .ok result ↔ ∃ value, first = .ok value ∧ next value = .ok result := by
  cases first with
  | error fault => simp [bind, Except.bind]
  | ok value => simp [bind, Except.bind]

theorem bind_eq_error_iff {first : Except ε α} {next : α → Except ε β} {fault : ε} :
    first >>= next = .error fault ↔
      first = .error fault ∨ ∃ value, first = .ok value ∧ next value = .error fault := by
  cases first with
  | error other => simp [bind, Except.bind]
  | ok value => simp [bind, Except.bind]

theorem check_bind_eq_ok_iff {check : Except ε Unit} {work : Unit → Except ε β} {result : β} :
    check >>= work = .ok result ↔ check = .ok () ∧ work () = .ok result :=
  bind_eq_ok_iff.trans ⟨fun ⟨_, hcheck, hwork⟩ => ⟨hcheck, hwork⟩, fun h => ⟨(), h⟩⟩

/-- Where it is settled whether the next work fails, work fails if the first or the next does. -/
theorem exists_bind_eq_error_iff {first : Except ε α} {next : α → Except ε β} {fails : Prop}
    (h : ∀ value, (∃ fault, next value = .error fault) ↔ fails) :
    (∃ fault, first >>= next = .error fault) ↔ (∃ fault, first = .error fault) ∨ fails := by
  cases first with
  | error fault => simp [bind, Except.bind]
  | ok value => simpa [bind, Except.bind] using h value

theorem exists_ok_iff {result : Except ε α} :
    (∃ value, result = .ok value) ↔ ¬∃ fault, result = .error fault := by
  cases result <;> simp

end FactScope.Except
