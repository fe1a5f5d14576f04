import FactScope.Log.Method
import FactScope.Proofs.Log.Delivery

namespace FactScope

theorem Decimal.isBelow_of_isInt {d : Decimal} {n : Int} (h : d.isInt n = true) (m : Int) :
    d.isBelow m = decide (n < m) := by
  unfold isInt at h
  unfold isBelow
  split at h
  · next mantissa exponent hvalue =>
    have hpower : (0 : Int) < (Nat.pow 2 (-exponent).toNat : Nat) := by
      exact_mod_cast Nat.two_pow_pos _
    rw [beq_iff_eq] at h
    simp only [h, decide_eq_decide]
    constructor
    · intro hlt
      exact Int.lt_of_mul_lt_mul_right hlt (Int.le_of_lt hpower)
    · intro hlt
      exact Int.mul_lt_mul_of_pos_right hlt hpower
  · cases h

/-- Where entries of any further names are taken, no name that is filled may be given and all those
that are needed must be. -/
theorem Signature.check_eq_ok_iff_of_takesMore {s : Signature} (h : s.takesMore = true)
    {given : Entries Value} :
    s.check given = .ok () ↔
      (∀ name ∈ s.filled, name ∉ given.keys) ∧ ∀ name ∈ s.needed, name ∈ given.keys := by
  rw [check_eq_ok_iff]
  simp only [takes, h, Bool.or_true, and_true, Entries.has_iff]
  refine and_congr_left fun _ => ?_
  exact ⟨fun hnames name hfilled hname => hnames name hname hfilled,
    fun hnames name hname hfilled => hnames name hfilled hname⟩

namespace Log

theorem isBelow?_of_alike {value : Value} {n : Int} (h : (Value.int n).alike value = true)
    (number : Nat) : isBelow? value number = some (decide (n < (number : Int))) := by
  by_cases hdecimal : ∃ d, value = .decimal d
  · obtain ⟨d, rfl⟩ := hdecimal
    have hint : d.isInt n = true := by simpa [Value.alike, Value.integer?] using h
    rw [isBelow?, Decimal.isBelow_of_isInt hint]
  · have hinteger : value.integer? = some n := by
      cases value with
      | decimal d => exact absurd ⟨d, rfl⟩ hdecimal
      | _ => simpa [Value.alike] using h
    unfold isBelow?
    split
    · exact absurd ⟨_, rfl⟩ hdecimal
    · rw [hinteger]
      rfl

theorem alike_of_levelOf? {value : Value} {level : Level} (h : levelOf? value = some level) :
    (Value.int level.number).alike value = true := by
  unfold levelOf? at h
  have hfound := List.find?_some h
  exact hfound

/-- What a call asks to be logged. -/
structure Request where
  level : Level
  happened : Value
  given : Entries Value

namespace Method

/-- What a way of logging asks for with one argument and some entries. Other methods ask for
nothing, nor does a level that is none. -/
def request? (method : Method) (happened : Value) (given : Entries Value) : Option Request :=
  match method with
  | .plain level => some ⟨level, happened, given⟩
  | .exception => some ⟨.error, happened, exception.completed given⟩
  | .leveled =>
      (levelOf? happened).map fun level =>
        ⟨level, (given.get? "event").getD .null, given.filter fun entry => entry.1 ≠ "event"⟩
  | _ => none

/-- Whether a way of logging takes entries of these names. A call has names of its own, and one that
passes is handed on under another one. -/
structure Fits (method : Method) (passes : Prop) (given : Entries Value) : Prop where
  self_not_mem : "self" ∉ given.keys
  event_mem_iff : "event" ∈ given.keys ↔ method = leveled
  level_not_mem : method = leveled → "level" ∉ given.keys
  name_not_mem : passes → "method_name" ∉ given.keys

theorem check_signature_iff (method : Method) (least : Nat) (level : Level) (given : Entries Value) :
    (method.signature least level).check given = .ok () ↔
      "self" ∉ given.keys ∧ "event" ∉ given.keys := by
  rw [Signature.check_eq_ok_iff_of_takesMore rfl]
  simp [signature]

theorem check_leveledSignature_iff (given : Entries Value) :
    leveledSignature.check given = .ok () ↔
      ("self" ∉ given.keys ∧ "level" ∉ given.keys) ∧ "event" ∈ given.keys := by
  rw [Signature.check_eq_ok_iff_of_takesMore rfl]
  simp [leveledSignature]

theorem check_passing_iff (given : Entries Value) :
    passing.check given = .ok () ↔
      "self" ∉ given.keys ∧ "method_name" ∉ given.keys ∧ "event" ∉ given.keys := by
  rw [Signature.check_eq_ok_iff_of_takesMore rfl]
  simp [passing]

/-- The entries of an error at hand have the names of those given, and perhaps one more. -/
theorem mem_keys_completed_iff {method : Method} {given : Entries Value} {name : String}
    (h : name ≠ "exc_info") : name ∈ (method.completed given).keys ↔ name ∈ given.keys := by
  unfold completed
  split
  · rw [Entries.keys_put]
    split
    · rfl
    · simp [h]
  · rfl

theorem mem_keys_filter_event_iff {given : Entries Value} {name : String} :
    name ∈ Entries.keys (given.filter fun entry => entry.1 ≠ "event") ↔
      name ∈ given.keys ∧ name ≠ "event" := by
  simp only [Entries.keys, List.mem_map, List.mem_filter, decide_eq_true_eq]
  constructor
  · rintro ⟨entry, ⟨hentry, hname⟩, rfl⟩
    exact ⟨⟨entry, hentry, rfl⟩, hname⟩
  · rintro ⟨⟨entry, hentry, rfl⟩, hname⟩
    exact ⟨entry, ⟨hentry, hname⟩, rfl⟩

end Method

namespace State

variable {s : State} {logger : Logger} {name time : String} {happened : Value}
  {given : Entries Value} {method : Method} {request : Request} {emission : Emission}

theorem log_eq_nothing {level : Level}
    (h : level.number < (logger.pipeline.getD s.pipeline).least) :
    s.log logger level happened given time = .nothing :=
  if_pos h

theorem logThrough_eq_ok_iff {level : Level} :
    s.logThrough logger level happened given time = .ok emission ↔
      ((logger.pipeline.getD s.pipeline).least ≤ level.number →
        Method.passing.check given = .ok ()) ∧
      emission = s.log logger level happened given time := by
  unfold logThrough
  split
  · next hpasses =>
    rw [Except.check_bind_eq_ok_iff]
    simp [hpasses, pure, Except.pure, eq_comm]
  · next hpasses => simp [hpasses, pure, Except.pure, eq_comm]

theorem ofName?_of_ofWord? (follows : Bool) (h : Method.ofWord? name = some method) :
    Method.ofName? follows name = some method := by
  unfold Method.ofName?
  split
  all_goals first | exact h | cases h

theorem fits_iff_of_ne_leveled (hmethod : method ≠ .leveled) {passes : Prop} :
    method.Fits passes given ↔
      ("self" ∉ given.keys ∧ "event" ∉ given.keys) ∧
        (passes → Method.passing.check (method.completed given) = .ok ()) := by
  rw [Method.check_passing_iff, Method.mem_keys_completed_iff (by decide),
    Method.mem_keys_completed_iff (by decide), Method.mem_keys_completed_iff (by decide)]
  constructor
  · intro h
    have hevent : "event" ∉ given.keys := mt h.event_mem_iff.mp hmethod
    exact ⟨⟨h.self_not_mem, hevent⟩,
      fun hpasses => ⟨h.self_not_mem, h.name_not_mem hpasses, hevent⟩⟩
  · rintro ⟨⟨hself, hevent⟩, hnames⟩
    exact ⟨hself, ⟨fun hmem => absurd hmem hevent, fun heq => absurd heq hmethod⟩,
      fun heq => absurd heq hmethod, fun hpasses => (hnames hpasses).2.1⟩

theorem fits_leveled_iff {passes : Prop} :
    Method.leveled.Fits passes given ↔
      (("self" ∉ given.keys ∧ "level" ∉ given.keys) ∧ "event" ∈ given.keys) ∧
        (passes → Method.passing.check (given.filter fun entry => entry.1 ≠ "event") = .ok ()) := by
  rw [Method.check_passing_iff, Method.mem_keys_filter_event_iff, Method.mem_keys_filter_event_iff,
    Method.mem_keys_filter_event_iff]
  constructor
  · intro h
    refine ⟨⟨⟨h.self_not_mem, h.level_not_mem rfl⟩, h.event_mem_iff.mpr rfl⟩, fun hpasses => ?_⟩
    exact ⟨fun hself => h.self_not_mem hself.1, fun hname => h.name_not_mem hpasses hname.1,
      fun hevent => hevent.2 rfl⟩
  · rintro ⟨⟨⟨hself, hlevel⟩, hevent⟩, hnames⟩
    refine ⟨hself, iff_of_true hevent rfl, fun _ => hlevel, fun hpasses hname => ?_⟩
    exact (hnames hpasses).2.1 ⟨hname, by decide⟩

/-- A call that logs is refused for nothing but the names of its entries, and otherwise it delivers
what it asks for. -/
theorem call_eq_ok_iff (h : Method.ofWord? name = some method)
    (hrequest : method.request? happened given = some request) :
    s.call logger name happened given time = .ok emission ↔
      method.Fits ((logger.pipeline.getD s.pipeline).least ≤ request.level.number) given ∧
        emission = s.log logger request.level request.happened request.given time := by
  rw [call, ofName?_of_ofWord? _ h]
  cases method with
  | plain level =>
      cases hrequest
      have hcompleted : (Method.plain level).completed given = given := rfl
      simp only
      rw [Except.check_bind_eq_ok_iff, Method.check_signature_iff, logThrough_eq_ok_iff,
        fits_iff_of_ne_leveled (by nofun), hcompleted]
      exact and_assoc.symm
  | exception =>
      cases hrequest
      simp only
      rw [Except.check_bind_eq_ok_iff, Method.check_signature_iff, logThrough_eq_ok_iff,
        fits_iff_of_ne_leveled (by nofun)]
      exact and_assoc.symm
  | leveled =>
      obtain ⟨level, hlevel, rfl⟩ := Option.map_eq_some_iff.mp hrequest
      simp only
      rw [Except.check_bind_eq_ok_iff, Method.check_leveledSignature_iff,
        isBelow?_of_alike (alike_of_levelOf? hlevel), hlevel, fits_leveled_iff]
      refine (and_congr_right fun _ => ?_).trans and_assoc.symm
      by_cases hpasses : (logger.pipeline.getD s.pipeline).least ≤ level.number
      · have hbelow : ¬(level.number : Int) < ((logger.pipeline.getD s.pipeline).least : Int) := by
          omega
        simp only [decide_eq_false hbelow]
        exact logThrough_eq_ok_iff
      · have hbelow : (level.number : Int) < ((logger.pipeline.getD s.pipeline).least : Int) := by
          omega
        simp only [decide_eq_true hbelow]
        simp [log_eq_nothing (Nat.lt_of_not_le hpasses), hpasses, pure, Except.pure, eq_comm]
  | _ => cases hrequest

end State

end Log

end FactScope
