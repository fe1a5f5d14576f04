import FactScope.Proofs.Except
import FactScope.Setup

namespace FactScope

namespace Value

/-- Texts and bytes, which have a lower case. -/
def Cased (value : Value) : Prop :=
  value.points? ≠ none ∨ ∃ bytes, value = .datum (.bytes bytes)

theorem cased_of_points? {value : Value} {points : Text.Points} (h : value.points? = some points) :
    value.Cased :=
  .inl (by rw [h]; nofun)

theorem checkText_eq_error_iff {value : Value} {fault : Fault} :
    value.checkText = .error fault ↔ greatestDepth < value.depth ∧ fault = .tooDeep ∨
      ¬greatestDepth < value.depth ∧ value.hasText = false ∧ fault = .longInteger := by
  unfold checkText
  split
  · next hdepth =>
    rw [Except.error.injEq, eq_comm]
    simp only [hdepth, true_and, not_true, false_and, or_false]
  · next hdepth =>
    split
    · next htext => simp only [hdepth, htext, reduceCtorEq, false_and, and_false, or_self]
    · next htext =>
      rw [Bool.not_eq_true] at htext
      rw [Except.error.injEq, eq_comm]
      simp only [hdepth, htext, not_false_eq_true, true_and, false_and, false_or]

/-- A value that is no text is told by its source form, if that is not too long or too deep. -/
theorem written_eq_error_iff {value : Value} {fault : Fault} :
    value.written = .error fault ↔ value.points? = none ∧ value.checkText = .error fault := by
  unfold written
  cases value.points? with
  | some points => simp
  | none => simp [Except.bind_eq_error_iff, pure, Except.pure]

end Value

namespace Verbatim

open QualifiedName Resolution
open Text (Points)

variable {scope : Scope} {reference value : Value} {fault : Fault}

theorem lowered_eq_error_iff :
    lowered value = .error fault ↔ ¬value.Cased ∧ fault = .noLowerCase value.kind := by
  unfold lowered Value.Cased
  split
  · next bytes => simp
  · next hbytes =>
    cases hpoints : value.points? with
    | some points => simp
    | none =>
        have hnone : ¬∃ bytes, value = .datum (.bytes bytes) := fun ⟨bytes, h⟩ => hbytes bytes h
        simp [hnone, eq_comm]

theorem points?_of_lowered {bytes : List UInt8} (h : lowered value = .ok (.datum (.bytes bytes))) :
    value.points? = none := by
  cases hpoints : value.points? with
  | none => rfl
  | some points =>
      unfold lowered at h
      split at h
      · cases hpoints
      · simp only [hpoints, Except.ok.injEq] at h
        have htext := Value.points?_ofPoints points.lower
        rw [h] at htext
        cases htext

theorem joined_eq_error_iff {text : Points} :
    joined text value = .error fault ↔
      value.points? = none ∧ fault = .notJoinable value.kind := by
  unfold joined
  cases value.points? <;> simp [eq_comm]

def Joinable (scope : Scope) : Prop :=
  scope.space.truthy = true → scope.space.points? ≠ none

theorem currentNamespace_eq_error_iff :
    currentNamespace scope = .error fault ↔
      ¬Joinable scope ∧ fault = .notJoinable scope.space.kind := by
  unfold currentNamespace Joinable
  cases scope.space.truthy with
  | true => simp [Except.bind_eq_error_iff, joined_eq_error_iff, pure, Except.pure]
  | false => simp

def Foreign (scope : Scope) (reference : Value) : Prop :=
  ∀ type, scope.enclosingType? = some type → type.Cased ∧ lowered reference ≠ lowered type

theorem exists_lowered_iff : (∃ name, lowered value = .ok name) ↔ value.Cased := by
  rw [Except.exists_ok_iff]
  simp [lowered_eq_error_iff]

theorem named?_eq_error_iff :
    named? scope reference = .error fault ↔ ∃ type, scope.enclosingType? = some type ∧
      (¬reference.Cased ∧ fault = .noLowerCase reference.kind ∨
        reference.Cased ∧ ¬type.Cased ∧ fault = .noLowerCase type.kind) := by
  unfold named?
  cases scope.enclosingType? with
  | none => simp [pure, Except.pure]
  | some type =>
      simp only [Except.bind_eq_error_iff, lowered_eq_error_iff, pure, Except.pure, reduceCtorEq,
        and_false, exists_false, or_false, Option.some.injEq, exists_eq_left', exists_and_right,
        exists_lowered_iff]

theorem named?_eq_none_iff (hreference : reference.Cased) :
    named? scope reference = .ok none ↔ Foreign scope reference := by
  obtain ⟨name, hname⟩ := exists_lowered_iff.mpr hreference
  unfold named? Foreign
  cases scope.enclosingType? with
  | none => simp [pure, Except.pure]
  | some type =>
      simp only [hname, Option.some.injEq, forall_eq', ← exists_lowered_iff]
      cases htype : lowered type with
      | error fault => simp [bind, Except.bind]
      | ok other =>
          by_cases heq : name = other <;> simp [bind, Except.bind, pure, Except.pure, heq]

theorem named?_eq_some_iff {type : Value} :
    named? scope reference = .ok (some type) ↔ scope.enclosingType? = some type ∧
      ∃ name, lowered reference = .ok name ∧ lowered type = .ok name := by
  unfold named?
  cases scope.enclosingType? with
  | none => simp [pure, Except.pure]
  | some found =>
      simp only [Except.bind_eq_ok_iff, pure, Except.pure, Except.ok.injEq, Option.some.injEq]
      constructor
      · rintro ⟨name, hname, other, hother, heq⟩
        split at heq
        · next hsame =>
          cases heq
          exact ⟨rfl, name, hname, hsame ▸ hother⟩
        · cases heq
      · rintro ⟨rfl, name, hname, htype⟩
        exact ⟨name, hname, name, htype, if_pos rfl⟩

def Passes (written : Points) (entry : Value × Value) : Prop :=
  ∃ spelling, entry.1.written = .ok spelling ∧ covers written spelling = false

/-- An alias without a text, or one that covers a reference and has a target without a text. -/
def Breaks (written : Points) (entry : Value × Value) (fault : Fault) : Prop :=
  entry.1.written = .error fault ∨
    ∃ spelling, entry.1.written = .ok spelling ∧ covers written spelling = true ∧
      entry.2.written = .error fault

theorem viaAlias?_cons_eq_error_iff {written : Points} {entry : Value × Value}
    {rest : List (Value × Value)} :
    viaAlias? written (entry :: rest) = .error fault ↔
      Breaks written entry fault ∨
        Passes written entry ∧ viaAlias? written rest = .error fault := by
  obtain ⟨used, target⟩ := entry
  unfold Breaks Passes
  rw [viaAlias?, Except.bind_eq_error_iff, or_assoc]
  refine or_congr_right ⟨?_, ?_⟩
  · rintro ⟨spelling, hused, hnext⟩
    split at hnext
    · next hcovers =>
      rcases Except.bind_eq_error_iff.mp hnext with htarget | ⟨text, -, hdone⟩
      · exact .inl ⟨spelling, hused, hcovers, htarget⟩
      · cases hdone
    · next hcovers => exact .inr ⟨⟨spelling, hused, Bool.not_eq_true _ ▸ hcovers⟩, hnext⟩
  · rintro (⟨spelling, hused, hcovers, htarget⟩ | ⟨⟨spelling, hused, hcovers⟩, hrest⟩)
    · refine ⟨spelling, hused, ?_⟩
      rw [if_pos hcovers]
      exact Except.bind_eq_error_iff.mpr (.inl htarget)
    · refine ⟨spelling, hused, ?_⟩
      rw [hcovers, if_neg Bool.false_ne_true]
      exact hrest

/-- The search for an alias fails at the first one that breaks it, if those before it pass. -/
theorem viaAlias?_eq_error_iff {written : Points} {aliases : List (Value × Value)} :
    viaAlias? written aliases = .error fault ↔ ∃ before entry after,
      aliases = before ++ entry :: after ∧ (∀ other ∈ before, Passes written other) ∧
        Breaks written entry fault := by
  induction aliases with
  | nil => simp [viaAlias?]
  | cons first rest ih =>
      rw [viaAlias?_cons_eq_error_iff, ih]
      constructor
      · rintro (hbreaks | ⟨hpasses, before, entry, after, rfl, hbefore, hbreaks⟩)
        · exact ⟨[], first, rest, rfl, nofun, hbreaks⟩
        · exact ⟨first :: before, entry, after, rfl, List.forall_mem_cons.mpr ⟨hpasses, hbefore⟩,
            hbreaks⟩
      · rintro ⟨_ | ⟨head, before⟩, entry, after, heq, hbefore, hbreaks⟩
        · cases heq
          exact .inl hbreaks
        · cases heq
          obtain ⟨hpasses, hbefore⟩ := List.forall_mem_cons.mp hbefore
          exact .inr ⟨hpasses, before, entry, after, rfl, hbefore, hbreaks⟩

theorem ofOther_of_not_cased (space : Points) (h : ¬reference.Cased) :
    ofOther scope space reference = .error (.noBeginning reference.kind) := by
  obtain ⟨hpoints, hbytes⟩ := not_or.mp h
  unfold ofOther
  split
  · exact absurd ⟨_, rfl⟩ hbytes
  · rfl
  · next hsome => exact absurd (by rw [hsome]; nofun) hpoints

theorem ofOther_eq_error_iff {space written : Points} (h : reference.points? = some written) :
    ofOther scope space reference = .error fault ↔
      isAbsolute written = false ∧ viaAlias? written scope.aliases = .error fault := by
  unfold ofOther
  split
  · cases h
  · next hnone => rw [h] at hnone; cases hnone
  · next found hfound =>
    rw [h] at hfound
    cases hfound
    cases isAbsolute written with
    | true => simp
    | false => simp [Except.bind_eq_error_iff, pure, Except.pure]

/-- How the resolution of a given reference fails: by the namespace, then by the reference and the
enclosing type, and at last by an alias. Bytes fail in ways of their own. -/
inductive Refuses (scope : Scope) (reference : Value) : Fault → Prop where
  | space (h : ¬Joinable scope) : Refuses scope reference (.notJoinable scope.space.kind)
  | reference {type : Value} (joinable : Joinable scope)
      (enclosed : scope.enclosingType? = some type) (h : ¬reference.Cased) :
      Refuses scope reference (.noLowerCase reference.kind)
  | type {type : Value} (joinable : Joinable scope) (enclosed : scope.enclosingType? = some type)
      (cased : reference.Cased) (h : ¬type.Cased) :
      Refuses scope reference (.noLowerCase type.kind)
  | self {type : List UInt8} {name : Value} (joinable : Joinable scope)
      (enclosed : scope.enclosingType? = some (.datum (.bytes type)))
      (h : lowered reference = .ok name) (same : lowered (.datum (.bytes type)) = .ok name) :
      Refuses scope reference (.notJoinable .bytes)
  | mixed {bytes : List UInt8} (joinable : Joinable scope)
      (h : reference = .datum (.bytes bytes)) (foreign : Foreign scope reference) :
      Refuses scope reference .mixedBeginning
  | beginning (joinable : Joinable scope) (unenclosed : scope.enclosingType? = none)
      (h : ¬reference.Cased) : Refuses scope reference (.noBeginning reference.kind)
  | search {written : Points} {before after : List (Value × Value)} {entry : Value × Value}
      {fault : Fault} (joinable : Joinable scope) (h : reference.points? = some written)
      (foreign : Foreign scope reference) (relative : isAbsolute written = false)
      (split : scope.aliases = before ++ entry :: after)
      (passed : ∀ other ∈ before, Passes written other) (breaks : Breaks written entry fault) :
      Refuses scope reference fault

theorem Joinable.exists_currentNamespace (h : Joinable scope) :
    ∃ space, currentNamespace scope = .ok space := by
  rw [Except.exists_ok_iff]
  rintro ⟨fault, hfault⟩
  exact (currentNamespace_eq_error_iff.mp hfault).1 h

theorem joinable_of_currentNamespace {space : Points} (h : currentNamespace scope = .ok space) :
    Joinable scope := by
  refine Classical.not_not.mp fun hspace => ?_
  rw [currentNamespace_eq_error_iff.mpr ⟨hspace, rfl⟩] at h
  cases h

theorem resolve_of_refuses (hgiven : reference.truthy = true) (h : Refuses scope reference fault) :
    resolve scope reference = .error fault := by
  rw [resolve, if_pos hgiven, Except.bind_eq_error_iff]
  by_cases hspace : Joinable scope
  · obtain ⟨space, hcurrent⟩ := hspace.exists_currentNamespace
    refine .inr ⟨space, hcurrent, Except.bind_eq_error_iff.mpr ?_⟩
    cases h with
    | space h => exact absurd hspace h
    | reference _ enclosed h =>
        exact .inl (named?_eq_error_iff.mpr ⟨_, enclosed, .inl ⟨h, rfl⟩⟩)
    | type _ enclosed cased h =>
        exact .inl (named?_eq_error_iff.mpr ⟨_, enclosed, .inr ⟨cased, h, rfl⟩⟩)
    | self _ enclosed h same =>
        exact .inr ⟨_, named?_eq_some_iff.mpr ⟨enclosed, _, h, same⟩, rfl⟩
    | mixed _ h foreign =>
        subst h
        exact .inr ⟨none, (named?_eq_none_iff (.inr ⟨_, rfl⟩)).mpr foreign, rfl⟩
    | beginning _ unenclosed h =>
        refine .inr ⟨none, ?_, ofOther_of_not_cased space h⟩
        rw [named?, unenclosed]
        rfl
    | search _ h foreign relative split passed breaks =>
        refine .inr ⟨none, (named?_eq_none_iff (Value.cased_of_points? h)).mpr foreign, ?_⟩
        exact (ofOther_eq_error_iff h).mpr
          ⟨relative, viaAlias?_eq_error_iff.mpr ⟨_, _, _, split, passed, breaks⟩⟩
  · cases h with
    | space h => exact .inl (currentNamespace_eq_error_iff.mpr ⟨h, rfl⟩)
    | _ => contradiction

theorem refuses_of_named? {type : Value} {space : Points} (joinable : Joinable scope)
    (h : named? scope reference = .ok (some type)) (hjoined : joined space type = .error fault) :
    Refuses scope reference fault := by
  obtain ⟨enclosed, name, hreference, htype⟩ := named?_eq_some_iff.mp h
  obtain ⟨hpoints, rfl⟩ := joined_eq_error_iff.mp hjoined
  obtain ⟨bytes, rfl⟩ := (exists_lowered_iff.mp ⟨name, htype⟩).resolve_left fun hne => hne hpoints
  exact .self joinable enclosed hreference htype

theorem refuses_of_ofOther {space : Points} (joinable : Joinable scope)
    (h : named? scope reference = .ok none)
    (hother : ofOther scope space reference = .error fault) :
    Refuses scope reference fault := by
  by_cases hcased : reference.Cased
  · have hforeign := (named?_eq_none_iff hcased).mp h
    cases hpoints : reference.points? with
    | some written =>
        obtain ⟨hrelative, hvia⟩ := (ofOther_eq_error_iff hpoints).mp hother
        obtain ⟨before, entry, after, hsplit, hpassed, hbreaks⟩ := viaAlias?_eq_error_iff.mp hvia
        exact .search joinable hpoints hforeign hrelative hsplit hpassed hbreaks
    | none =>
        obtain ⟨bytes, rfl⟩ := hcased.resolve_left fun hne => hne hpoints
        cases hother
        exact .mixed joinable rfl hforeign
  · rw [ofOther_of_not_cased space hcased] at hother
    cases hother
    refine .beginning joinable ?_ hcased
    cases henclosed : scope.enclosingType? with
    | none => rfl
    | some type =>
        rw [named?_eq_error_iff.mpr ⟨type, henclosed, .inl ⟨hcased, rfl⟩⟩] at h
        cases h

theorem resolve_eq_error_iff :
    resolve scope reference = .error fault ↔
      reference.truthy = true ∧ Refuses scope reference fault := by
  refine ⟨fun h => ?_, fun h => resolve_of_refuses h.1 h.2⟩
  unfold resolve at h
  split at h
  · next hgiven =>
    refine ⟨hgiven, ?_⟩
    rcases Except.bind_eq_error_iff.mp h with hspace | ⟨space, hspace, hrest⟩
    · obtain ⟨hjoinable, rfl⟩ := currentNamespace_eq_error_iff.mp hspace
      exact .space hjoinable
    · have hjoinable := joinable_of_currentNamespace hspace
      rcases Except.bind_eq_error_iff.mp hrest with hnamed | ⟨found, hfound, hlast⟩
      · obtain ⟨type, henclosed, ⟨hreference, rfl⟩ | ⟨hcased, htype, rfl⟩⟩ :=
          named?_eq_error_iff.mp hnamed
        · exact .reference hjoinable henclosed hreference
        · exact .type hjoinable henclosed hcased htype
      · cases found with
        | none => exact refuses_of_ofOther hjoinable hfound hlast
        | some type =>
            rcases Except.bind_eq_error_iff.mp hlast with hjoined | ⟨name, -, hdone⟩
            · exact refuses_of_named? hjoinable hfound hjoined
            · cases hdone
  · cases h

def Untold (value : Value) : Prop :=
  ∃ fault, value.written = .error fault

theorem untold_iff : Untold value ↔ value.points? = none ∧
    (Value.greatestDepth < value.depth ∨ value.hasText = false) := by
  simp only [Untold, Value.written_eq_error_iff, Value.checkText_eq_error_iff, exists_and_left]
  refine and_congr_right fun _ => ⟨?_, ?_⟩
  · rintro ⟨fault, ⟨hdeep, -⟩ | ⟨-, htext, -⟩⟩
    · exact .inl hdeep
    · exact .inr htext
  · intro h
    by_cases hdeep : Value.greatestDepth < value.depth
    · exact ⟨_, .inl ⟨hdeep, rfl⟩⟩
    · exact ⟨_, .inr ⟨hdeep, h.resolve_left hdeep, rfl⟩⟩

def Stalls (scope : Scope) (written : Points) : Prop :=
  isAbsolute written = false ∧ ∃ before entry after fault,
    scope.aliases = before ++ entry :: after ∧ (∀ other ∈ before, Passes written other) ∧
      Breaks written entry fault

theorem exists_refuses_bytes (joinable : Joinable scope) (bytes : List UInt8) :
    ∃ fault, Refuses scope (.datum (.bytes bytes)) fault := by
  by_cases hforeign : Foreign scope (.datum (.bytes bytes))
  · exact ⟨_, .mixed joinable rfl hforeign⟩
  · simp only [Foreign, Classical.not_forall] at hforeign
    obtain ⟨type, enclosed, hsame⟩ := hforeign
    by_cases hcased : type.Cased
    · have hlowered : lowered type = lowered (.datum (.bytes bytes)) :=
        (Classical.not_not.mp fun hne => hsame ⟨hcased, hne⟩).symm
      obtain ⟨others, rfl⟩ := hcased.resolve_left fun hne => hne (points?_of_lowered hlowered)
      exact ⟨_, .self joinable enclosed rfl hlowered⟩
    · exact ⟨_, .type joinable enclosed (.inr ⟨bytes, rfl⟩) hcased⟩

theorem exists_refuses_of_joinable (joinable : Joinable scope)
    (h : reference.points? = none ∨ (∃ type, scope.enclosingType? = some type ∧ ¬type.Cased) ∨
      ∃ written, reference.points? = some written ∧ Foreign scope reference ∧
        Stalls scope written) : ∃ fault, Refuses scope reference fault := by
  by_cases hcased : reference.Cased
  · rcases h with hpoints | ⟨type, enclosed, htype⟩ |
      ⟨written, hwritten, hforeign, hrelative, before, entry, after, fault, hsplit, hpassed,
        hbreaks⟩
    · obtain ⟨bytes, rfl⟩ := hcased.resolve_left fun hne => hne hpoints
      exact exists_refuses_bytes joinable bytes
    · exact ⟨_, .type joinable enclosed hcased htype⟩
    · exact ⟨fault, .search joinable hwritten hforeign hrelative hsplit hpassed hbreaks⟩
  · cases henclosed : scope.enclosingType? with
    | none => exact ⟨_, .beginning joinable henclosed hcased⟩
    | some type => exact ⟨_, .reference joinable henclosed hcased⟩

theorem exists_refuses_iff :
    (∃ fault, Refuses scope reference fault) ↔
      ¬Joinable scope ∨ reference.points? = none ∨
        (∃ type, scope.enclosingType? = some type ∧ ¬type.Cased) ∨
        ∃ written, reference.points? = some written ∧ Foreign scope reference ∧
          Stalls scope written := by
  constructor
  · rintro ⟨fault, hfault⟩
    cases hfault with
    | space h => exact .inl h
    | reference _ _ h => exact .inr (.inl (Classical.not_not.mp (not_or.mp h).1))
    | type _ enclosed _ h => exact .inr (.inr (.inl ⟨_, enclosed, h⟩))
    | self _ _ h same =>
        cases same
        exact .inr (.inl (points?_of_lowered h))
    | mixed _ h _ => exact .inr (.inl (by rw [h]; rfl))
    | beginning _ _ h => exact .inr (.inl (Classical.not_not.mp (not_or.mp h).1))
    | search _ h foreign relative split passed breaks =>
        exact .inr (.inr (.inr ⟨_, h, foreign, relative, _, _, _, _, split, passed, breaks⟩))
  · intro h
    by_cases hspace : Joinable scope
    · exact exists_refuses_of_joinable hspace (h.resolve_left (not_not_intro hspace))
    · exact ⟨_, .space hspace⟩

theorem exists_resolve_eq_error_iff :
    (∃ fault, resolve scope reference = .error fault) ↔
      reference.truthy = true ∧ ∃ fault, Refuses scope reference fault := by
  simp only [resolve_eq_error_iff, exists_and_left]

def shown (site : Site) : List Value :=
  (if site.hasMember then [if site.method.truthy then site.method else site.property] else []) ++
    (if site.filename.truthy then [site.filename] else []) ++
      if site.line.truthy then
        site.line :: if site.character.truthy then [site.character] else []
      else []

end Verbatim

end FactScope
