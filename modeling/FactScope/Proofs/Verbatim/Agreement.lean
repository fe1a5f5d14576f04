import FactScope.Proofs.Verbatim.Refusal

namespace FactScope

open Text (Points)
open Text.Points (ofChars)

namespace QualifiedName

theorem ofChars_inj {a b : List Char} : ofChars a = ofChars b ↔ a = b := by
  constructor
  · intro h
    rw [← Text.Points.chars_ofChars a, h, Text.Points.chars_ofChars]
  · rintro rfl
    rfl

theorem toNat_eq_sep_iff {c : Char} : c.toNat = sep ↔ c = sep := by
  constructor
  · intro h
    have hchars : ofChars [c] = ofChars [sep] := congrArg (fun code => [code]) h
    exact List.singleton_inj.mp (ofChars_inj.mp hchars)
  · rintro rfl
    rfl

variable {name : List Char}

theorem isAbsolute_ofChars (name : List Char) : isAbsolute (ofChars name) = isAbsolute name := by
  cases name with
  | nil => rfl
  | cons c rest =>
      rw [Bool.eq_iff_iff]
      simpa [isAbsolute, ofChars] using toNat_eq_sep_iff

theorem isQualified_ofChars (name : List Char) : isQualified (ofChars name) = isQualified name := by
  rw [Bool.eq_iff_iff]
  simp [isQualified, ofChars, toNat_eq_sep_iff]

theorem relative_ofChars (name : List Char) :
    relative (ofChars name) = ofChars (relative name) := by
  have hsep : (fun c : Char => c.toNat == sep) = (· == sep) := by
    funext c
    rw [Bool.eq_iff_iff, beq_iff_eq, beq_iff_eq, toNat_eq_sep_iff]
  rw [relative, relative, ofChars, ofChars, List.dropWhile_map]
  exact congrArg _ (congrArg (List.dropWhile · name) hsep)

theorem collapse_ofChars (name : List Char) :
    collapse (ofChars name) = ofChars (collapse name) := by
  fun_induction collapse name with
  | case1 => rfl
  | case2 => rfl
  | case3 c d rest hsep ih =>
      obtain ⟨rfl, rfl⟩ := hsep
      exact congrArg (sep :: ·) ih
  | case4 c d rest hsep ih =>
      have hcodes : ¬(c.toNat = sep ∧ d.toNat = sep) := by
        rwa [toNat_eq_sep_iff, toNat_eq_sep_iff]
      have hcons : ofChars (c :: d :: rest) = c.toNat :: d.toNat :: ofChars rest := rfl
      rw [hcons, collapse, if_neg hcodes]
      exact congrArg (c.toNat :: ·) ih

theorem sameName_ofChars (a b : List Char) : sameName (ofChars a) (ofChars b) = sameName a b := by
  have hlower (text : List Char) :
      Alphabet.lower (ofChars text) = ofChars (Alphabet.lower text) := Text.Points.lower_ofChars text
  rw [Bool.eq_iff_iff, sameName, sameName, hlower, hlower, beq_iff_eq, beq_iff_eq, ofChars_inj]

end QualifiedName

namespace Resolution

open QualifiedName

variable (reference used target : List Char)

theorem covers_ofChars : covers (ofChars reference) (ofChars used) = covers reference used := by
  have hlength : (ofChars used).length = used.length := List.length_map ..
  have hslice : (ofChars reference).take (used.length + 1) =
      ofChars (reference.take (used.length + 1)) := List.map_take.symm
  have halias : ofChars used ++ [sep] = ofChars (used ++ [sep]) := by
    rw [ofChars, ofChars, List.map_append]
    rfl
  rw [covers, covers, isQualified_ofChars, hlength, hslice, halias, sameName_ofChars,
    sameName_ofChars]

theorem remainder_ofChars :
    remainder (ofChars reference) (ofChars used) = ofChars (remainder reference used) := by
  have hlength : (ofChars used).length = used.length := List.length_map ..
  have hrest : (ofChars reference).drop used.length = ofChars (reference.drop used.length) :=
    List.map_drop.symm
  rw [remainder, remainder, isQualified_ofChars, hlength, hrest]
  split <;> rfl

theorem expand_ofChars : expand (ofChars reference) (ofChars used) (ofChars target) =
    ofChars (expand reference used target) := by
  rw [expand, expand, relative_ofChars, remainder_ofChars, ofChars, ofChars, ofChars,
    List.map_append]
  rfl

end Resolution

namespace Verbatim

open QualifiedName Resolution

def Told (value : Value) : Prop :=
  value.written = .ok (.ofString value.toText)

/-- A scope without data of files, and with aliases that have texts. -/
structure Legible (scope : Scope) : Prop where
  space_ne : ∀ d, scope.space ≠ .datum d
  type_ne : ∀ type, scope.enclosingType? = some type → ∀ d, type ≠ .datum d
  told : ∀ entry ∈ scope.aliases, Told entry.1 ∧ Told entry.2

def Naming.ofStrings (resolution : Resolution) : Naming :=
  ⟨.ofString resolution.name, resolution.aliasUse.map fun use =>
    ⟨.ofString use.reference, use.used, .ofString use.resolved⟩⟩

variable {scope : Scope} {reference value : Value}

theorem ofString_ofList (text : List Char) :
    Points.ofString (String.ofList text) = ofChars text := by
  rw [Points.ofString, String.toList_ofList]

theorem ofString_append (a b : String) :
    Points.ofString (a ++ b) = Points.ofString a ++ Points.ofString b := by
  simp [Points.ofString, ofChars]

theorem currentNamespace_eq (h : ∀ d, scope.space ≠ .datum d) :
    currentNamespace scope = scope.currentNamespace.map (Points.ofString ·) := by
  unfold currentNamespace Scope.currentNamespace
  split
  · cases hspace : scope.space with
    | text space =>
        have hpadded : [sep] ++ Points.ofString space ++ [sep] =
            ofChars (sep :: space.toList ++ [sep]) := by
          simp [ofChars]
          rfl
        have hname : collapse ([sep] ++ Points.ofString space ++ [sep]) =
            Points.ofString (String.ofList (collapse (sep :: space.toList ++ [sep]))) := by
          rw [hpadded, collapse_ofChars, ofString_ofList]
        exact congrArg Except.ok hname
    | datum d => exact absurd hspace (h d)
    | _ => rfl
  · rfl

theorem lowered_text (s : String) :
    lowered (.text s) = .ok (.text (String.ofList (Text.Lowercase.lower s.toList))) := by
  have hlower : Value.ofPoints (Points.lower (.ofString s)) =
      .text (String.ofList (Text.Lowercase.lower s.toList)) := by
    rw [Text.Points.lower_ofChars, ← ofString_ofList, Value.ofPoints_ofString]
  exact congrArg Except.ok hlower

theorem viaAlias?_eq {aliases : List (Value × Value)}
    (h : ∀ entry ∈ aliases, Told entry.1 ∧ Told entry.2) (written : String) :
    viaAlias? (.ofString written) aliases =
      .ok ((Resolution.viaAlias? aliases written).map Naming.ofStrings) := by
  induction aliases with
  | nil => rfl
  | cons entry rest ih =>
      obtain ⟨⟨hused, htarget⟩, hrest⟩ := List.forall_mem_cons.mp h
      obtain ⟨used, target⟩ := entry
      have hcovers : covers (Points.ofString written) (Points.ofString used.toText) =
          covers written.toList used.toText.toList := covers_ofChars ..
      rw [viaAlias?, hused, Resolution.viaAlias?, firstCovering?, List.find?_cons]
      simp only [bind, Except.bind]
      rw [hcovers]
      cases covers written.toList used.toText.toList with
      | true =>
          have hname : expand (Points.ofString written) (Points.ofString used.toText)
              (Points.ofString target.toText) =
                Points.ofString (byAlias written (used, target)).name := by
            rw [byAlias, ofString_ofList]
            exact expand_ofChars ..
          have htold : (if isQualified (Points.ofString written) then
              Value.ofPoints (.ofString used.toText) else used) = told written.toList used := by
            rw [Points.ofString, isQualified_ofChars, Value.ofPoints_ofString, told]
          rw [if_pos rfl, htarget]
          simp only [hname, htold]
          rfl
      | false =>
          rw [if_neg Bool.false_ne_true]
          exact ih hrest

theorem ofOther_eq (h : Legible scope) (space written : String) :
    ofOther scope (.ofString space) (.text written) =
      .ok (.ofStrings (Resolution.ofOther scope space written)) := by
  have habsolute : isAbsolute (Points.ofString written) = isAbsolute written.toList :=
    isAbsolute_ofChars _
  change (if isAbsolute (Points.ofString written) then _ else _) = _
  unfold Resolution.ofOther
  rw [habsolute, viaAlias?_eq h.told]
  split
  · rfl
  · cases Resolution.viaAlias? scope.aliases written with
    | some resolution => rfl
    | none =>
        exact congrArg (fun name => Except.ok (Naming.mk name none))
          (ofString_append space written).symm

theorem named?_text {type written : String} (h : scope.enclosingType? = some (.text type)) :
    named? scope (.text written) =
      .ok (if sameName written.toList type.toList then some (.text type) else none) := by
  have hsame : Value.text (String.ofList (Text.Lowercase.lower written.toList)) =
      .text (String.ofList (Text.Lowercase.lower type.toList)) ↔
        sameName written.toList type.toList = true := by
    rw [Value.text.injEq, String.ofList_inj, sameName, beq_iff_eq]
    rfl
  simp only [named?, h, lowered_text]
  exact congrArg Except.ok (ite_congr (propext hsame) (fun _ => rfl) fun _ => rfl)

/-- Where a scope is legible, names are resolved as among strings. -/
theorem resolve_eq (h : Legible scope) (hreference : ∀ d, reference ≠ .datum d) :
    resolve scope reference = (Resolution.resolve scope reference).map Naming.ofStrings := by
  unfold resolve Resolution.resolve
  split
  · rw [currentNamespace_eq h.space_ne]
    cases scope.currentNamespace with
    | error fault => rfl
    | ok space =>
        cases henclosed : scope.enclosingType? with
        | none =>
            simp only [named?, henclosed]
            cases reference with
            | text written => exact ofOther_eq h space written
            | datum d => exact absurd rfl (hreference d)
            | _ => rfl
        | some type =>
            cases reference with
            | text written =>
                cases type with
                | text name =>
                    simp only [named?_text henclosed]
                    by_cases hsame : sameName written.toList name.toList = true
                    · simp only [hsame, if_true]
                      exact congrArg (fun name => Except.ok (Naming.mk name none))
                        (ofString_append space name).symm
                    · simp only [if_neg hsame]
                      exact ofOther_eq h space written
                | datum d => exact absurd rfl (h.type_ne _ henclosed d)
                | _ =>
                    simp only [named?, henclosed, lowered_text]
                    rfl
            | datum d => exact absurd rfl (hreference d)
            | _ =>
                simp only [named?, henclosed]
                cases type <;> rfl
  · rfl

section

variable {site : Site}

theorem ownerName_eq (h : Legible site.scope) (hclass : ∀ d, site.scope.classType ≠ .datum d) :
    ownerName site = site.ownerName.map (Points.ofString ·) := by
  unfold ownerName Site.ownerName
  split
  · rw [resolve_eq h hclass]
    cases Resolution.resolve site.scope site.scope.classType <;> rfl
  · cases hvalue : site.scope.classType with
    | datum d => exact absurd hvalue (hclass d)
    | _ => rfl

theorem memberText_eq
    (h : Told (if site.method.truthy then site.method else site.property)) :
    memberText site = .ok (.ofString site.memberText) := by
  unfold memberText Site.memberText
  split at h
  · next hmethod =>
    rw [if_pos hmethod, if_pos hmethod, h, ofString_append, ofString_append]
    rfl
  · next hmethod =>
    rw [if_neg hmethod, if_neg hmethod, h, ofString_append]
    rfl

theorem join_eq (known words next : String) :
    join (.ofString known) words (.ofString next) = .ofString (Site.join known words next) := by
  have hempty : Points.ofString known = [] ↔ known = "" := by
    simp [Points.ofString, ofChars]
  unfold join Site.join
  by_cases hknown : known = ""
  · rw [if_pos hknown, if_pos (hempty.mpr hknown), ofString_append]
    rfl
  · rw [if_neg hknown, if_neg (mt hempty.mp hknown), ofString_append, ofString_append]

theorem withFile_eq (h : ∀ value ∈ shown site, Told value) (known : String) :
    withFile site (.ofString known) = .ok (.ofString
      (if site.filename.truthy then Site.join known " in " site.filename.toText else known)) := by
  unfold withFile
  split
  · next hgiven =>
    have htold : Told site.filename := h _ (by simp [shown, hgiven])
    rw [htold]
    exact congrArg Except.ok (join_eq ..)
  · rfl

theorem withLine_eq (h : ∀ value ∈ shown site, Told value) (known : String) :
    withLine site (.ofString known) = .ok (.ofString
      (if site.line.truthy then
        Site.join known " on " ("line " ++ site.line.toText ++
          if site.character.truthy then ":" ++ site.character.toText else "")
      else known)) := by
  unfold withLine
  split
  · next hline =>
    have hlineTold : Told site.line := h _ (by simp [shown, hline])
    rw [hlineTold]
    split
    · next hcharacter =>
      have htold : Told site.character := h _ (by simp [shown, hline, hcharacter])
      rw [htold, ← join_eq, ofString_append, ofString_append, ofString_append]
      simp only [bind, Except.bind, pure, Except.pure, List.append_assoc]
    · rw [String.append_empty, ← join_eq, ofString_append]
      rfl
  · rfl

/-- Where all that a description shows is told by strings, it is put together from these. -/
theorem describe_eq (hscope : Legible site.scope) (hclass : ∀ d, site.scope.classType ≠ .datum d)
    (h : ∀ value ∈ shown site, Told value) :
    describe site = site.describe.map (Points.ofString ·) := by
  have hplace (known : String) : (do withLine site (← withFile site (.ofString known))) =
      Except.ok (Points.ofString (site.withPlace known)) := by
    rw [withFile_eq h]
    exact withLine_eq h _
  unfold describe member Site.describe
  split
  · next hmember =>
    have htold : Told (if site.method.truthy then site.method else site.property) :=
      h _ (by simp [shown, hmember])
    rw [ownerName_eq hscope hclass, memberText_eq htold]
    cases site.ownerName with
    | error fault => rfl
    | ok owner =>
        simp only [bind, Except.bind, pure, Except.pure, Except.map, ← ofString_append]
        exact hplace _
  · exact hplace ""

end

end Verbatim

namespace Forest

open Verbatim

variable {f : Forest} {i : Nat}

theorem nameAt_eq (h : Legible (f.scope i)) {reference : Value}
    (hreference : ∀ d, reference ≠ .datum d) :
    f.nameAt i reference = (f.resolveAt i reference).map Naming.ofStrings :=
  resolve_eq h hreference

theorem locate_eq (hscope : Legible (f.scope i)) (hclass : ∀ d, f.see i .classType ≠ .datum d)
    (h : ∀ value ∈ shown (f.site i), Told value) :
    f.locate i = (f.describe i).map (Points.ofString ·) :=
  describe_eq hscope hclass h

end Forest

end FactScope
