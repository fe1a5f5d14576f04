import FactScope.Proofs.Resolution.Absolute
import FactScope.Proofs.Value.Text

namespace FactScope

open QualifiedName

namespace Scope

variable {scope other : Scope}

theorem enclosingType?_of_classType (h : scope.classType.truthy = true) :
    scope.enclosingType? = some scope.classType := by
  simp [enclosingType?, h]

theorem currentNamespace_congr (h : other.space = scope.space) :
    other.currentNamespace = scope.currentNamespace := by
  rw [currentNamespace, currentNamespace, h]

end Scope

theorem Resolution.resolve_classType {scope : Scope} (h : scope.classType.truthy = true) :
    resolve scope scope.classType = (do
      let space ← scope.currentNamespace
      match scope.classType with
      | .text name => return ⟨space ++ name, none⟩
      | other => throw (.noLowerCase other.kind)) := by
  have htype := Scope.enclosingType?_of_classType h
  rw [resolve, if_pos h, htype]
  cases scope.currentNamespace with
  | error fault => rfl
  | ok space =>
      cases hclass : scope.classType with
      | text name =>
          have hsame : sameName name.toList name.toList = true := sameName_iff.mpr rfl
          change (if sameName name.toList name.toList then _ else _) = _
          rw [if_pos hsame]
          rfl
      | _ => rfl

namespace Site

variable {site other : Site}

theorem ownerName_of_space (hclass : site.scope.classType.truthy = true)
    (hspace : site.scope.space.truthy = true) :
    site.ownerName = (do
      let space ← site.scope.currentNamespace
      match site.scope.classType with
      | .text name => return space ++ name
      | other => throw (.noLowerCase other.kind)) := by
  rw [ownerName, if_pos hspace, Resolution.resolve_classType hclass]
  cases site.scope.currentNamespace with
  | error fault => rfl
  | ok space => cases site.scope.classType <;> rfl

theorem ownerName_of_no_space (hspace : site.scope.space.truthy = false) :
    site.ownerName =
      match site.scope.classType with
      | .text name => return name
      | other => throw (.notJoinable other.kind) := by
  have hnone : ¬site.scope.space.truthy = true := by simp [hspace]
  unfold ownerName
  cases site.scope.classType <;> exact if_neg hnone

theorem ownerName_congr (h : site.scope.classType.truthy = true)
    (hclass : other.scope.classType = site.scope.classType)
    (hspace : other.scope.space = site.scope.space) : other.ownerName = site.ownerName := by
  cases hgiven : site.scope.space.truthy with
  | true =>
      rw [ownerName_of_space h hgiven, ownerName_of_space (hclass ▸ h) (hspace ▸ hgiven), hclass,
        Scope.currentNamespace_congr hspace]
  | false =>
      rw [ownerName_of_no_space hgiven, ownerName_of_no_space (hspace ▸ hgiven), hclass]

theorem ownerName_text {name space : String} (hclass : site.scope.classType = .text name)
    (hne : name ≠ "") (hspace : site.scope.currentNamespace = .ok space) :
    site.ownerName = .ok ((if site.scope.space.truthy then space else "") ++ name) := by
  have hgiven : site.scope.classType.truthy = true := hclass ▸ Resolution.truthy_text hne
  cases hspaced : site.scope.space.truthy with
  | true =>
      rw [ownerName_of_space hgiven hspaced, hspace, hclass]
      rfl
  | false =>
      rw [ownerName_of_no_space hspaced, hclass, if_neg (by decide), String.empty_append]
      rfl

/-- A segment of a description, and the words between it and what stands before it. -/
structure Segment where
  words : String
  text : String

def Segment.spelled : List Segment → String
  | [] => ""
  | first :: rest =>
      first.text ++ String.join (rest.map fun segment => segment.words ++ segment.text)

def Segment.joined (known : String) (segments : List Segment) : String :=
  segments.foldl (fun known segment => join known segment.words segment.text) known

def memberSegment? (site : Site) (space : String) : Option Segment :=
  if site.scope.classType.truthy ∧ (site.method.truthy ∨ site.property.truthy) then
    some ⟨"", (if site.scope.space.truthy then space else "") ++ site.scope.classType.toText ++
      if site.method.truthy then
        (if site.static.truthy then "::" else "->") ++ site.method.toText ++ "()"
      else (if site.static.truthy then "::$" else "->") ++ site.property.toText⟩
  else none

def fileSegment? (site : Site) : Option Segment :=
  if site.filename.truthy then some ⟨" in ", site.filename.toText⟩ else none

def lineSegment? (site : Site) : Option Segment :=
  if site.line.truthy then
    some ⟨" on ", "line " ++ site.line.toText ++
      if site.character.truthy then ":" ++ site.character.toText else ""⟩
  else none

def segments (site : Site) (space : String) : List Segment :=
  (site.memberSegment? space).toList ++ site.fileSegment?.toList ++ site.lineSegment?.toList

def facts : List Fact :=
  [.classType, .method, .property, .static, .space, .filename, .line, .character]

theorem join_of_ne_empty {known : String} (h : known ≠ "") (words next : String) :
    join known words next = known ++ (words ++ next) := by
  rw [join, if_neg h, String.append_assoc]

theorem join_empty (words next : String) : join "" words next = next := by
  simp [join]

namespace Segment

theorem joined_of_ne_empty {known : String} (h : known ≠ "") (segments : List Segment) :
    joined known segments =
      known ++ String.join (segments.map fun segment => segment.words ++ segment.text) := by
  induction segments generalizing known with
  | nil => simp [joined]
  | cons segment rest ih =>
      have hne : known ++ (segment.words ++ segment.text) ≠ "" := by simp [h]
      have hstep : joined known (segment :: rest) =
          joined (known ++ (segment.words ++ segment.text)) rest := by
        rw [joined, List.foldl_cons, join_of_ne_empty h]
        rfl
      rw [hstep, ih hne, List.map_cons, String.join_cons, String.append_assoc]

theorem joined_eq_spelled {segments : List Segment}
    (h : ∀ first ∈ segments.head?, first.text ≠ "") : joined "" segments = spelled segments := by
  cases segments with
  | nil => rfl
  | cons first rest =>
      have hfirst : first.text ≠ "" := h first rfl
      have hstep : joined "" (first :: rest) = joined first.text rest := by
        rw [joined, List.foldl_cons, join_empty]
        rfl
      rw [hstep, joined_of_ne_empty hfirst, spelled]

theorem spelled_eq_empty_iff {segments : List Segment}
    (h : ∀ first ∈ segments.head?, first.text ≠ "") : spelled segments = "" ↔ segments = [] := by
  cases segments with
  | nil => simp [spelled]
  | cons first rest =>
      have hfirst : first.text ≠ "" := h first rfl
      simp [spelled, hfirst]

end Segment

theorem withPlace_eq_joined (site : Site) (member : String) :
    site.withPlace member =
      Segment.joined member (site.fileSegment?.toList ++ site.lineSegment?.toList) := by
  unfold withPlace fileSegment? lineSegment? Segment.joined
  cases site.filename.truthy <;> cases site.line.truthy <;> rfl

theorem hasMember_iff :
    site.hasMember = true ↔
      site.scope.classType.truthy = true ∧
        (site.method.truthy = true ∨ site.property.truthy = true) := by
  simp [hasMember]

theorem describe_eq_joined {space : String}
    (hclass : site.scope.classType.truthy = true → ∃ name, site.scope.classType = .text name)
    (hspace : site.scope.currentNamespace = .ok space) :
    site.describe = .ok (Segment.joined "" (site.segments space)) := by
  by_cases hthere : site.scope.classType.truthy = true ∧
      (site.method.truthy = true ∨ site.property.truthy = true)
  · obtain ⟨name, hname⟩ := hclass hthere.1
    have hne : name ≠ "" := by
      rintro rfl
      rw [hname] at hthere
      cases hthere.1
    rw [describe, if_pos (hasMember_iff.mpr hthere), ownerName_text hname hne hspace, segments,
      memberSegment?, if_pos hthere, hname]
    change Except.ok _ = Except.ok _
    rw [withPlace_eq_joined, Option.toList_some, List.singleton_append, List.cons_append,
      Segment.joined, Segment.joined, List.foldl_cons, join_empty]
    rfl
  · rw [describe, if_neg (mt hasMember_iff.mp hthere), segments, memberSegment?, if_neg hthere,
      withPlace_eq_joined]
    rfl

theorem head?_segments_ne_empty (space : String)
    (hclass : site.scope.classType.truthy = true → ∃ name, site.scope.classType = .text name)
    (hfile : site.filename.truthy = true → site.filename.toText ≠ "") :
    ∀ first ∈ (site.segments space).head?, first.text ≠ "" := by
  intro first hfirst
  have hmem : first ∈ site.segments space := List.mem_of_head? hfirst
  simp only [segments, List.mem_append, Option.mem_toList, memberSegment?, fileSegment?,
    lineSegment?, Option.ite_none_right_eq_some, Option.some.injEq] at hmem
  rcases hmem with (⟨hthere, rfl⟩ | ⟨hthere, rfl⟩) | ⟨-, rfl⟩
  · obtain ⟨name, hname⟩ := hclass hthere.1
    have hne : name ≠ "" := by
      rintro rfl
      rw [hname] at hthere
      cases hthere.1
    simp [hname, hne]
  · exact hfile hthere
  · simp

theorem describe_congr (hclass : other.scope.classType = site.scope.classType)
    (hspace : other.scope.space = site.scope.space) (hmethod : other.method = site.method)
    (hproperty : other.property = site.property) (hstatic : other.static = site.static)
    (hfilename : other.filename = site.filename) (hline : other.line = site.line)
    (hcharacter : other.character = site.character) : other.describe = site.describe := by
  have hmember : other.hasMember = site.hasMember := by
    rw [hasMember, hasMember, hclass, hmethod, hproperty]
  have htext : other.memberText = site.memberText := by
    rw [memberText, memberText, hmethod, hproperty, hstatic]
  have hplace : other.withPlace = site.withPlace := by
    funext member
    rw [withPlace, withPlace, hfilename, hline, hcharacter]
  rw [describe, describe, hmember, htext, hplace]
  cases hthere : site.hasMember with
  | true =>
      have hgiven : site.scope.classType.truthy = true := (Bool.and_eq_true_iff.mp hthere).1
      rw [ownerName_congr hgiven hclass hspace]
  | false => rfl

end Site

namespace Forest

open Site

/-- Where class and namespace are texts if given, a description is the segments that are there in
their order, behind their words but for the first, so it is empty only if none is there. All that
it depends on is the eight facts that the segments show. The exceptions are files that count as
given and have an empty text. -/
theorem describe_by_segments (f g : Forest) (i j : Nat) :
    (((f.see i .classType).truthy = true → ∃ name, f.see i .classType = .text name) →
      ((f.see i .space).truthy = true → ∃ space, f.see i .space = .text space) →
      ∃ space, (f.scope i).currentNamespace = .ok space ∧
        let segments := (f.site i).segments space
        f.describe i = .ok (Segment.joined "" segments) ∧
          ((∀ model, f.see i .filename ≠ .record model []) →
            f.see i .filename ≠ .datum (.points []) →
            f.describe i = .ok (Segment.spelled segments) ∧
              (Segment.spelled segments = "" ↔ segments = []))) ∧
    ((∀ fact ∈ Site.facts, g.see j fact = f.see i fact) → g.describe j = f.describe i) := by
  constructor
  · intro hclass hspace
    have hnamespace : ∃ space, (f.scope i).currentNamespace = .ok space ∧
        isAbsolute space.toList = true := Scope.exists_currentNamespace hspace
    obtain ⟨space, hcurrent, -⟩ := hnamespace
    refine ⟨space, hcurrent, ?_⟩
    intro segments
    have hjoined : (f.site i).describe = .ok (Segment.joined "" segments) :=
      describe_eq_joined hclass hcurrent
    refine ⟨hjoined, ?_⟩
    intro hrecord hpoints
    have hfile : (f.site i).filename.truthy = true → (f.site i).filename.toText ≠ "" :=
      fun hgiven => Value.toText_ne_empty hgiven hrecord hpoints
    have hfirst : ∀ first ∈ segments.head?, first.text ≠ "" :=
      head?_segments_ne_empty space hclass hfile
    rw [describe, hjoined, Segment.joined_eq_spelled hfirst]
    exact ⟨rfl, Segment.spelled_eq_empty_iff hfirst⟩
  · intro hsee
    have hsite : (g.site j).describe = (f.site i).describe :=
      describe_congr (hsee .classType (by decide)) (hsee .space (by decide))
        (hsee .method (by decide)) (hsee .property (by decide)) (hsee .static (by decide))
        (hsee .filename (by decide)) (hsee .line (by decide)) (hsee .character (by decide))
    exact hsite

theorem describe_by_segments_in_class :
    let f := (Session.start.run
      [.newRoot [("namespace", .text "App"), ("filename", .text "f.php"), ("line", .int 10)],
        .child 0 [("class", .text "Foo"), ("uses", .object [("Foo", .text "Lib\\Foo")])],
        .child 1 [("method", .text "bar"), ("static", .bool true)]]).forest
    let g := (Session.start.newRoot [("line", .int 10), ("static", .bool true),
      ("interface", .text "Named"), ("method", .text "bar"), ("class", .text "Foo"),
      ("filename", .text "f.php"), ("namespace", .text "App")]).forest
    f.describe 2 = .ok "\\App\\Foo::bar() in f.php on line 10" ∧ g.describe 0 = f.describe 2 := by
  intro f g
  have hseen : f.see 2 .classType = .text "Foo" ∧ f.see 2 .space = .text "App" ∧
      f.see 2 .filename = .text "f.php" := by decide +kernel
  obtain ⟨hclass, hspace, hfile⟩ := hseen
  obtain ⟨hdescribed, hagree⟩ := describe_by_segments f g 2 0
  obtain ⟨space, hcurrent, -, hspelled⟩ :=
    hdescribed (fun _ => ⟨"Foo", hclass⟩) (fun _ => ⟨"App", hspace⟩)
  have hroot : (f.scope 2).currentNamespace = .ok "\\App\\" := by
    rw [Scope.currentNamespace, show (f.scope 2).space = .text "App" from hspace]
    exact congrArg Except.ok (by decide +kernel)
  obtain rfl : space = "\\App\\" := Except.ok.inj (hcurrent.symm.trans hroot)
  constructor
  · rw [(hspelled (by simp [hfile]) (by simp [hfile])).1]
    exact congrArg Except.ok (by decide +kernel)
  · exact hagree (by decide +kernel)

end Forest

end FactScope
