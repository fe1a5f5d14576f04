import FactScope.Detection
import FactScope.Proofs.Detection.Recorded
import FactScope.Proofs.Location.Segment
import FactScope.Proofs.Resolution.Course
import FactScope.Proofs.Session.Mark
import FactScope.Proofs.Session.Ownership

namespace FactScope

open QualifiedName

namespace Session

variable {s : Session} {supplied : Entries Value}

theorem facts_newRoot_last (s : Session) (hlogger : Fact.logger.name ∉ supplied.keys)
    (hversion : Fact.version.name ∉ supplied.keys) :
    (s.newRoot supplied).forest.facts s.forest.size =
      supplied ++
        [(Fact.logger.name, defaultLogger), (Fact.version.name, .text s.default.text)] := by
  have hnoLogger : supplied.get? Fact.logger.name = none := Entries.get?_eq_none_iff.mpr hlogger
  have hunseen : s.forest.foresee supplied none .version = .null :=
    Forest.foresee_root_of_get?_none (Entries.get?_eq_none_iff.mpr hversion)
  have hlast : (s.newRoot supplied).forest.facts s.forest.size =
      s.forest.ownFacts s.default supplied none := facts_build_last s supplied none
  have hbehind : Fact.version.name ∉
      Entries.keys (supplied ++ [(Fact.logger.name, defaultLogger)]) := by
    simp only [Entries.keys, List.map_append, List.mem_append, not_or]
    exact ⟨hversion, by decide⟩
  rw [hlast, Forest.ownFacts, if_neg (by simp [hunseen, Value.truthy]),
    Forest.withLogger_root hnoLogger, Entries.put_of_not_mem hlogger,
    Entries.put_of_not_mem hbehind, List.append_assoc]
  rfl

end Session

theorem Site.describe_method {site : Site} {owner space : String}
    (hclass : site.scope.classType = .text owner) (hne : owner ≠ "")
    (hgiven : site.scope.space.truthy = true) (hspace : site.scope.currentNamespace = .ok space)
    (hmethod : site.method.truthy = true) (hfile : site.filename.truthy = true)
    (hline : site.line.truthy = true) (hcharacter : ¬site.character.truthy = true) :
    site.describe = .ok (space ++ owner ++ (if site.static.truthy then "::" else "->") ++
      site.method.toText ++ "() in " ++ site.filename.toText ++ " on line " ++
        site.line.toText) := by
  have hthere : site.hasMember = true :=
    hasMember_iff.mpr ⟨hclass ▸ Resolution.truthy_text hne, .inl hmethod⟩
  have hmember : space ++ owner ++ site.memberText ≠ "" := by simp [hne]
  have htext : space ++ owner ++ site.memberText ++ (" in " ++ site.filename.toText) ≠ "" := by
    simp [hne]
  have hin : "() in " = "()" ++ " in " := rfl
  have hon : " on line " = " on " ++ "line " := rfl
  rw [describe, if_pos hthere, ownerName_text hclass hne hspace, if_pos hgiven]
  change Except.ok (site.withPlace (space ++ owner ++ site.memberText)) = _
  rw [withPlace, if_pos hfile, if_pos hline, join_of_ne_empty hmember, join_of_ne_empty htext,
    memberText, if_pos hmethod, if_neg hcharacter, hin, hon]
  simp only [String.append_assoc, String.append_empty]

namespace Resolution

/-- Where no alias is known, a reference is the enclosing class without regard to case, or absolute,
or in the current namespace. -/
theorem resolve_of_no_alias {scope : Scope} {owner space : String} (haliases : scope.aliases = [])
    (hclass : scope.classType = .text owner) (hne : owner ≠ "")
    (hspace : scope.currentNamespace = .ok space) (written : String) :
    resolve scope (.text written) =
      .ok ⟨if written = "" then ""
        else if Text.Lowercase.lower written.toList = Text.Lowercase.lower owner.toList then
          space ++ owner
        else if isAbsolute written.toList then written
        else space ++ written, none⟩ := by
  by_cases hwritten : written = ""
  · subst hwritten
    rfl
  · have htype : scope.enclosingType? = some (.text owner) :=
      hclass ▸ Scope.enclosingType?_of_classType (hclass ▸ truthy_text hne)
    rw [resolve_text hwritten hspace, htype, if_neg hwritten]
    simp only [sameName_iff, ofOther, viaAlias?, firstCovering?, haliases, List.find?_nil,
      Option.map_none]
    split
    · rfl
    · split <;> rfl

end Resolution

namespace Frame

/-- A call of a named method of a named class in a dotted module, at a known place. -/
structure InMethod (frame : Frame) (parts : List String) (owner : String) (static : Bool) :
    Prop where
  filename_given : frame.filename.truthy = true
  line_given : frame.line.truthy = true
  function_ne : frame.function ≠ ""
  function_named : frame.function.toList.head? ≠ some '<'
  belongsTo : frame.BelongsTo owner static
  owner_ne : owner ≠ ""
  moduleName_eq : frame.moduleName = some (".".intercalate parts)
  path : DottedPath parts

variable {frame : Frame} {parts : List String} {owner : String} {static : Bool} {f : Forest}
  {i : Nat}

theorem InMethod.site_eq (h : frame.InMethod parts owner static)
    (hroot : f.parent? i = none) (hown : frame.Recorded (f.facts i)) :
    f.site i =
      { scope :=
          { space := .text ("\\".intercalate parts), classType := .text owner,
            interfaceType := .null, traitType := .null, uses := .null }
        method := .text frame.function
        property := .null
        static := if static then .bool true else .null
        filename := frame.filename
        line := frame.line
        character := .null } := by
  have hsee : ∀ (fact : Fact) (value : Value), (f.facts i).get? fact.name = some value →
      f.see i fact = value := by
    intro fact value hget
    rw [Forest.see_of_root hroot, hget, Option.getD_some]
  -- A call leads to no other facts, so the others are seen as not recorded.
  have hunseen : ∀ fact : Fact,
      fact.name ∉ (recordable ++ [Fact.logger, Fact.version]).map Fact.name →
        f.see i fact = .null := by
    intro fact hname
    rw [Forest.see_of_root hroot, Entries.get?_of_keys_subset hown.keys_subset hname,
      Option.getD_none]
  have hspace : f.see i .space = .text ("\\".intercalate parts) := by
    apply hsee
    rw [hown.space_iff]
    refine ⟨⟨owner, static, h.belongsTo⟩, _, h.moduleName_eq, h.path.intercalate_ne _, ?_⟩
    rw [namespaceOf_intercalate h.path.no_dot]
  have hclass : f.see i .classType = .text owner :=
    hsee _ _ ((hown.class_iff _).mpr ⟨owner, static, h.belongsTo, rfl⟩)
  have hmethod : f.see i .method = .text frame.function :=
    hsee _ _ ((hown.method_iff _).mpr ⟨h.function_named, rfl⟩)
  have hstatic : f.see i .static = if static then .bool true else .null := by
    rw [Forest.see_of_root hroot, hown.get?_static h.belongsTo]
    cases static <;> rfl
  simp only [Forest.site, Forest.scope]
  rw [hspace, hclass, hmethod, hstatic, hsee _ _ hown.filename_eq, hsee _ _ hown.line_eq,
    hunseen .interfaceType (by decide), hunseen .traitType (by decide), hunseen .uses (by decide),
    hunseen .property (by decide), hunseen .character (by decide)]

theorem InMethod.currentNamespace_eq (h : frame.InMethod parts owner static)
    (hroot : f.parent? i = none) (hown : frame.Recorded (f.facts i)) :
    (f.scope i).currentNamespace = .ok ("\\" ++ "\\".intercalate parts ++ "\\") :=
  Scope.currentNamespace_of_path h.path
    (congrArg (fun site => site.scope.space) (h.site_eq hroot hown))

theorem InMethod.describe_eq (h : frame.InMethod parts owner static)
    (hroot : f.parent? i = none) (hown : frame.Recorded (f.facts i)) :
    f.describe i = .ok ("\\" ++ "\\".intercalate parts ++ "\\" ++ owner ++
      (if static then "::" else "->") ++ frame.function ++ "() in " ++ frame.filename.toText ++
        " on line " ++ frame.line.toText) := by
  have hspaced : (Value.text ("\\".intercalate parts)).truthy = true :=
    Resolution.truthy_text (h.path.intercalate_ne _)
  have hmethod : (Value.text frame.function).truthy = true := Resolution.truthy_text h.function_ne
  have hnoCharacter : ¬Value.null.truthy = true := Bool.false_ne_true
  rw [Forest.describe, h.site_eq hroot hown]
  trans
  · exact Site.describe_method rfl h.owner_ne hspaced (Scope.currentNamespace_of_path h.path rfl)
      hmethod h.filename_given h.line_given hnoCharacter
  · cases static <;> rfl

theorem InMethod.resolveAt_eq (h : frame.InMethod parts owner static)
    (hroot : f.parent? i = none) (hown : frame.Recorded (f.facts i)) (written : String) :
    f.resolveAt i (.text written) =
      .ok ⟨if written = "" then ""
        else if Text.Lowercase.lower written.toList = Text.Lowercase.lower owner.toList then
          "\\" ++ "\\".intercalate parts ++ "\\" ++ owner
        else if isAbsolute written.toList then written
        else "\\" ++ "\\".intercalate parts ++ "\\" ++ written, none⟩ := by
  have hscope : f.scope i = _ := congrArg Site.scope (h.site_eq hroot hown)
  have haliases : (f.scope i).aliases = [] := by
    rw [hscope]
    rfl
  exact Resolution.resolve_of_no_alias haliases (congrArg Scope.classType hscope) h.owner_ne
    (h.currentNamespace_eq hroot hown) written

end Frame

namespace Session

variable {s : Session} {frames others : List Frame} {index otherIndex : Int} {frame : Frame}

theorem detect_congr (s : Session)
    (h : others[otherIndex.toNat]? = frames[index.toNat]?) :
    s.detect others otherIndex = s.detect frames index := by
  have hfacts : CallStack.facts others otherIndex = CallStack.facts frames index := by
    rw [CallStack.facts, CallStack.facts, CallStack.caller?_eq_getElem?,
      CallStack.caller?_eq_getElem?, h]
  rw [detect, detect, hfacts]

theorem facts_detect_of_caller (s : Session) (h : frames[index.toNat]? = some frame) :
    (s.detect frames index).session.forest.facts s.forest.size =
      frame.facts ++
        [(Fact.logger.name, defaultLogger), (Fact.version.name, .text s.default.text)] := by
  have hfacts : CallStack.facts frames index = frame.facts := by
    rw [CallStack.facts, CallStack.caller?_eq_getElem?, h]
  rw [detect, hfacts]
  exact facts_newRoot_last s (fun hmem => absurd (frame.keys_facts hmem) (by decide))
    fun hmem => absurd (frame.keys_facts hmem) (by decide)

theorem facts_detect_of_no_caller (s : Session) (h : frames[index.toNat]? = none) :
    (s.detect frames index).session.forest.facts s.forest.size =
      [(Fact.logger.name, defaultLogger), (Fact.version.name, .text s.default.text)] := by
  have hfacts : CallStack.facts frames index = [] := by
    rw [CallStack.facts, CallStack.caller?_eq_getElem?, h]
  rw [detect, hfacts]
  exact facts_newRoot_last s List.not_mem_nil List.not_mem_nil

/-- A detection gives a new root and one notice. Beyond the outermost call the root has a logger and
a version only, else it depends on the one call at the position asked for and records what that
tells. In a method of a class in a dotted module it is described by module, class, method, file and
line, and every reference resolves without an alias, the class to its absolute name. -/
theorem detect_by_caller (s : Session) (frames : List Frame) (index : Int) :
    let d := s.detect frames index
    let f := d.session.forest
    let root := s.forest.size
    d.notices = [.deprecation CallStack.advice] ∧ f.size = root + 1 ∧ f.isRoot root = true ∧
    (frames = [] ∨ (frames.length : Int) ≤ max index 0 →
      f.facts root =
        [(Fact.logger.name, defaultLogger), (Fact.version.name, .text s.default.text)]) ∧
    (∀ (others : List Frame) (otherIndex : Int),
      others[otherIndex.toNat]? = frames[index.toNat]? → s.detect others otherIndex = d) ∧
    ∀ frame, frames[index.toNat]? = some frame → frame.Recorded (f.facts root) ∧
      ∀ parts owner static, frame.InMethod parts owner static →
        let space := "\\" ++ "\\".intercalate parts ++ "\\"
        f.describe root = .ok (space ++ owner ++ (if static then "::" else "->") ++
          frame.function ++ "() in " ++ frame.filename.toText ++ " on line " ++
            frame.line.toText) ∧
        f.resolveAt root .null = .ok ⟨"", none⟩ ∧
        ∀ written, f.resolveAt root (.text written) =
          .ok ⟨if written = "" then ""
            else if Text.Lowercase.lower written.toList = Text.Lowercase.lower owner.toList then
              space ++ owner
            else if isAbsolute written.toList then written
            else space ++ written, none⟩ := by
  intro d f root
  have hroot : f.parent? root = none := (parent?_build s _ none root).trans (if_pos rfl)
  refine ⟨rfl, Forest.size_create .., Option.isNone_iff_eq_none.mpr hroot, ?_, ?_, ?_⟩
  · intro hbeyond
    apply facts_detect_of_no_caller
    rw [List.getElem?_eq_none_iff]
    rcases hbeyond with rfl | hlength
    · exact Nat.zero_le _
    · omega
  · intro others otherIndex hcaller
    exact detect_congr s hcaller
  · intro frame hframe
    have hown : frame.Recorded (f.facts root) :=
      facts_detect_of_caller s hframe ▸ frame.recorded_facts _ _
    refine ⟨hown, ?_⟩
    intro parts owner static hmethod space
    exact ⟨hmethod.describe_eq hroot hown, Resolution.resolve_null _,
      hmethod.resolveAt_eq hroot hown⟩

theorem detect_by_caller_in_class_method :
    let inner : Frame :=
      { filename := .text "app/main.py", line := .int 3, function := "<lambda>",
        moduleName := some "tools", locals := [] }
    let method : Frame :=
      { filename := .text "app/main.py", line := .int 12, function := "run",
        moduleName := some "pkg.mod",
        locals := [("self", .nothing), ("cls", .type "Foo" "type")] }
    let f := (Session.start.detect [inner, method] 1).session.forest
    f.describe 0 = .ok "\\pkg\\mod\\Foo::run() in app/main.py on line 12" ∧
      f.resolveAt 0 (.text "fOO") = .ok ⟨"\\pkg\\mod\\Foo", none⟩ ∧
      f.resolveAt 0 (.text "Bar") = .ok ⟨"\\pkg\\mod\\Bar", none⟩ ∧
      Session.start.detect [method, inner] (-2) = Session.start.detect [inner, method] 1 ∧
      (Session.start.detect [inner, method] 3).session.forest.facts 0 =
        [("logger", defaultLogger), ("version", .text "3.0.0")] := by
  intro inner method f
  have hmethod : method.InMethod ["pkg", "mod"] "Foo" true :=
    { filename_given := by decide
      line_given := by decide
      function_ne := by decide
      function_named := by decide
      belongsTo := .type (.inr rfl) rfl
      owner_ne := by decide
      moduleName_eq := by decide +kernel
      path := ⟨by decide, by decide, by decide, by decide⟩ }
  obtain ⟨-, -, -, -, hothers, hcaller⟩ := detect_by_caller .start [inner, method] 1
  obtain ⟨hdescribe, -, hresolve⟩ := (hcaller method rfl).2 ["pkg", "mod"] "Foo" true hmethod
  obtain ⟨-, -, -, hbeyond, -⟩ := detect_by_caller .start [inner, method] 3
  refine ⟨?_, ?_, ?_, hothers _ _ rfl, hbeyond (.inr (by decide))⟩
  · exact hdescribe.trans (congrArg Except.ok (by decide +kernel))
  · exact (hresolve "fOO").trans (congrArg Except.ok (by decide +kernel))
  · exact (hresolve "Bar").trans (congrArg Except.ok (by decide +kernel))

end Session

end FactScope
