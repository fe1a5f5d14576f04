import FactScope.Proofs.Settings.Verdict

namespace FactScope

open Text (Points)

namespace Path

/-- A path whose components are those of a text. -/
def Normal (p : Path) : Prop :=
  ∀ piece ∈ p.components, isComponent piece = true ∧ slash ∉ piece

theorem not_mem_of_mem_split {text piece : Points} (h : piece ∈ split text) : slash ∉ piece := by
  induction text generalizing piece with
  | nil =>
      rw [split, List.mem_singleton] at h
      simp [h]
  | cons c rest ih =>
      rw [split] at h
      split at h
      · rcases List.mem_cons.mp h with rfl | hrest
        · simp
        · exact ih hrest
      · next hc =>
        split at h
        · rw [List.mem_singleton] at h
          simp [h, Ne.symm hc]
        · next first others hsplit =>
          rw [hsplit] at ih
          rcases List.mem_cons.mp h with rfl | hrest
          · have hfirst := ih (List.mem_cons_self (a := first))
            simp [hfirst, Ne.symm hc]
          · exact ih (List.mem_cons_of_mem _ hrest)

theorem normal_parse (text : Points) : (parse text).Normal := by
  intro piece hpiece
  obtain ⟨hsplit, hcomponent⟩ := List.mem_filter.mp hpiece
  exact ⟨hcomponent, not_mem_of_mem_split hsplit⟩

theorem split_of_not_mem {piece : Points} (h : slash ∉ piece) : split piece = [piece] := by
  induction piece with
  | nil => rfl
  | cons c rest ih =>
      rw [List.mem_cons, not_or] at h
      rw [split, if_neg (Ne.symm h.1), ih h.2]

theorem split_append_slash {piece : Points} (h : slash ∉ piece) (rest : Points) :
    split (piece ++ slash :: rest) = piece :: split rest := by
  induction piece with
  | nil => simp [split]
  | cons c tail ih =>
      rw [List.mem_cons, not_or] at h
      rw [List.cons_append, split, if_neg (Ne.symm h.1), ih h.2]

theorem filter_split_join {pieces : List Points}
    (h : ∀ piece ∈ pieces, isComponent piece = true ∧ slash ∉ piece) :
    (split (join pieces)).filter isComponent = pieces := by
  induction pieces with
  | nil => rfl
  | cons piece rest ih =>
      obtain ⟨⟨hcomponent, hslash⟩, hrest⟩ := List.forall_mem_cons.mp h
      cases rest with
      | nil => simp [join, split_of_not_mem hslash, hcomponent]
      | cons next others =>
          rw [join, split_append_slash hslash, List.filter_cons_of_pos hcomponent, ih hrest]
          nofun

theorem head?_join_ne {p : Path} (h : p.Normal) : (join p.components).head? ≠ some slash := by
  cases hp : p.components with
  | nil => nofun
  | cons piece rest =>
      obtain ⟨hcomponent, hslash⟩ := h piece (hp ▸ List.mem_cons_self)
      cases piece with
      | nil => cases hcomponent
      | cons c tail =>
          have hc : c ≠ slash := fun heq => hslash (heq ▸ List.mem_cons_self)
          cases rest <;> simpa [join] using hc

theorem takeWhile_slash {rest : Points} (h : rest.head? ≠ some slash) :
    rest.takeWhile (· == slash) = [] := by
  cases rest with
  | nil => rfl
  | cons c tail =>
      have hc : c ≠ slash := by simpa using h
      simp [hc]

theorem anchorOf_single {rest : Points} (h : rest.head? ≠ some slash) :
    anchorOf (slash :: rest) = .single := by
  simp [anchorOf, takeWhile_slash h]

theorem anchorOf_double {rest : Points} (h : rest.head? ≠ some slash) :
    anchorOf (slash :: slash :: rest) = .double := by
  simp [anchorOf, takeWhile_slash h]

theorem parse_text {p : Path} (h : p.Normal) (habsolute : p.isAbsolute = true) :
    parse p.text = p := by
  have hhead := head?_join_ne h
  have hpieces := filter_split_join h
  obtain ⟨anchor, components⟩ := p
  cases anchor with
  | relative => cases habsolute
  | single =>
      simp [text, parse, Anchor.text, anchorOf_single hhead, split, isComponent, hpieces]
  | double =>
      simp [text, parse, Anchor.text, anchorOf_double hhead, split, isComponent, hpieces]

theorem normal_home? {text : String} {base : Path} (h : home? text = some base) : base.Normal := by
  unfold home? at h
  split at h
  · cases h
    nofun
  · split at h
    · cases h
    · cases h
      exact normal_parse _

theorem normal_expandHome {home : String} {p path : Path} (hp : p.Normal)
    (h : p.expandHome home = .ok path) : path.Normal := by
  unfold expandHome at h
  split at h
  · next first user rest _ hcomponents =>
    split at h
    · cases h
      exact hp
    · split at h
      · split at h
        · next base hbase =>
          cases h
          intro piece hpiece
          rcases List.mem_append.mp hpiece with hmem | hmem
          · exact normal_home? hbase piece hmem
          · exact hp piece (hcomponents ▸ List.mem_cons_of_mem _ hmem)
        · cases h
      · cases h
  · cases h
    exact hp

theorem expandHome_of_isAbsolute {p : Path} (home : String) (h : p.isAbsolute = true) :
    p.expandHome home = .ok p := by
  obtain ⟨anchor, components⟩ := p
  cases anchor with
  | relative => cases h
  | _ => rfl

theorem head?_text {p : Path} (h : p.isAbsolute = true) : p.text.head? = some slash := by
  obtain ⟨anchor, components⟩ := p
  cases anchor with
  | relative => cases h
  | _ => simp [text, Anchor.text]

theorem text_ne {p : Path} (h : p.isAbsolute = true) {word : Points}
    (hword : word.head? ≠ some slash) : p.text ≠ word :=
  fun heq => hword (heq ▸ head?_text h)

end Path

/-- A standard stream, or a file by an absolute path in normal form. -/
def Destination.Normal : Destination → Prop
  | file path => path.Normal ∧ path.isAbsolute = true
  | _ => True

theorem Destination.Normal.exists_path_iff {destination : Destination} (h : destination.Normal) :
    (∃ path, destination = .file path) ↔
      destination.text ≠ .ofString "stderr" ∧ destination.text ≠ .ofString "stdout" := by
  cases destination with
  | stderr => simp [Destination.text]
  | stdout => simp [Destination.text]
  | file path =>
      refine ⟨fun _ => ⟨Path.text_ne h.2 (by decide), Path.text_ne h.2 (by decide)⟩, fun _ => ?_⟩
      exact ⟨path, rfl⟩

namespace Validation

theorem normal_of_destination {home : String} {value : Value} {destination : Destination}
    (h : Validation.destination home value = .accepted destination) : destination.Normal := by
  unfold Validation.destination at h
  split at h
  · cases h
  · next points _ =>
    split at h
    · cases h
      trivial
    · split at h
      · cases h
        trivial
      · split at h
        · split at h <;> cases h
        · next path hpath =>
          split at h
          · next habsolute =>
            cases h
            exact ⟨Path.normal_expandHome (Path.normal_parse _) hpath, habsolute⟩
          · unfold refusePath at h
            split at h <;> cases h

theorem textOf?_ofPoints (points : Points) : textOf? (.ofPoints points) = .ok points := by
  unfold Value.ofPoints
  split
  · next s hs => rw [textOf?, Text.Points.string?_eq_some_iff.mp hs]
  · rfl

theorem destination_value {destination : Destination} (home : String) (h : destination.Normal) :
    Validation.destination home destination.value = .accepted destination := by
  cases destination with
  | stderr => rfl
  | stdout => rfl
  | file path =>
      obtain ⟨hnormal, habsolute⟩ := h
      have htext : textOf? (Destination.file path).value = .ok path.text := textOf?_ofPoints _
      have hstderr : path.text ≠ .ofString "stderr" := Path.text_ne habsolute (by decide)
      have hstdout : path.text ≠ .ofString "stdout" := Path.text_ne habsolute (by decide)
      simp only [Validation.destination, htext, if_neg hstderr, if_neg hstdout,
        Path.parse_text hnormal habsolute, Path.expandHome_of_isAbsolute home habsolute, habsolute,
        if_true]

theorem level_name (level : Level) : Validation.level (.text level.name) = .accepted level := by
  rw [Validation.level, word, Level.ofName?_name]

theorem format_name (format : Format) :
    Validation.format (.text format.name) = .accepted format := by
  rw [Validation.format, word, Format.ofName?_name]

theorem optionalLevel_levelValue (level : Option Level) :
    optionalLevel (levelValue level) = .accepted level := by
  cases level with
  | none => rfl
  | some level =>
      rw [levelValue, optionalLevel, level_name]
      · rfl
      · nofun

theorem version_text (version : Version) :
    Validation.version (.text version.text) = .accepted version := by
  have hstring : (Text.Points.ofChars version.text.toList).string? = some version.text := by
    rw [Text.Points.string?_ofChars, String.ofList_toList]
  have hversion : Version.ofText? version.text = some version := Version.ofText?_eq_some_iff.mpr rfl
  simp only [Validation.version, textOf?, hstring, Option.bind_some, hversion]

theorem output_fields {output : OutputSettings} (home : String) (h : output.destination.Normal)
    {wrap : Entries Value → Value} (hwrap : ∀ {α : Type} (check : Entries Value → Verdict α) fields,
      model .output check (wrap fields) = check fields) :
    Validation.output home (wrap output.fields) = .accepted output := by
  rw [Validation.output, hwrap]
  refine Verdict.both_eq_accepted_iff.mpr
    ⟨output.format, (output.destination, output.level), ?_, ?_, rfl⟩
  · exact field_eq_accepted_iff.mpr (format_name output.format)
  · refine Verdict.both_eq_accepted_iff.mpr ⟨output.destination, output.level, ?_, ?_, rfl⟩
    · exact field_eq_accepted_iff.mpr (destination_value home h)
    · exact field_eq_accepted_iff.mpr (optionalLevel_levelValue output.level)

theorem normal_of_output {home : String} {value : Value} {output : OutputSettings}
    (h : Validation.output home value = .accepted output) : output.destination.Normal := by
  obtain ⟨fields, hfields⟩ := model_eq_accepted h
  obtain ⟨format, rest, -, hrest, rfl⟩ := Verdict.both_eq_accepted_iff.mp hfields
  obtain ⟨destination, level, hdestination, -, rfl⟩ := Verdict.both_eq_accepted_iff.mp hrest
  have htakes := field_eq_accepted_iff.mp hdestination
  unfold Takes at htakes
  split at htakes
  · rw [htakes]
    trivial
  · exact normal_of_destination htakes

end Validation

def LoggingSettings.Normal (logging : LoggingSettings) : Prop :=
  ∀ output ∈ logging.outputs, output.destination.Normal

namespace Validation

theorem normal_of_logging {home : String} {value : Value} {logging : LoggingSettings}
    (h : Validation.logging home value = .accepted logging) : logging.Normal := by
  obtain ⟨fields, hfields⟩ := model_eq_accepted h
  obtain ⟨level, outputs, -, houtputs, rfl⟩ := Verdict.both_eq_accepted_iff.mp hfields
  have htakes := field_eq_accepted_iff.mp houtputs
  intro output houtput
  unfold Takes at htakes
  split at htakes
  · rw [htakes] at houtput
    cases List.mem_singleton.mp houtput
    trivial
  · next value _ =>
    have hitems : ∃ values, items (Validation.output home) 0 values = .accepted outputs := by
      unfold Validation.outputs at htakes
      split at htakes
      · exact ⟨_, htakes⟩
      · exact ⟨_, htakes⟩
      · cases htakes
    obtain ⟨values, hitems⟩ := hitems
    obtain ⟨item, -, hitem⟩ := mem_items hitems houtput
    exact normal_of_output hitem

theorem outputs_list {logging : LoggingSettings} (home : String) (h : logging.Normal)
    {wrap : Entries Value → Value} (hwrap : ∀ {α : Type} (check : Entries Value → Verdict α) fields,
      model .output check (wrap fields) = check fields) :
    Validation.outputs home (.list (logging.outputs.map fun output => wrap output.fields)) =
      .accepted logging.outputs :=
  items_map (fun output houtput => output_fields home (h output houtput) hwrap) 0

/-- A logging section is accepted as it is, however its fields and those of its outputs are
wrapped. -/
theorem logging_fields {logging : LoggingSettings} (home : String) (h : logging.Normal)
    {wrap wrapOutput : Entries Value → Value}
    (hwrap : ∀ {α : Type} (check : Entries Value → Verdict α) fields,
      model .logging check (wrap fields) = check fields)
    (hwrapOutput : ∀ {α : Type} (check : Entries Value → Verdict α) fields,
      model .output check (wrapOutput fields) = check fields) :
    Validation.logging home (wrap (logging.fields wrapOutput)) = .accepted logging := by
  rw [Validation.logging, hwrap]
  refine Verdict.both_eq_accepted_iff.mpr ⟨logging.level, logging.outputs, ?_, ?_, rfl⟩
  · exact field_eq_accepted_iff.mpr (level_name logging.level)
  · exact field_eq_accepted_iff.mpr (outputs_list home h hwrapOutput)

theorem context_fields (context : ContextSettings) {wrap : Entries Value → Value}
    (hwrap : ∀ {α : Type} (check : Entries Value → Verdict α) fields,
      model .context check (wrap fields) = check fields) :
    Validation.context (wrap context.fields) = .accepted context := by
  rw [Validation.context, hwrap]
  refine Verdict.map_eq_accepted_iff.mpr ⟨context.version, ?_, rfl⟩
  exact field_eq_accepted_iff.mpr (version_text context.version)

theorem normal_of_sections {home : String} {fields : Entries Value} {settings : Settings}
    (h : sections home fields = .accepted settings) : settings.logging.Normal := by
  obtain ⟨logging, context, hlogging, -, rfl⟩ := Verdict.both_eq_accepted_iff.mp h
  have htakes := field_eq_accepted_iff.mp hlogging
  unfold Takes at htakes
  split at htakes
  · rw [htakes]
    intro output houtput
    cases List.mem_singleton.mp houtput
    trivial
  · exact normal_of_logging htakes

/-- Checking the plain form of settings once more changes nothing. -/
theorem settings_dump {settings : Settings} (home : String) (h : settings.logging.Normal) :
    Validation.settings home settings.dump = .accepted settings := by
  refine Verdict.both_eq_accepted_iff.mpr ⟨settings.logging, settings.context, ?_, ?_, rfl⟩
  · refine field_eq_accepted_iff.mpr ?_
    exact logging_fields home h (model_object .logging) (model_object .output)
  · exact field_eq_accepted_iff.mpr (context_fields settings.context (model_object .context))

end Validation

end FactScope
