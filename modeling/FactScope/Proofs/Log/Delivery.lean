import FactScope.Proofs.Except
import FactScope.Proofs.Log.Install

namespace FactScope

theorem Entries.get?_filter {α : Type} {entries : Entries α} {p : String × α → Bool} {name : String}
    (h : ∀ value, p (name, value) = true) :
    Entries.get? (entries.filter p) name = Entries.get? entries name := by
  induction entries with
  | nil => rfl
  | cons entry rest ih =>
      obtain ⟨first, value⟩ := entry
      by_cases hname : first = name
      · subst hname
        rw [List.filter_cons_of_pos (h value), Entries.get?, Entries.get?, if_pos rfl, if_pos rfl]
      · rw [Entries.get?, if_neg hname, ← ih, List.filter_cons]
        split
        · rw [Entries.get?, if_neg hname]
        · rfl

namespace Log

namespace Event

theorem scanId_stamped (e : Event) (level : Level) (time : String) (scanId : Value) :
    Entries.get? (e.stamped level time scanId) "scan_id" =
      if scanId.truthy then some scanId else Entries.get? e "scan_id" := by
  unfold stamped
  split
  · exact Entries.get?_put_self _ _ _
  · rw [Entries.get?_put_of_ne _ _ (by decide), Entries.get?_put_of_ne _ _ (by decide)]

theorem scanId_assemble (bound given : Entries Value) (happened : Value) :
    Entries.get? (assemble bound given happened) "scan_id" =
      (bound.putAll given).get? "scan_id" := by
  unfold assemble
  split
  · rfl
  · exact Entries.get?_put_of_ne _ _ (by decide)

theorem get?_shown {e : Event} {name : String} (h : name ∉ reserved) :
    Entries.get? e.shown name = Entries.get? e name :=
  Entries.get?_filter fun _ => by simpa using h

end Event

/-- What is written shows an entry, as a field of an object or as a part of the line that a text
begins with. -/
def Written.Shows (name : String) (value : Value) : Written → Prop
  | .object fields => fields.get? name = some value
  | .text lines => ∃ parts part footer, Line.assignment name value = .ok part ∧ part ∈ parts ∧
      lines = Line.join parts ++ footer

theorem Line.mem_of_gather {parts : List (Except Fault Text.Points)} {texts : List Text.Points}
    (h : gather parts = .ok texts) {part : Except Fault Text.Points} (hpart : part ∈ parts) :
    ∃ text ∈ texts, part = .ok text := by
  induction parts generalizing texts with
  | nil => cases hpart
  | cons first rest ih =>
      obtain ⟨text, htext, hlater⟩ := Except.bind_eq_ok_iff.mp h
      obtain ⟨others, hothers, heq⟩ := Except.bind_eq_ok_iff.mp hlater
      cases heq
      rcases List.mem_cons.mp hpart with rfl | hmem
      · exact ⟨text, List.mem_cons_self, htext⟩
      · obtain ⟨found, hfound, hok⟩ := ih hothers hmem
        exact ⟨found, List.mem_cons_of_mem _ hfound, hok⟩

namespace Event

theorem shows_of_get? {e : Event} {name : String} {value : Value}
    (h : Entries.get? e name = some value)
    (hname : name ∉ reserved ++ Line.placed ++ Line.below) {format : Format} {written : Written}
    (hwritten : e.write format = .ok written) : written.Shows name value := by
  simp only [List.mem_append, not_or] at hname
  obtain ⟨⟨hreserved, hplaced⟩, hbelow⟩ := hname
  have hshown : Entries.get? e.shown name = some value := by rw [get?_shown hreserved, h]
  cases format with
  | json =>
      obtain ⟨-, -, heq⟩ := Except.bind_eq_ok_iff.mp hwritten
      cases heq
      exact hshown
  | console =>
      obtain ⟨lines, hlines, heq⟩ := Except.bind_eq_ok_iff.mp hwritten
      cases heq
      obtain ⟨parts, hparts, hrest⟩ := Except.bind_eq_ok_iff.mp hlines
      obtain ⟨footer, -, heq⟩ := Except.bind_eq_ok_iff.mp hrest
      cases heq
      have hmem : Line.assignment name value ∈ Line.parts compactLayout e.shown := by
        refine List.mem_append_right _ (List.mem_map.mpr ⟨(name, value), ?_, rfl⟩)
        rw [List.mem_mergeSort, List.mem_filter]
        exact ⟨Entries.mem_of_get? hshown, by simp [hplaced, hbelow]⟩
      obtain ⟨part, hpart, hassigned⟩ := Line.mem_of_gather hparts hmem
      exact ⟨parts, part, footer, hassigned, hpart, rfl⟩

end Event

def form (output : OutputSettings) (e : Event) : Except Fault Written := do
  (← e.write output.format).sentTo output.destination

section

variable (root level : Level) (e : Event)

/-- The level of the log and that of an output let a record pass. -/
def Passes (output : OutputSettings) : Prop :=
  root.number ≤ level.number ∧ (output.level.getD root).number ≤ level.number

instance (output : OutputSettings) : Decidable (Passes root level output) :=
  inferInstanceAs (Decidable (_ ∧ _))

def record? (output : OutputSettings) : Option Delivery :=
  if Passes root level output then
    (form output e).toOption.map fun written => ⟨output.destination.resolved, written⟩
  else none

/-- An output that an event passes to, and where it is nested too deeply to be written. -/
def ends (output : OutputSettings) : Bool :=
  Passes root level output && (form output e matches .error .tooDeep)

def records (outputs : List OutputSettings) : Emission :=
  ⟨(outputs.takeWhile fun output => !ends root level e output).filterMap (record? root level e),
    if outputs.any (ends root level e) then some .tooDeep else none⟩

end

def lastResort (settings : LoggingSettings) (level : Level) (e : Event) : Emission :=
  if settings.level.number ≤ level.number ∧ Level.warning.number ≤ level.number then
    match (Value.object e).spelled with
    | .ok lines => ⟨[⟨.stderr, .text lines.escaped⟩], none⟩
    | .error .tooDeep => ⟨[], some .tooDeep⟩
    | .error _ => .nothing
  else .nothing

/-- What an event comes to where settings are in force. -/
def told (settings : LoggingSettings) (level : Level) (e : Event) : Emission :=
  if settings.outputs = [] then lastResort settings level e
  else records settings.level level e settings.outputs

variable {root level : Level} {e : Event}

theorem records_cons_of_ends {output : OutputSettings} (h : ends root level e output = true)
    (rest : List OutputSettings) :
    records root level e (output :: rest) = ⟨[], some .tooDeep⟩ := by
  simp [records, h]

theorem records_cons_of_not_ends {output : OutputSettings} (h : ends root level e output = false)
    (rest : List OutputSettings) :
    records root level e (output :: rest) =
      ⟨(record? root level e output).toList ++ (records root level e rest).deliveries,
        (records root level e rest).fault⟩ := by
  cases hrecord : record? root level e output <;> simp [records, h, hrecord]

theorem records_of_not_ends {outputs : List OutputSettings}
    (h : ∀ output ∈ outputs, ends root level e output = false) :
    records root level e outputs = ⟨outputs.filterMap (record? root level e), none⟩ := by
  induction outputs with
  | nil => rfl
  | cons output rest ih =>
      rw [records_cons_of_not_ends (h output List.mem_cons_self),
        ih fun other hother => h other (List.mem_cons_of_mem _ hother)]
      cases hrecord : record? root level e output <;> simp [hrecord]

theorem isSome_record?_iff {output : OutputSettings} :
    (record? root level e output).isSome = true ↔
      Passes root level output ∧ ∃ written, form output e = .ok written := by
  unfold record?
  split
  · next hpasses =>
    cases hform : form output e with
    | error fault => simp [hpasses, Except.toOption]
    | ok written => simp [hpasses, Except.toOption]
  · next hpasses => simp [hpasses]

theorem handTo_ofOutput (hroot : root.number ≤ level.number) (outputs : List OutputSettings) :
    Handler.handTo (·.write e) ((outputs.map (.ofOutput root)).filter (·.takes level)) =
      records root level e outputs := by
  induction outputs with
  | nil => rfl
  | cons output rest ih =>
      have hwrite : (Handler.ofOutput root output).write e = form output e := rfl
      have htakes : (Handler.ofOutput root output).takes level = true ↔
          Passes root level output := by
        rw [Handler.takes, decide_eq_true_iff]
        exact (and_iff_right hroot).symm
      rw [List.map_cons]
      by_cases hpasses : Passes root level output
      · rw [List.filter_cons, if_pos (htakes.mpr hpasses), Handler.handTo, hwrite]
        split
        · next written hform =>
          rw [records_cons_of_not_ends (by simp [ends, hform]), ih]
          simp [record?, hpasses, hform, Except.toOption, Handler.ofOutput]
        · next hform => rw [records_cons_of_ends (by simp [ends, hform, hpasses])]
        · next fault hne hform =>
          have hends : ends root level e output = false := by
            rw [ends, hform, Bool.and_eq_false_iff]
            right
            split
            · next heq => exact absurd (Except.error.inj heq) hne
            · rfl
          rw [records_cons_of_not_ends hends, ih]
          simp [record?, hform, Except.toOption]
      · rw [List.filter_cons, if_neg (mt htakes.mp hpasses),
          records_cons_of_not_ends (by simp [ends, hpasses]), ih]
        simp [record?, hpasses]

theorem sentTo_stderr (lines : Text.Points) :
    (Written.text lines).sentTo .stderr = .ok (.text lines.escaped) := by
  unfold Written.sentTo
  simp only
  split
  · next hnone => rw [Text.Points.escaped_of_encodable hnone]
  · rfl
  · next hne => exact (hne rfl).elim

theorem handTo_lastResort (lines : Except Fault Text.Points) :
    Handler.handTo (fun handler => do (Written.text (← lines)).sentTo handler.destination)
        ([.lastResort].filter (·.takes level)) =
      if Level.warning.number ≤ level.number then
        match lines with
        | .ok lines => ⟨[⟨.stderr, .text lines.escaped⟩], none⟩
        | .error .tooDeep => ⟨[], some .tooDeep⟩
        | .error _ => .nothing
      else .nothing := by
  have hwrite (text : Text.Points) :
      (Written.text text).sentTo Handler.lastResort.destination = .ok (.text text.escaped) :=
    sentTo_stderr text
  by_cases hwarns : Level.warning.number ≤ level.number
  · have htakes : Handler.lastResort.takes level = true := decide_eq_true hwarns
    rw [List.filter_cons, if_pos htakes, if_pos hwarns, Handler.handTo]
    rcases lines with fault | text
    · cases fault <;> rfl
    · simp only [bind, Except.bind, hwrite]
      rfl
  · have htakes : Handler.lastResort.takes level = false := decide_eq_false hwarns
    rw [List.filter_cons, htakes, if_neg hwarns]
    rfl

namespace State.InForce

variable {s : State} {settings : LoggingSettings}

theorem emit_eq (h : s.InForce settings) (level : Level) (e : Event) :
    s.emit level (·.write e) (Value.object e).spelled = told settings level e := by
  rw [emit, h.rootLevel_eq, h.handlers_eq, List.isEmpty_map, told]
  by_cases hroot : settings.level.number ≤ level.number
  · rw [if_neg (Nat.not_lt.mpr hroot), handTo_ofOutput hroot]
    simp only [List.isEmpty_iff, handTo_lastResort, lastResort, hroot, true_and]
  · have hrecords : records settings.level level e settings.outputs = .nothing := by
      rw [records_of_not_ends fun output _ => by simp [ends, Passes, hroot]]
      simp [record?, Passes, hroot, Emission.nothing]
    have hlast : lastResort settings level e = .nothing := if_neg fun h => hroot h.1
    rw [if_pos (Nat.lt_of_not_le hroot), hrecords, hlast, ite_self]

/-- A logger that hands on as the configuration says delivers to the outputs of the settings. -/
theorem log_eq (h : s.InForce settings) {logger : Logger}
    (hcurrent : logger.pipeline.getD s.pipeline = s.pipeline) (level : Level) (happened : Value)
    (given : Entries Value) (time : String) :
    s.log logger level happened given time = told settings level
      ((Event.assemble logger.bound given happened).stamped level time s.scanId) := by
  rw [← h.emit_eq, log, hcurrent, h.pipeline_eq]
  by_cases hroot : settings.level.number ≤ level.number
  · simp only [Nat.not_lt.mpr hroot, if_false, Bool.false_eq_true]
  · simp only [Nat.lt_of_not_le hroot, if_true]
    rw [emit, h.rootLevel_eq, if_pos (Nat.lt_of_not_le hroot)]

end State.InForce

end Log

end FactScope
