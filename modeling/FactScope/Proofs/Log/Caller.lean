import FactScope.Log.Caller
import FactScope.Proofs.Log.Call
import FactScope.Proofs.Log.Form

/-!
Log delivery over time. What a caller has done alone tells what a call delivers: the last
configuration says which outputs take it, and the last scan id since the last clearing is on every
record.
-/

namespace FactScope.Log

namespace Act

def settings? : Act → Option LoggingSettings
  | configure settings => some settings
  | _ => none

def id? : Act → Option Value
  | setScanId given fresh => some (given.orElse fresh)
  | _ => none

def clears : Act → Bool
  | clearScanId => true
  | _ => false

theorem truthy_of_id? {act : Act} {id : Value} (h : act.id? = some id) : id.truthy = true := by
  cases act with
  | setScanId given fresh =>
      cases h
      cases hgiven : given.truthy with
      | true => rw [Value.orElse_of_truthy hgiven, hgiven]
      | false => rw [Value.orElse_of_not_truthy hgiven, fresh.property]
  | _ => cases h

end Act

def lastSettings? (past : List Act) : Option LoggingSettings :=
  past.reverse.findSome? Act.settings?

/-- The last scan id that was set since the last clearing. -/
def lastId? (past : List Act) : Option Value :=
  (past.reverse.takeWhile fun act => !act.clears).findSome? Act.id?

theorem lastSettings?_concat (past : List Act) (act : Act) :
    lastSettings? (past ++ [act]) = act.settings?.or (lastSettings? past) := by
  rw [lastSettings?, List.reverse_append, List.reverse_singleton, List.singleton_append,
    List.findSome?_cons]
  cases act.settings? <;> rfl

theorem lastId?_concat (past : List Act) (act : Act) :
    lastId? (past ++ [act]) = if act.clears then none else act.id?.or (lastId? past) := by
  rw [lastId?, List.reverse_append, List.reverse_singleton, List.singleton_append,
    List.takeWhile_cons]
  cases act.clears with
  | true => rfl
  | false =>
      simp only [Bool.not_false, if_true, List.findSome?_cons, Bool.false_eq_true, if_false]
      cases act.id? <;> rfl

namespace Caller

variable {c : Caller} {past : List Act}

theorem delivered_append (c : Caller) (first second : List Act) :
    c.delivered (first ++ second) = c.delivered first ++ (c.run first).delivered second := by
  induction first generalizing c with
  | nil => rfl
  | cons act acts ih =>
      rw [List.cons_append, delivered, delivered, ih, List.append_assoc]
      rfl

/-- A caller's state is what its past tells, and the loggers that are no older than the last
configuration hand on as that says. -/
structure Tracks (c : Caller) (past : List Act) : Prop where
  inForce : ∀ settings, lastSettings? past = some settings → c.state.InForce settings
  scanId_eq : c.state.scanId = (lastId? past).getD .null
  truthy : ∀ id, lastId? past = some id → id.truthy = true
  since_le : ∀ held ∈ c.loggers, held.since ≤ c.configurations
  current : ∀ held ∈ c.loggers, held.since = c.configurations →
    held.logger.pipeline.getD c.state.pipeline = c.state.pipeline

namespace Tracks

theorem start (tree : FileTree) : (start tree).Tracks [] where
  inForce := nofun
  scanId_eq := rfl
  truthy := nofun
  since_le := nofun
  current := nofun

theorem idle (h : c.Tracks past) {act : Act} (hsettings : act.settings? = none)
    (hid : act.id? = none) (hclears : act.clears = false) : c.Tracks (past ++ [act]) where
  inForce := by
    rw [lastSettings?_concat, hsettings]
    exact h.inForce
  scanId_eq := by
    rw [lastId?_concat, hid, hclears]
    exact h.scanId_eq
  truthy := by
    rw [lastId?_concat, hid, hclears]
    exact h.truthy
  since_le := h.since_le
  current := h.current

theorem hold (h : c.Tracks past) {held : Held} (hsince : held.since ≤ c.configurations)
    (hcurrent : held.since = c.configurations →
      held.logger.pipeline.getD c.state.pipeline = c.state.pipeline) :
    Tracks { c with loggers := c.loggers ++ [held] } past where
  inForce := h.inForce
  scanId_eq := h.scanId_eq
  truthy := h.truthy
  since_le := by
    intro other hother
    rcases List.mem_append.mp hother with hold | hnew
    · exact h.since_le other hold
    · rwa [List.mem_singleton.mp hnew]
  current := by
    intro other hother
    rcases List.mem_append.mp hother with hold | hnew
    · exact h.current other hold
    · rwa [List.mem_singleton.mp hnew]

theorem configure (h : c.Tracks past) {settings : LoggingSettings}
    (hsucceeds : (c.state.configure settings).2 = none) :
    (c.apply (.configure settings)).Tracks (past ++ [.configure settings]) where
  inForce := by
    intro last hlast
    rw [lastSettings?_concat] at hlast
    cases hlast
    exact State.inForce_configure (Prod.ext rfl hsucceeds)
  scanId_eq := by
    rw [lastId?_concat]
    exact (State.scanId_configure c.state settings).trans h.scanId_eq
  truthy := by
    rw [lastId?_concat]
    exact h.truthy
  since_le := by
    intro held hheld
    exact Nat.le_succ_of_le (h.since_le held hheld)
  current := by
    -- every logger is older than this configuration
    intro held hheld hsince
    have hle := h.since_le held hheld
    simp only [apply] at hsince
    omega

theorem setScanId (h : c.Tracks past) (given : Value)
    (fresh : { id : Value // id.truthy = true }) :
    (c.apply (.setScanId given fresh)).Tracks (past ++ [.setScanId given fresh]) where
  inForce := by
    rw [lastSettings?_concat]
    exact fun settings hlast => (h.inForce settings hlast).withScanId _
  scanId_eq := by
    rw [lastId?_concat]
    rfl
  truthy := by
    intro id hid
    rw [lastId?_concat] at hid
    have hset : (Act.setScanId given fresh).id? = some id := hid
    exact Act.truthy_of_id? hset
  since_le := h.since_le
  current := h.current

theorem clearScanId (h : c.Tracks past) :
    (c.apply .clearScanId).Tracks (past ++ [.clearScanId]) where
  inForce := by
    rw [lastSettings?_concat]
    exact fun settings hlast => (h.inForce settings hlast).withScanId _
  scanId_eq := by
    rw [lastId?_concat]
    rfl
  truthy := by
    rw [lastId?_concat]
    nofun
  since_le := h.since_le
  current := h.current

theorem obtain (h : c.Tracks past) (name : Value) :
    (c.apply (.obtain name)).Tracks past := by
  refine h.hold (Nat.le_refl _) fun _ => ?_
  unfold State.logger
  split <;> rfl

theorem bind (h : c.Tracks past) {held : Held} (hheld : held ∈ c.loggers) (given : Entries Value) :
    (c.bind held given).Tracks past := by
  unfold Caller.bind
  split
  · next logger hlogger =>
    have hpipeline : logger.pipeline = some (held.logger.pipeline.getD c.state.pipeline) := by
      unfold State.bindNamed at hlogger
      rw [Except.check_bind_eq_ok_iff] at hlogger
      exact congrArg Logger.pipeline (Except.ok.inj hlogger.2).symm
    refine h.hold ?_ fun hsince => ?_
    · split
      · exact h.since_le held hheld
      · exact Nat.le_refl _
    · rw [hpipeline, Option.getD_some]
      split at hsince
      · exact h.current held hheld hsince
      · next hfollows => rw [Option.not_isSome_iff_eq_none.mp hfollows, Option.getD_none]
  · exact h

theorem apply (h : c.Tracks past) {act : Act} (hsucceeds : c.fault? act = none) :
    (c.apply act).Tracks (past ++ [act]) := by
  cases act with
  | configure settings => exact h.configure hsucceeds
  | setScanId given fresh => exact h.setScanId given fresh
  | clearScanId => exact h.clearScanId
  | obtain name => exact (h.obtain name).idle rfl rfl rfl
  | bind k given =>
      refine Tracks.idle ?_ rfl rfl rfl
      rw [Caller.apply]
      split
      · next held hheld => exact h.bind (List.mem_of_getElem? hheld) given
      · exact h
  | log k method happened given time => exact h.idle rfl rfl rfl

theorem run (h : c.Tracks past) {acts : List Act} (hsucceeds : c.succeeds acts = true) :
    (c.run acts).Tracks (past ++ acts) := by
  induction acts generalizing c past with
  | nil =>
      rw [List.append_nil]
      exact h
  | cons act acts ih =>
      obtain ⟨hact, hacts⟩ := Bool.and_eq_true_iff.mp hsucceeds
      have hrun := ih (h.apply (Option.isNone_iff_eq_none.mp hact)) hacts
      rw [List.append_assoc] at hrun
      exact hrun

end Tracks

def event (c : Caller) (held : Held) (request : Request) (time : String) : Event :=
  (Event.assemble held.logger.bound request.given request.happened).stamped request.level time
    c.state.scanId

/-- What the past tells of a call that logs through a logger that is no older than the last
configuration. A call is refused for the names of its entries only. Else each output of that
configuration has one record if the level is at least that of the configuration and that of the
output and the event can be written there, as plain events can at all outputs, and nobody else has
one. The record holds the scan id if one is set, and else what the caller gave in its place. -/
theorem delivers_by_history (tree : FileTree) (past : List Act)
    (hsucceeds : (Caller.start tree).succeeds past = true) :
    let c := (Caller.start tree).run past
    (∀ settings, lastSettings? past = some settings → ∀ (k : Nat) (held : Held),
      c.loggers[k]? = some held → held.since = c.configurations →
      ∀ word method happened given time request, Method.ofWord? word = some method →
        method.request? happened given = some request →
        let e := c.event held request time
        let emission := told settings request.level e
        let fits := method.Fits (settings.level.number ≤ request.level.number) given
        (∀ result, c.state.call held.logger word happened given time = .ok result ↔
          fits ∧ result = emission) ∧
        (fits → (Caller.start tree).delivered (past ++ [.log k word happened given time]) =
          (Caller.start tree).delivered past ++ emission.deliveries) ∧
        (settings.outputs ≠ [] →
          (∀ output ∈ settings.outputs, ends settings.level request.level e output = false) →
            emission = ⟨settings.outputs.filterMap (record? settings.level request.level e), none⟩) ∧
        (e.Plain → ∀ output, ends settings.level request.level e output = false ∧
          ((record? settings.level request.level e output).isSome = true ↔
            Passes settings.level request.level output)) ∧
        (∀ id, lastId? past = some id → Entries.get? e "scan_id" = some id ∧
          ∀ output written, form output e = .ok written → ∃ whole : Written,
            whole.Shows "scan_id" id ∧ whole.sentTo output.destination = .ok written) ∧
        (lastId? past = none → Entries.get? e "scan_id" =
          (held.logger.bound.putAll request.given).get? "scan_id")) ∧
    (∀ given fresh, given.truthy = true →
      (c.apply (.setScanId given fresh)).state.scanId = given) ∧
    ∀ settings, (c.apply (.configure settings)).state.scanId = c.state.scanId := by
  intro c
  have htracks : c.Tracks past := (Tracks.start tree).run hsucceeds
  refine ⟨?_, fun given fresh hgiven => Value.orElse_of_truthy hgiven,
    fun settings => State.scanId_configure c.state settings⟩
  intro settings hsettings k held hheld hsince word method happened given time request hword
    hrequest e emission fits
  have hforce := htracks.inForce settings hsettings
  have hcurrent := htracks.current held (List.mem_of_getElem? hheld) hsince
  have hcall : ∀ result, c.state.call held.logger word happened given time = .ok result ↔
      fits ∧ result = emission := by
    intro result
    rw [State.call_eq_ok_iff hword hrequest, hforce.log_eq hcurrent, hcurrent, hforce.pipeline_eq]
    rfl
  have hscanId : Entries.get? e "scan_id" =
      if c.state.scanId.truthy then some c.state.scanId
      else (held.logger.bound.putAll request.given).get? "scan_id" := by
    rw [← Event.scanId_assemble _ _ request.happened]
    exact Event.scanId_stamped ..
  rw [htracks.scanId_eq] at hscanId
  refine ⟨hcall, fun hfits => ?_, fun houtputs hends => ?_, fun hplain output => ?_,
    fun id hid => ?_, fun hid => ?_⟩
  · have hok : c.deliveries (.log k word happened given time) = emission.deliveries := by
      rw [deliveries, hheld]
      simp only [(hcall emission).mpr ⟨hfits, rfl⟩]
    rw [delivered_append, Caller.delivered, Caller.delivered, List.append_nil]
    exact congrArg _ hok
  · exact (if_neg houtputs).trans (records_of_not_ends hends)
  · obtain ⟨written, hform⟩ := hplain.exists_form output
    refine ⟨by simp [ends, hform], ?_⟩
    rw [isSome_record?_iff]
    exact and_iff_left ⟨written, hform⟩
  · rw [hid, Option.getD_some, if_pos (htracks.truthy id hid)] at hscanId
    refine ⟨hscanId, fun output written hwritten => ?_⟩
    obtain ⟨whole, hwhole, hsent⟩ := Except.bind_eq_ok_iff.mp hwritten
    exact ⟨whole, Event.shows_of_get? hscanId (by decide) hwhole, hsent⟩
  · rw [hid] at hscanId
    exact hscanId

def tree : FileTree := .ofDirectories [Path.parse (.ofString "/var")]

def twoOutputs : LoggingSettings :=
  ⟨.info, [⟨.json, .file (Path.parse (.ofString "/var/log/scan")), some .error⟩,
    ⟨.json, .stdout, none⟩]⟩

def reconfiguring : List Act :=
  [.configure ⟨.error, [⟨.console, .stderr, none⟩]⟩, .setScanId (.text "scan-41") ⟨.text "f", rfl⟩,
    .configure twoOutputs, .clearScanId, .setScanId (.text "scan-42") ⟨.text "f", rfl⟩,
    .obtain (.text "scanner")]

/-- The record goes to one of the two outputs, under the last scan id and not under that of the
call. -/
theorem delivers_reconfiguring :
    (Caller.start tree).delivered (reconfiguring ++
        [.log 0 "info" (.text "file scanned") [("scan_id", .text "own")] "12:00"]) =
      [⟨.stdout, .object [("logger", .text "scanner"), ("scan_id", .text "scan-42"),
        ("event", .text "file scanned"), ("level", .text "info"), ("timestamp", .text "12:00")]⟩] ∧
    lastId? reconfiguring = some (.text "scan-42") := by
  have hsucceeds : (Caller.start tree).succeeds reconfiguring = true := by decide +kernel
  have hfits : (Method.plain .info).Fits (Level.info.number ≤ Level.info.number)
      [("scan_id", .text "own")] :=
    ⟨by decide, by decide, by decide, by decide⟩
  have hlogs := (delivers_by_history tree reconfiguring hsucceeds).1 twoOutputs rfl 0
    ⟨⟨[("logger", .text "scanner")], some ⟨Level.info.number, false⟩⟩, 2⟩ (by decide +kernel)
    (by decide +kernel) "info" (.plain .info) (.text "file scanned") [("scan_id", .text "own")]
    "12:00" ⟨.info, .text "file scanned", [("scan_id", .text "own")]⟩ rfl rfl
  refine ⟨(hlogs.2.1 hfits).trans ?_, rfl⟩
  decide +kernel

/-- A call that passes all levels may still deliver nothing: one is refused for the name of an
entry, the other has a stack that is no text and so has no line. -/
theorem delivers_not_by_levels_alone :
    let output : OutputSettings := ⟨.console, .stdout, none⟩
    let past : List Act := [.configure ⟨.info, [output]⟩, .obtain .null]
    (Caller.start tree).succeeds past = true ∧
    lastSettings? past = some ⟨.info, [output]⟩ ∧ Passes .info .info output ∧
    (Caller.start tree).delivered
      (past ++ [.log 0 "info" (.text "x") [("method_name", .int 1)] "12:00"]) = [] ∧
    (Caller.start tree).delivered
      (past ++ [.log 0 "info" (.text "x") [("stack", .int 5)] "12:00"]) = [] := by
  decide +kernel

end Caller

end FactScope.Log
