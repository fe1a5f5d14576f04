import FactScope.Proofs.Log.Delivery
import FactScope.Proofs.Text.Encodable
import FactScope.Proofs.Value.Json

namespace FactScope

namespace Value

variable {fields : Entries Value}

theorem fieldsHaveText_iff :
    fieldsHaveText fields = true ↔ ∀ entry ∈ fields, entry.2.hasText = true := by
  induction fields with
  | nil => simp [fieldsHaveText]
  | cons entry rest ih =>
      obtain ⟨name, value⟩ := entry
      simp [fieldsHaveText, ih]

theorem depthOfFields_le_iff {room : Nat} :
    depthOfFields fields ≤ room ↔ ∀ entry ∈ fields, entry.2.depth ≤ room := by
  induction fields with
  | nil => simp [depthOfFields]
  | cons entry rest ih =>
      obtain ⟨name, value⟩ := entry
      rw [depthOfFields, Nat.max_le, ih, List.forall_mem_cons]

end Value

namespace Json

variable (other : Value → Except Fault Unit)

mutual

/-- JSON has a written form where its integers have, and where there is room for its depth. -/
theorem checkIn_of_isJson (value : Value) {room : Nat} (hjson : value.isJson = true)
    (htext : value.hasText = true) (hdepth : value.depth ≤ room) :
    checkIn other room value = .ok () := by
  cases value with
  | int n =>
      have hlong : ¬Value.isLong n = true := by simpa [Value.hasText] using htext
      rw [checkIn, checkInteger, if_neg hlong]
  | list items =>
      rw [Value.depth] at hdepth
      rw [checkIn, within, if_neg (by omega)]
      exact checkItems_of_areJson items hjson htext (by omega)
  | object fields =>
      rw [Value.depth] at hdepth
      rw [checkIn, within, if_neg (by omega)]
      rw [Value.isJson, Bool.and_eq_true] at hjson
      exact checkFields_of_holdJson fields hjson.2 htext (by omega)
  | datum d => cases hjson
  | _ => first | rfl | cases hjson

theorem checkItems_of_areJson (items : List Value) {room : Nat}
    (hjson : Value.areJson items = true) (htext : Value.haveText items = true)
    (hdepth : Value.depthOfItems items ≤ room) : checkItems other room items = .ok () := by
  cases items with
  | nil => rfl
  | cons item rest =>
      rw [Value.areJson, Bool.and_eq_true] at hjson
      rw [Value.haveText, Bool.and_eq_true] at htext
      rw [Value.depthOfItems, Nat.max_le] at hdepth
      rw [checkItems, checkIn_of_isJson item hjson.1 htext.1 hdepth.1]
      exact checkItems_of_areJson rest hjson.2 htext.2 hdepth.2

theorem checkFields_of_holdJson (fields : List (String × Value)) {room : Nat}
    (hjson : Value.holdJson fields = true) (htext : Value.fieldsHaveText fields = true)
    (hdepth : Value.depthOfFields fields ≤ room) : checkFields other room fields = .ok () := by
  cases fields with
  | nil => rfl
  | cons entry rest =>
      obtain ⟨name, value⟩ := entry
      rw [Value.holdJson, Bool.and_eq_true] at hjson
      rw [Value.fieldsHaveText, Bool.and_eq_true] at htext
      rw [Value.depthOfFields, Nat.max_le] at hdepth
      rw [checkFields, checkIn_of_isJson value hjson.1 htext.1 hdepth.1]
      exact checkFields_of_holdJson rest hjson.2 htext.2 hdepth.2

end

end Json

namespace Text.Points

def Encodable (points : Points) : Prop :=
  ∀ code ∈ points, isSurrogate code = false

variable {first second : Points}

theorem encodable_ofString (s : String) : Encodable (ofString s) := by
  intro code hcode
  obtain ⟨c, -, rfl⟩ := List.mem_map.mp hcode
  exact isSurrogate_toNat c

theorem Encodable.append (h : first.Encodable) (h' : second.Encodable) :
    Encodable (first ++ second) := by
  intro code hcode
  rcases List.mem_append.mp hcode with hfirst | hsecond
  · exact h code hfirst
  · exact h' code hsecond

theorem Encodable.of_subset (h : first.Encodable) (hsubset : second ⊆ first) :
    second.Encodable :=
  fun code hcode => h code (hsubset hcode)

theorem Encodable.unencodable? (h : first.Encodable) (spared : Nat → Bool) :
    first.unencodable? spared = none := by
  rw [unencodable?_eq_none_iff]
  intro code hcode hsurrogate
  rw [h code hcode] at hsurrogate
  cases hsurrogate

end Text.Points

namespace Log

open Text (Points)

/-- Values whose text and whose JSON always exist: JSON without long integers that is not nested too
deeply. -/
structure Sound (value : Value) : Prop where
  isJson : value.isJson = true
  hasText : value.hasText = true
  shallow : value.depth < Value.greatestDepth

namespace Sound

variable {value : Value} (h : Sound value)

include h

theorem checkText_eq : value.checkText = .ok () := by
  rw [Value.checkText, if_neg (Nat.lt_asymm h.shallow), if_pos h.hasText]

theorem spelled_eq : value.spelled = .ok (.ofString value.literal) := by
  rw [Value.spelled, h.checkText_eq]
  rfl

theorem exists_ofString {points : Points} (hpoints : value.points? = some points) :
    ∃ text, points = .ofString text := by
  cases value with
  | text s => exact ⟨s, (Option.some.inj hpoints).symm⟩
  | datum d => cases h.isJson
  | _ => cases hpoints

theorem exists_written : ∃ text, value.written = .ok (.ofString text) := by
  unfold Value.written
  split
  · next points hpoints =>
    obtain ⟨text, rfl⟩ := h.exists_ofString hpoints
    exact ⟨text, rfl⟩
  · rw [h.checkText_eq]
    exact ⟨_, rfl⟩

theorem exists_valueText : ∃ text, Line.valueText value = .ok (.ofString text) := by
  unfold Line.valueText
  split
  · next points hpoints =>
    obtain ⟨text, rfl⟩ := h.exists_ofString hpoints
    split
    · exact ⟨_, h.spelled_eq⟩
    · exact ⟨text, rfl⟩
  · exact ⟨_, h.spelled_eq⟩

end Sound

namespace Line

theorem exists_gather {parts : List (Except Fault Points)}
    (h : ∀ part ∈ parts, ∃ text : Points, part = .ok text ∧ text.Encodable) :
    ∃ texts, gather parts = .ok texts ∧ ∀ text ∈ texts, text.Encodable := by
  induction parts with
  | nil => exact ⟨[], rfl, nofun⟩
  | cons part rest ih =>
      obtain ⟨hpart, hrest⟩ := List.forall_mem_cons.mp h
      obtain ⟨text, rfl, htext⟩ := hpart
      obtain ⟨texts, htexts, hencodable⟩ := ih hrest
      refine ⟨text :: texts, ?_, List.forall_mem_cons.mpr ⟨htext, hencodable⟩⟩
      rw [gather, htexts]
      rfl

theorem encodable_pad {text : Points} (h : text.Encodable) (width : Nat) :
    (pad width text).Encodable := by
  refine h.append fun code hcode => ?_
  rw [List.eq_of_mem_replicate hcode]
  rfl

theorem encodable_bracketed {text : Points} (h : text.Encodable) (width : Nat) :
    (bracketed width text).Encodable :=
  ((Points.encodable_ofString _).append (encodable_pad h width)).append
    (Points.encodable_ofString _)

theorem encodable_intercalate {sep : Points} (hsep : sep.Encodable) {parts : List Points}
    (h : ∀ part ∈ parts, part.Encodable) : Points.Encodable (sep.intercalate parts) := by
  induction parts with
  | nil => nofun
  | cons part rest ih =>
      obtain ⟨hpart, hrest⟩ := List.forall_mem_cons.mp h
      cases rest with
      | nil =>
          rw [List.intercalate_singleton]
          exact hpart
      | cons next others =>
          rw [List.intercalate_cons_cons]
          exact (hpart.append hsep).append (ih hrest)

theorem encodable_join {parts : List Points} (h : ∀ part ∈ parts, part.Encodable) :
    (join parts).Encodable := by
  have hspace : Points.Encodable [space] := Points.encodable_ofString " "
  have hline := encodable_intercalate hspace
    fun part hpart => h part (List.mem_filter (p := (· ≠ [])).mp hpart).1
  refine hline.of_subset fun code hcode => ?_
  rw [join, trimEnd, List.mem_reverse] at hcode
  exact List.mem_reverse.mp ((List.dropWhile_sublist _).subset hcode)

variable {e : Event}

theorem exists_part (h : ∀ entry ∈ e, Sound entry.2) (layout : LineLayout) :
    ∀ part ∈ parts layout e, ∃ text : Points, part = .ok text ∧ text.Encodable := by
  have hassignment {name : String} {value : Value} (hvalue : Sound value) :
      ∃ text : Points, assignment name value = .ok text ∧ text.Encodable := by
    obtain ⟨text, htext⟩ := hvalue.exists_valueText
    refine ⟨.ofString (name ++ "=") ++ .ofString text, ?_,
      (Points.encodable_ofString _).append (Points.encodable_ofString _)⟩
    rw [assignment, htext]
    rfl
  have hplain {value : Value} (hvalue : Sound value) {place : Points → Points}
      (hplace : ∀ {text : Points}, text.Encodable → (place text).Encodable) :
      ∃ text : Points, value.written.map place = .ok text ∧ text.Encodable := by
    obtain ⟨text, htext⟩ := hvalue.exists_written
    exact ⟨place (.ofString text), by rw [htext]; rfl, hplace (Points.encodable_ofString _)⟩
  have hsome {name : String} {write : Value → Except Fault Points} {part : Except Fault Points}
      (hwrite : ∀ {value}, Sound value → ∃ text : Points, write value = .ok text ∧ text.Encodable)
      (hpart : part ∈ ((Entries.get? e name).map write).toList) :
      ∃ text : Points, part = .ok text ∧ text.Encodable := by
    obtain ⟨value, hvalue, rfl⟩ := Option.map_eq_some_iff.mp (Option.mem_toList.mp hpart)
    exact hwrite (h (name, value) (Entries.mem_of_get? hvalue))
  intro part hpart
  simp only [parts, List.mem_append] at hpart
  obtain (((((hfirst | htime) | hlevel) | hevent) | hlogger) | hname) | hother := hpart
  · exact hsome hassignment hfirst
  · exact hsome (hplain · id) htime
  · exact hsome (hplain · (encodable_bracketed · _)) hlevel
  · exact hsome (hplain · (encodable_pad · _)) hevent
  · exact hsome (hplain · (encodable_bracketed · _)) hlogger
  · exact hsome (hplain · (encodable_bracketed · _)) hname
  · obtain ⟨entry, hentry, rfl⟩ := List.mem_map.mp hother
    rw [List.mem_mergeSort, List.mem_filter] at hentry
    exact hassignment (h entry hentry.1)

end Line

namespace Event

/-- An event that can be written anywhere: its values are sound, and what stands below a line is
text. -/
structure Plain (e : Event) : Prop where
  sound : ∀ entry ∈ e, Sound entry.2
  below : ∀ name ∈ ["stack", "exception"], ∀ value, Entries.get? e name = some value →
    value = .null ∨ ∃ s, value = .text s

variable {e : Event}

theorem Plain.shown (h : e.Plain) : Plain e.shown where
  sound entry hentry := h.sound entry (List.mem_filter.mp hentry).1
  below name hname value hvalue := by
    have hreserved : name ∉ reserved := by
      rcases List.mem_cons.mp hname with rfl | hlast
      · decide
      · rw [List.mem_singleton.mp hlast]
        decide
    rw [get?_shown hreserved] at hvalue
    exact h.below name hname value hvalue

theorem Plain.exists_textBelow (h : e.Plain) {name : String}
    (hname : name ∈ ["stack", "exception"]) :
    ∃ text : Points, Line.textBelow e name = .ok text ∧ text.Encodable := by
  unfold Line.textBelow
  cases hvalue : Entries.get? e name with
  | none => exact ⟨[], rfl, nofun⟩
  | some value =>
      rcases h.below name hname value hvalue with rfl | ⟨s, rfl⟩
      · exact ⟨[], rfl, nofun⟩
      · exact ⟨_, rfl, (Points.encodable_ofString _).append (Points.encodable_ofString _)⟩

theorem Plain.exists_footer (h : e.Plain) :
    ∃ text : Points, Line.footer e = .ok text ∧ text.Encodable := by
  obtain ⟨stack, hstack, hstackEncodable⟩ := h.exists_textBelow (List.mem_cons_self)
  obtain ⟨error, herror, herrorEncodable⟩ :=
    h.exists_textBelow (List.mem_cons_of_mem _ List.mem_cons_self)
  rw [Line.footer, hstack, herror]
  refine ⟨_, rfl, (hstackEncodable.append ?_).append herrorEncodable⟩
  split
  · refine ((Points.encodable_ofString _).append fun code hcode => ?_).append
      (Points.encodable_ofString _)
    rw [List.eq_of_mem_replicate hcode]
    rfl
  · nofun

theorem Plain.exists_text (h : e.Plain) (layout : LineLayout) :
    ∃ text : Points, Line.text layout e = .ok text ∧ text.Encodable := by
  obtain ⟨texts, htexts, hencodable⟩ := Line.exists_gather (Line.exists_part h.sound layout)
  obtain ⟨footer, hfooter, hfooterEncodable⟩ := h.exists_footer
  refine ⟨Line.join texts ++ footer, ?_, (Line.encodable_join hencodable).append hfooterEncodable⟩
  rw [Line.text, htexts, hfooter]
  rfl

theorem Plain.checkTelling_eq (h : e.Plain) : Json.checkTelling (.object e) = .ok () := by
  have hjson : Value.holdJson e = true :=
    Value.holdJson_iff.mpr fun entry hentry => (h.sound entry hentry).isJson
  have htext : Value.fieldsHaveText e = true :=
    Value.fieldsHaveText_iff.mpr fun entry hentry => (h.sound entry hentry).hasText
  have hdepth : Value.depthOfFields e ≤ Value.greatestDepth - 1 :=
    Value.depthOfFields_le_iff.mpr fun entry hentry =>
      Nat.le_sub_one_of_lt (h.sound entry hentry).shallow
  exact Json.checkFields_of_holdJson _ e hjson htext hdepth

theorem Plain.exists_form (h : e.Plain) (output : OutputSettings) :
    ∃ written, form output e = .ok written := by
  unfold form write
  cases output.format with
  | json =>
      simp only [h.shown.checkTelling_eq]
      exact ⟨_, rfl⟩
  | console =>
      obtain ⟨text, htext, hencodable⟩ := h.shown.exists_text compactLayout
      refine ⟨.text text, ?_⟩
      simp only [htext]
      simp only [bind, Except.bind, pure, Except.pure, Written.sentTo, hencodable.unencodable?]

end Event

end Log

end FactScope
