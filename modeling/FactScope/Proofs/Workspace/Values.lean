import FactScope.Proofs.Workspace.Separation

namespace FactScope

namespace Entries

variable {α : Type} {P : α → Prop} {entries updates : Entries α} {key : String} {value : α}

def Each (P : α → Prop) (entries : Entries α) : Prop :=
  ∀ entry ∈ entries, P entry.2

theorem Each.of_get? (h : entries.Each P) (hget : entries.get? key = some value) : P value :=
  h (key, value) (mem_of_get? hget)

theorem Each.put (h : entries.Each P) (key : String) (hvalue : P value) :
    (entries.put key value).Each P := by
  induction entries with
  | nil =>
      intro entry hentry
      rwa [List.mem_singleton.mp hentry]
  | cons first rest ih =>
      obtain ⟨hfirst, hrest⟩ := List.forall_mem_cons.mp h
      rw [Entries.put]
      split
      · exact List.forall_mem_cons.mpr ⟨hvalue, hrest⟩
      · exact List.forall_mem_cons.mpr ⟨hfirst, ih hrest⟩

theorem Each.putAll (h : entries.Each P) (hupdates : updates.Each P) :
    (entries.putAll updates).Each P := by
  induction updates generalizing entries with
  | nil => exact h
  | cons first rest ih =>
      obtain ⟨hfirst, hrest⟩ := List.forall_mem_cons.mp hupdates
      exact ih (h.put first.1 hfirst) hrest

end Entries

namespace Workspace

variable {P : Value → Prop} {w : Workspace} {contents supplied : Entries Value}

def Holds (P : Value → Prop) (w : Workspace) : Prop :=
  ∀ place, (w.table place).Each P

def Act.Gives (P : Value → Prop) : Act → Prop
  | .hold contents => contents.Each P
  | .edit _ contents => contents.Each P
  | _ => True

namespace Holds

theorem push (h : w.Holds P) (hcontents : contents.Each P) (place : Nat) :
    ((w.tables.push contents)[place]?.getD []).Each P := by
  rw [Array.getElem?_push]
  split
  · exact hcontents
  · exact h place

theorem hold (h : w.Holds P) (hcontents : contents.Each P) : (w.hold contents).Holds P :=
  h.push hcontents

theorem write (h : w.Holds P) (place : Nat) (hcontents : contents.Each P) :
    (w.write place contents).Holds P := by
  intro other
  rw [table_write]
  split
  · exact hcontents
  · exact h other

theorem facts (h : w.Holds P) (i : Nat) : (w.forest.facts i).Each P := by
  rw [facts_forest]
  cases w.nodes[i]? with
  | none => exact fun _ hentry => nomatch hentry
  | some node => exact h node.place

theorem record (h : w.Holds P) (i : Nat) (name : String) {value : Value} (hvalue : P value) :
    (w.record i name value).Holds P := by
  unfold Workspace.record
  split
  · next node _ => exact h.write node.place ((h node.place).put name hvalue)
  · exact h

theorem add (h : w.Holds P) (hsupplied : supplied.Each P) (parent : Option (Fin w.forest.size)) :
    (w.add supplied parent).Holds P :=
  h.push hsupplied

section

variable (hlogger : P defaultLogger) (hversion : ∀ version : Version, P (.text version.text))

include hlogger hversion

theorem build (h : w.Holds P) (hsupplied : supplied.Each P)
    (parent : Option (Fin w.forest.size)) : (w.build supplied parent).Holds P := by
  have hlogged : ((w.add supplied parent).supplyLogger w.forest.size).Holds P := by
    unfold supplyLogger
    split
    · exact h.add hsupplied parent
    · exact (h.add hsupplied parent).record _ _ hlogger
  unfold Workspace.build supplyVersion
  split
  · exact hlogged
  · exact hlogged.record _ _ (hversion _)

theorem child (h : w.Holds P) (of : Nat) (hsupplied : supplied.Each P) :
    (w.child of supplied).Holds P := by
  unfold Workspace.child
  split
  · exact h.build hlogger hversion hsupplied _
  · exact h

theorem clone (h : w.Holds P) (of : Nat) (hsupplied : supplied.Each P) :
    (w.clone of supplied).Holds P := by
  unfold Workspace.clone
  split
  · exact h.build hlogger hversion ((h.facts of).putAll hsupplied) _
  · exact h

theorem nest (count : Nat) {w : Workspace} (h : w.Holds P) (of : Nat)
    (hsupplied : supplied.Each P) : (w.nest of supplied count).Holds P := by
  induction count generalizing w of with
  | zero => exact h
  | succ count ih =>
      rw [Workspace.nest]
      split
      · exact ih (h.child hlogger hversion of hsupplied) _
      · exact h

theorem apply (h : w.Holds P) (act : Act) (hact : act.Gives P) : (w.apply act).Holds P := by
  have hperformed : ∀ {place : Nat} {step : Session.Step},
      (w.perform step).Holds P →
        ((if place ∈ w.held then some step else none).map w.perform |>.getD w).Holds P := by
    intro place step hstep
    split
    · exact hstep
    · exact h
  cases act with
  | hold contents => exact h.hold hact
  | edit place contents =>
      change (w.edit place contents).Holds P
      unfold edit
      split
      · exact h.write place hact
      · exact h
  | newRoot facts => exact hperformed (h.build hlogger hversion (h facts) none)
  | child of facts => exact hperformed (h.child hlogger hversion of (h facts))
  | clone of overrides => exact hperformed (h.clone hlogger hversion of (h overrides))
  | nest of count facts => exact hperformed (h.nest hlogger hversion count of (h facts))
  | ownFacts of =>
      rw [Workspace.apply]
      split
      · exact h.hold (h.facts of)
      · exact h
  | setDefault version =>
      change (w.perform (.setDefault version)).Holds P
      rw [perform]
      split
      · exact h
      · exact h

theorem run {w : Workspace} (h : w.Holds P) (acts : List Act) (hacts : ∀ act ∈ acts, act.Gives P) :
    (w.run acts).Holds P := by
  induction acts generalizing w with
  | nil => exact h
  | cons act rest ih =>
      obtain ⟨hact, hrest⟩ := List.forall_mem_cons.mp hacts
      exact ih (h.apply hlogger hversion act hact) hrest

end

theorem start (P : Value → Prop) : start.Holds P := by
  intro place entry hentry
  simp [table, Workspace.start, ofSession, Session.start, Forest.empty] at hentry

theorem get? (h : w.Holds P) {i : Nat} {name : String} {value : Value}
    (hget : w.forest.get? i name = some value) : P value := by
  obtain ⟨owner, -, hvalue⟩ := Option.bind_eq_some_iff.mp hget
  exact (h.facts owner).of_get? hvalue

theorem see (h : w.Holds P) (hnull : P .null) (i : Nat) (fact : Fact) :
    P (w.forest.see i fact) := by
  unfold Forest.see Forest.get
  cases hget : w.forest.get? i fact.name with
  | none => exact hnull
  | some value => exact h.get? hget

end Holds

end Workspace

end FactScope
