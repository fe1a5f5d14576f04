import FactScope.Proofs.Settings.Destination
import FactScope.Proofs.Settings.Normal
import FactScope.Proofs.Text.Encodable

namespace FactScope

open Text (Points)

namespace Text.Points

def slashes (points : Points) : Nat :=
  (points.takeWhile (· == Path.slash)).length

/-- The pieces of a text between slashes, without empty ones and without `.`. -/
def components (points : Points) : List Points :=
  (Path.split points).filter fun piece => piece ≠ [] ∧ piece ≠ [Path.dot]

end Text.Points

namespace Path

def Anchor.ofSlashes : Nat → Anchor
  | 0 => .relative
  | 2 => .double
  | _ => .single

theorem Anchor.ofSlashes_of_pos {n : Nat} (h : 0 < n) :
    Anchor.ofSlashes n = if n = 2 then .double else .single := by
  match n with
  | 1 => rfl
  | 2 => rfl
  | n + 3 => simp [Anchor.ofSlashes]

theorem anchorOf_eq_ofSlashes (text : Points) : anchorOf text = Anchor.ofSlashes text.slashes := by
  rw [anchorOf, Points.slashes]
  rcases text.takeWhile (· == slash) with _ | ⟨first, _ | ⟨second, _ | ⟨third, rest⟩⟩⟩ <;>
    simp [Anchor.ofSlashes]

theorem parse_eq (text : Points) :
    parse text = ⟨Anchor.ofSlashes text.slashes, text.components⟩ := by
  have hcomponent : isComponent = fun piece => decide (piece ≠ [] ∧ piece ≠ [dot]) := by
    funext piece
    rw [Bool.eq_iff_iff, isComponent, Bool.and_eq_true, bne_iff_ne, bne_iff_ne, decide_eq_true_eq]
  rw [parse, anchorOf_eq_ofSlashes, hcomponent, Points.components]

theorem join_eq_intercalate (pieces : List Points) : join pieces = [slash].intercalate pieces := by
  induction pieces with
  | nil => rfl
  | cons piece rest ih =>
      cases rest with
      | nil => simp [join]
      | cons next others =>
          rw [join, ih, List.intercalate_cons_cons, List.append_assoc, List.singleton_append]
          exact List.cons_ne_nil _ _

/-- The text of an absolute path: its slashes, and the components with one between neighbours. -/
theorem text_eq {p : Path} (habsolute : p.isAbsolute = true) :
    p.text =
      (if p.anchor = .double then [slash, slash] else [slash]) ++
        [slash].intercalate p.components := by
  obtain ⟨anchor, components⟩ := p
  cases anchor with
  | relative => cases habsolute
  | _ => simp [text, Anchor.text, join_eq_intercalate]

theorem exists_getLast?_join {p : Path} (h : p.Normal) (hcomponents : p.components ≠ []) :
    ∃ c, (join p.components).getLast? = some c ∧ c ≠ slash := by
  obtain ⟨anchor, pieces⟩ := p
  induction pieces with
  | nil => exact absurd rfl hcomponents
  | cons piece rest ih =>
      obtain ⟨⟨hcomponent, hslash⟩, hrest⟩ := List.forall_mem_cons.mp h
      cases rest with
      | nil =>
          cases hlast : piece.getLast? with
          | none =>
              rw [List.getLast?_eq_none_iff.mp hlast] at hcomponent
              cases hcomponent
          | some c => exact ⟨c, hlast, fun hc => hslash (hc ▸ List.mem_of_getLast? hlast)⟩
      | cons next others =>
          obtain ⟨c, hlast, hc⟩ := ih hrest (List.cons_ne_nil _ _)
          refine ⟨c, ?_, hc⟩
          rw [join, List.getLast?_append, List.getLast?_cons, hlast]
          · rfl
          · exact List.cons_ne_nil _ _

theorem exists_getLast?_text {p : Path} (h : p.Normal) (hcomponents : p.components ≠ []) :
    ∃ c, p.text.getLast? = some c ∧ c ≠ slash := by
  obtain ⟨c, hlast, hc⟩ := exists_getLast?_join h hcomponents
  refine ⟨c, ?_, hc⟩
  rw [text, if_neg (fun hp => hcomponents hp.2), List.getLast?_append, hlast]
  rfl

theorem getLast?_text_eq_slash_iff {p : Path} (h : p.Normal) (habsolute : p.isAbsolute = true) :
    p.text.getLast? = some slash ↔ p.components = [] := by
  constructor
  · intro hslash
    refine Classical.byContradiction fun hcomponents => ?_
    obtain ⟨c, hlast, hc⟩ := exists_getLast?_text h hcomponents
    exact hc (Option.some.inj (hlast.symm.trans hslash))
  · intro hroot
    obtain ⟨anchor, components⟩ := p
    cases hroot
    cases anchor with
    | relative => cases habsolute
    | single => rfl
    | double => rfl

def asHome (base : Path) : Path :=
  ⟨if base.components = [] then .single else base.anchor, base.components⟩

theorem isAbsolute_asHome {base : Path} (habsolute : base.isAbsolute = true) :
    base.asHome.isAbsolute = true := by
  by_cases hroot : base.components = []
  · simp [isAbsolute, asHome, hroot]
  · simpa [isAbsolute, asHome, hroot] using habsolute

theorem home?_eq {home : String} {base : Path} (hhome : Points.ofString home = base.text)
    (h : base.Normal) (habsolute : base.isAbsolute = true) : home? home = some base.asHome := by
  by_cases hroot : base.components = []
  · rw [home?, hhome]
    obtain ⟨anchor, components⟩ := base
    cases hroot
    cases anchor with
    | relative => cases habsolute
    | single => rfl
    | double => rfl
  · obtain ⟨c, hlast, hc⟩ := exists_getLast?_text h hroot
    have htrim : (base.text.reverse.dropWhile (· == slash)).reverse = base.text := by
      obtain ⟨before, hbefore⟩ := List.getLast?_eq_some_iff.mp hlast
      rw [hbefore, List.reverse_append, List.reverse_singleton, List.singleton_append,
        List.dropWhile_cons_of_neg (by simpa using hc), List.reverse_cons, List.reverse_reverse]
    have hhead := head?_text habsolute
    rw [home?, hhome, htrim, asHome, if_neg hroot]
    split
    · next hnil => cases hnil ▸ hhead
    · next first rest heq =>
      have hfirst : first ≠ tilde := by
        rintro rfl
        rw [heq] at hhead
        cases hhead
      rw [if_neg hfirst, ← heq, parse_text h habsolute]

theorem expandHome_tilde {home : String} {base : Path} (h : home? home = some base)
    (rest : List Points) :
    expandHome home ⟨.relative, [tilde] :: rest⟩ = .ok ⟨base.anchor, base.components ++ rest⟩ := by
  simp only [expandHome, ne_eq, not_true_eq_false, if_false, if_true, h]

theorem expandHome_user (home : String) {user : Points} (h : user ≠ []) (rest : List Points) :
    expandHome home ⟨.relative, (tilde :: user) :: rest⟩ = .error .noHome := by
  simp only [expandHome, ne_eq, not_true_eq_false, if_false, if_neg h]

theorem expandHome_of_ne (home : String) {components : List Points}
    (h : ∀ user rest, components ≠ (tilde :: user) :: rest) :
    expandHome home ⟨.relative, components⟩ = .ok ⟨.relative, components⟩ := by
  unfold expandHome
  split
  · next first user rest _ heq =>
    have hfirst : first ≠ tilde := fun hfirst => h user rest (hfirst ▸ heq)
    rw [if_pos hfirst]
  · rfl

end Path

namespace Text.Points

/-- A name that the system can be asked for: without the null character, and with no halves of
surrogate pairs but those that stand for single bytes. -/
def Askable (name : Points) : Prop :=
  ∀ code ∈ name, code ≠ 0 ∧ (isSurrogate code = true → isByte code = true)

end Text.Points

namespace Validation

theorem faultOfUser_eq_noHome_iff {user : Points} :
    Path.faultOfUser user = .noHome ↔ user.Askable := by
  have hnull : user.contains 0 = false ↔ ∀ code ∈ user, code ≠ 0 := by
    rw [List.contains_eq_mem, decide_eq_false_iff_not]
    exact ⟨fun h code hcode hzero => h (hzero ▸ hcode), fun h hzero => h 0 hzero rfl⟩
  have hbytes : user.unencodable? Points.isByte = none ↔ ∀ code ∈ user,
      Points.isSurrogate code = true → Points.isByte code = true :=
    Points.unencodable?_eq_none_iff
  constructor
  · intro h
    unfold Path.faultOfUser at h
    split at h
    · cases h
    · next hnone =>
      split at h
      · cases h
      · next hcontains =>
        exact fun code hcode =>
          ⟨hnull.mp (Bool.eq_false_iff.mpr hcontains) code hcode, hbytes.mp hnone code hcode⟩
  · intro h
    rw [Path.faultOfUser, hbytes.mpr fun code hcode => (h code hcode).2,
      hnull.mpr fun code hcode => (h code hcode).1]
    rfl

section

variable {home : String} {value : Value} {v : Points} (htext : textOf? value = .ok v)
  (hstderr : v ≠ .ofString "stderr") (hstdout : v ≠ .ofString "stdout")

include htext hstderr hstdout

theorem destination_of_expandHome {path : Path} (h : (Path.parse v).expandHome home = .ok path) :
    destination home value =
      if path.isAbsolute then .accepted (.file path) else refusePath v value := by
  simp only [destination, htext, if_neg hstderr, if_neg hstdout, h]

theorem destination_of_slashes (hslashes : 0 < v.slashes) :
    destination home value =
      .accepted (.file ⟨Path.Anchor.ofSlashes v.slashes, v.components⟩) := by
  have habsolute : (Path.parse v).isAbsolute = true := by
    rw [Path.parse_eq, Path.Anchor.ofSlashes_of_pos hslashes, Path.isAbsolute]
    split <;> rfl
  rw [destination_of_expandHome htext hstderr hstdout
    (Path.expandHome_of_isAbsolute home habsolute), if_pos habsolute, Path.parse_eq]

theorem destination_of_tilde {base : Path} (hbase : Path.home? home = some base)
    (habsolute : base.isAbsolute = true) {rest : List Points} (hslashes : v.slashes = 0)
    (hcomponents : v.components = [Path.tilde] :: rest) :
    destination home value = .accepted (.file ⟨base.anchor, base.components ++ rest⟩) := by
  have hexpand : (Path.parse v).expandHome home = .ok ⟨base.anchor, base.components ++ rest⟩ := by
    rw [Path.parse_eq, hslashes, hcomponents]
    exact Path.expandHome_tilde hbase _
  rw [destination_of_expandHome htext hstderr hstdout hexpand]
  exact if_pos habsolute

theorem destination_of_user {user : Points} {rest : List Points} (hslashes : v.slashes = 0)
    (huser : user ≠ []) (hcomponents : v.components = (Path.tilde :: user) :: rest) :
    destination home value =
      if Path.faultOfUser user = .noHome then .undecided .noHome
      else .refuse (.user (Path.faultOfUser user)) value := by
  have hparse : Path.parse v = ⟨.relative, (Path.tilde :: user) :: rest⟩ := by
    rw [Path.parse_eq, hslashes, hcomponents]
    rfl
  have hname : Path.user? ⟨.relative, (Path.tilde :: user) :: rest⟩ = some user := by
    simp [Path.user?]
  simp only [destination, htext, if_neg hstderr, if_neg hstdout, hparse,
    Path.expandHome_user home huser, hname, Option.map_some]
  rcases faultOfUser_cases user with ⟨before, run, hfault⟩ | hfault | hfault <;> rw [hfault] <;> rfl

theorem destination_of_relative (hslashes : v.slashes = 0)
    (hcomponents : ∀ user rest, v.components ≠ (Path.tilde :: user) :: rest) :
    destination home value = refusePath v value := by
  have hexpand : (Path.parse v).expandHome home = .ok (Path.parse v) := by
    rw [Path.parse_eq, hslashes]
    exact Path.expandHome_of_ne _ hcomponents
  rw [destination_of_expandHome htext hstderr hstdout hexpand, Path.parse_eq, hslashes]
  rfl

/-- Accepted are the texts with a slash in front and those whose first component is a tilde. -/
theorem exists_accepted_iff {base : Path} (hbase : Path.home? home = some base)
    (habsolute : base.isAbsolute = true) :
    (∃ d, destination home value = .accepted d) ↔
      0 < v.slashes ∨ ∃ rest, v.components = [Path.tilde] :: rest := by
  constructor
  · rintro ⟨d, hd⟩
    refine Classical.byContradiction fun hneither => ?_
    obtain ⟨hpos, htilde⟩ := not_or.mp hneither
    have hslashes : v.slashes = 0 := Nat.eq_zero_of_not_pos hpos
    by_cases huser : ∃ user rest, v.components = (Path.tilde :: user) :: rest
    · obtain ⟨user, rest, hcomponents⟩ := huser
      have hne : user ≠ [] := fun hnil => htilde ⟨rest, hnil ▸ hcomponents⟩
      rw [destination_of_user htext hstderr hstdout hslashes hne hcomponents] at hd
      split at hd <;> cases hd
    · have hcomponents : ∀ user rest, v.components ≠ (Path.tilde :: user) :: rest :=
        fun user rest heq => huser ⟨user, rest, heq⟩
      rw [destination_of_relative htext hstderr hstdout hslashes hcomponents, refusePath] at hd
      split at hd <;> cases hd
  · rintro h
    by_cases hslashes : v.slashes = 0
    · obtain ⟨rest, hcomponents⟩ := h.resolve_left (by omega)
      exact ⟨_, destination_of_tilde htext hstderr hstdout hbase habsolute hslashes hcomponents⟩
    · exact ⟨_, destination_of_slashes htext hstderr hstdout (Nat.pos_of_ne_zero hslashes)⟩

end

theorem message_absolutePath (written : String) :
    (Rule.absolutePath written).message =
      "Value error, File destination must be absolute path: " ++ written := by
  have hsentence : "Value error, " ++ Rule.pathSentence =
      "Value error, File destination must be absolute path: " := by decide +kernel
  rw [← hsentence]
  rfl

theorem refusePath_ofString (s : String) (value : Value) :
    refusePath (α := Destination) (.ofString s) value = .refuse (.absolutePath s) value := by
  rw [refusePath, Points.unencodable?_eq_none_of_ofChars, Points.shown_ofString]

theorem text_of_destination {home : String} {value : Value} {path : Path}
    (h : destination home value = .accepted (.file path)) :
    path.text = (if path.anchor = .double then [Path.slash, Path.slash] else [Path.slash]) ++
        [Path.slash].intercalate path.components ∧
      (∀ piece ∈ path.components, piece ≠ [] ∧ piece ≠ [Path.dot] ∧ Path.slash ∉ piece) ∧
      (path.text.getLast? = some Path.slash → path.components = []) := by
  obtain ⟨hnormal, habsolute⟩ := normal_of_destination h
  refine ⟨Path.text_eq habsolute, fun piece hpiece => ?_,
    (Path.getLast?_text_eq_slash_iff hnormal habsolute).mp⟩
  obtain ⟨hcomponent, hslash⟩ := hnormal piece hpiece
  rw [Path.isComponent, Bool.and_eq_true, bne_iff_ne, bne_iff_ne] at hcomponent
  exact ⟨hcomponent.1, hcomponent.2, hslash⟩

/-- A text names a destination by its leading slashes and its components alone. Below the home
directory or with slashes in front it is a file by an absolute path in normal form, code point by
code point, which is a destination once more and the same; every other text is at fault. -/
theorem destination_by_components {value : Value} {v : Points} {home : String} {base : Path}
    (htext : textOf? value = .ok v) (hhome : Points.ofString home = base.text)
    (hbase : base.Normal) (habsolute : base.isAbsolute = true) :
    (v = .ofString "stderr" → destination home value = .accepted .stderr) ∧
    (v = .ofString "stdout" → destination home value = .accepted .stdout) ∧
    (v ≠ .ofString "stderr" → v ≠ .ofString "stdout" →
      ((∃ d, destination home value = .accepted d) ↔
        0 < v.slashes ∨ ∃ rest, v.components = [Path.tilde] :: rest) ∧
      (0 < v.slashes →
        destination home value = .accepted
          (.file ⟨if v.slashes = 2 then .double else .single, v.components⟩)) ∧
      (v.slashes = 0 →
        (∀ rest, v.components = [Path.tilde] :: rest →
          destination home value = .accepted
            (.file ⟨if base.components = [] then .single else base.anchor,
              base.components ++ rest⟩)) ∧
        (∀ user rest, v.components = (Path.tilde :: user) :: rest → user ≠ [] →
          (Points.Askable user → destination home value = .undecided .noHome) ∧
          (¬Points.Askable user →
            destination home value = .refuse (.user (Path.faultOfUser user)) value)) ∧
        ((∀ user rest, v.components ≠ (Path.tilde :: user) :: rest) →
          ∀ s, v = .ofString s → destination home value = .refuse (.absolutePath s) value ∧
            (Rule.absolutePath s).message =
              "Value error, File destination must be absolute path: " ++ s))) ∧
    (∀ path, destination home value = .accepted (.file path) →
      path.text = (if path.anchor = .double then [Path.slash, Path.slash] else [Path.slash]) ++
        [Path.slash].intercalate path.components ∧
      (∀ piece ∈ path.components, piece ≠ [] ∧ piece ≠ [Path.dot] ∧ Path.slash ∉ piece) ∧
      (path.text.getLast? = some Path.slash → path.components = [])) ∧
    ∀ d, destination home value = .accepted d →
      ∀ other, destination other d.value = .accepted d := by
  have hroot := Path.home?_eq hhome hbase habsolute
  refine ⟨?_, ?_, fun hstderr hstdout => ⟨?_, ?_, fun hslashes => ⟨?_, ?_, ?_⟩⟩,
    fun path => text_of_destination,
    fun d hd other => destination_value other (normal_of_destination hd)⟩
  · rintro rfl
    simp only [destination, htext, if_true]
  · rintro rfl
    simp only [destination, htext, if_true, Points.ofString_inj]
    rfl
  · exact exists_accepted_iff htext hstderr hstdout hroot (Path.isAbsolute_asHome habsolute)
  · intro hslashes
    rw [destination_of_slashes htext hstderr hstdout hslashes,
      Path.Anchor.ofSlashes_of_pos hslashes]
  · intro rest
    exact destination_of_tilde htext hstderr hstdout hroot (Path.isAbsolute_asHome habsolute)
      hslashes
  · intro user rest hcomponents huser
    rw [destination_of_user htext hstderr hstdout hslashes huser hcomponents,
      ← faultOfUser_eq_noHome_iff]
    exact ⟨fun h => if_pos h, fun h => if_neg h⟩
  · rintro hcomponents s rfl
    rw [destination_of_relative htext hstderr hstdout hslashes hcomponents]
    exact ⟨refusePath_ofString s value, message_absolutePath s⟩

/-- A tilde after a dot is the home directory, a `..` stays, and so does half of a pair. -/
theorem destination_below_home :
    Points.ofString "/home/user" = Path.text ⟨.single, [.ofString "home", .ofString "user"]⟩ ∧
      textOf? (.ofPoints (Points.ofString "./~//a/../" ++ [0xD83D, Path.slash])) =
        .ok (Points.ofString "./~//a/../" ++ [0xD83D, Path.slash]) ∧
      destination "/home/user" (.ofPoints (Points.ofString "./~//a/../" ++ [0xD83D, Path.slash])) =
        .accepted (.file (Path.parse (Points.ofString "/home/user/a/../" ++ [0xD83D]))) ∧
      destination "/" (.ofPoints (Points.ofString "/home/user/a/../" ++ [0xD83D])) =
        .accepted (.file (Path.parse (Points.ofString "/home/user/a/../" ++ [0xD83D]))) := by
  have hhome : Points.ofString "/home/user" =
      Path.text ⟨.single, [.ofString "home", .ofString "user"]⟩ := by decide +kernel
  have hbase : Path.Normal ⟨.single, [.ofString "home", .ofString "user"]⟩ := by
    simp only [Path.Normal]
    decide +kernel
  have htext := textOf?_ofPoints (Points.ofString "./~//a/../" ++ [0xD83D, Path.slash])
  obtain ⟨-, -, hpath, -, hagain⟩ := destination_by_components htext hhome hbase rfl
  obtain ⟨-, -, hrelative⟩ := hpath (by decide +kernel) (by decide +kernel)
  have hbelow := (hrelative (by decide +kernel)).1 [[97], [46, 46], [0xD83D]] (by decide +kernel)
  exact ⟨hhome, htext, hbelow, hagain _ hbelow "/"⟩

/-- A user whose name cannot be asked for, and a home directory that ends with a slash. -/
theorem destination_corners :
    (Points.slashes (.ofString "~a\x00b") = 0 ∧
      Points.components (.ofString "~a\x00b") = [Path.tilde :: Points.ofString "a\x00b"] ∧
      destination "/" (.text "~a\x00b") ≠ .undecided .noHome) ∧
    Path.text ⟨.double, []⟩ = Points.ofString "//" ∧
      destination "//" (.text "~") ≠ .accepted (.file ⟨.double, []⟩) := by
  refine ⟨by decide +kernel, by decide +kernel⟩

end Validation

end FactScope
