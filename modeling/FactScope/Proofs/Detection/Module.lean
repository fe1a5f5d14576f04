import FactScope.CallStack
import FactScope.Proofs.Resolution.Namespace

namespace FactScope

namespace QualifiedName

variable {name left right : List Char}

theorem inner_of_not_mem (hne : name ≠ []) (h : sep ∉ name) : Inner name where
  ne_nil := hne
  head?_ne hhead := h (List.mem_of_head? hhead)
  getLast?_ne hlast := h (List.mem_of_getLast? hlast)
  spaced := spaced_of_not_mem h

theorem Inner.join (hleft : Inner left) (hright : Inner right) : Inner (left ++ sep :: right) where
  ne_nil := List.append_ne_nil_of_left_ne_nil hleft.ne_nil _
  head?_ne := by
    rw [List.head?_append_of_ne_nil _ hleft.ne_nil]
    exact hleft.head?_ne
  getLast?_ne := by
    rw [List.getLast?_append_of_ne_nil _ (List.cons_ne_nil sep right),
      List.getLast?_cons_of_ne_nil hright.ne_nil]
    exact hright.getLast?_ne
  spaced := by
    rw [spaced_append_iff, spaced_cons_iff]
    exact ⟨hleft.spaced, ⟨fun hpair => hright.head?_ne hpair.2, hright.spaced⟩,
      fun hpair => hleft.getLast?_ne hpair.1⟩

end QualifiedName

open QualifiedName

namespace Frame

structure DottedPath (parts : List String) : Prop where
  ne_nil : parts ≠ []
  ne_empty : ∀ part ∈ parts, part ≠ ""
  no_dot : ∀ part ∈ parts, '.' ∉ part.toList
  no_sep : ∀ part ∈ parts, sep ∉ part.toList

variable {parts : List String}

theorem namespaceOf_append (first second : String) :
    namespaceOf (first ++ second) = namespaceOf first ++ namespaceOf second := by
  simp [namespaceOf, String.ofList_append]

theorem namespaceOf_of_no_dot {part : String} (h : '.' ∉ part.toList) :
    namespaceOf part = part := by
  have hkept : ∀ c ∈ part.toList, (if c = '.' then sep else c) = c := by
    intro c hc
    rw [if_neg]
    rintro rfl
    exact h hc
  rw [namespaceOf, List.map_congr_left hkept, List.map_id', String.ofList_toList]

theorem namespaceOf_intercalate (h : ∀ part ∈ parts, '.' ∉ part.toList) :
    namespaceOf (".".intercalate parts) = "\\".intercalate parts := by
  induction parts with
  | nil => rfl
  | cons part rest ih =>
      have hpart : namespaceOf part = part := namespaceOf_of_no_dot (h part List.mem_cons_self)
      cases rest with
      | nil => rw [String.intercalate_singleton, String.intercalate_singleton, hpart]
      | cons next rest =>
          rw [String.intercalate_cons_cons, String.intercalate_cons_cons, namespaceOf_append,
            namespaceOf_append, hpart,
            ih fun other hother => h other (List.mem_cons_of_mem _ hother)]
          rfl

theorem DottedPath.intercalate_ne (h : DottedPath parts) (separator : String) :
    separator.intercalate parts ≠ "" := by
  obtain ⟨hne, hempty, -, -⟩ := h
  cases parts with
  | nil => exact absurd rfl hne
  | cons part rest =>
      have hpart : part ≠ "" := hempty part List.mem_cons_self
      cases rest with
      | nil => rwa [String.intercalate_singleton]
      | cons next rest => simp [String.intercalate_cons_cons, hpart]

theorem DottedPath.inner (h : DottedPath parts) : Inner ("\\".intercalate parts).toList := by
  obtain ⟨hne, hempty, -, hsep⟩ := h
  induction parts with
  | nil => exact absurd rfl hne
  | cons part rest ih =>
      have hpart : Inner part.toList :=
        inner_of_not_mem (mt String.toList_eq_nil_iff.mp (hempty part List.mem_cons_self))
          (hsep part List.mem_cons_self)
      cases rest with
      | nil => rwa [String.intercalate_singleton]
      | cons next rest =>
          have hrest : Inner ("\\".intercalate (next :: rest)).toList :=
            ih (List.cons_ne_nil next rest)
              (fun other hother => hempty other (List.mem_cons_of_mem _ hother))
              fun other hother => hsep other (List.mem_cons_of_mem _ hother)
          rw [String.intercalate_cons_cons, String.toList_append, String.toList_append,
            List.append_assoc]
          exact hpart.join hrest

end Frame

theorem Scope.currentNamespace_of_path {scope : Scope} {parts : List String}
    (h : Frame.DottedPath parts) (hspace : scope.space = .text ("\\".intercalate parts)) :
    scope.currentNamespace = .ok ("\\" ++ "\\".intercalate parts ++ "\\") := by
  have hnamed : Rendered (.text ("\\".intercalate parts)) _ := .named h.inner .bare
  rw [hnamed.currentNamespace_eq hspace, Except.ok.injEq, ← String.toList_inj]
  simp [sep, Alphabet.sep]

end FactScope
