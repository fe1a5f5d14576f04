import FactScope.Path

/-!
The files and directories of the system. A path is followed from the root name by name, and `..`
leads back from a directory that is there. Main statement: what is there stays there when a file is
opened.
-/

namespace FactScope

open Text (Points)

/-- A place in the file system: the names on the way from the root. -/
abbrev Place : Type := List Points

structure FileTree where
  directories : List Place
  files : List Place
deriving DecidableEq, Repr

namespace FileTree

/-- A file system with some directories and the directories around them. -/
def ofDirectories (paths : List Path) : FileTree :=
  let around (path : Path) : List Place :=
    (List.range (path.components.length + 1)).map path.components.take
  ⟨paths.flatMap around, []⟩

def isDirectory (t : FileTree) (place : Place) : Bool :=
  place.isEmpty || t.directories.contains place

def longestName : Nat := 255

def longestPath : Nat := 4095

def isTooLong (limit : Nat) (text : Points) : Bool :=
  limit < text.foldl (fun count code => count + Points.byteCount code) 0

def follow (t : FileTree) : Place → List Points → Except Refusal Place
  | place, [] => .ok place
  | place, name :: rest =>
      let next := Path.enter place name
      if isTooLong longestName name then .error .tooLong
      else if t.isDirectory next then follow t next rest
      else if t.files.contains next then .error .notDirectory
      else .error .missing

def leadsToDirectory (t : FileTree) (path : Path) : Bool :=
  (t.follow [] path.components).toBool

def allow (path : Path) : Except Refusal Unit :=
  match path.text.unencodable? Points.isByte with
  | some (before, run) => .error (.unencodable before run)
  | none =>
      if path.text.contains 0 then .error .nullByte
      else if isTooLong longestPath path.text then .error .tooLong
      else .ok ()

def makeDirectory (t : FileTree) (path : Path) : Except Refusal FileTree :=
  match allow path, t.follow [] path.components.dropLast, path.components.getLast? with
  | .error refusal, _, _ => .error refusal
  | .ok (), .error refusal, _ => .error refusal
  | .ok (), .ok _, none => .error .occupied
  | .ok (), .ok around, some name =>
      let place := around ++ [name]
      if name = [Path.dot, Path.dot] then .error .occupied
      else if isTooLong longestName name then .error .tooLong
      else if t.isDirectory place || t.files.contains place then .error .occupied
      else .ok { t with directories := t.directories ++ [place] }

/-- Makes a directory if it is not there, with those around it; `names` are those of its path, the
last first. What has been made stays when the rest is refused. -/
def provide (t : FileTree) (anchor : Anchor) : List Points → FileTree × Option Fault
  | [] => (t, none)
  | name :: outer =>
      let path : Path := ⟨anchor, (name :: outer).reverse⟩
      let once (t : FileTree) (refused : Refusal → FileTree × Option Fault) :
          FileTree × Option Fault :=
        match t.makeDirectory path with
        | .ok t => (t, none)
        | .error refusal =>
            if t.leadsToDirectory path then (t, none) else refused refusal
      once t fun refusal =>
        if refusal = .missing then
          match provide t anchor outer with
          | (t, none) => once t fun refusal => (t, some (.refused refusal path.text))
          | failed => failed
        else (t, some (.refused refusal path.text))

/-- Opens the file at a path for more to be written to it. The directories on the way there and the
file are made if they are not there. -/
def openFile (t : FileTree) (path : Path) : FileTree × Option Fault :=
  match t.provide path.anchor path.components.dropLast.reverse with
  | (t, some fault) => (t, some fault)
  | (t, none) =>
      let target : Path := { path.target with anchor := path.anchor }
      let refuse (refusal : Refusal) : FileTree × Option Fault :=
        (t, some (.refused refusal target.text))
      match allow target with
      | .error refusal => refuse refusal
      | .ok () =>
          if target.components.getLast?.any (isTooLong longestName) then refuse .tooLong
          else if t.isDirectory target.components then refuse .isDirectory
          else if t.files.contains target.components then (t, none)
          else ({ t with files := t.files ++ [target.components] }, none)

theorem files_makeDirectory {t t' : FileTree} {path : Path} (h : t.makeDirectory path = .ok t') :
    t'.files = t.files := by
  grind [makeDirectory]

theorem files_provide (anchor : Anchor) (names : List Points) (t : FileTree) :
    (t.provide anchor names).1.files = t.files := by
  induction names generalizing t with
  | nil => rfl
  | cons name outer ih =>
      unfold provide
      grind [files_makeDirectory]

/-- Files that are there stay there. -/
theorem files_prefix_openFile (t : FileTree) (path : Path) :
    t.files <+: (t.openFile path).1.files := by
  have hprovide := files_provide path.anchor path.components.dropLast.reverse t
  unfold openFile
  grind [List.prefix_append, List.prefix_refl]

end FileTree

end FactScope
