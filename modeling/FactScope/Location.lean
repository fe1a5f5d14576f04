import FactScope.Resolution

namespace FactScope

structure Site where
  scope : Scope
  method : Value
  property : Value
  static : Value
  filename : Value
  line : Value
  character : Value
deriving DecidableEq, Repr

def Forest.site (f : Forest) (i : Nat) : Site where
  scope := f.scope i
  method := f.see i .method
  property := f.see i .property
  static := f.see i .static
  filename := f.see i .filename
  line := f.see i .line
  character := f.see i .character

namespace Site

/-- The name of the class, absolute where a namespace is visible. A class is its own enclosing
type, so no alias takes part. -/
def ownerName (site : Site) : Except Fault String :=
  if site.scope.space.truthy then
    return (← Resolution.resolve site.scope site.scope.classType).name
  else
    match site.scope.classType with
    | .text name => return name
    | other => throw (.notJoinable other.kind)

def memberText (site : Site) : String :=
  if site.method.truthy then
    (if site.static.truthy then "::" else "->") ++ site.method.toText ++ "()"
  else (if site.static.truthy then "::$" else "->") ++ site.property.toText

def hasMember (site : Site) : Bool :=
  site.scope.classType.truthy && (site.method.truthy || site.property.truthy)

def join (known words next : String) : String :=
  (if known = "" then "" else known ++ words) ++ next

def withPlace (site : Site) (member : String) : String :=
  let text := if site.filename.truthy then join member " in " site.filename.toText else member
  if site.line.truthy then
    join text " on " ("line " ++ site.line.toText ++
      if site.character.truthy then ":" ++ site.character.toText else "")
  else text

/-- The description of a position where all that it shows has a text; parts that are not visible are
left out. -/
def describe (site : Site) : Except Fault String :=
  if site.hasMember then return site.withPlace ((← site.ownerName) ++ site.memberText)
  else return site.withPlace ""

end Site

end FactScope
