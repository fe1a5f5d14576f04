import FactScope.Yaml.Tag
import FactScope.Yaml.Token

namespace FactScope.Yaml

/-- A node with its tag; those in a collection are told by their numbers. -/
inductive Node where
  | scalar (tag : Tag) (text : Text.Points)
  | sequence (tag : Tag) (items : List Nat)
  | mapping (tag : Tag) (pairs : List (Nat × Nat))
deriving DecidableEq, Repr

abbrev Graph : Type := Array Node

namespace Node

def empty : Node :=
  .scalar .null []

def greatestDepth : Nat := 490

abbrev Handles : Type := List (String × String)

def usualHandles : Handles :=
  [("!", "!"), ("!!", "tag:yaml.org,2002:")]

/-- What is still to be read, the nodes so far, the numbers of those at anchors, and how many more
collections may be opened inside each other. -/
structure Source where
  tokens : List Token
  graph : Graph
  anchors : List (String × Nat)
  room : Nat

namespace Source

def start (tokens : List Token) : Source :=
  ⟨tokens, #[], [], greatestDepth⟩

def past (s : Source) (tokens : List Token) : Source :=
  { s with tokens := tokens }

def unexpected {α : Type} (s : Source) (reason : String) : Reading α :=
  match s.tokens with
  | .broken failure :: _ => .error failure
  | _ => malformed reason

def isAtOne (s : Source) (followers : List Token) : Bool :=
  s.tokens.head?.any followers.contains

def add (s : Source) (node : Node) : Nat × Source :=
  (s.graph.size, { s with graph := s.graph.push node })

def addAt (s : Source) (anchor : Option String) (node : Node) : Reading (Nat × Source) :=
  match anchor with
  | none => .ok (s.add node)
  | some name =>
      if s.anchors.any (·.1 == name) then malformed "found duplicate anchor"
      else
        let (number, s) := s.add node
        .ok (number, { s with anchors := (name, number) :: s.anchors })

def finish (s : Source) (number : Nat) (node : Node) : Source :=
  { s with graph := s.graph.setIfInBounds number node }

def inside {α : Type} (s : Source) (content : Source → Reading (α × Source)) :
    Reading (α × Source) :=
  match s.room with
  | 0 => .error .tooDeep
  | room + 1 => do
      let (result, s) ← content { s with room := room }
      return (result, { s with room := room + 1 })

def node? (s : Source) (name : String) : Reading Nat :=
  match s.anchors.find? (·.1 == name) with
  | some (_, number) => .ok number
  | none => malformed "found undefined alias"

end Source

structure Marks where
  tag : Option String
  anchor : Option String

namespace Marks

/-- Whether the text of a scalar shows its sort: without a tag if it is plain, and with the tag
that leaves the sort open. -/
def isOpen (marks : Marks) (plain : Bool) : Bool :=
  marks.tag.elim plain (· == "!")

def scalar (marks : Marks) (text : Text.Points) (plain : Bool) : Node :=
  if marks.isOpen plain then .scalar (.ofPlain text) text
  else .scalar (marks.tag.elim .str .ofName) text

def collection (marks : Marks) (usual : Tag) : Tag :=
  if marks.isOpen true then usual else marks.tag.elim usual .ofName

end Marks

def fullTag (handles : Handles) (handle : Option String) (suffix : String) : Reading String :=
  match handle with
  | none => .ok suffix
  | some handle =>
      match handles.find? (·.1 = handle) with
      | some (_, stands) => .ok (stands ++ suffix)
      | none => malformed "found undefined tag handle"

def readMarks (handles : Handles) : List Token → Reading (Marks × List Token)
  | .anchor _ :: .broken failure :: _ | .tag _ _ :: .broken failure :: _ => .error failure
  | .anchor name :: .tag handle suffix :: rest
  | .tag handle suffix :: .anchor name :: rest => do
      return (⟨some (← fullTag handles handle suffix), some name⟩, rest)
  | .anchor name :: rest => .ok (⟨none, some name⟩, rest)
  | .tag handle suffix :: rest => do
      return (⟨some (← fullTag handles handle suffix), none⟩, rest)
  | tokens => .ok (⟨none, none⟩, tokens)

/-- Where a node stands: in a flow collection, as an entry of a block, or as a key or value of a
block mapping, where a sequence needs no indentation of its own. -/
inductive Place where
  | flow
  | entry
  | pair
deriving DecidableEq

def pairFollowers : List Token := [.key, .value, .blockEnd]

mutual

def read (handles : Handles) : Nat → Place → Source → Reading (Nat × Source)
  | 0, _, s => s.unexpected "expected the node content"
  | fuel + 1, place, s => do
      if let .reference name :: rest := s.tokens then
        return (← s.node? name, s.past rest)
      let (marks, tokens) ← readMarks handles s.tokens
      let sequence (s : Source) (content : Source → Reading (List Nat × Source)) :
          Reading (Nat × Source) := do
        let (number, s) ← s.addAt marks.anchor (.sequence (marks.collection .seq) [])
        let (items, s) ← s.inside content
        return (number, s.finish number (.sequence (marks.collection .seq) items))
      let mapping (s : Source) (content : Source → Reading (List (Nat × Nat) × Source)) :
          Reading (Nat × Source) := do
        let (number, s) ← s.addAt marks.anchor (.mapping (marks.collection .map) [])
        let (pairs, s) ← s.inside content
        return (number, s.finish number (.mapping (marks.collection .map) pairs))
      let scalar (s : Source) (node : Node) : Reading (Nat × Source) := s.addAt marks.anchor node
      match place, tokens with
      | .pair, .dash :: _ => sequence (s.past tokens) (readLooseEntries handles fuel)
      | _, .scalar text plain :: rest => scalar (s.past rest) (marks.scalar text plain)
      | _, .flowSequenceStart :: rest => sequence (s.past rest) (readFlowItems handles fuel true)
      | _, .flowMappingStart :: rest => mapping (s.past rest) (readFlowPairs handles fuel true)
      | .entry, .blockSequenceStart :: rest
      | .pair, .blockSequenceStart :: rest => sequence (s.past rest) (readEntries handles fuel)
      | .entry, .blockMappingStart :: rest
      | .pair, .blockMappingStart :: rest => mapping (s.past rest) (readPairs handles fuel)
      | _, .broken failure :: _ => .error failure
      | _, rest =>
          if marks.anchor.isSome ∨ marks.tag.isSome then
            scalar (s.past rest) (marks.scalar [] true)
          else malformed "expected the node content"

def readOr (handles : Handles) :
    Nat → Place → List Token → Source → Reading (Nat × Source)
  | 0, _, _, s => s.unexpected "expected the node content"
  | fuel + 1, place, followers, s =>
      if s.isAtOne followers then .ok (s.add empty) else read handles fuel place s

def readEntries (handles : Handles) : Nat → Source → Reading (List Nat × Source)
  | 0, s => s.unexpected "expected the end of a block"
  | fuel + 1, s => do
      match s.tokens with
      | .dash :: rest =>
          let (item, s) ← readOr handles fuel .entry [.dash, .blockEnd] (s.past rest)
          let (items, s) ← readEntries handles fuel s
          return (item :: items, s)
      | .blockEnd :: rest => return ([], s.past rest)
      | _ => s.unexpected "expected the end of a block"

/-- Reads the entries of a sequence without indentation of its own. -/
def readLooseEntries (handles : Handles) : Nat → Source → Reading (List Nat × Source)
  | 0, s => s.unexpected "expected the end of a block"
  | fuel + 1, s => do
      match s.tokens with
      | .dash :: rest =>
          let (item, s) ← readOr handles fuel .entry (.dash :: pairFollowers) (s.past rest)
          let (items, s) ← readLooseEntries handles fuel s
          return (item :: items, s)
      | .broken failure :: _ => .error failure
      | _ => return ([], s)

def readPairs (handles : Handles) : Nat → Source → Reading (List (Nat × Nat) × Source)
  | 0, s => s.unexpected "expected the end of a block"
  | fuel + 1, s => do
      match s.tokens with
      | .blockEnd :: rest => return ([], s.past rest)
      | .key :: rest =>
          let (key, s) ← readOr handles fuel .pair pairFollowers (s.past rest)
          let (value, s) ← readValue handles fuel .pair pairFollowers s
          let (pairs, s) ← readPairs handles fuel s
          return ((key, value) :: pairs, s)
      | _ => s.unexpected "expected the end of a block"

def readValue (handles : Handles) :
    Nat → Place → List Token → Source → Reading (Nat × Source)
  | 0, _, _, s => s.unexpected "expected the node content"
  | fuel + 1, place, followers, s =>
      match s.tokens with
      | .value :: rest => readOr handles fuel place followers (s.past rest)
      | .broken failure :: _ => .error failure
      | _ => .ok (s.add empty)

def readFlowItems (handles : Handles) : Nat → Bool → Source → Reading (List Nat × Source)
  | 0, _, s => s.unexpected "expected ',' or ']'"
  | fuel + 1, isFirst, s => do
      if let .flowSequenceEnd :: rest := s.tokens then
        return ([], s.past rest)
      let s ←
        match isFirst, s.tokens with
        | true, _ => pure s
        | false, .comma :: rest => pure (s.past rest)
        | false, _ => s.unexpected "expected ',' or ']'"
      match s.tokens with
      | .flowSequenceEnd :: rest => return ([], s.past rest)
      | .key :: rest =>
          let followers := [Token.comma, .flowSequenceEnd]
          let (number, s) := (s.past rest).add (.mapping .map [])
          let (pair, s) ← s.inside fun s => do
            let (key, s) ← readOr handles fuel .flow (.value :: followers) s
            let (value, s) ← readValue handles fuel .flow followers s
            return ((key, value), s)
          let s := s.finish number (.mapping .map [pair])
          let (items, s) ← readFlowItems handles fuel false s
          return (number :: items, s)
      | _ =>
          let (item, s) ← read handles fuel .flow s
          let (items, s) ← readFlowItems handles fuel false s
          return (item :: items, s)

def readFlowPairs (handles : Handles) :
    Nat → Bool → Source → Reading (List (Nat × Nat) × Source)
  | 0, _, s => s.unexpected "expected ',' or a closing brace"
  | fuel + 1, isFirst, s => do
      if let .flowMappingEnd :: rest := s.tokens then
        return ([], s.past rest)
      let s ←
        match isFirst, s.tokens with
        | true, _ => pure s
        | false, .comma :: rest => pure (s.past rest)
        | false, _ => s.unexpected "expected ',' or a closing brace"
      match s.tokens with
      | .flowMappingEnd :: rest => return ([], s.past rest)
      | .key :: rest =>
          let followers := [Token.comma, .flowMappingEnd]
          let (key, s) ← readOr handles fuel .flow (.value :: followers) (s.past rest)
          let (value, s) ← readValue handles fuel .flow followers s
          let (pairs, s) ← readFlowPairs handles fuel false s
          return ((key, value) :: pairs, s)
      | _ =>
          let (key, s) ← read handles fuel .flow s
          let (value, s) := s.add empty
          let (pairs, s) ← readFlowPairs handles fuel false s
          return ((key, value) :: pairs, s)

end

def readDirectives (versionSeen : Bool) (handles : Handles) :
    List Token → Reading (Handles × List Token)
  | .languageVersion major :: rest =>
      if versionSeen then malformed "found duplicate YAML directive"
      else if major ≠ 1 then malformed "found incompatible YAML document"
      else readDirectives true handles rest
  | .tagHandle handle stands :: rest =>
      if handles.any (·.1 = handle) then malformed "duplicate tag handle"
      else readDirectives versionSeen (handles ++ [(handle, stands)]) rest
  | .otherDirective :: rest => readDirectives versionSeen handles rest
  | tokens => .ok (handles, tokens)

def isDirective : Token → Bool
  | .languageVersion _ | .tagHandle _ _ | .otherDirective => true
  | _ => false

def isBoundary (token : Token) : Bool :=
  isDirective token || token = .documentStart || token = .documentEnd

structure Document where
  graph : Graph
  root : Nat

/-- Reads the one document that the tokens write; no tokens write none. The directives of a second
one are read before it is refused. -/
def readDocument? (tokens : List Token) : Reading (Option Document) := do
  if tokens.isEmpty then return none
  let (declared, rest) ← readDirectives false [] tokens
  let handles := declared ++ usualHandles
  let s := Source.start rest
  let (root, s) ←
    match rest with
    | .documentStart :: rest =>
        let s := s.past rest
        if rest.head?.all isBoundary then pure (s.add empty)
        else read handles (3 * rest.length + 3) .entry s
    | _ =>
        if rest.length = tokens.length then read handles (3 * rest.length + 3) .entry s
        else s.unexpected "expected '<document start>'"
  match s.tokens.dropWhile (· = .documentEnd) with
  | [] => return some ⟨s.graph, root⟩
  | more =>
      let (_, more) ← readDirectives false [] more
      Source.unexpected (.start more) "expected a single document in the stream"

end Node

end FactScope.Yaml
