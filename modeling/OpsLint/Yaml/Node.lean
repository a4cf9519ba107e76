import OpsLint.Assoc
import OpsLint.Yaml.Token

/-!
# Nodes

The tokens of a YAML text make a document: a **node**, which is a scalar, a sequence or a mapping. A
text holds at most one document.

A node can be given a name, and an alias then stands for it. A name is given once. Within the node
itself its alias stands for a collection about which nothing is known yet, so nodes are finite
trees.

The descent below carries a bound on its depth. Every level of it but two uses up a token, so a
multiple of the number of tokens is enough.
-/

namespace OpsLint.Yaml

/-- How the type of a node is found. -/
inductive TypeMark where
  /-- By what the text looks like. -/
  | inferred
  /-- It is the usual one for its form. -/
  | usual
  /-- It is given by an address. -/
  | named (uri : Text)
deriving DecidableEq

/-- A node of a document. -/
inductive Node where
  | scalar (mark : TypeMark) (text : Text)
  | sequence (mark : TypeMark) (items : List Node)
  | mapping (mark : TypeMark) (entries : List (Node × Node))

namespace Node

/-- The node where none is written. -/
def absent : Node := .scalar .inferred []

/-- What is left of the tokens, and the nodes that have names. -/
structure Rest where
  tokens : List Token
  names : List (Text × Node) := []

/-- A reader of nodes. -/
abbrev Reader := StateT Rest (Except Error)

/-- The next token. -/
def peek : Reader (Option Token) := return (← get).tokens.head?

/-- Moves on over a token. -/
def skip : Reader Unit := modify fun s => { s with tokens := s.tokens.tail }

/-- Moves on over a token if it is next: `true` if it was. -/
def skipIf (token : Token) : Reader Bool := do
  if (← peek) = some token then
    skip
    return true
  else return false

/-- Moves on over a token that has to come. -/
def expect (token : Token) : Reader Unit := do
  if !(← skipIf token) then throw .malformed

/-- One of some tokens is next. -/
def isNext (tokens : List Token) : Reader Bool := return (← peek).any (tokens.contains ·)

/-- The name and the tag before a node. -/
structure Properties where
  name : Option Text := none
  tag : Option (Option Text × Text) := none

/-- Reads the name and the tag before a node, in either order. -/
def properties : Reader Properties := do
  match ← peek with
  | some (.anchor name) =>
    skip
    match ← peek with
    | some (.tag handle suffix) =>
      skip
      return { name, tag := (handle, suffix) }
    | _ => return { name }
  | some (.tag handle suffix) =>
    skip
    match ← peek with
    | some (.anchor name) =>
      skip
      return { name, tag := (handle, suffix) }
    | _ => return { tag := (handle, suffix) }
  | _ => return {}

/-- The address of a tag, where `handles` says what the handles stand for. -/
def uriOf (handles : List (Text × Text)) : Option Text × Text → Except Error Text
  | (none, suffix) => .ok suffix
  | (some handle, suffix) =>
    match handles.lookup handle with
    | some start => .ok (start ++ suffix)
    | none => .error .malformed

/-- Gives a name to a node. -/
def giveName (name : Option Text) (node : Node) : Reader Unit :=
  match name with
  | some name => modify fun s => { s with names := Assoc.put name node s.names }
  | none => pure ()

/-- How the type of a collection is found. -/
def collectionMark (uri : Option Text) : TypeMark :=
  match uri with
  | none => .usual
  | some uri => if uri = ['!'] then .usual else .named uri

/-- How the type of a scalar is found. -/
def scalarMark (uri : Option Text) (isPlain : Bool) : TypeMark :=
  match uri with
  | none => if isPlain then .inferred else .usual
  | some uri => if uri = ['!'] then .inferred else .named uri

/-- Where a node stands, which decides the forms that it can have. -/
inductive Place where
  /-- Within brackets. -/
  | flow
  /-- An item of a block, or a whole document. -/
  | block
  /-- A key or a value of a block, where dashes need no indentation. -/
  | entry
deriving DecidableEq

mutual

/-- Reads a node. -/
def node (handles : List (Text × Text)) : Nat → Place → Reader Node
  | 0, _ => throw .malformed
  | n + 1, place => do
    if let some (.alias name) ← peek then
      skip
      match (← get).names.lookup name with
      | some node => return node
      | none => throw .malformed
    let props ← properties
    let uri ← props.tag.mapM fun tag => (uriOf handles tag : Except Error Text)
    let names := (← get).names
    if props.name.any fun name => (names.lookup name).isSome then throw .malformed
    let sequence (items : Reader (List Node)) : Reader Node := do
      giveName props.name (.sequence (collectionMark uri) [])
      return .sequence (collectionMark uri) (← items)
    let mapping (entries : Reader (List (Node × Node))) : Reader Node := do
      giveName props.name (.mapping (collectionMark uri) [])
      return .mapping (collectionMark uri) (← entries)
    let node ← match ← peek with
      | some (.scalar text isPlain) => do
        skip
        pure (.scalar (scalarMark uri isPlain) text)
      | some .openSequence => do
        skip
        sequence (flowItems handles n true)
      | some .openMapping => do
        skip
        mapping (flowEntries handles n true)
      | some .dash =>
        if place = .entry then sequence (looseItems handles n)
        else if props.name.isSome || uri.isSome then pure (.scalar (scalarMark uri true) [])
        else throw .malformed
      | some .blockSequence =>
        if place = .flow then throw .malformed
        else do
          skip
          sequence (blockItems handles n)
      | some .blockMapping =>
        if place = .flow then throw .malformed
        else do
          skip
          mapping (blockEntries handles n)
      | _ =>
        if props.name.isSome || uri.isSome then pure (.scalar (scalarMark uri true) [])
        else throw .malformed
    giveName props.name node
    return node

/-- Reads a node, unless one of some tokens comes, before which there is none. -/
def nodeUnless (handles : List (Text × Text)) (stops : List Token) : Nat → Place → Reader Node
  | 0, _ => throw .malformed
  | n + 1, place => do
    if ← isNext stops then return absent else node handles n place

/-- Reads the items of a block to its end. -/
def blockItems (handles : List (Text × Text)) : Nat → Reader (List Node)
  | 0 => throw .malformed
  | n + 1 => do
    if ← skipIf .dash then
      let item ← nodeUnless handles [.dash, .blockEnd] n .block
      return item :: (← blockItems handles n)
    expect .blockEnd
    return []

/-- Reads the items that have dashes without indentation. -/
def looseItems (handles : List (Text × Text)) : Nat → Reader (List Node)
  | 0 => throw .malformed
  | n + 1 => do
    if ← skipIf .dash then
      let item ← nodeUnless handles [.dash, .key, .value, .blockEnd] n .block
      return item :: (← looseItems handles n)
    return []

/-- Reads the entries of a block to its end. -/
def blockEntries (handles : List (Text × Text)) : Nat → Reader (List (Node × Node))
  | 0 => throw .malformed
  | n + 1 => do
    let stops : List Token := [.key, .value, .blockEnd]
    if ← skipIf .key then
      let key ← nodeUnless handles stops n .entry
      let value ← if ← skipIf .value then nodeUnless handles stops n .entry else pure absent
      return (key, value) :: (← blockEntries handles n)
    expect .blockEnd
    return []

/-- Reads the items within brackets. An item can be a mapping with one entry. -/
def flowItems (handles : List (Text × Text)) : Nat → Bool → Reader (List Node)
  | 0, _ => throw .malformed
  | n + 1, isFirst => do
    if ← skipIf .closeSequence then return []
    if !isFirst then expect .comma
    if ← skipIf .closeSequence then return []
    let stops : List Token := [.comma, .closeSequence]
    if ← skipIf .key then
      let key ← nodeUnless handles (.value :: stops) n .flow
      let value ← if ← skipIf .value then nodeUnless handles stops n .flow else pure absent
      return .mapping .usual [(key, value)] :: (← flowItems handles n false)
    let item ← node handles n .flow
    return item :: (← flowItems handles n false)

/-- Reads the entries within brackets. -/
def flowEntries (handles : List (Text × Text)) : Nat → Bool → Reader (List (Node × Node))
  | 0, _ => throw .malformed
  | n + 1, isFirst => do
    if ← skipIf .closeMapping then return []
    if !isFirst then expect .comma
    if ← skipIf .closeMapping then return []
    let stops : List Token := [.comma, .closeMapping]
    if ← skipIf .key then
      let key ← nodeUnless handles (.value :: stops) n .flow
      let value ← if ← skipIf .value then nodeUnless handles stops n .flow else pure absent
      return (key, value) :: (← flowEntries handles n false)
    let key ← node handles n .flow
    return (key, absent) :: (← flowEntries handles n false)

end

/-! ## Documents -/

/-- The handles that always have a meaning. -/
def standardHandles : List (Text × Text) := [(['!'], ['!']), ("!!", "tag:yaml.org,2002:")]

/-- What directives say of a document. -/
structure Preamble where
  hasVersion : Bool := false
  handles : List (Text × Text) := []

/-- Adds a directive. Versions and handles are given once, and the version begins with one. -/
def Preamble.add (p : Preamble) : Directive → Except Error Preamble
  | .version major =>
    if p.hasVersion || major ≠ 1 then .error .malformed else .ok { p with hasVersion := true }
  | .tag handle uri =>
    if (p.handles.lookup handle).isSome then .error .malformed
    else .ok { p with handles := (handle, uri) :: p.handles }
  | .other => .ok p

/-- The directives at the start of some tokens, and the rest. -/
def leadingDirectives : List Token → List Directive × List Token
  | .directive d :: tokens =>
    let (ds, rest) := leadingDirectives tokens
    (d :: ds, rest)
  | tokens => ([], tokens)

/-- Reads the content of a document, of which an explicit start may be all there is. -/
def content (handles : List (Text × Text)) (isExplicit : Bool) (tokens : List Token) :
    Except Error (Node × List Token) := do
  let isEmpty : Bool := match tokens with
    | [] | .directive _ :: _ | .documentStart :: _ | .documentEnd :: _ => isExplicit
    | _ => false
  if isEmpty then return (absent, tokens)
  let (node, rest) ← (node handles (4 * tokens.length + 8) .block).run { tokens }
  return (node, rest.tokens)

/-- The document that tokens make, if there is one. Nothing but ends of documents comes after it. -/
def ofTokens (tokens : List Token) : Except Error (Option Node) := do
  let (directives, afterDirectives) := leadingDirectives tokens
  let preamble ← directives.foldlM Preamble.add {}
  let handles := preamble.handles ++ standardHandles
  let (node, rest) ← match afterDirectives with
    | [] => if directives.isEmpty then return none else throw .malformed
    | .documentStart :: tokens => content handles true tokens
    | _ => if directives.isEmpty then content handles false tokens else throw .malformed
  if rest.all (· = .documentEnd) then return some node else throw .malformed

end Node

end OpsLint.Yaml
