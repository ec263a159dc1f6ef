import RecordFlow.Yaml.Basic
import RecordFlow.Yaml.Token

/-!
# Nodes of markup texts

The tokens of a text are read as nodes. What is left out in a map or a list is an empty node, which
stands for null. A node that is given a name by an anchor gets a number, so that a reference to it
can stand inside of it; a later anchor of the same name hides an earlier one.

## Main definitions

* `Yaml.readNode` — the node at a place
* `Yaml.Stream`, `Yaml.read` — the documents of a text
-/

namespace RecordFlow.Yaml

/-- The tokens that are left and the fault behind them, and the nodes that were given a name: the
numbers of the names, the next number, and the nodes by their numbers. -/
structure Remaining where
  tokens : List Token
  fault : Option Fault
  names : List (String × Nat) := []
  next : Nat := 0
  named : List (Nat × Node) := []

/-- A reading of tokens. -/
abbrev Reading (α : Type) := StateT Remaining (Except Fault) α

/-- The next token. -/
def peekToken : Reading Token := do
  let remaining ← get
  match remaining.tokens, remaining.fault with
  | token :: _, _ => return token
  | [], some fault => throw fault
  | [], none => return ⟨.streamEnd, {}⟩

/-- Goes behind the next token. -/
def skipToken : Reading Unit :=
  modify fun remaining => { remaining with tokens := remaining.tokens.drop 1 }

/-- The next token, gone behind. -/
def takeToken : Reading Token := do
  let token ← peekToken
  skipToken
  return token

/-- A fault at a token. -/
def faultAt {α : Type} (token : Token) (error : SyntaxError) : Reading α :=
  throw ⟨error, token.mark⟩

/-- The node where none is written. -/
def emptyNode (mark : Mark) : Node := .scalar "~" true none mark

/-- Gives a name to the next node; the number of the node. -/
def declare (name : String) : Reading Nat :=
  modifyGet fun remaining =>
    (remaining.next,
      { remaining with names := (name, remaining.next) ::
        remaining.names, next := remaining.next + 1 })

/-- What stands in front of a node: the number of its name, and its tag. -/
structure Properties where
  number : Option Nat := none
  tag : Option Tag := none

/-- An anchor, if one is next. -/
def readNumber? : Reading (Option Nat) := do
  match (← peekToken).kind with
  | .anchor name =>
    skipToken
    return some (← declare name)
  | _ => return none

/-- A tag, if one is next. -/
def readTag? : Reading (Option Tag) := do
  match (← peekToken).kind with
  | .tag tag =>
    skipToken
    return some tag
  | _ => return none

/-- The properties of a node, in either order. -/
def readProperties : Reading Properties := do
  match ← readNumber? with
  | some number => return { number := some number, tag := ← readTag? }
  | none =>
    match ← readTag? with
    | some tag => return { tag := some tag, number := ← readNumber? }
    | none => return {}

/-- Keeps a node under its number. -/
def keep (number : Option Nat) (node : Node) : Reading Node := do
  if let some number := number then
    modify fun remaining => { remaining with named := (number, node) :: remaining.named }
  return node

/-- Whether a block may start at a node, and whether a list may start there in the column of the map
around it. -/
structure Position where
  block : Bool := false
  unindented : Bool := false

namespace TokenKind

/-- Whether nothing is written for a part of a block map in front of a token. -/
def endsBlockPart : TokenKind → Bool
  | key | value | blockEnd => true
  | _ => false

/-- Whether nothing is written for an item of a list in front of a token. -/
def endsBlockItem : TokenKind → Bool
  | blockItem | blockEnd => true
  | _ => false

/-- Whether nothing is written for a part of a map in brackets in front of a token. -/
def endsFlowPart : TokenKind → Bool
  | flowItem | flowMapEnd => true
  | _ => false

/-- Whether nothing is written for a part of an entry of a list in brackets in front of a token. -/
def endsFlowEntry : TokenKind → Bool
  | flowItem | flowListEnd => true
  | _ => false

/-- Whether no node can start at a token between documents. -/
def endsDocument : TokenKind → Bool
  | directive | documentStart | documentEnd | streamEnd => true
  | _ => false

end TokenKind

mutual

/-- A node. -/
def readNode : (fuel : Nat) → Position → Reading Node
  | 0, _ => return emptyNode {}
  | fuel + 1, position => do
    let token ← peekToken
    match token.kind with
    | .alias name =>
      skipToken
      match (← get).names.lookup name with
      | some number => return .reference number token.mark
      | none => faultAt token .unknownAnchor
    | _ =>
      let properties ← readProperties
      readContent fuel position properties

/-- A node behind its properties. -/
def readContent : (fuel : Nat) → Position → Properties → Reading Node
  | 0, _, _ => return emptyNode {}
  | fuel + 1, position, properties => do
    let token ← peekToken
    let mark := token.mark
    let kept := keep properties.number
    match token.kind, position.block, position.unindented with
    | .blockItem, _, true => kept (.list (← readUnindented fuel) mark)
    | .scalar text plain, _, _ =>
      skipToken
      kept (.scalar text plain properties.tag mark)
    | .flowListStart, _, _ =>
      skipToken
      kept (.list (← readFlowItems fuel true) mark)
    | .flowMapStart, _, _ =>
      skipToken
      kept (.map (← readFlowEntries fuel true) mark)
    | .blockListStart, true, _ =>
      skipToken
      kept (.list (← readBlockItems fuel) mark)
    | .blockMapStart, true, _ =>
      skipToken
      kept (.map (← readBlockEntries fuel) mark)
    | _, _, _ =>
      -- Properties alone make an empty text.
      if properties.number.isSome || properties.tag.isSome then
        kept (.scalar "" true properties.tag mark)
      else faultAt token .noContent

/-- A node in front of a token that does not end its part, or nothing. -/
def readPart : (fuel : Nat) → (ends : TokenKind → Bool) → Position → Reading Node
  | 0, _, _ => return emptyNode {}
  | fuel + 1, ends, position => do
    let token ← peekToken
    if ends token.kind then return emptyNode token.mark else readNode fuel position

/-- The items of a list in the column of the map around it. -/
def readUnindented : (fuel : Nat) → Reading (List Node)
  | 0 => return []
  | fuel + 1 => do
    match (← peekToken).kind with
    | .blockItem =>
      skipToken
      let ends (kind : TokenKind) : Bool := kind.endsBlockItem || kind.endsBlockPart
      let item ← readPart fuel ends { block := true }
      return item :: (← readUnindented fuel)
    | _ => return []

/-- The items of a block list. -/
def readBlockItems : (fuel : Nat) → Reading (List Node)
  | 0 => return []
  | fuel + 1 => do
    let token ← takeToken
    match token.kind with
    | .blockEnd => return []
    | .blockItem =>
      let item ← readPart fuel TokenKind.endsBlockItem { block := true }
      return item :: (← readBlockItems fuel)
    | _ => faultAt token .noBlockItem

/-- The value of an entry of a block map. -/
def readBlockValue : (fuel : Nat) → Reading Node
  | 0 => return emptyNode {}
  | fuel + 1 => do
    let token ← peekToken
    match token.kind with
    | .value =>
      skipToken
      readPart fuel TokenKind.endsBlockPart { block := true, unindented := true }
    | _ => return emptyNode token.mark

/-- The entries of a block map. -/
def readBlockEntries : (fuel : Nat) → Reading (List (Node × Node))
  | 0 => return []
  | fuel + 1 => do
    let token ← peekToken
    match token.kind with
    | .key =>
      skipToken
      let key ← readPart fuel TokenKind.endsBlockPart { block := true, unindented := true }
      let value ← readBlockValue fuel
      return (key, value) :: (← readBlockEntries fuel)
    | .value =>
      let value ← readBlockValue fuel
      return (emptyNode token.mark, value) :: (← readBlockEntries fuel)
    | .blockEnd =>
      skipToken
      return []
    | _ => faultAt token .noBlockKey

/-- The value of an entry of a map in brackets. -/
def readFlowValue : (fuel : Nat) → Reading Node
  | 0 => return emptyNode {}
  | fuel + 1 => do
    let token ← peekToken
    match token.kind with
    | .value =>
      skipToken
      -- A value that is left out stands at the colon.
      if (← peekToken).kind.endsFlowPart then return emptyNode token.mark else readNode fuel {}
    | _ => return emptyNode token.mark

/-- The entries of a map in brackets, behind its opening brace or behind an entry. -/
def readFlowEntries : (fuel : Nat) → (first : Bool) → Reading (List (Node × Node))
  | 0, _ => return []
  | fuel + 1, first => do
    let token ← peekToken
    match token.kind, first with
    | .flowMapEnd, _ =>
      skipToken
      return []
    | .flowItem, false => skipToken
    | _, false => faultAt token .noFlowMapEnd
    | _, true => pure ()
    let token ← peekToken
    match token.kind with
    | .flowMapEnd =>
      skipToken
      return []
    | .key =>
      skipToken
      let ends (kind : TokenKind) : Bool :=
        kind.endsFlowPart || match kind with
          | .value => true
          | _ => false
      let key ← readPart fuel ends {}
      let value ← readFlowValue fuel
      return (key, value) :: (← readFlowEntries fuel false)
    | .value =>
      let value ← readFlowValue fuel
      return (emptyNode token.mark, value) :: (← readFlowEntries fuel false)
    | _ =>
      -- A name without a colon is an entry without a value.
      let key ← readNode fuel {}
      let behind ← peekToken
      return (key, emptyNode behind.mark) :: (← readFlowEntries fuel false)

/-- The one entry of a map that stands as an item in a list in brackets, behind its key token. -/
def readFlowEntry : (fuel : Nat) → Reading (Node × Node)
  | 0 => return (emptyNode {}, emptyNode {})
  | fuel + 1 => do
    let token ← peekToken
    let isLeftOut := token.kind.endsFlowEntry || match token.kind with
      | .value => true
      | _ => false
    -- The token that a key is left out in front of is taken for the key.
    if isLeftOut then skipToken
    let key ← if isLeftOut then pure (emptyNode token.mark) else readNode fuel {}
    let colon ← peekToken
    match colon.kind with
    | .value =>
      skipToken
      let value ← readPart fuel TokenKind.endsFlowEntry {}
      return (key, value)
    | _ => return (key, emptyNode colon.mark)

/-- The items of a list in brackets, behind its opening bracket or behind an item. -/
def readFlowItems : (fuel : Nat) → (first : Bool) → Reading (List Node)
  | 0, _ => return []
  | fuel + 1, first => do
    let token ← peekToken
    match token.kind, first with
    | .flowListEnd, _ =>
      skipToken
      return []
    | .flowItem, false => skipToken
    | _, false => faultAt token .noFlowListEnd
    | _, true => pure ()
    let token ← peekToken
    match token.kind with
    | .flowListEnd =>
      skipToken
      return []
    | .key =>
      skipToken
      let entry ← readFlowEntry fuel
      return .map [entry] token.mark :: (← readFlowItems fuel false)
    | _ =>
      let item ← readNode fuel {}
      return item :: (← readFlowItems fuel false)

end

/-- Skips directives. -/
def skipDirectives : (fuel : Nat) → Reading Unit
  | 0 => return ()
  | fuel + 1 => do
    match (← peekToken).kind with
    | .directive =>
      skipToken
      skipDirectives fuel
    | _ => return ()

/-- Skips the ends of documents. -/
def skipDocumentEnds : (fuel : Nat) → Reading Unit
  | 0 => return ()
  | fuel + 1 => do
    match (← peekToken).kind with
    | .documentEnd =>
      skipToken
      skipDocumentEnds fuel
    | _ => return ()

/-- The content of a document, with the line that ends it. Names do not outlive their document. -/
def readRoot (fuel : Nat) (explicit : Bool) : Reading Node := do
  modify fun remaining => { remaining with names := [] }
  let root ←
    if explicit then readPart fuel TokenKind.endsDocument { block := true }
    else readNode fuel { block := true }
  match (← peekToken).kind with
  | .documentEnd => skipToken
  | _ => pure ()
  return root

/-- A document that begins with its line of hyphens. -/
def readExplicit (fuel : Nat) : Reading Node := do
  skipDirectives fuel
  let token ← takeToken
  match token.kind with
  | .documentStart => readRoot fuel true
  | _ => faultAt token .noDocumentStart

/-- The documents that follow the first one. -/
def readFurther (size : Nat) : (fuel : Nat) → Reading (List Node)
  | 0 => return []
  | fuel + 1 => do
    skipDocumentEnds size
    match (← peekToken).kind with
    | .streamEnd => return []
    | _ =>
      let root ← readExplicit size
      return root :: (← readFurther size fuel)

/-- All documents. The first one needs no line of hyphens, unless it has directives. -/
def readRoots (size : Nat) : Reading (List Node) := do
  match (← peekToken).kind with
  | .streamEnd => return []
  | .directive =>
    let root ← readExplicit size
    return root :: (← readFurther size size)
  | .documentStart =>
    let root ← readExplicit size
    return root :: (← readFurther size size)
  | _ =>
    let root ← readRoot size false
    return root :: (← readFurther size size)

/-- The documents of a text, with the nodes that references stand for. -/
structure Stream where
  roots : List Node
  named : List (Nat × Node)

/-- The documents of a text. -/
def read (text : List Char) : Except Fault Stream := do
  let (tokens, fault) := tokens text
  let (roots, remaining) ← (readRoots (4 * tokens.length + 8)).run { tokens, fault }
  return { roots, named := remaining.named }

end RecordFlow.Yaml
