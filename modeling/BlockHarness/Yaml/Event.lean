import BlockHarness.Yaml.Token

/-! The events of a YAML text: scalars, and where collections and documents start and end. -/
namespace BlockHarness.Yaml
set_option autoImplicit false

/-- What an item carries in front of it. -/
structure Properties where
  anchor : Option Text := none
  tag : Option Text := none
  deriving DecidableEq, Repr

inductive Event where
  | streamEnd
  | documentStart
  | documentEnd
  | «alias» (name : Text)
  | scalar (props : Properties) (isPlain : Bool) (text : Text)
  | sequenceStart (props : Properties)
  | sequenceEnd
  | mappingStart (props : Properties)
  | mappingEnd
  deriving DecidableEq, Repr

/-- A scalar that is not written at all. -/
def Event.empty : Event := .scalar {} true []

/-! ## What is due -/

/-- What the next token is taken for. -/
inductive Due where
  | firstDocument
  | furtherDocument
  | documentContent
  | documentClose
  | blockNode
  | blockItem
  | indentlessItem
  | blockKey
  | blockValue
  | flowItem (isFirst : Bool)
  | pairKey
  | pairValue
  | pairClose
  | flowKey (isFirst : Bool)
  | flowValue
  | flowNoValue
  | nothing
  deriving DecidableEq, Repr

/-- A reader of events: the tokens left, what is due, innermost first, and what tag handles stand for. -/
structure EventReader where
  tokens : List Token
  due : List Due
  handles : List (Text × Text)

namespace EventReader

def peek? (r : EventReader) : Option Token := r.tokens.head?

def skip (r : EventReader) : EventReader := { r with tokens := r.tokens.drop 1 }

/-- Makes something due before all else. -/
def expect (r : EventReader) (due : Due) : EventReader := { r with due := due :: r.due }

/-! ## Documents -/

/-- The handles that need no directive. -/
def standardHandles : List (Text × Text) := [("!", "!"), ("!!", "tag:yaml.org,2002:")]

/-- Reads the directives in front of a document. At most one may give the version, which is 1.1 or 1.2, and no
handle may be given twice. -/
def readDirectives? (seenVersion : Bool) (handles : List (Text × Text)) :
    List Token → Option (List (Text × Text) × List Token)
  | .directive (.version major minor) :: rest =>
    if seenVersion || major != 1 || (minor != 1 && minor != 2) then none else readDirectives? true handles rest
  | .directive (.tag handle expansion) :: rest =>
    if (handles.lookup handle).isSome then none
    else readDirectives? seenVersion (handles ++ [(handle, expansion)]) rest
  | tokens => some (handles ++ standardHandles, tokens)

/-- Starts a document, or ends the stream. Only the first document may do without a marker. -/
def readDocumentStart? (isFirst : Bool) (r : EventReader) : Option (Event × EventReader) :=
  let r := if isFirst then r else { r with tokens := r.tokens.dropWhile (· == .documentEnd) }
  match r.peek? with
  | none => none
  | some .streamEnd => some (.streamEnd, ({ r with due := [] } : EventReader).skip)
  | some t =>
    let isImplicit := isFirst && (match t with | .directive _ | .documentStart => false | _ => true)
    if isImplicit then
      some (.documentStart, { r with due := [.blockNode, .documentClose], handles := standardHandles })
    else
      match readDirectives? false [] r.tokens with
      | some (handles, .documentStart :: rest) =>
        some (.documentStart, { tokens := rest, due := [.documentContent, .documentClose], handles })
      | _ => none

/-! ## Nodes -/

/-- What a tag stands for, given as handle and suffix. -/
def resolveTag? (r : EventReader) (handle suffix : Text) : Option Text :=
  if handle = [] then some suffix else (r.handles.lookup handle).map (· ++ suffix)

/-- Reads an anchor and a tag in front of a node, in either order. The tag is still unresolved. -/
def readProperties (r : EventReader) : Option Text × Option (Text × Text) × EventReader :=
  match r.tokens with
  | .anchor name :: .tag handle suffix :: rest => (some name, some (handle, suffix), { r with tokens := rest })
  | .tag handle suffix :: .anchor name :: rest => (some name, some (handle, suffix), { r with tokens := rest })
  | .anchor name :: rest => (some name, none, { r with tokens := rest })
  | .tag handle suffix :: rest => (none, some (handle, suffix), { r with tokens := rest })
  | _ => (none, none, r)

/-- Reads a node up to its first event. A node with an anchor or a tag may have no content. -/
def readNode? (inBlock mayLackIndent : Bool) (r : EventReader) : Option (Event × EventReader) :=
  match r.peek? with
  | some (.«alias» name) => some (.«alias» name, r.skip)
  | _ =>
    let (anchor, rawTag, r) := r.readProperties
    match r.peek?, rawTag.map fun (handle, suffix) => r.resolveTag? handle suffix with
    | none, _ => none
    | _, some none => none
    | some t, resolved =>
      let tag := resolved.join
      let props : Properties := { anchor, tag }
      match t with
      | .blockEntry =>
        if mayLackIndent then some (.sequenceStart props, r.expect .indentlessItem)
        else if anchor.isSome || tag.isSome then some (.scalar props true [], r)
        else none
      | .scalar isPlain text => some (.scalar props isPlain text, r.skip)
      | .flowSequenceStart => some (.sequenceStart props, r.skip.expect (.flowItem true))
      | .flowMappingStart => some (.mappingStart props, r.skip.expect (.flowKey true))
      | .blockSequenceStart =>
        if inBlock then some (.sequenceStart props, r.skip.expect .blockItem)
        else if anchor.isSome || tag.isSome then some (.scalar props true [], r)
        else none
      | .blockMappingStart =>
        if inBlock then some (.mappingStart props, r.skip.expect .blockKey)
        else if anchor.isSome || tag.isSome then some (.scalar props true [], r)
        else none
      | _ => if anchor.isSome || tag.isSome then some (.scalar props true [], r) else none

/-- Reads a node, or an empty scalar if the next token is one of `stops`; then `due` is due. -/
def readNodeUnless? (inBlock mayLackIndent : Bool) (stops : List Token) (due : Due) (r : EventReader) :
    Option (Event × EventReader) :=
  match r.peek? with
  | none => none
  | some t =>
    if stops.contains t then some (.empty, r.expect due)
    else (r.expect due).readNode? inBlock mayLackIndent

/-! ## One event -/

/-- Reads an item of a list in brackets, given that no closing bracket and, but for the first item, a comma stands
before it. -/
def readFlowItem? (r : EventReader) : Option (Event × EventReader) :=
  match r.peek? with
  | none => none
  | some .key => some (.mappingStart {}, ((r.skip.expect (.flowItem false)).expect .pairKey))
  | some .flowSequenceEnd => some (.sequenceEnd, r.skip)
  | some _ => (r.expect (.flowItem false)).readNode? false false

/-- Reads a key of a mapping in braces, given that no closing brace and, but for the first key, a comma stands
before it. -/
def readFlowKey? (r : EventReader) : Option (Event × EventReader) :=
  match r.peek? with
  | none => none
  | some .key => r.skip.readNodeUnless? false false [.value, .flowEntry, .flowMappingEnd] .flowValue
  | some .flowMappingEnd => some (.mappingEnd, r.skip)
  | some _ => (r.expect .flowNoValue).readNode? false false

/-- Reads the next event; the tokens may be at an end or out of place before it is complete. -/
def next? (r : EventReader) : Option (Event × EventReader) :=
  match r.due with
  | [] => none
  | due :: outer =>
    let here : EventReader := { r with due := outer }
    match due with
    | .nothing => none
    | .firstDocument => here.readDocumentStart? true
    | .furtherDocument => here.readDocumentStart? false
    | .blockNode => here.readNode? true false
    | .documentContent =>
      match r.peek? with
      | none => none
      | some (.directive _) | some .documentStart | some .documentEnd | some .streamEnd => some (.empty, here)
      | some _ => here.readNode? true false
    | .documentClose =>
      match r.peek? with
      | none => none
      | some .documentEnd => some (.documentEnd, { here.skip with due := [.furtherDocument] })
      | some _ => some (.documentEnd, { here with due := [.furtherDocument] })
    | .blockItem =>
      match r.peek? with
      | some .blockEntry => here.skip.readNodeUnless? true false [.blockEntry, .blockEnd] .blockItem
      | some .blockEnd => some (.sequenceEnd, here.skip)
      | _ => none
    | .indentlessItem =>
      match r.peek? with
      | none => none
      | some .blockEntry =>
        here.skip.readNodeUnless? true false [.blockEntry, .key, .value, .blockEnd] .indentlessItem
      | some _ => some (.sequenceEnd, here)
    | .blockKey =>
      match r.peek? with
      | some .key => here.skip.readNodeUnless? true true [.key, .value, .blockEnd] .blockValue
      | some .blockEnd => some (.mappingEnd, here.skip)
      | _ => none
    | .blockValue =>
      match r.peek? with
      | none => none
      | some .value => here.skip.readNodeUnless? true true [.key, .value, .blockEnd] .blockKey
      | some _ => some (.empty, here.expect .blockKey)
    | .flowItem isFirst =>
      match isFirst, r.peek? with
      | true, _ => here.readFlowItem?
      | false, some .flowSequenceEnd => some (.sequenceEnd, here.skip)
      | false, some .flowEntry => here.skip.readFlowItem?
      | false, _ => none
    | .pairKey =>
      match r.peek? with
      | none => none
      | some .value | some .flowEntry | some .flowSequenceEnd => some (.empty, here.skip.expect .pairValue)
      | some _ => (here.expect .pairValue).readNode? false false
    | .pairValue =>
      match r.peek? with
      | none => none
      | some .value => here.skip.readNodeUnless? false false [.flowEntry, .flowSequenceEnd] .pairClose
      | some _ => some (.empty, here.expect .pairClose)
    | .pairClose => r.peek?.map fun _ => (.mappingEnd, here)
    | .flowKey isFirst =>
      match isFirst, r.peek? with
      | true, _ => here.readFlowKey?
      | false, some .flowMappingEnd => some (.mappingEnd, here.skip)
      | false, some .flowEntry => here.skip.readFlowKey?
      | false, _ => none
    | .flowValue =>
      match r.peek? with
      | none => none
      | some .value =>
        here.skip.readNodeUnless? false false [.flowEntry, .flowMappingEnd] (.flowKey false)
      | some _ => some (.empty, here.expect (.flowKey false))
    | .flowNoValue => r.peek?.map fun _ => (.empty, here.expect (.flowKey false))

/-- Reads events until the end of the stream or the first token out of place. -/
def run : Nat → EventReader → List Event → List Event
  | 0, _, before => before.reverse
  | fuel + 1, r, before =>
    match r.next? with
    | none => before.reverse
    | some (event, r) => run fuel r (event :: before)

end EventReader

/-- The events of a list of tokens; they end in `streamEnd` only if the tokens do and none is out of place. -/
def Event.ofTokens (tokens : List Token) : List Event :=
  EventReader.run (4 * tokens.length + 4) { tokens, due := [.firstDocument], handles := [] } []

end BlockHarness.Yaml
