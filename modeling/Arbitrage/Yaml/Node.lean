import Arbitrage.Yaml.Token
import Arbitrage.Yaml.Timestamp

namespace Arbitrage.Yaml

def stdTag (name : String) : String := "tag:yaml.org,2002:" ++ name

/-- What a node holds: its text, or the numbers of its items, or of its entries' keys and
values. -/
inductive Shape where
  | scalar (text : String)
  | sequence (items : List Nat)
  | mapping (entries : List (Nat × Nat))
  deriving Repr, Inhabited

/-- A node of a document: its resolved tag and what it holds. -/
structure Node where
  tag : String
  shape : Shape
  deriving Repr, Inhabited

/-- A document: its nodes by number, and the number of its top node. -/
structure Document where
  nodes : Array Node
  root : Nat
  deriving Inhabited

/-- The node of a number; a number without a node names an empty text. -/
def Document.node (d : Document) (i : Nat) : Node :=
  d.nodes.getD i ⟨stdTag "str", .scalar ""⟩

def boolWords : List String :=
  ["yes", "Yes", "YES", "no", "No", "NO", "true", "True", "TRUE", "false", "False", "FALSE",
   "on", "On", "ON", "off", "Off", "OFF"]

def nullWords : List String := ["~", "null", "Null", "NULL", ""]

def skipWhile (p : Char → Bool) (cs : List Char) : List Char := cs.dropWhile p

def isDigitOrUnderscore (c : Char) : Bool := c.isDigit || c == '_'

/-- An exponent `e±digits` that ends the text, or nothing at all. -/
def exponentTail : List Char → Bool
  | [] => true
  | c :: s :: rest =>
    (c == 'e' || c == 'E') && (s == '-' || s == '+') && !rest.isEmpty && rest.all Char.isDigit
  | _ => false

/-- Sexagesimal groups `:d` or `:dd` (first digit at most 5), at least one; answers the rest
after them. A group must be followed by `:` or by what `stop` accepts. -/
def sexagesimalGroups (stop : List Char → Bool) : Nat → List Char → Bool
  | 0, _ => false
  | fuel + 1, ':' :: rest =>
    let ds := rest.takeWhile Char.isDigit
    let after := rest.dropWhile Char.isDigit
    let okGroup := ds.length == 1 || (ds.length == 2 && ds.head! ≤ '5')
    okGroup && (match after with
      | ':' :: _ => sexagesimalGroups stop fuel after
      | _ => stop after)
  | _, _ => false

def dropSign : List Char → Bool × List Char
  | '-' :: rest => (true, rest)
  | '+' :: rest => (true, rest)
  | cs => (false, cs)

/-- The float forms of YAML 1.1: `1.5`, `1.`, `.5`, `1.0e+3`, `1:30.5`, `.inf`, `.nan`. -/
def isFloatText (s : String) : Bool :=
  let cs := s.toList
  let (signed, rest) := dropSign cs
  let word := String.ofList rest
  if word == ".inf" || word == ".Inf" || word == ".INF" then true
  else if !signed && (word == ".nan" || word == ".NaN" || word == ".NAN") then true
  else
    match rest with
    | '.' :: d :: tail =>
      !signed && d.isDigit && exponentTail (skipWhile isDigitOrUnderscore tail)
    | d :: tail =>
      if !d.isDigit then false
      else
        let afterWhole := skipWhile isDigitOrUnderscore tail
        match afterWhole with
        | '.' :: frac => exponentTail (skipWhile isDigitOrUnderscore frac)
        | ':' :: _ =>
          sexagesimalGroups (fun after => match after with
            | '.' :: frac => (skipWhile isDigitOrUnderscore frac).isEmpty
            | _ => false) (afterWhole.length + 1) afterWhole
        | _ => false
    | [] => false

/-- The integer forms of YAML 1.1: binary `0b`, octal `0…`, decimal, hexadecimal `0x`, and
sexagesimal `1:30`, each with an optional sign and underscores. -/
def isIntText (s : String) : Bool :=
  let (_, rest) := dropSign s.toList
  match rest with
  | '0' :: 'b' :: tail => !tail.isEmpty && tail.all (fun c => c == '0' || c == '1' || c == '_')
  | '0' :: 'x' :: tail => !tail.isEmpty && tail.all (fun c => isHexDigit c || c == '_')
  | ['0'] => true
  | '0' :: tail => tail.all (fun c => ('0' ≤ c && c ≤ '7') || c == '_')
  | d :: tail =>
    if !d.isDigit then false
    else
      let afterWhole := skipWhile isDigitOrUnderscore tail
      match afterWhole with
      | [] => true
      | ':' :: _ => sexagesimalGroups List.isEmpty (afterWhole.length + 1) afterWhole
      | _ => false
  | [] => false

/-- Whether a text has a form, or has it followed by one final line feed. -/
def hasForm (form : String → Bool) (text : String) : Bool :=
  form text || (text.endsWith "\n" && form (String.ofList text.toList.dropLast))

/-- The tag of a scalar whose tag comes from its text. The forms are tried in a fixed order,
each only for texts starting with a character it can start with; the words `!`, `&` and `*`
get a tag of their own that no value is built for. -/
def resolvePlain (text : String) : String :=
  let first := text.toList.head?.getD '\x00'
  if text.isEmpty then stdTag "null"
  else if "yYnNtTfFoO".contains first && hasForm boolWords.contains text then stdTag "bool"
  else if "-+0123456789.".contains first && hasForm isFloatText text then stdTag "float"
  else if "-+0123456789".contains first && hasForm isIntText text then stdTag "int"
  else if first == '<' && hasForm (· == "<<") text then stdTag "merge"
  else if "~nN".contains first && hasForm nullWords.contains text then stdTag "null"
  else if "0123456789".contains first && isTimestampText text then stdTag "timestamp"
  else if first == '=' && hasForm (· == "=") text then stdTag "value"
  else if "!&*".contains first && hasForm (fun w => w == "!" || w == "&" || w == "*") text then
    stdTag "yaml"
  else stdTag "str"

/-- The parser's place in the token list, why scanning stopped if it failed, its tag handles,
the nodes begun so far and the anchors defined so far with the numbers of their nodes. -/
structure Parser where
  tokens : Array Token
  failure : Option ReadError := none
  pos : Nat := 0
  handles : List (String × String) := [("!", "!"), ("!!", stdTag "")]
  nodes : Array Node := #[]
  anchors : List (String × Nat) := []

abbrev ParseM := StateT Parser (Except ReadError)

namespace Parser

/-- The next token; past the tokens handed out it is the failure of scanning, or the stream
end. -/
def peek : ParseM Token := do
  let s ← get
  match s.tokens[s.pos]?, s.failure with
  | some t, _ => pure t
  | none, some e => throw e
  | none, none => pure .streamEnd

def advance : ParseM Unit := modify fun s => { s with pos := s.pos + 1 }

def nextIs (p : Token → Bool) : ParseM Bool := do pure (p (← peek))

def isKey : Token → Bool | .key => true | _ => false
def isValue : Token → Bool | .value => true | _ => false
def isBlockEnd : Token → Bool | .blockEnd => true | _ => false
def isBlockEntry : Token → Bool | .blockEntry => true | _ => false
def isFlowEntry : Token → Bool | .flowEntry => true | _ => false
def isFlowSequenceEnd : Token → Bool | .flowSequenceEnd => true | _ => false
def isFlowMappingEnd : Token → Bool | .flowMappingEnd => true | _ => false
def isDocumentStart : Token → Bool | .documentStart => true | _ => false
def isDocumentEnd : Token → Bool | .documentEnd => true | _ => false
def isStreamEnd : Token → Bool | .streamEnd => true | _ => false
def isDirective : Token → Bool
  | .versionDirective .. | .tagDirective .. | .reservedDirective => true
  | _ => false

/-- Begins a node; answers its number. -/
def begin (n : Node) : ParseM Nat := do
  let i := (← get).nodes.size
  modify fun s => { s with nodes := s.nodes.push n }
  return i

def finish (i : Nat) (n : Node) : ParseM Unit :=
  modify fun s => { s with nodes := s.nodes.set! i n }

def emptyScalar : ParseM Nat := begin ⟨stdTag "null", .scalar ""⟩

/-- Reads a node. `block` allows block collections; `indentless` allows a block sequence
without indentation, as a mapping value. `fuel` bounds the nesting depth. -/
def node : Nat → Bool → Bool → ParseM Nat
  | 0, _, _ => throw (.grammar "nesting too deep")
  | fuel + 1, block, indentless => do
    match ← peek with
    | .alias name =>
      advance
      let s ← get
      match s.anchors.lookup name with
      | some n => pure n
      | none => throw (.grammar "found undefined alias")
    | _ =>
    -- Properties: an anchor and a tag, in either order.
    let mut anchor : Option String := none
    let mut rawTag : Option (Option String × String) := none
    match ← peek with
    | .anchor a =>
      advance
      anchor := some a
      if let .tag h sfx ← peek then
        advance
        rawTag := some (h, sfx)
    | .tag h sfx =>
      advance
      rawTag := some (h, sfx)
      if let .anchor a ← peek then
        advance
        anchor := some a
    | _ => pure ()
    let s ← get
    let tag : Option String ← match rawTag with
      | none => pure none
      | some (none, sfx) => pure (some sfx)
      | some (some h, sfx) =>
        match s.handles.lookup h with
        | some pfx => pure (some (pfx ++ sfx))
        | none => throw (.grammar "found undefined tag handle")
    -- An anchor is checked once the token after the properties is in view.
    let next ← peek
    if let some a := anchor then
      if (s.anchors.lookup a).isSome then throw (.grammar "found duplicate anchor")
    let id ← begin ⟨stdTag "null", .scalar ""⟩
    if let some a := anchor then
      modify fun s => { s with anchors := (a, id) :: s.anchors }
    let nonSpecific := tag.isNone || tag == some "!"
    let collectionTag (dflt : String) : String := if nonSpecific then stdTag dflt else tag.getD ""
    let result : Node ← match next with
      | .blockEntry =>
        if indentless then do
          -- A block sequence at the indentation of its parent mapping.
          let mut items : Array Nat := #[]
          for _ in [0:(← get).tokens.size + 1] do
            if !(← nextIs isBlockEntry) then break
            advance
            let t ← peek
            if isBlockEntry t || isKey t || isValue t || isBlockEnd t then
              items := items.push (← emptyScalar)
            else items := items.push (← node fuel true false)
          pure ⟨collectionTag "seq", .sequence items.toList⟩
        else if anchor.isSome || tag.isSome then
          pure ⟨if nonSpecific then resolvePlain "" else tag.getD "", .scalar ""⟩
        else throw (.grammar "expected the node content")
      | .scalar text style =>
        advance
        let implicitTag := (style == .plain && tag.isNone) || tag == some "!"
        let t := if implicitTag then resolvePlain text
          else if nonSpecific then stdTag "str" else tag.getD ""
        pure ⟨t, .scalar text⟩
      | .flowSequenceStart => do
        advance
        let mut items : Array Nat := #[]
        let mut first := true
        for _ in [0:(← get).tokens.size + 1] do
          if ← nextIs isFlowSequenceEnd then
            advance
            break
          if !first then
            if ← nextIs isFlowEntry then advance else throw (.grammar "expected ',' or ']'")
          first := false
          let t ← peek
          if isKey t then
            advance
            let t ← peek
            let pair ← begin ⟨stdTag "map", .mapping []⟩
            let k ← if isValue t || isFlowEntry t || isFlowSequenceEnd t then emptyScalar
              else node fuel false false
            let v ← if ← nextIs isValue then do
                advance
                let t ← peek
                if isFlowEntry t || isFlowSequenceEnd t then emptyScalar
                else node fuel false false
              else emptyScalar
            finish pair ⟨stdTag "map", .mapping [(k, v)]⟩
            items := items.push pair
          else if isFlowSequenceEnd t then
            advance
            break
          else items := items.push (← node fuel false false)
        pure ⟨collectionTag "seq", .sequence items.toList⟩
      | .flowMappingStart => do
        advance
        let mut entries : Array (Nat × Nat) := #[]
        let mut first := true
        for _ in [0:(← get).tokens.size + 1] do
          if ← nextIs isFlowMappingEnd then
            advance
            break
          if !first then
            if ← nextIs isFlowEntry then advance else throw (.grammar "expected ',' or '\x7d'")
          first := false
          let t ← peek
          if isKey t then
            advance
            let t ← peek
            let k ← if isValue t || isFlowEntry t || isFlowMappingEnd t then emptyScalar
              else node fuel false false
            let v ← if ← nextIs isValue then do
                advance
                let t ← peek
                if isFlowEntry t || isFlowMappingEnd t then emptyScalar
                else node fuel false false
              else emptyScalar
            entries := entries.push (k, v)
          else if isFlowMappingEnd t then
            advance
            break
          else
            let k ← node fuel false false
            entries := entries.push (k, ← emptyScalar)
        pure ⟨collectionTag "map", .mapping entries.toList⟩
      | .blockSequenceStart =>
        if !block then throw (.grammar "expected the node content")
        else do
          advance
          let mut items : Array Nat := #[]
          let mut closed := false
          for _ in [0:(← get).tokens.size + 1] do
            let t ← peek
            if isBlockEntry t then
              advance
              let t ← peek
              if isBlockEntry t || isBlockEnd t then items := items.push (← emptyScalar)
              else items := items.push (← node fuel true false)
            else if isBlockEnd t then
              advance
              closed := true
              break
            else throw (.grammar "expected <block end>")
          if !closed then throw (.grammar "expected <block end>")
          pure ⟨collectionTag "seq", .sequence items.toList⟩
      | .blockMappingStart =>
        if !block then throw (.grammar "expected the node content")
        else do
          advance
          let mut entries : Array (Nat × Nat) := #[]
          let mut closed := false
          for _ in [0:(← get).tokens.size + 1] do
            let t ← peek
            if isKey t then
              advance
              let t ← peek
              let k ← if isKey t || isValue t || isBlockEnd t then emptyScalar
                else node fuel true true
              let v ← if ← nextIs isValue then do
                  advance
                  let t ← peek
                  if isKey t || isValue t || isBlockEnd t then emptyScalar
                  else node fuel true true
                else emptyScalar
              entries := entries.push (k, v)
            else if isBlockEnd t then
              advance
              closed := true
              break
            else throw (.grammar "expected <block end>")
          if !closed then throw (.grammar "expected <block end>")
          pure ⟨collectionTag "map", .mapping entries.toList⟩
      | _ =>
        if anchor.isSome || tag.isSome then
          pure ⟨if nonSpecific then resolvePlain "" else tag.getD "", .scalar ""⟩
        else throw (.grammar "expected the node content")
    finish id result
    pure id

/-- Reads the directives before an explicit document and sets the tag handles. -/
def directives : ParseM Unit := do
  let mut version := false
  let mut handles : List (String × String) := []
  for _ in [0:(← get).tokens.size + 1] do
    match ← peek with
    | .versionDirective major _ =>
      advance
      if version then throw (.grammar "found duplicate YAML directive")
      if major != 1 then throw (.grammar "found incompatible YAML document")
      version := true
    | .tagDirective h pfx =>
      advance
      if (handles.lookup h).isSome then throw (.grammar "duplicate tag handle")
      handles := handles ++ [(h, pfx)]
    | .reservedDirective => advance
    | _ => break
  let withDefaults := handles ++
    ([("!", "!"), ("!!", stdTag "")].filter fun d => (handles.lookup d.1).isNone)
  modify fun s => { s with handles := withDefaults }

/-- Starts the next explicit document: passes over document ends, then reads directives and
`---`. Answers `false` at the end of the stream. -/
def documentStart : ParseM Bool := do
  for _ in [0:(← get).tokens.size + 1] do
    if ← nextIs isDocumentEnd then advance else break
  if ← nextIs isStreamEnd then return false
  directives
  if ← nextIs isDocumentStart then advance else throw (.grammar "expected '<document start>'")
  return true

/-- The content of an explicit document, empty when the next token ends it, then its end. -/
def documentBody (fuel : Nat) : ParseM Nat := do
  let t ← peek
  let doc ← if isDirective t || isDocumentStart t || isDocumentEnd t || isStreamEnd t then
      emptyScalar
    else node fuel true false
  if ← nextIs isDocumentEnd then advance
  pure doc

/-- Reads the single document of a stream: `none` for a stream without one. The start of a
second document is an error as soon as it is read. -/
def stream : ParseM (Option Nat) := do
  let fuel := (← get).tokens.size + 2
  match ← peek with
  | .streamStart => advance
  | _ => throw (.grammar "expected the stream start")
  let t ← peek
  let mut doc : Option Nat := none
  if !(isDirective t || isDocumentStart t || isStreamEnd t) then
    doc := some (← node fuel true false)
    if ← nextIs isDocumentEnd then advance
  else if ← documentStart then
    doc := some (← documentBody fuel)
  if doc.isSome then
    if ← documentStart then throw (.grammar "expected a single document in the stream")
  if !(← nextIs isStreamEnd) then throw (.grammar "expected the stream end")
  pure doc

end Parser

/-- The single document of a YAML text: `none` for an empty stream, an error for a text that
is not YAML or holds more than one document. -/
def Document.ofText (text : String) : Except ReadError (Option Document) := do
  let ts := tokenize text
  let (root, p) ← Parser.stream.run { tokens := ts.tokens, failure := ts.failure }
  pure (root.map fun r => ⟨p.nodes, r⟩)

end Arbitrage.Yaml
