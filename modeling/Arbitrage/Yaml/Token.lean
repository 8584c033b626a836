import Arbitrage.Fault
import Arbitrage.Text.Codes

namespace Arbitrage.Yaml

/-- Why a YAML text could not be read: its grammar, with a description, or a fault met while
reading it. -/
inductive ReadError where
  | grammar (message : String)
  | fault (f : Fault)

/-- How a scalar was written. -/
inductive ScalarStyle where
  | plain
  | singleQuoted
  | doubleQuoted
  | literal
  | folded
  deriving DecidableEq, Repr, Inhabited

/-- The tokens of a YAML stream. -/
inductive Token where
  | streamStart
  | streamEnd
  | versionDirective (major minor : Nat)
  | tagDirective (handle pfx : String)
  | reservedDirective
  | documentStart
  | documentEnd
  | blockSequenceStart
  | blockMappingStart
  | blockEnd
  | flowSequenceStart
  | flowMappingStart
  | flowSequenceEnd
  | flowMappingEnd
  | blockEntry
  | flowEntry
  | key
  | value
  | alias (name : String)
  | anchor (name : String)
  | tag (handle : Option String) (suffix : String)
  | scalar (text : String) (style : ScalarStyle)
  deriving Repr, Inhabited

/-- A place where a mapping key may have started, waiting for its `:`. -/
structure SimpleKey where
  tokenNumber : Nat
  required : Bool
  index : Nat
  line : Nat
  column : Nat

/-- The scanner's position, indentation stack and pending keys. -/
structure Scanner where
  input : Array Char
  pos : Nat := 0
  line : Nat := 0
  column : Nat := 0
  flowLevel : Int := 0
  tokens : Array Token := #[]
  indent : Int := -1
  indents : List Int := []
  allowSimpleKey : Bool := true
  simpleKeys : List (Int × SimpleKey) := []
  done : Bool := false
  handed : Nat := 0

/-- Scanning steps: they read and update the scanner, and may reject the text; a rejected step
leaves the scanner as it stood at the rejection. -/
abbrev ScanM := ExceptT ReadError (StateM Scanner)

def isBreakChar (c : Char) : Bool :=
  c == '\r' || c == '\n' || c == '\x85' || c == '\u2028' || c == '\u2029'

def isBreakOrEnd (c : Char) : Bool := c == '\x00' || isBreakChar c

def isBlankOrEnd (c : Char) : Bool := c == ' ' || c == '\t' || isBreakOrEnd c

def isSpaceOrEnd (c : Char) : Bool := c == ' ' || isBreakOrEnd c

def isWordChar (c : Char) : Bool := c.isAlphanum || c == '-' || c == '_'

def isUriChar (c : Char) : Bool := c.isAlphanum || "-;/?:@&=+$,_.!~*'()[]%".contains c

def isHexDigit (c : Char) : Bool :=
  c.isDigit || ('a' ≤ c && c ≤ 'f') || ('A' ≤ c && c ≤ 'F')

/-- The value of a run of hexadecimal digits. -/
def hexValue (cs : List Char) : Nat :=
  cs.foldl (fun n c =>
    let d := if c.isDigit then c.toNat - '0'.toNat
      else if 'a' ≤ c && c ≤ 'f' then c.toNat - 'a'.toNat + 10
      else c.toNat - 'A'.toNat + 10
    16 * n + d) 0

namespace Scanner

/-- The character `k` places ahead; the end of the text reads as NUL. -/
def peekAt (k : Nat) : ScanM Char := do
  let s ← get
  pure (s.input.getD (s.pos + k) '\x00')

def peek : ScanM Char := peekAt 0

def ahead (n : Nat) : ScanM String := do
  let s ← get
  pure (String.ofList ((List.range n).map fun k => s.input.getD (s.pos + k) '\x00'))

/-- Moves past `n` characters, counting lines and columns; a byte order mark takes no column. -/
def forward (n : Nat) : ScanM Unit := do
  for _ in [0:n] do
    let s ← get
    let ch := s.input.getD s.pos '\x00'
    let next := s.input.getD (s.pos + 1) '\x00'
    let brk := ch == '\n' || ch == '\x85' || ch == '\u2028' || ch == '\u2029' ||
      (ch == '\r' && next != '\n')
    set { s with
      pos := s.pos + 1
      line := if brk then s.line + 1 else s.line
      column := if brk then 0 else if ch == '\uFEFF' then s.column else s.column + 1 }

/-- The number of characters ahead that satisfy `p`, stopping at the end of the text. -/
def runLength (p : Char → Bool) (from_ : Nat := 0) : ScanM Nat := do
  let s ← get
  let mut n := from_
  for _ in [0:s.input.size + 1] do
    if p (s.input.getD (s.pos + n) '\x00') then n := n + 1 else break
  pure n

/-- Takes the next `n` characters as text and moves past them. -/
def take (n : Nat) : ScanM String := do
  let t ← ahead n
  forward n
  pure t

def skipSpaces : ScanM Unit := do
  let n ← runLength (· == ' ')
  forward n

def skipBlanks : ScanM Unit := do
  let n ← runLength (fun c => c == ' ' || c == '\t')
  forward n

/-- Skips a comment up to the end of its line. -/
def skipComment : ScanM Unit := do
  if (← peek) == '#' then
    let n ← runLength (fun c => !isBreakOrEnd c)
    forward n

/-- Reads one line break: CR LF, CR, LF and NEL read as LF, the two Unicode separators as
themselves; anything else reads as nothing. -/
def lineBreak : ScanM String := do
  let ch ← peek
  if ch == '\r' || ch == '\n' || ch == '\x85' then
    if (← ahead 2) == "\r\n" then forward 2 else forward 1
    pure "\n"
  else if ch == '\u2028' || ch == '\u2029' then
    forward 1
    pure ch.toString
  else pure ""

def emit (t : Token) : ScanM Unit := modify fun s => { s with tokens := s.tokens.push t }

def insertAt (i : Nat) (t : Token) : ScanM Unit := modify fun s =>
  { s with tokens := s.tokens.insertIdxIfInBounds i t }

/-- Drops pending keys that can no longer be keys: they lie on an earlier line or more than
1024 characters back. A required one is an error. -/
def staleSimpleKeys : ScanM Unit := do
  let s ← get
  let mut kept : List (Int × SimpleKey) := []
  for (lvl, k) in s.simpleKeys do
    if k.line != s.line || s.pos - k.index > 1024 then
      if k.required then throw (.grammar "could not find expected ':'")
    else kept := kept ++ [(lvl, k)]
  modify fun s => { s with simpleKeys := kept }

/-- Drops the pending key of the current flow level; a required one is an error. -/
def removeSimpleKey : ScanM Unit := do
  let s ← get
  match s.simpleKeys.lookup s.flowLevel with
  | some k =>
    if k.required then throw (.grammar "could not find expected ':'")
    set { s with simpleKeys := s.simpleKeys.filter (·.1 != s.flowLevel) }
  | none => pure ()

/-- Records that the next token may start a key. In block context a key at the current
indentation is required to be one. -/
def saveSimpleKey : ScanM Unit := do
  let s ← get
  let required := s.flowLevel == 0 && s.indent == (s.column : Int)
  if s.allowSimpleKey then
    removeSimpleKey
    let s ← get
    let k : SimpleKey :=
      { tokenNumber := s.tokens.size, required, index := s.pos, line := s.line,
        column := s.column }
    set { s with simpleKeys := (s.flowLevel, k) :: s.simpleKeys.filter (·.1 != s.flowLevel) }

/-- Closes block collections indented deeper than `column`. Flow context ignores indentation. -/
def unwindIndent (column : Int) : ScanM Unit := do
  let s ← get
  if s.flowLevel != 0 then return
  for _ in [0:s.indents.length + 1] do
    let s ← get
    if s.indent > column then
      match s.indents with
      | i :: rest =>
        set { s with indent := i, indents := rest }
        emit .blockEnd
      | [] => break
    else break

/-- Opens a deeper indentation level if `column` is deeper; answers whether it did. -/
def addIndent (column : Int) : ScanM Bool := do
  let s ← get
  if s.indent < column then
    set { s with indents := s.indent :: s.indents, indent := column }
    pure true
  else pure false

/-- Skips spaces, comments and line breaks up to the next token; a line break in block
context allows a key again. A byte order mark at the very start is skipped. -/
def toNextToken : ScanM Unit := do
  let s ← get
  if s.pos == 0 && (← peek) == '\uFEFF' then forward 1
  for _ in [0:s.input.size + 1] do
    skipSpaces
    skipComment
    let b ← lineBreak
    if b.isEmpty then break
    if (← get).flowLevel == 0 then modify fun s => { s with allowSimpleKey := true }

/-- Ends the stream: closes every block collection. -/
def fetchStreamEnd : ScanM Unit := do
  unwindIndent (-1)
  removeSimpleKey
  modify fun s => { s with allowSimpleKey := false, simpleKeys := [] }
  emit .streamEnd
  modify fun s => { s with done := true }

/-- A directive name: word characters followed by a space, a break or the end. -/
def directiveName : ScanM String := do
  let n ← runLength isWordChar
  if n == 0 then throw (.grammar "expected alphabetic or numeric character")
  let name ← take n
  if !isSpaceOrEnd (← peek) then throw (.grammar "expected alphabetic or numeric character")
  pure name

/-- A decimal number in a version directive. -/
def directiveNumber : ScanM Nat := do
  if !(← peek).isDigit then throw (.grammar "expected a digit")
  let n ← runLength Char.isDigit
  let t ← take n
  pure (t.toList.foldl (fun v c => 10 * v + (c.toNat - '0'.toNat)) 0)

/-- A tag handle: `!`, `!!` or `!word!`. -/
def tagHandle : ScanM String := do
  if (← peek) != '!' then throw (.grammar "expected '!'")
  let c1 ← peekAt 1
  if c1 == ' ' then take 1
  else
    let n ← runLength isWordChar 1
    if (← peekAt n) != '!' then
      forward n
      throw (.grammar "expected '!'")
    take (n + 1)

def decodeUtf8 (bytes : List Nat) : Option String :=
  String.fromUTF8? (ByteArray.mk (bytes.map UInt8.ofNat).toArray)

/-- Percent escapes `%XX…` of a URI, decoded as UTF-8. -/
def uriEscapes : ScanM String := do
  let s ← get
  let mut bytes : List Nat := []
  for _ in [0:s.input.size + 1] do
    if (← peek) != '%' then break
    forward 1
    let h1 ← peekAt 0
    let h2 ← peekAt 1
    if !(isHexDigit h1 && isHexDigit h2) then throw (.grammar "expected URI escape sequence")
    bytes := bytes ++ [hexValue [h1, h2]]
    forward 2
  match decodeUtf8 bytes with
  | some t => pure t
  | none => throw (.grammar "invalid URI escape")

/-- A tag's URI; it must not be empty. -/
def tagUri : ScanM String := do
  let s ← get
  let mut out := ""
  for _ in [0:s.input.size + 1] do
    let ch ← peek
    if ch == '%' then out := out ++ (← uriEscapes)
    else if isUriChar ch then
      forward 1
      out := out.push ch
    else break
  if out.isEmpty then throw (.grammar "expected URI")
  pure out

/-- Skips the rest of a directive line: spaces and a comment, then a break or the end. -/
def directiveIgnoredLine : ScanM Unit := do
  skipSpaces
  skipComment
  if !isBreakOrEnd (← peek) then throw (.grammar "expected a comment or a line break")
  discard lineBreak

/-- Reads a directive after `%`. -/
def scanDirective : ScanM Token := do
  forward 1
  let name ← directiveName
  let tok ← if name == "YAML" then do
      skipSpaces
      let major ← directiveNumber
      if (← peek) != '.' then throw (.grammar "expected a digit or '.'")
      forward 1
      let minor ← directiveNumber
      if !isSpaceOrEnd (← peek) then throw (.grammar "expected a digit or ' '")
      pure (Token.versionDirective major minor)
    else if name == "TAG" then do
      skipSpaces
      let handle ← tagHandle
      if (← peek) != ' ' then throw (.grammar "expected ' '")
      skipSpaces
      let pfx ← tagUri
      if !isSpaceOrEnd (← peek) then throw (.grammar "expected ' '")
      pure (Token.tagDirective handle pfx)
    else do
      let n ← runLength (fun c => !isBreakOrEnd c)
      forward n
      pure Token.reservedDirective
  directiveIgnoredLine
  pure tok

/-- An anchor or alias name after `&` or `*`. -/
def scanAnchorName : ScanM String := do
  forward 1
  let n ← runLength isWordChar
  if n == 0 then throw (.grammar "expected alphabetic or numeric character")
  let name ← take n
  let ch ← peek
  if !(isBlankOrEnd ch || "?:,]\x7d%@\x60".contains ch) then
    throw (.grammar "expected alphabetic or numeric character")
  pure name

/-- A tag: verbatim `!<…>`, the lone `!`, or a handle and a suffix. -/
def scanTag : ScanM Token := do
  let c1 ← peekAt 1
  let (handle, suffix) ← if c1 == '<' then do
      forward 2
      let suffix ← tagUri
      if (← peek) != '>' then throw (.grammar "expected '>'")
      forward 1
      pure (none, suffix)
    else if isBlankOrEnd c1 then do
      forward 1
      pure (none, "!")
    else do
      let s ← get
      let mut len := 1
      let mut useHandle := false
      for _ in [0:s.input.size + 1] do
        let ch ← peekAt len
        if isSpaceOrEnd ch then break
        if ch == '!' then
          useHandle := true
          break
        len := len + 1
      let handle ← if useHandle then tagHandle else do forward 1; pure "!"
      let suffix ← tagUri
      pure (some handle, suffix)
  if !isSpaceOrEnd (← peek) then throw (.grammar "expected ' '")
  pure (.tag handle suffix)

/-- Line breaks and indentation before the first line of a block scalar; answers the breaks
and the deepest indentation seen. -/
def blockScalarIndentation : ScanM (List String × Nat) := do
  let s ← get
  let mut breaks : List String := []
  let mut maxIndent := 0
  for _ in [0:s.input.size + 1] do
    let ch ← peek
    if ch == ' ' then
      forward 1
      let col := (← get).column
      if col > maxIndent then maxIndent := col
    else if isBreakChar ch then breaks := breaks ++ [← lineBreak]
    else break
  pure (breaks, maxIndent)

/-- Line breaks inside a block scalar, skipping indentation up to `indent`. -/
def blockScalarBreaks (indent : Nat) : ScanM (List String) := do
  let s ← get
  let skipIndent : ScanM Unit := do
    for _ in [0:s.input.size + 1] do
      if (← get).column < indent && (← peek) == ' ' then forward 1 else break
  skipIndent
  let mut breaks : List String := []
  for _ in [0:s.input.size + 1] do
    if isBreakChar (← peek) then
      breaks := breaks ++ [← lineBreak]
      skipIndent
    else break
  pure breaks

/-- A literal (`|`) or folded (`>`) block scalar with its chomping and indentation
indicators. -/
def scanBlockScalar (folded : Bool) : ScanM Token := do
  forward 1
  -- Indicators: chomping `+`/`-` and an indentation digit 1-9, in either order.
  let mut chomping : Option Bool := none
  let mut increment : Option Nat := none
  let ch ← peek
  if ch == '+' || ch == '-' then
    chomping := some (ch == '+')
    forward 1
    let d ← peek
    if d.isDigit then
      if d == '0' then throw (.grammar "expected indentation indicator in the range 1-9")
      increment := some (d.toNat - '0'.toNat)
      forward 1
  else if ch.isDigit then
    if ch == '0' then throw (.grammar "expected indentation indicator in the range 1-9")
    increment := some (ch.toNat - '0'.toNat)
    forward 1
    let c ← peek
    if c == '+' || c == '-' then
      chomping := some (c == '+')
      forward 1
  if !isSpaceOrEnd (← peek) then throw (.grammar "expected chomping or indentation indicators")
  directiveIgnoredLine
  let s ← get
  let minIndent : Nat := if s.indent + 1 < 1 then 1 else (s.indent + 1).toNat
  let (firstBreaks, indent) ← match increment with
    | none => do
      let (bs, maxIndent) ← blockScalarIndentation
      pure (bs, max minIndent maxIndent)
    | some inc => do
      let ind := minIndent + inc - 1
      let bs ← blockScalarBreaks ind
      pure (bs, ind)
  let mut breaks := firstBreaks
  let mut chunks : String := ""
  let mut lastBreak : String := ""
  for _ in [0:s.input.size + 1] do
    if !((← get).column == indent && (← peek) != '\x00') then break
    chunks := chunks ++ String.join breaks
    let leadingNonSpace := !((← peek) == ' ' || (← peek) == '\t')
    let n ← runLength (fun c => !isBreakOrEnd c)
    chunks := chunks ++ (← take n)
    lastBreak ← lineBreak
    breaks ← blockScalarBreaks indent
    if (← get).column == indent && (← peek) != '\x00' then
      let nextCh ← peek
      if folded && lastBreak == "\n" && leadingNonSpace && !(nextCh == ' ' || nextCh == '\t')
      then
        if breaks.isEmpty then chunks := chunks ++ " "
      else chunks := chunks ++ lastBreak
    else break
  if chomping != some false then chunks := chunks ++ lastBreak
  if chomping == some true then chunks := chunks ++ String.join breaks
  pure (.scalar chunks (if folded then .folded else .literal))

/-- The escape letters of double-quoted scalars and what they stand for. -/
def escapeReplacement (c : Char) : Option Char :=
  match c with
  | '0' => some '\x00' | 'a' => some '\x07' | 'b' => some '\x08' | 't' => some '\t'
  | '\t' => some '\t' | 'n' => some '\n' | 'v' => some '\x0b' | 'f' => some '\x0c'
  | 'r' => some '\r' | 'e' => some '\x1b' | ' ' => some ' ' | '"' => some '"'
  | '\\' => some '\\' | '/' => some '/' | 'N' => some '\x85' | '_' => some '\xa0'
  | 'L' => some '\u2028' | 'P' => some '\u2029'
  | _ => none

/-- Line breaks inside a quoted scalar; a document marker there is an error. -/
def flowScalarBreaks : ScanM String := do
  let s ← get
  let mut out := ""
  for _ in [0:s.input.size + 1] do
    let pre ← ahead 3
    if (pre == "---" || pre == "...") && isBlankOrEnd (← peekAt 3) then
      throw (.grammar "found unexpected document separator")
    skipBlanks
    if isBreakChar (← peek) then out := out ++ (← lineBreak) else break
  pure out

/-- The characters of a quoted scalar up to the next blank or closing quote, with escapes
and doubled single quotes resolved. -/
def flowScalarNonSpaces (double : Bool) : ScanM String := do
  let s ← get
  let mut out := ""
  for _ in [0:s.input.size + 1] do
    let n ← runLength (fun c => !("'\"\\".contains c || isBlankOrEnd c))
    if n > 0 then out := out ++ (← take n)
    let ch ← peek
    if !double && ch == '\'' && (← peekAt 1) == '\'' then
      out := out.push '\''
      forward 2
    else if (double && ch == '\'') || (!double && (ch == '"' || ch == '\\')) then
      out := out.push ch
      forward 1
    else if double && ch == '\\' then
      forward 1
      let e ← peek
      match escapeReplacement e with
      | some r =>
        out := out.push r
        forward 1
      | none =>
        if e == 'x' || e == 'u' || e == 'U' then
          let len := if e == 'x' then 2 else if e == 'u' then 4 else 8
          forward 1
          let ds ← ahead len
          if !ds.toList.all isHexDigit then throw (.grammar "expected escape sequence of hexadecimal numbers")
          let code := hexValue ds.toList
          if code ≥ 0x80000000 then
            throw (.fault (.tooLarge "Python int too large to convert to C int"))
          if code > 0x10FFFF then throw (.fault (.invalid "chr() arg not in range(0x110000)"))
          out := Text.pushCode out code
          forward len
        else if isBreakChar e then
          discard lineBreak
          out := out ++ (← flowScalarBreaks)
        else throw (.grammar "found unknown escape character")
    else break
  pure out

/-- Blanks and line folding inside a quoted scalar: one line break becomes a space, further
breaks are kept. -/
def flowScalarSpaces : ScanM String := do
  let n ← runLength (fun c => c == ' ' || c == '\t')
  let blanks ← take n
  let ch ← peek
  if ch == '\x00' then throw (.grammar "found unexpected end of stream")
  else if isBreakChar ch then
    let lb ← lineBreak
    let breaks ← flowScalarBreaks
    let first := if lb != "\n" then lb else if breaks.isEmpty then " " else ""
    pure (first ++ breaks)
  else pure blanks

/-- A single- or double-quoted scalar. -/
def scanFlowScalar (double : Bool) : ScanM Token := do
  let quote ← peek
  forward 1
  let mut out ← flowScalarNonSpaces double
  let s ← get
  for _ in [0:s.input.size + 1] do
    if (← peek) == quote then break
    out := out ++ (← flowScalarSpaces)
    out := out ++ (← flowScalarNonSpaces double)
  forward 1
  pure (.scalar out (if double then .doubleQuoted else .singleQuoted))

/-- Spaces and line folding after a line of a plain scalar. A document marker at the start
of the next line ends the scalar (answers no text). -/
def plainSpaces : ScanM (List String) := do
  let n ← runLength (· == ' ')
  let blanks ← take n
  let ch ← peek
  if isBreakChar ch then
    let lb ← lineBreak
    modify fun s => { s with allowSimpleKey := true }
    let pre ← ahead 3
    if (pre == "---" || pre == "...") && isBlankOrEnd (← peekAt 3) then return []
    let s ← get
    let mut breaks : List String := []
    for _ in [0:s.input.size + 1] do
      let c ← peek
      if c == ' ' then forward 1
      else if isBreakChar c then
        breaks := breaks ++ [← lineBreak]
        let pre ← ahead 3
        if (pre == "---" || pre == "...") && isBlankOrEnd (← peekAt 3) then return []
      else break
    let first := if lb != "\n" then [lb] else if breaks.isEmpty then [" "] else []
    pure (first ++ breaks)
  else if !blanks.isEmpty then pure [blanks]
  else pure []

/-- A plain scalar, possibly over several lines. In flow context it stops at `,`, `?`, brackets
and braces, and at a `:` followed by one of them or a blank. -/
def scanPlain : ScanM Token := do
  let s ← get
  let indent := s.indent + 1
  let mut out := ""
  let mut spaces : List String := []
  for _ in [0:s.input.size + 1] do
    if (← peek) == '#' then break
    let flow := (← get).flowLevel != 0
    let st ← get
    let mut len := 0
    for _ in [0:st.input.size + 1] do
      let ch := st.input.getD (st.pos + len) '\x00'
      let nx := st.input.getD (st.pos + len + 1) '\x00'
      if isBlankOrEnd ch || (ch == ':' && (isBlankOrEnd nx || (flow && ",[]\x7b\x7d".contains nx))) ||
          (flow && ",?[]\x7b\x7d".contains ch) then break
      len := len + 1
    if len == 0 then break
    modify fun s => { s with allowSimpleKey := false }
    out := out ++ String.join spaces ++ (← take len)
    spaces ← plainSpaces
    let st ← get
    if spaces.isEmpty || (← peek) == '#' || (st.flowLevel == 0 && (st.column : Int) < indent) then
      break
  pure (.scalar out .plain)

/-- Whether a plain scalar may start here. -/
def checkPlain : ScanM Bool := do
  let ch ← peek
  let c1 ← peekAt 1
  let flow := (← get).flowLevel != 0
  pure (!(isBlankOrEnd ch || "-?:,[]\x7b\x7d#&*!|>'\"%@\x60".contains ch) ||
    (!isBlankOrEnd c1 && (ch == '-' || (!flow && (ch == '?' || ch == ':')))))

/-- Reads the next token or tokens. -/
def fetchMore : ScanM Unit := do
  toNextToken
  staleSimpleKeys
  unwindIndent (← get).column
  let ch ← peek
  let s ← get
  let atColumn0 := s.column == 0
  let c1 ← peekAt 1
  let pre ← ahead 3
  let c3 ← peekAt 3
  if ch == '\x00' then fetchStreamEnd
  else if ch == '%' && atColumn0 then
    unwindIndent (-1)
    removeSimpleKey
    modify fun s => { s with allowSimpleKey := false }
    emit (← scanDirective)
  else if (ch == '-' || ch == '.') && atColumn0 && (pre == "---" || pre == "...") &&
      isBlankOrEnd c3 then
    unwindIndent (-1)
    removeSimpleKey
    modify fun s => { s with allowSimpleKey := false }
    forward 3
    emit (if ch == '-' then .documentStart else .documentEnd)
  else if ch == '[' || ch == '{' then
    saveSimpleKey
    modify fun s => { s with flowLevel := s.flowLevel + 1, allowSimpleKey := true }
    forward 1
    emit (if ch == '[' then .flowSequenceStart else .flowMappingStart)
  else if ch == ']' || ch == '}' then
    removeSimpleKey
    modify fun s => { s with flowLevel := s.flowLevel - 1, allowSimpleKey := false }
    forward 1
    emit (if ch == ']' then .flowSequenceEnd else .flowMappingEnd)
  else if ch == ',' then
    modify fun s => { s with allowSimpleKey := true }
    removeSimpleKey
    forward 1
    emit .flowEntry
  else if ch == '-' && isBlankOrEnd c1 then
    if s.flowLevel == 0 then
      if !s.allowSimpleKey then throw (.grammar "sequence entries are not allowed here")
      if ← addIndent s.column then emit .blockSequenceStart
    modify fun s => { s with allowSimpleKey := true }
    removeSimpleKey
    forward 1
    emit .blockEntry
  else if ch == '?' && (s.flowLevel != 0 || isBlankOrEnd c1) then
    if s.flowLevel == 0 then
      if !s.allowSimpleKey then throw (.grammar "mapping keys are not allowed here")
      if ← addIndent s.column then emit .blockMappingStart
    modify fun s => { s with allowSimpleKey := s.flowLevel == 0 }
    removeSimpleKey
    forward 1
    emit .key
  else if ch == ':' && (s.flowLevel != 0 || isBlankOrEnd c1) then
    match s.simpleKeys.lookup s.flowLevel with
    | some k =>
      modify fun s => { s with simpleKeys := s.simpleKeys.filter (·.1 != s.flowLevel) }
      insertAt k.tokenNumber .key
      if s.flowLevel == 0 then
        if ← addIndent k.column then insertAt k.tokenNumber .blockMappingStart
      modify fun s => { s with allowSimpleKey := false }
    | none =>
      if s.flowLevel == 0 then
        if !s.allowSimpleKey then throw (.grammar "mapping values are not allowed here")
        if ← addIndent s.column then emit .blockMappingStart
      modify fun s => { s with allowSimpleKey := s.flowLevel == 0 }
      removeSimpleKey
    forward 1
    emit .value
  else if ch == '*' || ch == '&' then
    saveSimpleKey
    modify fun s => { s with allowSimpleKey := false }
    let name ← scanAnchorName
    emit (if ch == '*' then .alias name else .anchor name)
  else if ch == '!' then
    saveSimpleKey
    modify fun s => { s with allowSimpleKey := false }
    emit (← scanTag)
  else if (ch == '|' || ch == '>') && s.flowLevel == 0 then
    modify fun s => { s with allowSimpleKey := true }
    removeSimpleKey
    emit (← scanBlockScalar (ch == '>'))
  else if ch == '\'' || ch == '"' then
    saveSimpleKey
    modify fun s => { s with allowSimpleKey := false }
    emit (← scanFlowScalar (ch == '"'))
  else if ← checkPlain then
    saveSimpleKey
    modify fun s => { s with allowSimpleKey := false }
    emit (← scanPlain)
  else throw (.grammar "found character that cannot start any token")

/-- The smallest token number of the pending keys. -/
def firstKeyToken (keys : List (Int × SimpleKey)) : Option Nat :=
  keys.foldl (fun m k => some (match m with
    | some n => min n k.2.tokenNumber
    | none => k.2.tokenNumber)) none

/-- Hands out the tokens that can no longer start a key: all of them once the stream has ended,
else each next one while it is not the first token of a pending key. Keys gone stale are
dropped first, and a required one is an error. -/
def release : ScanM Unit := do
  for _ in [0:(← get).tokens.size + 1] do
    let s ← get
    if s.done then
      set { s with handed := s.tokens.size }
      break
    if s.tokens.size ≤ s.handed then break
    staleSimpleKeys
    let s ← get
    if firstKeyToken s.simpleKeys == some s.handed then break
    set { s with handed := s.handed + 1 }

end Scanner

/-- The tokens of a YAML text as a reader meets them: the tokens handed out, and, when scanning
failed, why, met on asking for the token after them. -/
structure TokenStream where
  tokens : Array Token
  failure : Option ReadError := none

/-- One scanning step: more tokens, then those that can be handed out. A rejected step hands out
nothing more, and answers why. -/
def Scanner.step : StateM Scanner (Option ReadError) := do
  let before := (← get).handed
  match ← (do Scanner.fetchMore; Scanner.release : ScanM Unit).run with
  | .ok () => pure none
  | .error e =>
    modify fun s => { s with handed := before }
    pure (some e)

/-- Scans until the stream ends, handing out tokens after each step; `fuel` bounds the steps. -/
def scanSteps : Nat → Scanner → TokenStream
  | 0, s => ⟨s.tokens.extract 0 s.handed, some (.grammar "scanner did not reach the end")⟩
  | fuel + 1, s =>
    if s.done then ⟨s.tokens, none⟩
    else match Scanner.step.run s with
      | (none, s') => scanSteps fuel s'
      | (some e, s') => ⟨s'.tokens.extract 0 s'.handed, some e⟩

/-- The tokens of a YAML text, from stream start to stream end, as a reader meets them. -/
def tokenize (text : String) : TokenStream :=
  let chars := text.toList.toArray
  scanSteps (2 * chars.size + 8) { input := chars, tokens := #[.streamStart], handed := 1 }

end Arbitrage.Yaml
