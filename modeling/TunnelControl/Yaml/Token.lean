import TunnelControl.Yaml.Scalar
import TunnelControl.Yaml.Tag

/-!
Tokens show the structure that a text gives by indentation as brackets do. A key is recognised late,
at its colon: what may turn out to be one is noted where it starts, and gets its token put in front
of it then.
-/

namespace TunnelControl.Yaml

inductive Token where
  | directive (directive : Directive)
  | documentStart
  | documentEnd
  | textEnd
  | blockList
  | blockMap
  | blockEnd
  | listOpen
  | listClose
  | mapOpen
  | mapClose
  | comma
  | dash
  | key
  | value
  | alias (name : String)
  | anchor (name : String)
  | tag (tag : TagName)
  | scalar (style : Style) (text : String)
  deriving DecidableEq, Inhabited

structure Candidate where
  place : Place
  number : Nat
  required : Bool
  deriving Inhabited

def Candidate.inReach (candidate : Candidate) (place : Place) : Bool :=
  candidate.place.line == place.line && place.offset ≤ candidate.place.offset + 1024

structure Layout where
  cursor : Cursor
  /-- A bound on the number of characters behind the cursor. -/
  bound : Nat
  tokens : List Token := []
  count : Nat := 0
  margin : Nat := 0
  outer : List Nat := []
  brackets : List (Option Candidate) := []
  candidate : Option Candidate := none
  keyMayStart : Bool := true

namespace Layout

def bracketed (layout : Layout) : Bool := !layout.brackets.isEmpty

def push (token : Token) (layout : Layout) : Layout :=
  { layout with tokens := token :: layout.tokens, count := layout.count + 1 }

def insert (number : Nat) (token : Token) (layout : Layout) : Layout :=
  let recent := layout.count - number
  { layout with
    tokens := layout.tokens.take recent ++ token :: layout.tokens.drop recent
    count := layout.count + 1 }

def drop (n : Nat) (layout : Layout) : Layout := { layout with cursor := layout.cursor.drop n }

def setKeyMayStart (keyMayStart : Bool) (layout : Layout) : Layout := { layout with keyMayStart }

def indent (column number : Nat) (token : Token) (layout : Layout) : Layout :=
  if layout.bracketed || column < layout.margin then layout
  else
    { layout.insert number token with
      margin := column + 1
      outer := layout.margin :: layout.outer }

def unindent (limit margin : Nat) : List Nat → Layout → Layout
  | next :: outer, layout =>
      if limit < margin then unindent limit next outer (layout.push .blockEnd)
      else { layout with margin, outer := next :: outer }
  | [], layout => { layout with margin, outer := [] }

def close (limit : Nat) (layout : Layout) : Layout :=
  if layout.bracketed then layout else unindent limit layout.margin layout.outer layout

def setCandidate (candidate : Option Candidate) (layout : Layout) : Layout :=
  match layout.brackets with
  | _ :: outer => { layout with brackets := candidate :: outer }
  | [] => { layout with candidate }

def discard (layout : Layout) : Option Layout :=
  if !layout.bracketed && layout.candidate.any Candidate.required then none
  else some (layout.setCandidate none)

def settle (layout : Layout) : Option Layout :=
  match layout.candidate with
  | none => some layout
  | some candidate =>
      if candidate.inReach layout.cursor.place then some layout
      else if candidate.required then none
      else some { layout with candidate := none }

def note (layout : Layout) : Option Layout := do
  if !layout.keyMayStart then return layout
  let place := layout.cursor.place
  let required := !layout.bracketed && layout.margin == place.column + 1
  let candidate : Candidate := ⟨place, layout.count, required⟩
  return (← layout.discard).setCandidate (some candidate)

def candidate? (layout : Layout) : Option Candidate :=
  match layout.brackets with
  | innermost :: _ => innermost.filter (·.inReach layout.cursor.place)
  | [] => layout.candidate

def indentHere (token : Token) (layout : Layout) : Option Layout :=
  if layout.bracketed then some layout
  else if layout.keyMayStart then
    some (layout.indent layout.cursor.column layout.count token)
  else none

def separator (token : Token) (keyMayStart : Bool) (layout : Layout) : Option Layout := do
  return ((← layout.discard).push token |>.drop 1).setKeyMayStart keyMayStart

def openBracket (token : Token) (layout : Layout) : Option Layout := do
  let layout ← layout.note
  let layout := { layout with brackets := none :: layout.brackets }
  return (layout.push token |>.drop 1).setKeyMayStart true

def closeBracket (token : Token) (layout : Layout) : Option Layout := do
  let layout ← layout.separator token false
  return { layout with brackets := layout.brackets.drop 1 }

def colon (layout : Layout) : Option Layout := do
  match layout.candidate? with
  | some candidate =>
      let layout := layout.insert candidate.number .key
      let layout := layout.indent candidate.place.column candidate.number .blockMap
      return (layout.setCandidate none |>.push .value |>.drop 1).setKeyMayStart false
  | none =>
      let layout ← layout.indentHere .blockMap
      return (layout.push .value |>.drop 1).setKeyMayStart !layout.bracketed

def boundary (token : Token) (layout : Layout) : Option Layout := do
  let layout ← (layout.close 0).discard
  return (layout.push token |>.drop 3).setKeyMayStart false

def directive (layout : Layout) : Option Layout := do
  let layout ← (layout.close 0).discard
  let (directive, cursor) ← directive? layout.cursor
  return { layout.push (.directive directive) with cursor, keyMayStart := false }

def name (token : String → Token) (layout : Layout) : Option Layout := do
  let layout ← layout.note
  let cursor := layout.cursor.drop 1
  let name := cursor.rest.takeWhile isNameChar
  let cursor := cursor.drop name.length
  guard (!name.isEmpty)
  guard (endsWord cursor.rest || cursor.rest.head?.any "?:,]\x7d%@\x60".toList.contains)
  return { layout.push (token (String.ofList name)) with cursor, keyMayStart := false }

def tag (layout : Layout) : Option Layout := do
  let layout ← layout.note
  let (tag, cursor) ← tag? layout.bracketed layout.cursor
  return { layout.push (.tag tag) with cursor, keyMayStart := false }

def block (literal : Bool) (layout : Layout) : Option Layout := do
  let layout ← layout.discard
  let (text, cursor) ← block? layout.bound literal layout.margin layout.cursor
  let style := if literal then .literal else .folded
  return { layout.push (.scalar style text) with cursor, keyMayStart := true }

def quoted (double : Bool) (layout : Layout) : Option Layout := do
  let layout ← layout.note
  let (text, cursor) ← quoted? layout.bound double layout.cursor
  return { layout.push (.scalar .quoted text) with cursor, keyMayStart := false }

def plain (layout : Layout) : Option Layout := do
  let layout ← layout.note
  let (text, broken, cursor) ←
    plain? layout.bound layout.bracketed layout.margin layout.cursor
  return { layout.push (.scalar .plain text) with cursor, keyMayStart := broken }

/-- The cursor at the next token, behind blanks, line breaks and comments, and whether a key may
start there. A tab may stand in front of a token only where no key may start. A byte order mark may
start a line, of which it takes a column. -/
def toToken (bracketed : Bool) (keyMayStart comment : Bool) (place : Place) :
    List Char → Bool × Cursor
  | [] => (keyMayStart, ⟨place, []⟩)
  | c :: rest =>
      if isBreak c then
        toToken bracketed (keyMayStart || !bracketed) false (place.after c) rest
      else if comment || c == ' ' || (c == '\t' && (bracketed || !keyMayStart)) ||
          (c == '\ufeff' && place.column == 0) then
        toToken bracketed keyMayStart comment (place.after c) rest
      else if c == '#' then toToken bracketed keyMayStart true (place.after c) rest
      else (keyMayStart, ⟨place, c :: rest⟩)

def advance (layout : Layout) : Option Layout := do
  let (keyMayStart, cursor) :=
    toToken layout.bracketed layout.keyMayStart false layout.cursor.place layout.cursor.rest
  let layout ← settle { layout with cursor, keyMayStart }
  return layout.close (cursor.column + 1)

def read (c : Char) (layout : Layout) : Option Layout :=
  let cursor := layout.cursor
  let next := cursor.rest.drop 1
  if c == '%' && cursor.column == 0 then layout.directive
  else if cursor.atRule '-' then layout.boundary .documentStart
  else if cursor.atRule '.' then layout.boundary .documentEnd
  else if c == '[' then layout.openBracket .listOpen
  else if c == '{' then layout.openBracket .mapOpen
  else if c == ']' then layout.closeBracket .listClose
  else if c == '}' then layout.closeBracket .mapClose
  else if c == ',' then layout.separator .comma true
  else if c == '-' && endsWord next then do (← layout.indentHere .blockList).separator .dash true
  else if c == '?' && (layout.bracketed || endsWord next) then do
    (← layout.indentHere .blockMap).separator .key !layout.bracketed
  else if c == ':' && (layout.bracketed || endsWord next) then layout.colon
  else if c == '*' then layout.name .alias
  else if c == '&' then layout.name .anchor
  else if c == '!' then layout.tag
  else if c == '|' && !layout.bracketed then layout.block true
  else if c == '>' && !layout.bracketed then layout.block false
  else if c == '\'' then layout.quoted false
  else if c == '"' then layout.quoted true
  else if startsPlain layout.bracketed cursor.rest then layout.plain
  else none

def complete : Nat → Layout → Option (List Token)
  | 0, _ => none
  | moves + 1, layout => do
      let layout ← layout.advance
      match layout.cursor.rest with
      | [] => return ((← (layout.close 0).discard).push .textEnd).tokens.reverse
      | c :: _ => complete moves (← layout.read c)

end Layout

def Token.ofText? (text : String) : Option (List Token) := do
  let chars := text.toList
  guard (chars.all isPermitted)
  let bound := chars.length + 2
  Layout.complete bound { cursor := { rest := chars }, bound }

end TunnelControl.Yaml
