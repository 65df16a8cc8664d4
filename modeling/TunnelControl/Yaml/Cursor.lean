namespace TunnelControl.Yaml

def isBlank (c : Char) : Bool := c == ' ' || c == '\t'

def isBreak (c : Char) : Bool :=
  c == '\n' || c == '\r' || c == '\u0085' || c == '\u2028' || c == '\u2029'

def isSpace (c : Char) : Bool := isBlank c || isBreak c

def isNameChar (c : Char) : Bool := c.isAlphanum || c == '_' || c == '-'

def isPermitted (c : Char) : Bool :=
  c == '\t' || c == '\n' || c == '\r' || (' ' ≤ c && c ≤ '~') || c == '\u0085' ||
    ('\u00a0' ≤ c && c != '\ufffe' && c != '\uffff')

def endsWord : List Char → Bool
  | [] => true
  | c :: _ => isSpace c

def endsLine : List Char → Bool
  | [] => true
  | c :: _ => isBreak c

structure Place where
  offset : Nat := 0
  line : Nat := 0
  column : Nat := 0
  deriving DecidableEq, Inhabited

def Place.after (place : Place) (c : Char) : Place :=
  if isBreak c then ⟨place.offset + c.utf8Size, place.line + 1, 0⟩
  else ⟨place.offset + c.utf8Size, place.line, place.column + 1⟩

structure Cursor where
  place : Place := {}
  rest : List Char
  deriving Inhabited

namespace Cursor

def column (cursor : Cursor) : Nat := cursor.place.column

def drop : Nat → Cursor → Cursor
  | n + 1, ⟨place, c :: rest⟩ => drop n ⟨place.after c, rest⟩
  | _, cursor => cursor

def skipWhile (skipped : Place → Char → Bool) (place : Place) : List Char → Cursor
  | [] => ⟨place, []⟩
  | c :: rest =>
      if skipped place c then skipWhile skipped (place.after c) rest else ⟨place, c :: rest⟩

def skipBlanks (cursor : Cursor) : Cursor := skipWhile (fun _ => isBlank) cursor.place cursor.rest

def skipComment (cursor : Cursor) : Cursor :=
  if cursor.rest.head? = some '#' then
    skipWhile (fun _ c => !isBreak c) cursor.place cursor.rest
  else cursor

/-- The line break at the cursor and the cursor behind it. All breaks count as line feeds but the
separators of lines and paragraphs. -/
def lineBreak? : Cursor → Option (Char × Cursor)
  | ⟨place, '\r' :: '\n' :: rest⟩ => some ('\n', ⟨(place.after '\r').after '\n', rest⟩)
  | ⟨place, c :: rest⟩ =>
      if isBreak c then
        some (if c == '\u2028' || c == '\u2029' then c else '\n', ⟨place.after c, rest⟩)
      else none
  | ⟨_, []⟩ => none

def endLine? (cursor : Cursor) : Option Cursor := do
  let cursor := cursor.skipBlanks.skipComment
  guard (endsLine cursor.rest)
  return (cursor.lineBreak?.map Prod.snd).getD cursor

def atRule (c : Char) (cursor : Cursor) : Bool :=
  cursor.column == 0 && List.replicate 3 c == cursor.rest.take 3 && endsWord (cursor.rest.drop 3)

def atBoundary (cursor : Cursor) : Bool := cursor.atRule '-' || cursor.atRule '.'

end Cursor

end TunnelControl.Yaml
