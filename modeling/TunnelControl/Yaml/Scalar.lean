import TunnelControl.Address.Text
import TunnelControl.Yaml.Cursor

namespace TunnelControl.Yaml

/-- How a scalar is written. Only plain scalars, and literal ones with a tag, stand for numbers and
truth values. -/
inductive Style where
  | plain
  | quoted
  | literal
  | folded
  deriving DecidableEq, Inhabited

/-! ## Folding -/

inductive Gap where
  | blanks (chars : List Char)
  | breaks (first : Option Char) (more : List Char)
  deriving DecidableEq, Inhabited

namespace Gap

def breaksOf (found : List Char) : List Char → List Char
  | '\r' :: '\n' :: rest => breaksOf ('\n' :: found) rest
  | c :: rest =>
      if c == '\u2028' || c == '\u2029' then breaksOf (c :: found) rest
      else if isBreak c then breaksOf ('\n' :: found) rest
      else breaksOf found rest
  | [] => found.reverse

def ofChars (escaped : Bool) (chars : List Char) : Gap :=
  if escaped then .breaks none (breaksOf [] chars)
  else match breaksOf [] chars with
    | [] => .blanks chars
    | first :: more => .breaks (some first) more

def isBroken : Gap → Bool
  | blanks _ => false
  | breaks _ _ => true

def folded : Gap → List Char
  | blanks chars => chars
  | breaks (some '\n') [] => [' ']
  | breaks (some '\n') more => more
  | breaks first more => first.toList ++ more

end Gap

def Cursor.space (cursor : Cursor) : List Char × Cursor :=
  (cursor.rest.takeWhile isSpace, skipWhile (fun _ => isSpace) cursor.place cursor.rest)

/-! ## Plain scalars -/

def isBracket (c : Char) : Bool := c == ',' || c == '[' || c == ']' || c == '{' || c == '}'

def startsPlain (bracketed : Bool) : List Char → Bool
  | [] => false
  | c :: rest =>
      if c == '-' then !rest.head?.any isBlank
      else if c == '?' || c == ':' then !bracketed && !endsWord rest
      else !isSpace c && !isBracket c && !"#&*!|>'\"%@\x60".toList.contains c

/-- The characters up to the end of a word, added to `word` in reverse. The word ends before a
space, before a colon that a space follows and, inside brackets, before a bracket or comma. -/
def plainWord (bracketed : Bool) (word : List Char) : List Char → Option (List Char)
  | [] => some word.reverse
  | c :: rest =>
      if isSpace c then some word.reverse
      else if bracketed && c == ':' && rest.head?.any fun c => c == '?' || isBracket c then none
      else if c == ':' && endsWord rest then some word.reverse
      else if bracketed && isBracket c then some word.reverse
      else plainWord bracketed (c :: word) rest

def tabInMargin (margin : Nat) (lineStart : Bool) (place : Place) : List Char → Bool
  | [] => false
  | c :: rest =>
      (lineStart && c == '\t' && place.column < margin) ||
        tabInMargin margin (lineStart || isBreak c) (place.after c) rest

/-- Reads the rest of a plain scalar, of which `text` is known in reverse, after a gap. Tells also
whether the scalar ended behind a line break. -/
def plainRest (bracketed : Bool) (margin : Nat) :
    Nat → List Char → Gap → Cursor → Option (List Char × Bool × Cursor)
  | 0, _, _, _ => none
  | bound + 1, text, gap, cursor =>
      if cursor.atBoundary || cursor.rest.head? = some '#' then
        some (text, gap.isBroken, cursor)
      else do
        let word ← plainWord bracketed [] cursor.rest
        if word.isEmpty then return (text, gap.isBroken, cursor)
        let text := (gap.folded ++ word).reverse ++ text
        let cursor := cursor.drop word.length
        let (space, after) := cursor.space
        guard !(tabInMargin margin false cursor.place space)
        let gap := Gap.ofChars false space
        if space.isEmpty || (!bracketed && after.column < margin) then
          return (text, gap.isBroken, after)
        plainRest bracketed margin bound text gap after

def plain? (bound : Nat) (bracketed : Bool) (margin : Nat) (cursor : Cursor) :
    Option (String × Bool × Cursor) := do
  let (text, broken, cursor) ← plainRest bracketed margin bound [] (.blanks []) cursor
  return (String.ofList text.reverse, broken, cursor)

/-! ## Quoted scalars -/

def escape? : Char → Option Char
  | '0' => some '\x00'
  | 'a' => some '\x07'
  | 'b' => some '\x08'
  | 't' | '\t' => some '\t'
  | 'n' => some '\n'
  | 'v' => some '\x0b'
  | 'f' => some '\x0c'
  | 'r' => some '\r'
  | 'e' => some '\x1b'
  | ' ' => some ' '
  | '"' => some '"'
  | '/' => some '/'
  | '\\' => some '\\'
  | 'N' => some '\u0085'
  | '_' => some '\u00a0'
  | 'L' => some '\u2028'
  | 'P' => some '\u2029'
  | _ => none

def escapeDigits? : Char → Option Nat
  | 'x' => some 2
  | 'u' => some 4
  | 'U' => some 8
  | _ => none

def numeral? (base bound : Nat) (digits : List Char) : Option Nat := do
  guard (!digits.isEmpty)
  digits.foldlM (fun sum c => do
    let sum := sum * base + (← Address.digit? base c)
    guard (sum < bound)
    return sum) 0

def escaped? : List Char → Option (Char × Nat)
  | [] => none
  | c :: rest =>
      match escapeDigits? c with
      | none => (escape? c).map (·, 1)
      | some size => do
          guard (size ≤ (rest.take size).length)
          let code ← numeral? 16 0x110000 (rest.take size)
          guard code.isValidChar
          return (Char.ofNat code, size + 1)

def quotedWord (double : Bool) : Nat → List Char → Cursor → Option (List Char × Cursor)
  | 0, _, _ => none
  | bound + 1, text, cursor =>
      match cursor.rest with
      | [] => none
      | c :: rest =>
          if isSpace c then some (text, cursor)
          else if c == '\'' && !double then
            if rest.head? = some '\'' then quotedWord double bound (c :: text) (cursor.drop 2)
            else some (text, cursor)
          else if c == '"' && double then some (text, cursor)
          else if c == '\\' && double then
            if rest.head?.any isBreak then some (text, cursor)
            else do
              let (literal, length) ← escaped? rest
              quotedWord double bound (literal :: text) (cursor.drop (length + 1))
          else quotedWord double bound (c :: text) (cursor.drop 1)

def quotedRest (double : Bool) : Nat → List Char → Cursor → Option (List Char × Cursor)
  | 0, _, _ => none
  | bound + 1, text, cursor => do
      guard !cursor.atBoundary
      let (text, cursor) ← quotedWord double (bound + 1) text cursor
      if cursor.rest.head? = some (if double then '"' else '\'') then return (text, cursor.drop 1)
      let breaks : Option (Char × Cursor) :=
        if cursor.rest.head? = some '\\' then (cursor.drop 1).lineBreak? else none
      let (space, after) := ((breaks.map Prod.snd).getD cursor).space
      let gap := Gap.ofChars breaks.isSome space
      quotedRest double bound (gap.folded.reverse ++ text) after

def quoted? (bound : Nat) (double : Bool) (cursor : Cursor) : Option (String × Cursor) := do
  let (text, cursor) ← quotedRest double bound [] (cursor.drop 1)
  return (String.ofList text.reverse, cursor)

/-! ## Blocks -/

inductive Chomp where
  | strip
  | clip
  | keep
  deriving DecidableEq, Inhabited

def chomp? (cursor : Cursor) : Option Chomp × Cursor :=
  match cursor.rest.head? with
  | some '-' => (some .strip, cursor.drop 1)
  | some '+' => (some .keep, cursor.drop 1)
  | _ => (none, cursor)

def indentation? (cursor : Cursor) : Option (Option Nat × Cursor) :=
  match cursor.rest.head? with
  | some c =>
      if c == '0' then none
      else if c.isDigit then some (some (c.toNat - '0'.toNat), cursor.drop 1)
      else some (none, cursor)
  | none => some (none, cursor)

def blockHeader? (cursor : Cursor) : Option (Chomp × Option Nat × Cursor) := do
  let (before, cursor) := chomp? cursor
  let (indentation, cursor) ← indentation? cursor
  let (behind, cursor) := if before.isNone then chomp? cursor else (none, cursor)
  return ((before.or behind).getD .clip, indentation, ← cursor.endLine?)

def emptyLines (indent : Option Nat) :
    Nat → Nat → List Char → Cursor → Option (Nat × List Char × Cursor)
  | 0, _, _, _ => none
  | bound + 1, widest, breaks, cursor =>
      let inMargin (place : Place) := indent.all (place.column < ·)
      let cursor := Cursor.skipWhile (fun place c => c == ' ' && inMargin place) cursor.place
        cursor.rest
      let widest := max widest cursor.column
      if inMargin cursor.place && cursor.rest.head? = some '\t' then none
      else match cursor.lineBreak? with
        | none => some (widest, breaks, cursor)
        | some (c, cursor) => emptyLines indent bound widest (c :: breaks) cursor

def Cursor.atBlank (cursor : Cursor) : Bool := cursor.rest.head?.any isBlank

/-- Reads the lines of a block, of which `text` is known in reverse, after a line that started with
a blank or not, the break that ended it, and the breaks of empty lines, in reverse. -/
def blockLines (literal : Bool) (chomp : Chomp) (indent : Nat) :
    Nat → List Char → Bool → Option Char → List Char → Cursor → Option (List Char × Cursor)
  | 0, _, _, _, _, _ => none
  | bound + 1, text, blank, ending, breaks, cursor =>
      if cursor.column == indent && !cursor.rest.isEmpty then do
        let folds := !literal && ending = some '\n' && !blank && !cursor.atBlank
        let joint :=
          if folds then (if breaks.isEmpty then [' '] else []) else ending.toList
        let line := cursor.rest.takeWhile fun c => !isBreak c
        let text := line.reverse ++ breaks ++ joint ++ text
        let after := cursor.drop line.length
        let ended := after.lineBreak?
        let (_, breaks, next) ←
          emptyLines (some indent) bound 0 [] ((ended.map Prod.snd).getD after)
        blockLines literal chomp indent bound text cursor.atBlank (ended.map Prod.fst) breaks next
      else
        let text := if chomp = .strip then text else ending.toList ++ text
        some (if chomp = .keep then breaks ++ text else text, cursor)

def block? (bound : Nat) (literal : Bool) (margin : Nat) (cursor : Cursor) :
    Option (String × Cursor) := do
  let (chomp, increment, cursor) ← blockHeader? (cursor.drop 1)
  let given := increment.map (margin - 1 + ·)
  let (widest, breaks, cursor) ← emptyLines given bound 0 [] cursor
  let indent := given.getD (max widest (max margin 1))
  let (text, cursor) ← blockLines literal chomp indent bound [] false none breaks cursor
  return (String.ofList text.reverse, cursor)

end TunnelControl.Yaml
