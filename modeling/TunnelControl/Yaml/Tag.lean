import TunnelControl.Address.Text
import TunnelControl.Yaml.Cursor

namespace TunnelControl.Yaml

structure TagName where
  handle : String
  suffix : String
  deriving DecidableEq, Inhabited

inductive Directive where
  | version (major minor : Nat)
  | handle (handle start : String)
  deriving DecidableEq, Inhabited

def tagText (chars : List Char) : String := String.ofList (chars.takeWhile (· != '\x00'))

def isTagChar (full : Bool) (c : Char) : Bool :=
  isNameChar c || ";/?:@&=+$.!~*'()".toList.contains c || (full && ",[]".toList.contains c)

def octet? (high low : Char) : Option Nat := do
  return 16 * (← Address.digit? 16 high) + (← Address.digit? 16 low)

def octetsAfter? (octet : Nat) : Option Nat :=
  if octet < 0x80 then some 0
  else if octet < 0xc0 then none
  else if octet < 0xe0 then some 1
  else if octet < 0xf0 then some 2
  else if octet < 0xf8 then some 3
  else none

/-- Reads the characters of a tag, added to `found` in reverse, and counts them from `count` on. An
octet is escaped by a percent sign; `expected` more octets belong to the same character. -/
def tagChars (full : Bool) (found : List Char) (count expected : Nat) :
    List Char → Option (List Char × Nat)
  | '%' :: high :: low :: rest => do
      let octet ← octet? high low
      let expected ←
        if expected = 0 then octetsAfter? octet
        else if 0x80 ≤ octet ∧ octet < 0xc0 then some (expected - 1)
        else none
      tagChars full (Char.ofNat octet :: found) (count + 3) expected rest
  | c :: rest =>
      if c == '%' || expected != 0 then none
      else if isTagChar full c then tagChars full (c :: found) (count + 1) 0 rest
      else some (found.reverse, count)
  | [] => if expected = 0 then some (found.reverse, count) else none

/-- Reads a handle: an exclamation mark, or two around a name. Without the second mark the name is
not part of a handle, but it is read all the same. -/
def handle? : List Char → Option (List Char × Nat)
  | '!' :: rest =>
      let name := rest.takeWhile isNameChar
      let close := if rest[name.length]? = some '!' then ['!'] else []
      some ('!' :: name ++ close, name.length + close.length + 1)
  | _ => none

def isNamed (handle : List Char) : Bool := handle != ['!'] && handle.getLast? = some '!'

def tag? (bracketed : Bool) (cursor : Cursor) : Option (TagName × Cursor) := do
  let (tag, cursor) ←
    if cursor.rest[1]? = some '<' then do
      let (suffix, count) ← tagChars true [] 0 0 (cursor.rest.drop 2)
      let cursor := cursor.drop (count + 2)
      guard (count != 0 && cursor.rest.head? = some '>')
      pure ((⟨"", tagText suffix⟩ : TagName), cursor.drop 1)
    else do
      let (handle, read) ← handle? cursor.rest
      let (suffix, count) ← tagChars false [] 0 0 (cursor.rest.drop read)
      let cursor := cursor.drop (read + count)
      if isNamed handle then do
        guard (count != 0)
        pure (⟨String.ofList handle, tagText suffix⟩, cursor)
      else
        let suffix := tagText (handle.drop 1 ++ suffix)
        pure (if suffix.isEmpty then ⟨"", "!"⟩ else ⟨"!", suffix⟩, cursor)
  guard (endsWord cursor.rest || (bracketed && cursor.rest.head? = some ','))
  return (tag, cursor)

def versionPart? (cursor : Cursor) : Option (Nat × Cursor) := do
  let digits := cursor.rest.takeWhile Char.isDigit
  guard (!digits.isEmpty && digits.length ≤ 9)
  return (digits.foldl (fun n c => 10 * n + (c.toNat - '0'.toNat)) 0, cursor.drop digits.length)

def version? (cursor : Cursor) : Option (Directive × Cursor) := do
  let (major, cursor) ← versionPart? cursor.skipBlanks
  guard (cursor.rest.head? = some '.')
  let (minor, cursor) ← versionPart? (cursor.drop 1)
  return (.version major minor, cursor)

def handleMeaning? (cursor : Cursor) : Option (Directive × Cursor) := do
  let cursor := cursor.skipBlanks
  let (handle, read) ← handle? cursor.rest
  let cursor := cursor.drop read
  guard ((handle == ['!'] || isNamed handle) && cursor.rest.head?.any isBlank)
  let cursor := cursor.skipBlanks
  let (start, count) ← tagChars true [] 0 0 cursor.rest
  let cursor := cursor.drop count
  guard (count != 0 && endsWord cursor.rest)
  return (.handle (String.ofList handle) (tagText start), cursor)

def directive? (cursor : Cursor) : Option (Directive × Cursor) := do
  let cursor := cursor.drop 1
  let name := cursor.rest.takeWhile isNameChar
  let cursor := cursor.drop name.length
  guard (endsWord cursor.rest)
  let (directive, cursor) ←
    if name == "YAML".toList then version? cursor
    else if name == "TAG".toList then handleMeaning? cursor
    else none
  return (directive, ← cursor.endLine?)

end TunnelControl.Yaml
