import Std.Data.TreeMap
import TunnelControl.Yaml.Token

namespace TunnelControl.Yaml

structure Scalar where
  text : String
  style : Style := .plain
  tag : Option String := none
  deriving DecidableEq, Inhabited

inductive Node where
  | scalar (scalar : Scalar)
  | list (items : List Node)
  | map (entries : List (Node × Node))
  | alias (anchor : Nat)
  deriving Inhabited

def Node.empty : Node := .scalar { text := "" }

structure Anchor where
  number : Nat
  order : Nat
  deriving DecidableEq, Inhabited

structure Anchors where
  numbers : Std.TreeMap String Nat := {}
  latest : Std.TreeMap Nat Nat := {}
  count : Nat := 0
  values : Std.TreeMap Nat Node := {}
  deriving Inhabited

namespace Anchors

def set (name : String) (anchors : Anchors) : Anchor × Anchors :=
  let number := anchors.numbers.size
  (⟨number, anchors.count⟩,
    { anchors with
      numbers := anchors.numbers.insert name number
      latest := anchors.latest.insert number anchors.count
      count := anchors.count + 1 })

def number? (name : String) (anchors : Anchors) : Option Nat := anchors.numbers[name]?

def record (anchor : Anchor) (value : Node) (anchors : Anchors) : Anchors :=
  if anchors.latest[anchor.number]? = some anchor.order then
    { anchors with values := anchors.values.insert anchor.number value }
  else anchors

def value? (number : Nat) (anchors : Anchors) : Option Node := anchors.values[number]?

end Anchors

inductive Opened where
  | blockList (items : List Node)
  | bareList (items : List Node)
  | flowList (items : List Node)
  | pair (key : Option Node)
  | blockMap (entries : List (Node × Node)) (key : Option Node)
  | flowMap (entries : List (Node × Node)) (key : Option Node) (announced : Bool)
  deriving Inhabited

inductive Expected where
  | value (bracketed bare : Bool)
  | more
  | given (value : Node)
  deriving Inhabited

structure Reading where
  tokens : List Token
  expected : Expected
  opened : List (Option Anchor × Opened) := []
  anchors : Anchors := {}
  handles : List (String × String)
  deriving Inhabited

namespace Reading

def tagOf? (reading : Reading) (tag : TagName) : Option String :=
  if tag.handle.isEmpty then some tag.suffix
  else (reading.handles.lookup tag.handle).map (· ++ tag.suffix)

def expect (expected : Expected) (reading : Reading) : Reading := { reading with expected }

def give (anchor : Option Anchor) (value : Node) (reading : Reading) : Reading :=
  { reading with
    expected := .given value
    anchors := match anchor with
      | some anchor => reading.anchors.record anchor value
      | none => reading.anchors }

def enter (anchor : Option Anchor) (opened : Opened) (reading : Reading) : Reading :=
  { reading with expected := .more, opened := (anchor, opened) :: reading.opened }

def properties : List Token → Option String × Option TagName × List Token
  | .anchor name :: .tag tag :: rest => (some name, some tag, rest)
  | .tag tag :: .anchor name :: rest => (some name, some tag, rest)
  | .anchor name :: rest => (some name, none, rest)
  | .tag tag :: rest => (none, some tag, rest)
  | tokens => (none, none, tokens)

def value (bracketed bare : Bool) (reading : Reading) : Option Reading :=
  match reading.tokens with
  | .alias name :: tokens => do
      let number ← reading.anchors.number? name
      return give none (.alias number) { reading with tokens }
  | tokens => do
      let (name, tag, tokens) := properties tokens
      let tag ← tag.mapM reading.tagOf?
      let (anchor, anchors) := match name with
        | some name => let (anchor, anchors) := reading.anchors.set name; (some anchor, anchors)
        | none => (none, reading.anchors)
      let after (tokens : List Token) : Reading := { reading with tokens, anchors }
      match tokens with
      | .scalar style text :: rest =>
          let tag := tag.filter (· != "!")
          return (after rest).give anchor (.scalar { text, style, tag })
      | .listOpen :: rest => return (after rest).enter anchor (.flowList [])
      | .mapOpen :: rest => return (after rest).enter anchor (.flowMap [] none true)
      | .dash :: _ =>
          if bare then return (after tokens).enter anchor (.bareList [])
          else blank anchor tag (after tokens)
      | .blockList :: rest =>
          if bracketed then blank anchor tag (after tokens)
          else return (after rest).enter anchor (.blockList [])
      | .blockMap :: rest =>
          if bracketed then blank anchor tag (after tokens)
          else return (after rest).enter anchor (.blockMap [] none)
      | _ => blank anchor tag (after tokens)
where
  blank (anchor : Option Anchor) (tag : Option String) (reading : Reading) : Option Reading := do
    guard (anchor.isSome || tag.isSome)
    return reading.give anchor (.scalar { text := "", tag })

def valueUnless (ends : List Token) (bracketed bare : Bool) (reading : Reading) : Reading :=
  if reading.tokens.head?.any ends.contains then reading.give none .empty
  else reading.expect (.value bracketed bare)

def goOn (anchor : Option Anchor) (reading : Reading) (opened : Opened) : Option Reading :=
  let stay (tokens : List Token) (opened : Opened) : Reading :=
    { reading with tokens, opened := (anchor, opened) :: reading.opened }
  let leave (tokens : List Token) (value : Node) : Reading :=
    give anchor value { reading with tokens }
  match opened, reading.tokens with
  | .blockList items, .dash :: rest =>
      some ((stay rest (.blockList items)).valueUnless [.dash, .blockEnd] false false)
  | .blockList items, .blockEnd :: rest => some (leave rest (.list items.reverse))
  | .blockList _, _ => none
  | .bareList items, .dash :: rest =>
      some ((stay rest (.bareList items)).valueUnless [.dash, .key, .value, .blockEnd] false false)
  | .bareList items, tokens => some (leave tokens (.list items.reverse))
  | .flowList items, .listClose :: rest => some (leave rest (.list items.reverse))
  | .flowList items, tokens => do
      let tokens ← if items.isEmpty then some tokens else afterComma tokens
      match tokens with
      | .listClose :: rest => return leave rest (.list items.reverse)
      | .key :: rest => return (stay rest (.flowList items)).enter none (.pair none)
      | tokens => return (stay tokens (.flowList items)).expect (.value true false)
  | .pair none, tokens =>
      if tokens.head?.any [.value, .comma, .listClose].contains then
        some ((stay (tokens.drop 1) (.pair (some .empty))).expect .more)
      else some ((stay tokens (.pair none)).expect (.value true false))
  | .pair (some key), .value :: rest =>
      some ((stay rest (.pair (some key))).valueUnless [.comma, .listClose] true false)
  | .pair (some key), tokens => some ((stay tokens (.pair (some key))).give none .empty)
  | .blockMap entries none, .key :: rest =>
      some ((stay rest (.blockMap entries none)).valueUnless [.key, .value, .blockEnd] false true)
  | .blockMap entries none, .blockEnd :: rest => some (leave rest (.map entries.reverse))
  | .blockMap _ none, _ => none
  | .blockMap entries (some key), .value :: rest =>
      some ((stay rest (.blockMap entries (some key))).valueUnless [.key, .value, .blockEnd]
        false true)
  | .blockMap entries (some key), tokens =>
      some ((stay tokens (.blockMap entries (some key))).give none .empty)
  | .flowMap entries none _, .mapClose :: rest => some (leave rest (.map entries.reverse))
  | .flowMap entries none _, tokens => do
      let tokens ← if entries.isEmpty then some tokens else afterComma tokens
      match tokens with
      | .mapClose :: rest => return leave rest (.map entries.reverse)
      | .key :: rest =>
          return (stay rest (.flowMap entries none true)).valueUnless [.value, .comma, .mapClose]
            true false
      | tokens => return (stay tokens (.flowMap entries none false)).expect (.value true false)
  | .flowMap entries (some key) true, .value :: rest =>
      some ((stay rest (.flowMap entries (some key) true)).valueUnless [.comma, .mapClose]
        true false)
  | .flowMap entries (some key) announced, tokens =>
      some ((stay tokens (.flowMap entries (some key) announced)).give none .empty)
where
  afterComma : List Token → Option (List Token)
    | .comma :: rest => some rest
    | _ => none

def put (anchor : Option Anchor) (reading : Reading) (value : Node) : Opened → Reading :=
  let stay (opened : Opened) : Reading :=
    { reading with expected := .more, opened := (anchor, opened) :: reading.opened }
  fun
  | .blockList items => stay (.blockList (value :: items))
  | .bareList items => stay (.bareList (value :: items))
  | .flowList items => stay (.flowList (value :: items))
  | .pair none => stay (.pair (some value))
  | .pair (some key) => reading.give anchor (.map [(key, value)])
  | .blockMap entries none => stay (.blockMap entries (some value))
  | .blockMap entries (some key) => stay (.blockMap ((key, value) :: entries) none)
  | .flowMap entries none announced => stay (.flowMap entries (some value) announced)
  | .flowMap entries (some key) _ => stay (.flowMap ((key, value) :: entries) none true)

def step (reading : Reading) : Option Reading :=
  match reading.expected, reading.opened with
  | .value bracketed bare, _ => reading.value bracketed bare
  | .more, (anchor, innermost) :: opened => goOn anchor { reading with opened } innermost
  | .given value, (anchor, innermost) :: opened =>
      some (put anchor { reading with opened } value innermost)
  | _, [] => none

def complete : Nat → Reading → Option (Node × Reading)
  | 0, _ => none
  | steps + 1, reading =>
      match reading.expected, reading.opened with
      | .given value, [] => some (value, reading)
      | _, _ => do complete steps (← reading.step)

end Reading

structure Document where
  value : Node
  anchors : Anchors := {}
  deriving Inhabited

namespace Document

def standardHandles : List (String × String) := [("!", "!"), ("!!", "tag:yaml.org,2002:")]

def directives (versioned : Bool) (handles : List (String × String)) :
    List Token → Option (List (String × String) × List Token)
  | .directive (.version major minor) :: rest => do
      guard (!versioned && major = 1 && (minor = 1 || minor = 2))
      directives true handles rest
  | .directive (.handle handle start) :: rest => do
      guard (handles.lookup handle).isNone
      directives versioned (handles ++ [(handle, start)]) rest
  | tokens => some (handles ++ standardHandles, tokens)

def isOutside : Token → Bool
  | .directive _ | .documentStart | .documentEnd | .textEnd => true
  | _ => false

def ofTokens? (handles : List (String × String)) (tokens : List Token) :
    Option (Document × List Token) := do
  let start : Reading := { tokens, handles, expected := .value false false }
  let (value, reading) ← start.complete (8 * tokens.length + 8)
  return (⟨value, reading.anchors⟩, reading.tokens)

def ofText? (text : String) : Option Document := do
  let tokens ← Token.ofText? text
  let (document, rest) ← match tokens with
    | .textEnd :: rest => some (⟨.empty, {}⟩, .textEnd :: rest)
    | .directive directive :: rest => started (.directive directive :: rest)
    | .documentStart :: rest => started (.documentStart :: rest)
    | tokens => ofTokens? standardHandles tokens
  guard (rest.dropWhile (· == .documentEnd) == [.textEnd])
  return document
where
  started (tokens : List Token) : Option (Document × List Token) := do
    match ← directives false [] tokens with
    | (handles, .documentStart :: rest) =>
        if rest.head?.any isOutside then return (⟨.empty, {}⟩, rest)
        else ofTokens? handles rest
    | _ => none

def resolve (document : Document) : Node → Option Node
  | .alias number => document.anchors.value? number
  | value => some value

end Document

end TunnelControl.Yaml
