import Sm83.Text.Letter
import Sm83.Text.Pattern.Bracket
import Sm83.Text.Pattern.Size

set_option autoImplicit false

namespace Sm83.Pattern

structure Part where
  pattern : Pattern
  depth : Nat := 0
  repeatable : Bool := true

structure Group where
  branches : List Part := []
  parts : List Part := []
  captures : Bool := false
  outside : Flags := {}

namespace Group

def gathered (combine : List Pattern → Pattern) (parts : List Part) : Part :=
  match parts with
  | [part] => { part with repeatable := true }
  | parts => {
      pattern := combine (parts.reverse.map (·.pattern))
      depth := (parts.map (·.depth + 1)).max?.getD 0 }

def endBranch (group : Group) : Group :=
  { group with branches := gathered join group.parts :: group.branches, parts := [] }

def whole (group : Group) : Part := gathered choose group.endBranch.branches

def add (group : Group) (part : Part) : Group :=
  { group with parts := part :: group.parts }

def close (group : Group) : Part :=
  let inner := group.whole
  { pattern := if group.captures then captured inner.pattern else inner.pattern
    depth := inner.depth + 1 }

def repeatLast? (group : Group) (least : Nat) (most : Option Nat) : Option Group :=
  match group.parts with
  | [] => none
  | part :: parts =>
    if part.repeatable then
      let part := { pattern := repeated least most part.pattern, depth := part.depth + 1 }
      some { group with parts := part :: parts }
    else none

end Group

structure Reading where
  flags : Flags := {}
  group : Group := {}
  outer : List Group := []
  titles : List (List Char) := []

namespace Reading

def add (reading : Reading) (part : Part) : Reading :=
  { reading with group := reading.group.add part }

def enter (reading : Reading) (captures : Bool) (flags : Flags) : Reading :=
  { reading with
    flags
    group := { captures, outside := reading.flags }
    outer := reading.group :: reading.outer }

def leave? (reading : Reading) : Option Reading :=
  match reading.outer with
  | [] => none
  | enclosing :: outer =>
    some { reading with
      flags := reading.group.outside
      group := enclosing.add reading.group.close
      outer }

-- A repetition may ask for as few rounds as will do, which is the same for what occurs.
def repeat? (reading : Reading) (least : Nat) (most : Option Nat) (rest : List Char) :
    Option (Reading × List Char) := do
  let group ← reading.group.repeatLast? least most
  return ({ reading with group }, if rest.head? == some '?' then rest.drop 1 else rest)

def rounds? (extended : Bool) (text : List Char) :
    Option ((Nat × Option Nat) × List Char) := do
  let (least, rest) ← decimal? extended (skip extended text)
  match rest with
  | '\x7d' :: rest => return ((least, some least), rest)
  | ',' :: rest =>
    match skip extended rest with
    | '\x7d' :: rest => return ((least, none), rest)
    | rest =>
      match ← decimal? extended rest with
      | (most, '\x7d' :: rest) =>
        guard (least ≤ most)
        return ((least, some most), rest)
      | _ => none
  | _ => none

def change? (flags : Flags) (letters : List Char) : Option Flags := do
  guard (letters.all ['i', 'm', 's', 'U', 'u', 'R', 'x', '-'].contains)
  guard (letters.eraseDups.length == letters.length && letters.getLast? != some '-')
  let on := letters.takeWhile (· != '-')
  let now := fun letter old => if letters.contains letter then on.contains letter else old
  return {
    folds := now 'i' flags.folds
    unicode := now 'u' flags.unicode
    extended := now 'x' flags.extended
    lines := now 'm' flags.lines
    acrossLines := now 's' flags.acrossLines
    carriageReturns := now 'R' flags.carriageReturns }

def isTitle : List Char → Bool
  | [] => false
  | c :: rest =>
    (c == '_' || Letter.isAlphabetic c) &&
      rest.all fun c => ['_', '.', '[', ']'].contains c || Letter.isAlphanumeric c

def enterTitled? (reading : Reading) (rest : List Char) : Option (Reading × List Char) := do
  let title := rest.takeWhile (· != '>')
  guard (isTitle title && !reading.titles.contains title && title.length < rest.length)
  let reading := { reading with titles := title :: reading.titles }
  return (reading.enter true reading.flags, rest.drop (title.length + 1))

def open? (reading : Reading) : List Char → Option (Reading × List Char)
  | '?' :: '<' :: '=' :: _ | '?' :: '<' :: '!' :: _ => none
  | '?' :: 'P' :: '<' :: rest | '?' :: '<' :: rest => reading.enterTitled? rest
  | '?' :: rest => do
    let letters := rest.takeWhile fun c => c != ')' && c != ':'
    let flags ← change? reading.flags letters
    match rest.drop letters.length with
    | ':' :: rest => return (reading.enter false flags, rest)
    | ')' :: rest =>
      guard !letters.isEmpty
      return ({ reading with flags }.add { pattern := empty, repeatable := false }, rest)
    | _ => none
  | rest => some (reading.enter true reading.flags, rest)

def character? (flags : Flags) (c : Char) (byte : Bool) : Option Pattern :=
  if flags.unicode then if flags.folds then none else some (one (.single c))
  else if byte && 0x80 ≤ c.toNat then none
  else if flags.folds && c.isAlpha then some (one (.folded (.single c)))
  else some (one (.single c))

def lineEnds (flags : Flags) : CharSet :=
  if flags.acrossLines then .empty
  else if flags.carriageReturns then .union (.single '\n') (.single '\r')
  else .single '\n'

def atom? (flags : Flags) : Atom → Option Pattern
  | .literal c byte => character? flags c byte
  | .named set negated => (flags.named? set negated).map one
  | .edge condition =>
    some (edge condition (flags.unicode && condition.isAboutWords))

def step? (reading : Reading) : Char → List Char → Option (Reading × List Char)
  | '(', rest => reading.open? (skip reading.flags.extended rest)
  | ')', rest => do return (← reading.leave?, rest)
  | '|', rest => some ({ reading with group := reading.group.endBranch }, rest)
  | '[', rest => do
    let (set, depth, rest) ← bracketed? reading.flags rest
    return (reading.add { pattern := one set, depth }, rest)
  | '?', rest => reading.repeat? 0 (some 1) rest
  | '*', rest => reading.repeat? 0 none rest
  | '+', rest => reading.repeat? 1 none rest
  | '\x7b', rest => do
    let ((least, most), rest) ← rounds? reading.flags.extended rest
    reading.repeat? least most (skip reading.flags.extended rest)
  | '\\', rest => do
    let (atom, rest) ← escape? reading.flags.extended rest
    return (reading.add { pattern := ← atom? reading.flags atom }, rest)
  | '.', rest => do
    guard reading.flags.unicode
    return (reading.add { pattern := one (.compl (lineEnds reading.flags)) }, rest)
  | '^', rest =>
    let condition := if reading.flags.lines then Edge.lineStart else .start
    some (reading.add { pattern := edge condition false }, rest)
  | '$', rest =>
    let condition := if reading.flags.lines then Edge.lineFinish else .finish
    some (reading.add { pattern := edge condition false }, rest)
  | c, rest => do return (reading.add { pattern := ← character? reading.flags c false }, rest)

-- Reads to the end. Each round takes at least one character.
def finish? : Nat → Reading → List Char → Option Reading
  | 0, _, _ => none
  | rounds + 1, reading, text =>
    match skip reading.flags.extended text with
    | [] => if reading.outer.isEmpty then some reading else none
    | c :: rest => do
      let (reading, rest) ← reading.step? c rest
      finish? rounds reading rest

end Reading

def isLatin : Pattern → Bool
  | empty | one _ => true
  | edge _ allScripts => !allScripts
  | either left right | next left right => left.isLatin && right.isLatin
  | times _ _ body | captured body => body.isLatin

def depthLimit : Nat := 250

def ofText? (text : String) : Option Pattern := do
  let reading ← Reading.finish? (text.length + 1) {} text.toList
  let part := reading.group.whole
  guard (part.depth ≤ depthLimit && part.pattern.isLatin && part.pattern.fits)
  return part.pattern

end Sm83.Pattern
