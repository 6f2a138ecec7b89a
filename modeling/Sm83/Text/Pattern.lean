import Sm83.Text.CharSet

set_option autoImplicit false

namespace Sm83

inductive Edge where
  | start | finish | lineStart | lineFinish | word | inside | wordStart | wordEnd | noWordBefore | noWordAfter
  deriving DecidableEq, Repr

inductive Pattern where
  | empty
  | one (set : CharSet)
  -- Word characters may be meant to be those of all scripts.
  | edge (condition : Edge) (allScripts : Bool)
  | either (left right : Pattern)
  | next (first second : Pattern)
  | times (least : Nat) (extra : Option Nat) (body : Pattern)
  | captured (body : Pattern)
  deriving DecidableEq, Repr

namespace Edge

def isWord (c : Char) : Bool := c.isAlphanum || c == '_'

def isAboutWords : Edge → Bool
  | start | finish | lineStart | lineFinish => false
  | word | inside | wordStart | wordEnd | noWordBefore | noWordAfter => true

def holds (before after : Option Char) : Edge → Bool
  | start => before.isNone
  | finish => after.isNone
  | lineStart => before.all (· == '\n')
  | lineFinish => after.all (· == '\n')
  | word => before.any isWord != after.any isWord
  | inside => before.any isWord == after.any isWord
  | wordStart => !before.any isWord && after.any isWord
  | wordEnd => before.any isWord && !after.any isWord
  | noWordBefore => !before.any isWord
  | noWordAfter => !after.any isWord

def restrict (condition : Edge) : Option Char → List Bool → List Char → List Bool
  | before, here :: marks, [] => (here && condition.holds before none) :: marks
  | before, here :: marks, c :: rest =>
    (here && condition.holds before (some c)) :: restrict condition (some c) marks rest
  | _, [], _ => []

end Edge

namespace Pattern

def union : List Bool → List Bool → List Bool
  | first :: rest, second :: others => (first || second) :: union rest others
  | _, _ => []

def advance (set : CharSet) : List Bool → List Char → List Bool
  | here :: marks, c :: rest => (here && set.contains c.toNat) :: advance set marks rest
  | _, _ => []

def rounds (step : List Bool → List Bool) : Nat → List Bool → List Bool
  | 0, marks => marks
  | count + 1, marks =>
    let reached := step marks
    if reached == marks then marks else rounds step count reached

-- Where the pattern may end if it begins at a marked position. A round of a repetition moves on or
-- stays, and it can move on once for each character; so beyond the number of positions further
-- rounds change nothing.
def follow (text : List Char) : Pattern → List Bool → List Bool
  | empty, marks => marks
  | one set, marks => false :: advance set marks text
  | edge condition _, marks => condition.restrict none marks text
  | either left right, marks => union (follow text left marks) (follow text right marks)
  | next first second, marks =>
    let reached := follow text first marks
    -- Nothing is reached from nothing.
    if reached.any id then follow text second reached else reached
  | times least extra body, marks =>
    let size := text.length + 1
    let least := rounds (follow text body) (min least size) marks
    rounds (fun marks => union marks (follow text body marks)) (extra.elim size (min · size)) least
  | captured body, marks => follow text body marks

def occursIn (pattern : Pattern) (text : String) : Bool :=
  let text := text.toList
  (follow text pattern (List.replicate (text.length + 1) true)).any id

def isZeroWidth : Pattern → Bool
  | empty | edge .. => true
  | one _ => false
  | either left right | next left right => left.isZeroWidth && right.isZeroWidth
  | times _ extra body => extra.isSome && body.isZeroWidth
  | captured body => body.isZeroWidth

def repeated (least : Nat) (most : Option Nat) (body : Pattern) : Pattern :=
  let (least, most) :=
    if body.isZeroWidth then (min least 1, some (most.elim 1 (min · 1))) else (least, most)
  if most == some 0 then empty
  else if least == 1 && most == some 1 then body
  else times least (most.map (· - least)) body

def append : Pattern → Pattern → Pattern
  | empty, second => second
  | first, empty => first
  | first, second => next first second

def join (parts : List Pattern) : Pattern :=
  parts.foldr append empty

def set? : Pattern → Option CharSet
  | one set => some set
  | _ => none

def choose : List Pattern → Pattern
  | [] => empty
  | first :: rest =>
    match (first :: rest).mapM set? with
    | none => rest.foldl either first
    | some sets =>
      let singles := sets.countP fun set => set.single?.isSome
      if singles == 0 || singles == sets.length then one (sets.foldl .union .empty)
      else rest.foldl either first

end Pattern

end Sm83
