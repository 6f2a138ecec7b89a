import Sm83.Text.Pattern.Escape

set_option autoImplicit false

namespace Sm83.Pattern

structure Members where
  set : CharSet := .empty
  count : Nat := 0
  depth : Nat := 0

namespace Members

def add (members : Members) (set : CharSet) (depth : Nat) : Members where
  set := if members.count = 0 then set else .union members.set set
  count := members.count + 1
  depth := max members.depth depth

def nested (members : Members) : Nat :=
  if members.count ≤ 1 then members.depth else members.depth + 1

end Members

structure Bracket where
  negated : Bool
  pending : Option ((CharSet → CharSet → CharSet) × CharSet × Nat) := none
  members : Members := {}

namespace Bracket

def value (bracket : Bracket) : CharSet × Nat :=
  let right := bracket.members.set
  let depth := bracket.members.nested
  match bracket.pending with
  | none => (right, depth)
  | some (operation, left, other) => (operation left right, max other depth + 1)

def add (bracket : Bracket) (set : CharSet) (depth : Nat) : Bracket :=
  { bracket with members := bracket.members.add set depth }

def operate (bracket : Bracket) (operation : CharSet → CharSet → CharSet) : Bracket :=
  { bracket with pending := some (operation, bracket.value), members := {} }

-- The complement of a set of bytes is not within ASCII.
def close? (flags : Flags) (bracket : Bracket) : Option (CharSet × Nat) :=
  let (set, depth) := bracket.value
  if !bracket.negated then some (set, depth + 1)
  else if flags.unicode then some (.compl set, depth + 1)
  else none

def start? (flags : Flags) (text : List Char) : Option (Bracket × List Char) := do
  let text := skip flags.extended text
  let negated := text.head? == some '^'
  let text := if negated then skip flags.extended (text.drop 1) else text
  let (hyphens, rest) := gather flags.extended (· == '-') false text
  let (first, rest) :=
    match hyphens, rest with
    | [], ']' :: rest => ([']'], skip flags.extended rest)
    | hyphens, rest => (hyphens, rest)
  guard !rest.isEmpty
  let sets ← first.mapM fun c => flags.members? (.single c)
  return (sets.foldl (·.add · 0) { negated }, rest)

end Bracket

def asciiSet? : String → Option CharSet
  | "alnum" => some (.union digitSet letterSet)
  | "alpha" => some letterSet
  | "ascii" => some (.range 0x00 0x7f)
  | "blank" => some (.union (.single '\t') (.single ' '))
  | "cntrl" => some (.union (.range 0x00 0x1f) (.range 0x7f 0x7f))
  | "digit" => some digitSet
  | "graph" => some (.range 0x21 0x7e)
  | "lower" => some (.range 0x61 0x7a)
  | "print" => some (.range 0x20 0x7e)
  | "punct" =>
    some (.union (.union (.range 0x21 0x2f) (.range 0x3a 0x40))
      (.union (.range 0x5b 0x60) (.range 0x7b 0x7e)))
  | "space" => some spaceSet
  | "upper" => some (.range 0x41 0x5a)
  | "word" => some wordSet
  | "xdigit" => some (.union digitSet (.union (.range 0x41 0x46) (.range 0x61 0x66)))
  | _ => none

def asciiName? : List Char → Option (Bool × CharSet × List Char)
  | ':' :: rest => do
    let negated := rest.head? == some '^'
    let rest := if negated then rest.drop 1 else rest
    let name := rest.takeWhile (· != ':')
    match rest.drop name.length with
    | ':' :: ']' :: rest => return (negated, ← asciiSet? (String.ofList name), rest)
    | _ => none
  | _ => none

def bracketItem? (flags : Flags) : List Char → Option (Atom × List Char)
  | [] => none
  | '\\' :: rest => escape? flags.extended rest
  | c :: rest => some (.literal c false, rest)

def itemSet? (flags : Flags) : Atom → Option CharSet
  | .literal c _ => flags.members? (.single c)
  | .named set negated => flags.named? set negated
  | .edge _ => none

def peekPast : Bool → List Char → Option Char
  | _, [] => none
  | comment, c :: rest =>
    if Blank.isBlank c then peekPast comment rest
    else if !comment && c == '#' then peekPast true rest
    else some c

def peek (extended : Bool) (text : List Char) : Option Char :=
  if extended then (peekPast false text).or text.head? else text.head?

def span? (flags : Flags) (text : List Char) : Option (CharSet × List Char) := do
  let (first, rest) ← bracketItem? flags text
  match skip flags.extended rest with
  | [] => none
  | '-' :: rest =>
    if [']', '-'].any (peek flags.extended rest == some ·) then
      return (← itemSet? flags first, '-' :: rest)
    let (last, rest) ← bracketItem? flags (skip flags.extended rest)
    match first, last with
    | .literal low _, .literal high _ =>
      guard (low.toNat ≤ high.toNat)
      return (← flags.members? (.range low.toNat high.toNat), rest)
    | _, _ => none
  | rest => return (← itemSet? flags first, rest)

-- Reads on to the bracket that closes the outermost of the open ones, which come innermost first.
-- Each round takes at least one character.
def brackets? (flags : Flags) : Nat → Bracket → List Bracket → List Char →
    Option (CharSet × Nat × List Char)
  | 0, _, _, _ => none
  | rounds + 1, inner, outer, text =>
    match skip flags.extended text with
    | [] => none
    | '[' :: rest =>
      match asciiName? rest with
      | some (negated, set, rest) => do
        let set ← flags.members? set
        guard (flags.unicode || !negated)
        let set := if negated then .compl set else set
        brackets? flags rounds (inner.add set 0) outer rest
      | none => do
        let (bracket, rest) ← Bracket.start? flags rest
        brackets? flags rounds bracket (inner :: outer) rest
    | ']' :: rest => do
      let (set, depth) ← inner.close? flags
      match outer with
      | [] => return (set, depth, rest)
      | enclosing :: outer => brackets? flags rounds (enclosing.add set depth) outer rest
    | '&' :: '&' :: rest => brackets? flags rounds (inner.operate .inter) outer rest
    | '-' :: '-' :: rest => brackets? flags rounds (inner.operate .diff) outer rest
    | '~' :: '~' :: rest => brackets? flags rounds (inner.operate .symmDiff) outer rest
    | text => do
      let (set, rest) ← span? flags text
      brackets? flags rounds (inner.add set 0) outer rest

def bracketed? (flags : Flags) (text : List Char) : Option (CharSet × Nat × List Char) := do
  let (bracket, rest) ← Bracket.start? flags text
  brackets? flags (rest.length + 1) bracket [] rest

end Sm83.Pattern
