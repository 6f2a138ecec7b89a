import Sm83.Text.Numeral
import Sm83.Text.Pattern

set_option autoImplicit false

namespace Sm83.Pattern

structure Flags where
  folds : Bool := false
  unicode : Bool := true
  extended : Bool := false
  lines : Bool := false
  acrossLines : Bool := false
  carriageReturns : Bool := false
  deriving DecidableEq, Repr

inductive Atom where
  | literal (c : Char) (byte : Bool)
  | named (set : CharSet) (negated : Bool)
  | edge (condition : Edge)
  deriving DecidableEq, Repr

def digitSet : CharSet := .range 0x30 0x39

def spaceSet : CharSet := .union (.range 0x9 0xd) (.single ' ')

def letterSet : CharSet := .union (.range 0x41 0x5a) (.range 0x61 0x7a)

def wordSet : CharSet := .union (.union digitSet letterSet) (.single '_')

def gather (extended : Bool) (accepts : Char → Bool) : Bool → List Char → List Char × List Char
  | _, [] => ([], [])
  | comment, c :: rest =>
    if comment then gather extended accepts (c != '\n') rest
    else if accepts c then
      let (taken, rest) := gather extended accepts false rest
      (c :: taken, rest)
    else if extended && Blank.isBlank c then gather extended accepts false rest
    else if extended && c == '#' then gather extended accepts true rest
    else ([], c :: rest)

def skip (extended : Bool) (text : List Char) : List Char :=
  (gather extended (fun _ => false) false text).2

def decimal? (extended : Bool) (text : List Char) : Option (Nat × List Char) := do
  let (digits, rest) := gather extended Char.isDigit false (text.dropWhile Blank.isBlank)
  guard !digits.isEmpty
  let value ← (Numeral.accumulate 10 0xffffffff 0 digits).toOption
  return (value, rest.dropWhile Blank.isBlank)

def isHexDigit (c : Char) : Bool := (Numeral.digitValue 16 c).isSome

def ofHex? (digits : List Char) : Option Char := do
  guard !digits.isEmpty
  let value ← (Numeral.accumulate 16 CharSet.greatest 0 digits).toOption
  if value.isValidChar then some (Char.ofNat value) else none

def hexDigits? (extended : Bool) : Nat → List Char → Option (List Char × List Char)
  | 0, rest => some ([], rest)
  | _ + 1, [] => none
  | count + 1, c :: rest => do
    guard (isHexDigit c)
    let (digits, rest) ← hexDigits? extended count (skip extended rest)
    return (c :: digits, rest)

def hexadecimal? (extended : Bool) (count : Nat) (text : List Char) :
    Option (Atom × List Char) := do
  match skip extended text with
  | '\x7b' :: rest =>
    match gather extended isHexDigit false rest with
    | (digits, '\x7d' :: rest) => return (.literal (← ofHex? digits) false, skip extended rest)
    | _ => none
  | rest =>
    let (digits, rest) ← hexDigits? extended count rest
    return (.literal (← ofHex? digits) (count == 2), rest)

def boundary? : String → Option Edge
  | "start" => some .wordStart
  | "end" => some .wordEnd
  | "start-half" => some .noWordBefore
  | "end-half" => some .noWordAfter
  | _ => none

def wordEdge? (extended : Bool) : List Char → Option (Atom × List Char)
  | '\x7b' :: rest => do
    let accepts := fun c : Char => c.isAlpha || c == '-'
    let inside := skip extended rest
    if ← inside.head?.map accepts then
      match gather extended accepts false inside with
      | (name, '\x7d' :: rest) => return (.edge (← boundary? (String.ofList name)), rest)
      | _ => none
    else return (.edge .word, '\x7b' :: rest)
  | rest => some (.edge .word, rest)

def escape? (extended : Bool) : List Char → Option (Atom × List Char)
  | [] => none
  | 'x' :: rest => hexadecimal? extended 2 rest
  | 'u' :: rest => hexadecimal? extended 4 rest
  | 'U' :: rest => hexadecimal? extended 8 rest
  | 'd' :: rest => some (.named digitSet false, rest)
  | 'D' :: rest => some (.named digitSet true, rest)
  | 's' :: rest => some (.named spaceSet false, rest)
  | 'S' :: rest => some (.named spaceSet true, rest)
  | 'w' :: rest => some (.named wordSet false, rest)
  | 'W' :: rest => some (.named wordSet true, rest)
  | 'a' :: rest => some (.literal '\x07' false, rest)
  | 'f' :: rest => some (.literal '\x0c' false, rest)
  | 'n' :: rest => some (.literal '\n' false, rest)
  | 'r' :: rest => some (.literal '\r' false, rest)
  | 't' :: rest => some (.literal '\t' false, rest)
  | 'v' :: rest => some (.literal '\x0b' false, rest)
  | 'A' :: rest => some (.edge .start, rest)
  | 'z' :: rest => some (.edge .finish, rest)
  | 'b' :: rest => wordEdge? extended rest
  | 'B' :: rest => some (.edge .inside, rest)
  | '<' :: rest => some (.edge .wordStart, rest)
  | '>' :: rest => some (.edge .wordEnd, rest)
  | c :: rest => if c.isAlphanum || 0x80 ≤ c.toNat then none else some (.literal c false, rest)

-- The set that an item stands for. Letters of all scripts have no known cases and digits, spaces
-- and word characters of all scripts are not known either; bytes have to be within ASCII, so that
-- no character is torn apart.
def Flags.members? (flags : Flags) (set : CharSet) : Option CharSet :=
  if flags.unicode then if flags.folds then none else some set
  else if !set.isAscii then none
  else some (if flags.folds then .folded set else set)

def Flags.named? (flags : Flags) (set : CharSet) (negated : Bool) : Option CharSet :=
  if flags.unicode || negated then none else flags.members? set

end Sm83.Pattern
