import Sm83.Text.Pattern

set_option autoImplicit false

namespace Sm83.Utf8

def encode (n : Nat) : List Nat :=
  if n < 0x80 then [n]
  else if n < 0x800 then [0xc0 + n / 64, 0x80 + n % 64]
  else if n < 0x10000 then [0xe0 + n / 4096, 0x80 + n / 64 % 64, 0x80 + n % 64]
  else [0xf0 + n / 262144, 0x80 + n / 4096 % 64, 0x80 + n / 64 % 64, 0x80 + n % 64]

def cut? (low high : Nat) : Option Nat :=
  let longer := [0x80, 0x800, 0x10000].find? fun n => low < n && n ≤ high
  longer.or <| [64, 4096, 262144].findSome? fun unit =>
    if high < 0x80 || low / unit = high / unit then none
    else if low % unit ≠ 0 then some ((low / unit + 1) * unit)
    else if (high + 1) % unit ≠ 0 then some (high / unit * unit)
    else none

def pieces : Nat → Nat → Nat → List (List (Nat × Nat))
  | 0, low, high => [(encode low).zip (encode high)]
  | depth + 1, low, high =>
    match cut? low high with
    | none => [(encode low).zip (encode high)]
    | some middle => pieces depth low (middle - 1) ++ pieces depth middle high

-- The sequences of a range, in ascending order. There are at most three changes of length and two
-- cuts for each byte that follows the first.
def sequences (low high : Nat) : List (List (Nat × Nat)) := pieces 9 low high

end Sm83.Utf8

namespace Sm83.Pattern

def minLength : Pattern → Option Nat
  | empty | edge .. => some 0
  | one set => if set.isEmpty then none else some 1
  | either left right => do return min (← left.minLength) (← right.minLength)
  | next first second => do return (← first.minLength) + (← second.minLength)
  | times least _ body => do return least * (← body.minLength)
  | captured body => body.minLength

inductive Direction where
  | forward | backward
  deriving DecidableEq, Repr

def beginnings (sequences : List (List (Nat × Nat))) : List (List (Nat × Nat)) :=
  (sequences.flatMap fun sequence =>
    (List.range (sequence.length + 1)).map sequence.take).eraseDups

-- The bytes of all characters of a set read forwards: a state for each set of sequences that may be
-- left to read, with a range for each byte that may come first.
def forwardSize (sequences : List (List (Nat × Nat))) : Nat :=
  let left := (beginnings sequences).map fun start =>
    sequences.filterMap (List.isPrefixOf? start)
  let states := (left.filter (· != [[]])).eraseDups
  32 + states.foldl (fun size state =>
    size + 32 + 8 * (state.filterMap List.head?).eraseDups.length) 0

def backwardSize (sequences : List (List (Nat × Nat))) : Nat :=
  32 + 4 * sequences.length + 32 * (beginnings sequences).length

def setSize (direction : Direction) (set : CharSet) : Nat :=
  match set.single? with
  | some c => 32 * c.utf8Size
  | none =>
    if set.isAscii then 64 + 8 * set.ranges.length
    else
      let sequences := set.ranges.flatMap fun (low, high) => Utf8.sequences low high
      match direction with
      | .forward => forwardSize sequences
      | .backward => backwardSize sequences

def literal? : Pattern → Option (List Char)
  | one set => set.single?.map ([·])
  | next first second => do return (← first.literal?) ++ (← second.literal?)
  | _ => none

def runs (words : List (List UInt8)) : List (List (List UInt8)) :=
  let (done, current) := words.foldl (fun (done, current) word =>
    if !word.isEmpty then (done, current ++ [word])
    else if !done.isEmpty && (done ++ [current]).all List.isEmpty then (done, current)
    else (done ++ [current], [])) (([], []) : List (List (List UInt8)) × List (List UInt8))
  done ++ [current]

-- The states of a tree of words, to the depth given: one that branches to its runs and ends, and
-- one for the first bytes of each run.
def treeSize : Nat → List (List UInt8) → Nat
  | 0, _ => 0
  | depth + 1, words =>
    if words.all List.isEmpty then 0
    else
      let all := runs words
      let filled := all.filter (!·.isEmpty)
      let sizes := filled.map fun run =>
        let heads := (run.filterMap List.head?).eraseDups
        let deeper := heads.map fun head =>
          treeSize depth ((run.filter (·.head? == some head)).map List.tail)
        (if heads.length = 1 then 32 else 32 + 8 * heads.length) + deeper.sum
      32 + 4 * (filled.length + all.length - 1) + sizes.sum

def wordsSize (direction : Direction) (words : List (List Char)) : Nat :=
  let bytes := words.map fun word =>
    let bytes := (String.ofList word).toUTF8.toList
    if direction = .forward then bytes else bytes.reverse
  32 + treeSize ((bytes.map List.length).max?.getD 0 + 1) bytes

def alternatives : Pattern → List Pattern
  | either left right => left.alternatives ++ right.alternatives
  | pattern => [pattern]

mutual

def size (direction : Direction) : Pattern → Nat
  | empty | edge .. => 32
  | one set => setSize direction set
  | either left right =>
    match (left.alternatives ++ right.alternatives).mapM literal? with
    | some words => wordsSize direction words
    | none => 64 + branches direction left + branches direction right
  | next first second => size direction first + size direction second
  | captured body => (if direction = .forward then 64 else 0) + size direction body
  | times least extra body =>
    let round := size direction body
    match least, extra with
    | 0, some 1 => 72 + round
    | 0, none => if body.minLength.any (0 < ·) then 40 + round else 112 + round
    | 1, none => 40 + round
    | least, none => least * round + 40
    | 0, some extra => 64 + extra * (round + 40)
    | least, some 0 => least * round
    | least, some extra => least * round + 32 + extra * (round + 40)

def branches (direction : Direction) : Pattern → Nat
  | either left right => branches direction left + branches direction right
  | pattern => 4 + size direction pattern

end

def isBound (direction : Direction) : Pattern → Bool
  | edge .start _ => direction = .forward
  | edge .finish _ => direction = .backward
  | empty | edge .. | one _ => false
  | either left right => left.isBound direction && right.isBound direction
  | next first second =>
    match direction with
    | .forward => first.isBound direction || first.isZeroWidth && second.isBound direction
    | .backward => second.isBound direction || second.isZeroWidth && first.isBound direction
  | times least _ body => 0 < least && body.isBound direction
  | captured body => body.isBound direction

def wholeSize (direction : Direction) (pattern : Pattern) : Nat :=
  (if pattern.isBound direction then 32 else 112) + size direction (captured pattern) + 32

def sizeLimit : Nat := 10 * 1024 * 1024

def fits (pattern : Pattern) : Bool :=
  [Direction.forward, .backward].all fun direction => pattern.wholeSize direction ≤ sizeLimit

end Sm83.Pattern
