set_option autoImplicit false

namespace Sm83

inductive CharSet where
  | empty
  | range (low high : Nat)
  | union (left right : CharSet)
  | inter (left right : CharSet)
  | diff (left right : CharSet)
  | symmDiff (left right : CharSet)
  | compl (set : CharSet)
  | folded (set : CharSet)
  deriving DecidableEq, Repr

namespace CharSet

def greatest : Nat := 0x10ffff

def single (c : Char) : CharSet := range c.toNat c.toNat

def otherCase (n : Nat) : Nat :=
  if 65 ≤ n ∧ n ≤ 90 then n + 32 else if 97 ≤ n ∧ n ≤ 122 then n - 32 else n

def contains : CharSet → Nat → Bool
  | empty, _ => false
  | range low high, n => low ≤ n && n ≤ high
  | union left right, n => left.contains n || right.contains n
  | inter left right, n => left.contains n && right.contains n
  | diff left right, n => left.contains n && !right.contains n
  | symmDiff left right, n => left.contains n != right.contains n
  | compl set, n => !set.contains n
  | folded set, n => set.contains n || set.contains (otherCase n)

def edges : CharSet → List Nat
  | empty => []
  | range low high => [low, high + 1]
  | union left right | inter left right | diff left right | symmDiff left right =>
    left.edges ++ right.edges
  | compl set => set.edges
  | folded set =>
    [65, 91, 97, 123] ++ set.edges ++ set.edges.map (· + 32) ++ set.edges.map (· - 32)

-- Surrogates are no characters.
def hasCharacter (set : CharSet) (n : Nat) : Bool := n.isValidChar && set.contains n

def ranges (set : CharSet) : List (Nat × Nat) :=
  let edges := [0, 0xd800, 0xe000, greatest + 1] ++ set.edges
  let starts := edges.filter fun n => set.hasCharacter n && (n == 0 || !set.hasCharacter (n - 1))
  (starts.eraseDups.mergeSort (· ≤ ·)).map fun start =>
    let stop := (edges.filter fun n => start < n && !set.hasCharacter n).min?
    (start, stop.getD 0 - 1)

def isEmpty (set : CharSet) : Bool := set.ranges.isEmpty

def single? (set : CharSet) : Option Char :=
  match set.ranges with
  | [(low, high)] => if low = high then some (Char.ofNat low) else none
  | _ => none

def isAscii (set : CharSet) : Bool := set.ranges.all fun (_, high) => high < 0x80

end CharSet

namespace Blank

def isBlank (c : Char) : Bool :=
  let n := c.toNat
  (0x9 ≤ n && n ≤ 0xd) || (0x2000 ≤ n && n ≤ 0x200a) ||
    [0x20, 0x85, 0xa0, 0x1680, 0x2028, 0x2029, 0x202f, 0x205f, 0x3000].contains n

def trim (text : String) : String :=
  let ahead := text.toList.dropWhile isBlank
  String.ofList (ahead.reverse.dropWhile isBlank).reverse

end Blank

end Sm83
