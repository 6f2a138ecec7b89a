set_option autoImplicit false

namespace Sm83

inductive NumeralError where
  | empty
  | invalidDigit
  | tooLarge
  deriving DecidableEq, Repr

def NumeralError.message : NumeralError → String
  | empty => "cannot parse integer from empty string"
  | invalidDigit => "invalid digit found in string"
  | tooLarge => "number too large to fit in target type"

namespace Numeral

def symbolValue (c : Char) : Option Nat :=
  let n := c.toNat
  if 48 ≤ n ∧ n ≤ 57 then some (n - 48)
  else if 97 ≤ n ∧ n ≤ 122 then some (n - 87)
  else if 65 ≤ n ∧ n ≤ 90 then some (n - 55)
  else none

def digitValue (radix : Nat) (c : Char) : Option Nat :=
  (symbolValue c).filter (· < radix)

-- Reads on from a value. A digit is looked at before the value it would lead to.
def accumulate (radix limit : Nat) : Nat → List Char → Except NumeralError Nat
  | value, [] => .ok value
  | value, c :: rest =>
    match digitValue radix c with
    | none => .error .invalidDigit
    | some digit =>
      let next := value * radix + digit
      if next ≤ limit then accumulate radix limit next rest else .error .tooLarge

def natural (radix limit : Nat) : List Char → Except NumeralError Nat
  | [] => .error .empty
  | ['+'] => .error .invalidDigit
  | '+' :: digits => accumulate radix limit 0 digits
  | digits => accumulate radix limit 0 digits

def integer (limit : Nat) : List Char → Except NumeralError Int
  | ['-'] => .error .invalidDigit
  | '-' :: digits => (accumulate 10 limit 0 digits).map fun n => -(n : Int)
  | digits => (natural 10 limit digits).map fun n => (n : Int)

end Numeral

namespace Address

def split : List Char → Nat × List Char
  | '0' :: 'x' :: rest => (16, rest)
  | '0' :: 'X' :: rest => (16, rest)
  | text => (10, text)

def ofText (text : String) : Except NumeralError UInt16 :=
  let (radix, digits) := split text.toList
  (Numeral.natural radix 65535 digits).map UInt16.ofNat

def refusal (text : String) (error : NumeralError) : String :=
  "invalid address " ++ text ++ ": " ++ error.message

def parse (text : String) : Except String UInt16 :=
  (ofText text).mapError (refusal text)

end Address

end Sm83
