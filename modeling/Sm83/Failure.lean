import Sm83.Fault
import Sm83.Text.Printable

set_option autoImplicit false

namespace Sm83

namespace Quoted

def escapeCodePoint (c : Char) : List Char :=
  ['\\', 'u', '\x7b'] ++ Nat.toDigits 16 c.toNat ++ ['\x7d']

def escape (c : Char) : List Char :=
  if c = '"' then ['\\', '"']
  else if c = '\\' then ['\\', '\\']
  else if c = '\n' then ['\\', 'n']
  else if c = '\r' then ['\\', 'r']
  else if c = '\t' then ['\\', 't']
  else if c = '\x00' then ['\\', '0']
  else if Printable.isPrintable c then [c]
  else escapeCodePoint c

def encode (text : String) : String :=
  String.ofList ('"' :: text.toList.flatMap escape ++ ['"'])

end Quoted

inductive Failure where
  | message (text : String)
  | fault (fault : Fault)
  deriving DecidableEq, Repr

namespace Failure

def unreadable (path reason : String) : Failure :=
  .message ("could not read " ++ path ++ ": " ++ reason)

def display : Failure → String
  | message text => text
  | fault f => f.message

def structured : Failure → String
  | message text => "Message(" ++ Quoted.encode text ++ ")"
  | fault (.unknownOpcode opcode pc extended) =>
    "UnimplementedOpcode \x7b opcode: " ++ toString opcode.toNat ++ ", pc: " ++
      toString pc.toNat ++ ", prefixed: " ++ (if extended then "true" else "false") ++ " \x7d"
  | fault (.programTooLarge address length) =>
    "ProgramTooLarge \x7b address: " ++ toString address.toNat ++ ", len: " ++
      toString length ++ " \x7d"
  | fault f => f.message

end Failure

end Sm83
