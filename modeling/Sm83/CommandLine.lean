import Sm83.Text.Numeral

set_option autoImplicit false

namespace Sm83

inductive Setting where
  | program | loadAddress | entry | cycles | slices | postBoot | debug
  deriving DecidableEq, Repr

namespace Setting

def isSwitch : Setting → Bool
  | postBoot | debug => true
  | program | loadAddress | entry | cycles | slices => false

def ofLongName : String → Option Setting
  | "program" => some program
  | "load-address" => some loadAddress
  | "entry" => some entry
  | "cycles" => some cycles
  | "slices" => some slices
  | "post-boot" => some postBoot
  | "debug" => some debug
  | _ => none

def ofShortName : Char → Option Setting
  | 'p' => some program
  | 'c' => some cycles
  | 's' => some slices
  | 'd' => some debug
  | _ => none

end Setting

structure Assignment where
  setting : Setting
  value : String := ""
  deriving DecidableEq, Repr

structure Argument where
  assignments : List Assignment := []
  pending : Option Setting := none
  deriving DecidableEq, Repr

namespace Argument

def ofLong (text : List Char) : Option Argument := do
  let name := text.takeWhile (· ≠ '=')
  let setting ← Setting.ofLongName (String.ofList name)
  match text.drop name.length, setting.isSwitch with
  | [], true => some { assignments := [{ setting }] }
  | [], false => some { pending := some setting }
  | _ :: value, false => some { assignments := [{ setting, value := String.ofList value }] }
  | _ :: _, true => none

def ofShort : List Char → Option Argument
  | [] => some {}
  | c :: rest => do
    let setting ← Setting.ofShortName c
    if setting.isSwitch then
      let others ← ofShort rest
      some { others with assignments := { setting } :: others.assignments }
    else
      match rest with
      | [] => some { pending := some setting }
      | '=' :: value => some { assignments := [{ setting, value := String.ofList value }] }
      | value => some { assignments := [{ setting, value := String.ofList value }] }

end Argument

namespace CommandLine

-- A lone dash is a value like any other.
def looksLikeOption (argument : String) : Bool :=
  match argument.toList with
  | '-' :: _ :: _ => true
  | _ => false

def assignments : Option Setting → List String → Option (List Assignment)
  | none, [] => some []
  | some _, [] => none
  | some setting, value :: rest =>
    if looksLikeOption value then none
    else do
      let others ← assignments none rest
      some ({ setting, value } :: others)
  | none, argument :: rest =>
    match argument.toList with
    | ['-', '-'] => if rest.isEmpty then some [] else none
    | '-' :: '-' :: text => do
      let first ← Argument.ofLong text
      let others ← assignments first.pending rest
      some (first.assignments ++ others)
    | '-' :: c :: text => do
      let first ← Argument.ofShort (c :: text)
      let others ← assignments first.pending rest
      some (first.assignments ++ others)
    | _ => none

def value (given : List Assignment) (setting : Setting) : Option String :=
  (given.find? (·.setting = setting)).map (·.value)

def valueOr {α : Type} (given : List Assignment) (setting : Setting) (default : α)
    (ofText : String → Option α) : Option α :=
  match value given setting with
  | none => some default
  | some text => ofText text

def integerBetween (low high : Int) (text : String) : Option Int :=
  ((Numeral.integer 0x8000000000000000 text.toList).toOption).filter fun n => low ≤ n ∧ n ≤ high

def address (text : String) : Option UInt16 :=
  (Address.ofText text).toOption

end CommandLine

structure Options where
  program : String
  loadAddress : UInt16
  entry : Option UInt16
  cycles : Int
  slices : Nat
  postBoot : Bool
  debug : Bool
  deriving DecidableEq, Repr

namespace Options

open CommandLine

def cyclesPerFrame : Int := 17556

def ofAssignments (given : List Assignment) : Option Options := do
  if (given.map (·.setting)).Nodup then
    let program ← value given .program
    let loadAddress ← valueOr given .loadAddress 0x0100 address
    let entry ← valueOr given .entry none fun text => (address text).map some
    let cycles ← valueOr given .cycles cyclesPerFrame (integerBetween (-0x80000000) 0x7fffffff)
    let slices ← valueOr given .slices 60 (integerBetween 0 0xffffffff)
    return {
      program, loadAddress, entry, cycles
      slices := slices.toNat
      postBoot := (value given .postBoot).isSome
      debug := (value given .debug).isSome }
  else none

def ofArguments (arguments : List String) : Option Options := do
  let given ← assignments none arguments
  ofAssignments given

end Options

end Sm83
