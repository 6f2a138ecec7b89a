import Sm83.Log.Setting
import Sm83.Runner

set_option autoImplicit false

namespace Sm83.Program

def usage : String :=
  "Usage: sm83 --program PATH [--load-address ADDRESS] [--entry ADDRESS] [--cycles CYCLES]\n" ++
  "            [--slices SLICES] [--post-boot] [--debug]"

def reason : IO.Error → String
  | .noFileOrDirectory .. => "No such file or directory (os error 2)"
  | .permissionDenied .. => "Permission denied (os error 13)"
  | .inappropriateType _ 21 _ => "Is a directory (os error 21)"
  | .inappropriateType .. => "Not a directory (os error 20)"
  | .invalidArgument _ 36 _ => "File name too long (os error 36)"
  | other => other.toString

def readImage (path : String) : IO (Except String (List UInt8)) := do
  try
    let image ← IO.FS.readBinFile path
    return .ok image.toList
  catch error =>
    return .error (reason error)

def write (report : Report) : IO Unit := do
  let output ← IO.getStdout
  output.write (ByteArray.mk report.output.toArray)
  output.flush
  for event in report.log.events do
    IO.eprintln event.text
  match report.failure with
  | some (.fault fault) =>
    if fault.panics then IO.eprintln ("panicked: " ++ fault.message)
    else IO.eprintln ("Error: " ++ (Failure.fault fault).structured)
  | some failure => IO.eprintln ("Error: " ++ failure.structured)
  | none => pure ()

end Sm83.Program

open Sm83 Sm83.Program in
def main (arguments : List String) : IO UInt32 := do
  match Options.ofArguments arguments with
  | none =>
    IO.eprintln usage
    return 2
  | some options =>
    let setting ← IO.getEnv "RUST_LOG"
    let image ← readImage options.program
    let filter := (LogSetting.ofVariable setting options.debug).filter
    let report := Runner.run .wraps options image filter
    write report
    return report.exitCode
