import Sm83.Log
import Sm83.Text.Pattern.Group

set_option autoImplicit false

namespace Sm83

structure Directive where
  components : Option String := none
  -- The most detailed level that is kept; `none` keeps nothing.
  limit : Option Level

namespace Directive

def length (directive : Directive) : Nat :=
  directive.components.elim 0 String.utf8ByteSize

def covers (directive : Directive) (component : String) : Bool :=
  match directive.components with
  | none => true
  | some start => start.toList.isPrefixOf component.toList

def admits (directive : Directive) (level : Level) : Bool :=
  match directive.limit with
  | none => false
  | some limit => level.detail ≤ limit.detail

def limit? (name : String) : Option (Option Level) :=
  match name.toLower with
  | "off" => some none
  | "error" => some (some .error)
  | "warn" => some (some .warn)
  | "info" => some (some .info)
  | "debug" => some (some .debug)
  | "trace" => some (some .trace)
  | _ => none

def ofText? (text : String) : Option Directive :=
  match text.splitOn "=" with
  | [name] =>
    match limit? name with
    | some limit => some { limit }
    | none => some { components := name, limit := some .trace }
  | [name, level] =>
    let level := Blank.trim level
    if level.isEmpty then some { components := name, limit := some .trace }
    else (limit? level).map fun limit => { components := some name, limit }
  | _ => none

def insert (directives : List Directive) (directive : Directive) : List Directive :=
  if directives.any (·.components == directive.components) then
    directives.map fun other =>
      if other.components == directive.components then directive else other
  else directives ++ [directive]

def listOfText (text : String) : List Directive :=
  (((text.splitOn ",").map Blank.trim).filterMap fun part =>
    if part.isEmpty then none else ofText? part).foldl insert []

def governing (directives : List Directive) (component : String) : Option Directive :=
  directives.foldl (fun best directive =>
    if directive.covers component && best.all (·.length ≤ directive.length) then some directive
    else best) none

end Directive

structure LogSetting where
  directives : List Directive := []
  pattern : Option Pattern := none

namespace LogSetting

def keeps (setting : LogSetting) (event : Event) : Bool :=
  match Directive.governing setting.directives event.component with
  | none => false
  | some directive =>
    directive.admits event.level && setting.pattern.all (·.occursIn event.message)

def filter (setting : LogSetting) : Filter where
  admits level := setting.directives.any (·.admits level)
  keeps := setting.keeps

def ofText (text : String) : LogSetting :=
  match text.splitOn "/" with
  | [directives] => { directives := Directive.listOfText directives }
  | [directives, pattern] =>
    { directives := Directive.listOfText directives, pattern := Pattern.ofText? pattern }
  | _ => {}

def ofVariable (value : Option String) (debug : Bool) : LogSetting :=
  let setting := value.elim {} ofText
  let directives :=
    if debug then Directive.insert setting.directives { limit := some .trace }
    else setting.directives
  if directives.isEmpty then { setting with directives := [{ limit := some .error }] }
  else { setting with directives }

end LogSetting

end Sm83
