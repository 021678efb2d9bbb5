import SchemaCompiler.Files.Path

/-!
Requests: what the arguments of the command line ask for.
-/

namespace SchemaCompiler.CommandLine

open Files

inductive Format where
  | json
  | typescript
  | python
  deriving DecidableEq, Repr

inductive Command where
  | schema (dump : Path) (format : Format)
  | export (dump folder : Path)
  /-- A stored record holds generated values as well. -/
  | validate (dump : Path) (table : String) (payload : Path) (stored : Bool)
  | init (settings dump : Option Path) (reload : Bool)
  deriving DecidableEq, Repr

inductive UsageError where
  | noCommand
  | unknownCommand (name : String)
  | unknownOption (name : String)
  | missingValue (option : String)
  | missingArgument (name : String)
  | unexpectedArgument (text : String)
  | unknownFormat (name : String)
  deriving DecidableEq, Repr

def UsageError.message : UsageError → String
  | .noCommand => "no command given, expected one of: schema, export, validate, init"
  | .unknownCommand name => s!"unknown command {name}"
  | .unknownOption name => s!"unknown option {name}"
  | .missingValue option => s!"option {option} needs a value"
  | .missingArgument name => s!"missing argument {name}"
  | .unexpectedArgument text => s!"unexpected argument {text}"
  | .unknownFormat name => s!"unknown format {name}, expected one of: json, typescript, python"

/-- What a command takes. A parameter is given by its place or by its name. -/
structure Signature where
  parameters : List String := []
  options : List String := []
  switches : List String := []

structure Arguments where
  named : List (String × String) := []
  switches : List (String × Bool) := []
  placed : List String := []

namespace Arguments

def splitOption (text : String) : String × Option String :=
  match Text.cutAt? ['='] text.toList with
  | some (name, value) => (String.ofList name, some (String.ofList value))
  | none => (text, none)

def isOption (text : String) : Bool := ['-', '-'].isPrefixOf text.toList

/-- A switch by its name is on, and with `no-` before the name it is off. -/
def switch? (s : Signature) (name : String) : Option (String × Bool) :=
  if s.switches.contains name then some (name, true)
  else
    (s.switches.find? fun switch => "--no-" ++ String.ofList (switch.toList.drop 2) == name).map
      fun switch => (switch, false)

/-- Sorts arguments one by one. `awaiting` is an option whose value comes next. -/
def sort (s : Signature) (found : Arguments) (awaiting : Option String) :
    List String → Except UsageError Arguments
  | [] =>
    match awaiting with
    | some name => .error (.missingValue name)
    | none => .ok found
  | text :: rest =>
    match awaiting with
    | some name => sort s { found with named := found.named ++ [(name, text)] } none rest
    | none =>
      if !isOption text then sort s { found with placed := found.placed ++ [text] } none rest
      else
        match switch? s text with
        | some switch => sort s { found with switches := found.switches ++ [switch] } none rest
        | none =>
          let (name, value) := splitOption text
          if !(s.parameters ++ s.options).contains name then .error (.unknownOption name)
          else match value with
            | some value => sort s { found with named := found.named ++ [(name, value)] } none rest
            | none => sort s found (some name) rest

def place (found : Arguments) : List String → List String → Except UsageError Arguments
  | _, [] => .ok found
  | [], text :: _ => .error (.unexpectedArgument text)
  | name :: names, text :: texts =>
    if (found.named.lookup name).isSome then place found names (text :: texts)
    else place { found with named := found.named ++ [(name, text)] } names texts

def read (s : Signature) (texts : List String) : Except UsageError Arguments := do
  let found ← sort s {} none texts
  place found s.parameters found.placed

def required (found : Arguments) (name : String) : Except UsageError String :=
  match found.named.lookup name with
  | some value => .ok value
  | none => .error (.missingArgument name)

def path? (found : Arguments) (name : String) : Option Path :=
  (found.named.lookup name).map Path.ofString

def isOn (found : Arguments) (name : String) : Bool :=
  (found.switches.reverse.lookup name).getD false

end Arguments

def Format.ofName (name : String) : Except UsageError Format :=
  if name == "json" then .ok .json
  else if name == "typescript" then .ok .typescript
  else if name == "python" then .ok .python
  else .error (.unknownFormat name)

structure Request where
  command : Command
  verbose : Bool

def readSchemaCommand (texts : List String) : Except UsageError Request := do
  let found ← Arguments.read
    { parameters := ["--schema-location", "--fmt"], switches := ["--verbose"] } texts
  let dump ← found.required "--schema-location"
  let format ← Format.ofName ((found.named.lookup "--fmt").getD "json")
  return ⟨.schema dump format, found.isOn "--verbose"⟩

def readExportCommand (texts : List String) : Except UsageError Request := do
  let found ← Arguments.read
    { parameters := ["--schema-location", "--folder"], switches := ["--verbose"] } texts
  let dump ← found.required "--schema-location"
  let folder ← found.required "--folder"
  return ⟨.export dump folder, found.isOn "--verbose"⟩

def readValidateCommand (texts : List String) : Except UsageError Request := do
  let found ← Arguments.read
    { parameters := ["--schema-location", "--table", "--payload"]
      switches := ["--stored", "--verbose"] } texts
  let dump ← found.required "--schema-location"
  let table ← found.required "--table"
  let payload ← found.required "--payload"
  return ⟨.validate dump table payload (found.isOn "--stored"), found.isOn "--verbose"⟩

def readInitCommand (texts : List String) : Except UsageError Request := do
  let found ← Arguments.read
    { options := ["--config", "--schema"], switches := ["--reload", "--verbose"] } texts
  return ⟨.init (found.path? "--config") (found.path? "--schema") (found.isOn "--reload"),
    found.isOn "--verbose"⟩

def readRequest : List String → Except UsageError Request
  | [] => .error .noCommand
  | name :: texts =>
    if name == "schema" then readSchemaCommand texts
    else if name == "export" then readExportCommand texts
    else if name == "validate" then readValidateCommand texts
    else if name == "init" then readInitCommand texts
    else .error (.unknownCommand name)

end SchemaCompiler.CommandLine
