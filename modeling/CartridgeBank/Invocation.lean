namespace CartridgeBank

/-- What the program is asked to do. -/
inductive Task where
  | serve
  | copy
  | selftest
deriving DecidableEq, Repr

namespace Task

def ofName? : String → Option Task
  | "serve" => some serve
  | "copy" => some copy
  | "selftest" => some selftest
  | _ => none

def takesJson : Task → Bool
  | serve => false
  | copy | selftest => true

def takesFiles : Task → Bool
  | copy => true
  | serve | selftest => false

end Task

/-- A task with its options and files. -/
structure Invocation where
  task : Task
  config : Option String := none
  host : Option String := none
  port : Option UInt16 := none
  json : Bool := false
  files : List String := []
deriving DecidableEq, Repr

namespace Invocation

/-- Why arguments make up no invocation. -/
inductive Refusal where
  /-- The arguments are wrong. -/
  | usage
  /-- Help was asked for. -/
  | help
deriving DecidableEq, Repr

/-- The options, by any of their names. -/
inductive OptionName where
  | config
  | host
  | port
  | json
  | help
deriving DecidableEq, Repr

def OptionName.ofLong? : String → Option OptionName
  | "config" => some config
  | "host" => some host
  | "port" => some port
  | "json" => some json
  | "help" => some help
  | _ => none

def OptionName.ofShort? : Char → Option OptionName
  | 'c' => some config
  | 'H' => some host
  | 'P' => some port
  | _ => none

/-- An argument on the command line. -/
inductive Argument where
  | positional (text : String)
  /-- An option, perhaps with a value attached to it. -/
  | named (name : OptionName) (value : Option String)
  | unknown
deriving DecidableEq, Repr

/-- An argument before any `--`. A dash alone is no option. -/
def Argument.ofText (text : String) : Argument :=
  match text.toList with
  | '-' :: '-' :: long =>
    let name := long.takeWhile (· != '=')
    match OptionName.ofLong? (String.ofList name), long.drop name.length with
    | some name, [] => .named name none
    | some name, _ :: value => .named name (some (String.ofList value))
    | none, _ => .unknown
  | '-' :: 'h' :: _ => .named .help none
  | '-' :: short :: attached =>
    match OptionName.ofShort? short, attached with
    | some name, [] => .named name none
    | some name, '=' :: value => .named name (some (String.ofList value))
    | some name, value => .named name (some (String.ofList value))
    | none, _ => .unknown
  | _ => .positional text

/-- A port number in decimal, with or without a sign. -/
def port? (text : String) : Option UInt16 :=
  let (negative, digits) := match text.toList with
    | '-' :: rest => (true, rest)
    | '+' :: rest => (false, rest)
    | cs => (false, cs)
  if digits = [] ∨ !digits.all Char.isDigit then none
  else
    let value := digits.foldl (fun high c => high * 10 + (c.toNat - '0'.toNat)) 0
    if value < 65536 ∧ (negative → value = 0) then some (UInt16.ofNat value) else none

/-- Adds a file. -/
def addFile (invocation : Invocation) (path : String) : Except Refusal Invocation :=
  if invocation.task.takesFiles ∧ path ≠ "" then
    .ok { invocation with files := invocation.files ++ [path] }
  else .error .usage

/-- Sets an option that takes a value, which may be done once. -/
def setOption (invocation : Invocation) (name : OptionName) (value : String) :
    Except Refusal Invocation :=
  match name with
  | .config =>
    if invocation.config.isSome ∨ value = "" then .error .usage
    else .ok { invocation with config := some value }
  | .host =>
    if invocation.host.isSome then .error .usage else .ok { invocation with host := some value }
  | .port =>
    match invocation.port, port? value with
    | none, some port => .ok { invocation with port := some port }
    | _, _ => .error .usage
  | _ => .error .usage

/-- Asks for JSON, which may be done once. -/
def setJson (invocation : Invocation) : Except Refusal Invocation :=
  if invocation.task.takesJson ∧ ¬invocation.json then .ok { invocation with json := true }
  else .error .usage

/-- Adds the arguments one after the other. -/
def addArguments (invocation : Invocation) : List String → Except Refusal Invocation
  | [] => .ok invocation
  | "--" :: files => files.foldlM addFile invocation
  | text :: rest =>
    match Argument.ofText text with
    | .positional path => do addArguments (← invocation.addFile path) rest
    | .unknown => .error .usage
    | .named .help none => .error .help
    | .named .json none => do addArguments (← invocation.setJson) rest
    | .named name (some value) => do addArguments (← invocation.setOption name value) rest
    | .named name none =>
      match rest with
      | [] => .error .usage
      | value :: rest =>
        match Argument.ofText value with
        | .positional value => do addArguments (← invocation.setOption name value) rest
        | _ => .error .usage

/-- Reads the arguments of the program. The first one names the task. -/
def ofArguments : List String → Except Refusal Invocation
  | [] => .error .usage
  | first :: rest =>
    match Task.ofName? first with
    | some task => do
      let invocation ← addArguments { task } rest
      if task.takesFiles ∧ invocation.files = [] then .error .usage else .ok invocation
    | none =>
      if Argument.ofText first = .named .help none then .error .help
      else if first = "help" ∧ (rest = [] ∨ rest.length = 1 ∧ rest.all fun name =>
          (Task.ofName? name).isSome ∨ name = "help") then .error .help
      else .error .usage

/-- The files that an invocation names. -/
def paths (invocation : Invocation) : List String :=
  invocation.config.toList ++ invocation.files

/-- What the program can be asked to do, and how. -/
def summary : String :=
  String.intercalate "\n" [
    "Usage:",
    "  cartridge-bank serve [OPTIONS]",
    "  cartridge-bank copy [OPTIONS] [--json] FILE...",
    "  cartridge-bank selftest [OPTIONS] [--json]",
    "",
    "serve     serves a device in memory to clients on the network",
    "copy      writes files to a served device and reads them back",
    "selftest  makes the same round trip on a device in memory",
    "",
    "Options:",
    "  -c, --config FILE  read the configuration from a TOML file",
    "  -H, --host HOST    the host of the device, whatever the configuration says",
    "  -P, --port PORT    the port of the device, whatever the configuration says",
    "      --json         print the report as JSON",
    "  -h, --help         print this text",
    ""]

end Invocation

end CartridgeBank
