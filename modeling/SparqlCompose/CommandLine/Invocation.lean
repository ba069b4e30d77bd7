import SparqlCompose.CommandLine.Arguments

namespace SparqlCompose.CommandLine

inductive Command
  | compose
  | methods
  | domains
  | call (moduleName method : RawText) (table : Bool)
  | dataQuery (moduleName : RawText)
deriving DecidableEq

structure Invocation where
  config : Option RawText
  parameters : List RawText
  command : Command

def program : String := "semanteco"

def versionText : String := "SemantEco 1.0.0"

def helpSwitch : Switch := ⟨["-h", "--help"], .help⟩

def configSwitch : Switch := ⟨["--config", "-c"], .value⟩

def parameterSwitch : Switch := ⟨["--param", "-p"], .value⟩

def tableSwitch : Switch := ⟨["--table"], .flag⟩

def mainSwitches : List Switch :=
  [helpSwitch, configSwitch, parameterSwitch, ⟨["--version"], .version⟩]

def commands : List (String × List String) :=
  [("compose", []), ("methods", []), ("domains", []), ("call", ["module", "method"]),
   ("data-query", ["module"])]

def switchesOf (command : String) : List Switch :=
  if command = "call" then [helpSwitch, tableSwitch] else [helpSwitch]

structure Halt where
  speaker : String
  cause : Stop

def valuesOf (s : Switch) (options : List Given) : List RawText :=
  options.filterMap fun (t, v) => if t = s then v else none

def commandOf (name : String) (operands : List RawText) (options : List Given) : Option Command :=
  match name, operands with
  | "compose", [] => some .compose
  | "methods", [] => some .methods
  | "domains", [] => some .domains
  | "call", [m, f] => some (.call m f (options.any (·.1 == tableSwitch)))
  | "data-query", [m] => some (.dataQuery m)
  | _, _ => none

/-- A command and its arguments, and those of them that it does not use. -/
def readCommand : List RawText → Except Halt (Command × List RawText)
  | [] => .error ⟨program, .fault (.missing ["command"])⟩
  | name :: arguments =>
    match commands.find? fun c => (c.1 : RawText) == name with
    | none => .error ⟨program, .fault (.unknownCommand name (commands.map Prod.fst))⟩
    | some (command, places) => do
      let speaker := program ++ " " ++ command
      let switches := switchesOf command
      let marked ← (items switches arguments).mapError fun e => ⟨speaker, .fault e⟩
      let fuel := marked.length + 1
      let r ← (read switches fuel places.length marked).mapError fun e => ⟨speaker, e⟩
      match commandOf command r.operands r.options with
      | some c => return (c, r.unused)
      | none => throw ⟨speaker, .fault (.missing (places.drop r.operands.length))⟩

/-- The options in front of the command, the arguments there that are not used, and the command with
all that follows. -/
def readFront (fuel : Nat) (arguments : List Item) :
    Except Stop (List Given × List RawText × List RawText) :=
  match fuel, arguments with
  | 0, _ => .ok ([], [], [])
  | _, [] => .ok ([], [], [])
  | fuel + 1, ⟨text, .unknown⟩ :: rest => do
    let (options, unused, command) ← readFront fuel rest
    return (options, text :: unused, command)
  | fuel + 1, ⟨_, .option s name value⟩ :: rest => do
    let (found, rest) ← (given mainSwitches s name value rest).mapError .fault
    checkGiven found
    let (options, unused, command) ← readFront fuel rest
    return (found ++ options, unused, command)
  | _, [⟨text, .separator⟩] => .ok ([], [text], [])
  | _, arguments => .ok ([], [], arguments.map (·.text))

def Invocation.ofArguments (arguments : List RawText) : Except Halt Invocation := do
  let marked ← (items mainSwitches arguments).mapError fun e => ⟨program, .fault e⟩
  let (options, unused, rest) ← (readFront (marked.length + 1) marked).mapError fun e =>
    ⟨program, e⟩
  let (command, more) ← readCommand rest
  match unused ++ more with
  | [] =>
    let config := (valuesOf configSwitch options).getLast?
    return ⟨config, valuesOf parameterSwitch options, command⟩
  | unused => throw ⟨program, .fault (.unrecognized unused)⟩

end SparqlCompose.CommandLine
