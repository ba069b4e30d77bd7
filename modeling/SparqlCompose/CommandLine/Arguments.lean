import SparqlCompose.Text.Quoted

namespace SparqlCompose.CommandLine

inductive Effect
  | value
  | flag
  | help
  | version
deriving DecidableEq

structure Switch where
  names : List RawText
  effect : Effect
deriving DecidableEq

def Switch.text (s : Switch) : String := "/".intercalate (s.names.map (·.shown))

def Switch.takesValue (s : Switch) : Bool := s.effect = .value

inductive UsageFault
  | valueExpected (s : Switch)
  | valueIgnored (s : Switch) (value : RawText)
  | ambiguous (argument : RawText) (names : List RawText)
  | missing (names : List String)
  | unrecognized (arguments : List RawText)
  | unknownCommand (name : RawText) (commands : List String)

def UsageFault.message : UsageFault → String
  | .valueExpected s => s!"argument {s.text}: expected one argument"
  | .valueIgnored s value =>
    s!"argument {s.text}: ignored explicit argument " ++ Text.quoted value
  | .ambiguous argument names =>
    s!"ambiguous option: {argument.shown} could match " ++
      ", ".intercalate (names.map (·.shown))
  | .missing names => "the following arguments are required: " ++ ", ".intercalate names
  | .unrecognized arguments =>
    "unrecognized arguments: " ++ " ".intercalate (arguments.map (·.shown))
  | .unknownCommand name commands =>
    "argument command: invalid choice: " ++ Text.quoted name ++ " (choose from " ++
      ", ".intercalate (commands.map fun c : String => Text.quoted c) ++ ")"

inductive Mark
  | operand
  | separator
  | option (s : Switch) (name : RawText) (value : Option RawText)
  | unknown

structure Item where
  text : RawText
  mark : Mark

def named (switches : List Switch) : List (RawText × Switch) :=
  switches.flatMap fun s => s.names.map fun n => (n, s)

def switch? (switches : List Switch) (name : RawText) : Option Switch :=
  ((named switches).find? (·.1 == name)).map Prod.snd

def splitValue (argument : RawText) : RawText × Option RawText :=
  match argument.points.dropWhile (· != Point.char '=') with
  | _ :: value => (⟨argument.points.takeWhile (· != Point.char '=')⟩, some ⟨value⟩)
  | [] => (argument, none)

/-- The options that an argument may stand for, with the values it holds for them. A long option may
be shortened, and a short one may hold its value in the same argument. -/
def candidates (switches : List Switch) (argument : RawText) :
    List (Switch × RawText × Option RawText) :=
  match argument.points with
  | .char '-' :: .char '-' :: _ =>
    let parts := splitValue argument
    (named switches).filterMap fun (name, s) =>
      if parts.1.points.isPrefixOf name.points then some (s, name, parts.2) else none
  | ps =>
    (named switches).filterMap fun (name, s) =>
      if name.points = ps.take 2 then some (s, name, some ⟨ps.drop 2⟩)
      else if ps.isPrefixOf name.points then some (s, name, none)
      else none

def isDigit : Point → Bool
  | .char c => (Text.digitValue? c).isSome
  | .surrogate _ => false

def isNegativeNumber (argument : RawText) : Bool :=
  let ps := match argument.points.reverse with
    | .char '\n' :: front => front.reverse
    | _ => argument.points
  match ps with
  | .char '-' :: ps =>
    match ps.dropWhile isDigit with
    | [] => !ps.isEmpty
    | .char '.' :: fraction => !fraction.isEmpty && fraction.all isDigit
    | _ => false
  | _ => false

def markOther (switches : List Switch) (argument : RawText) : Except UsageFault Mark :=
  match candidates switches argument with
  | [(s, name, value)] => .ok (.option s name value)
  | [] =>
    if isNegativeNumber argument || argument.points.contains ' ' then .ok .operand
    else .ok .unknown
  | several => .error (.ambiguous argument (several.map (·.2.1)))

def mark (switches : List Switch) (argument : RawText) : Except UsageFault Mark :=
  match argument.points with
  | .char '-' :: _ :: _ =>
    match switch? switches argument, splitValue argument with
    | some s, _ => .ok (.option s argument none)
    | none, (front, some value) =>
      match switch? switches front with
      | some s => .ok (.option s front (some value))
      | none => markOther switches argument
    | none, _ => markOther switches argument
  | _ => .ok .operand

/-- Behind this argument all are operands. -/
def separator : RawText := "--"

def items (switches : List Switch) : List RawText → Except UsageFault (List Item)
  | [] => .ok []
  | a :: rest =>
    if a = separator then .ok (⟨a, .separator⟩ :: rest.map fun a => ⟨a, .operand⟩)
    else do
      let m ← mark switches a
      return ⟨a, m⟩ :: (← items switches rest)

abbrev Given := Switch × Option RawText

def single (s : Switch) (rest : List Item) : Except UsageFault (List Given × List Item) :=
  if s.takesValue then
    match rest with
    | ⟨text, .operand⟩ :: rest => .ok ([(s, some text)], rest)
    | _ => .error (.valueExpected s)
  else .ok ([(s, none)], rest)

/-- The options that an argument gives by a name and what it holds behind the name. Behind a short
option without a value stand further short options; what is none counts as an argument of its
own. -/
def clustered (switches : List Switch) (s : Switch) (short : Bool) :
    List Point → List Item → Except UsageFault (List Given × List Item)
  | value, rest =>
    if s.takesValue then .ok ([(s, some ⟨value⟩)], rest)
    else
      match short, value with
      | true, p :: more =>
        match switch? switches ⟨['-', p]⟩, more with
        | none, _ => .ok ([(s, none)], ⟨⟨'-' :: value⟩, .unknown⟩ :: rest)
        | some next, [] => do
          let (given, rest) ← single next rest
          return ((s, none) :: given, rest)
        | some next, more => do
          let (given, rest) ← clustered switches next short more rest
          return ((s, none) :: given, rest)
      | _, _ => .error (.valueIgnored s ⟨value⟩)

/-- The options that an argument gives, and the arguments behind them. -/
def given (switches : List Switch) (s : Switch) (name : RawText) (value : Option RawText)
    (rest : List Item) : Except UsageFault (List Given × List Item) :=
  match value with
  | some v => clustered switches s (!separator.points.isPrefixOf name.points) v.points rest
  | none => single s rest

inductive Stop
  | fault (cause : UsageFault)
  | help
  | version

def checkGiven : List Given → Except Stop Unit
  | [] => .ok ()
  | (s, _) :: rest =>
    match s.effect with
    | .help => .error .help
    | .version => .error .version
    | _ => checkGiven rest

def isOption (i : Item) : Bool :=
  match i.mark with
  | .option .. => true
  | .unknown => true
  | _ => false

def isSeparator (i : Item) : Bool :=
  match i.mark with
  | .separator => true
  | _ => false

/-- Fills up to `n` places from a run of operands; what is left is not used. -/
def fillPlaces : Nat → List Item → List RawText × List Item
  | 0, run => ([], run)
  | n + 1, run =>
    match run.dropWhile isSeparator with
    | i :: rest =>
      let (found, left) := fillPlaces n (rest.dropWhile isSeparator)
      (i.text :: found, left)
    | [] => ([], run)

structure Reading where
  options : List Given
  operands : List RawText
  unused : List RawText

def read (switches : List Switch) (fuel places : Nat) (arguments : List Item) :
    Except Stop Reading :=
  match fuel, arguments with
  | 0, _ => .ok ⟨[], [], []⟩
  | _, [] => .ok ⟨[], [], []⟩
  | fuel + 1, ⟨text, .unknown⟩ :: rest => do
    let r ← read switches fuel places rest
    return { r with unused := text :: r.unused }
  | fuel + 1, ⟨_, .option s name value⟩ :: rest => do
    let (found, rest) ← (given switches s name value rest).mapError .fault
    checkGiven found
    let r ← read switches fuel places rest
    return { r with options := found ++ r.options }
  | fuel + 1, arguments => do
    let run := arguments.takeWhile (!isOption ·)
    let (found, left) := fillPlaces places run
    let r ← read switches fuel (places - found.length) (arguments.dropWhile (!isOption ·))
    return ⟨r.options, found ++ r.operands, left.map (·.text) ++ r.unused⟩

end SparqlCompose.CommandLine
