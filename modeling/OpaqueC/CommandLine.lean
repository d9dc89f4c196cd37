/-!
# Command lines

The arguments of the program are read from left to right: switches of the program, the name
of a command, and switches of the command. A switch is written in full behind two dashes,
with its value behind an equals sign or as the next argument, or as a letter behind one
dash, where letters may be combined and a value may follow directly.

## Main definitions

* `Command`: what the program can do;
* `Invocation`: what the arguments ask for;
* `Invocation.ofArguments`: the arguments read.
-/

namespace OpaqueC

/-- The commands of the program. -/
inductive CommandName
  /-- Write the files of classes. -/
  | generate
  /-- Check the catalog. -/
  | check
  /-- List the catalog. -/
  | list
  deriving DecidableEq, Repr

/-- The command of a given name. -/
def CommandName.ofText? : String → Option CommandName
  | "generate" => some .generate
  | "check" => some .check
  | "list" => some .list
  | _ => none

/-- The switches of the program and of its commands. -/
inductive Switch
  /-- More messages. -/
  | verbose
  /-- Show the version. -/
  | version
  /-- Show help. -/
  | help
  /-- The configuration file. -/
  | config
  /-- The output directory. -/
  | output
  /-- A class to work on. -/
  | onlyClass
  /-- Write nothing. -/
  | dryRun
  deriving DecidableEq, Repr

namespace Switch

/-- The full name of a switch. -/
def long : Switch → String
  | verbose => "verbose"
  | version => "version"
  | help => "help"
  | config => "config"
  | output => "output"
  | onlyClass => "class"
  | dryRun => "dry-run"

/-- The letter of a switch. -/
def short? : Switch → Option Char
  | verbose => some 'v'
  | version => some 'V'
  | help => some 'h'
  | config => some 'c'
  | output => some 'o'
  | onlyClass | dryRun => none

/-- Whether a switch has a value. -/
def takesValue : Switch → Bool
  | config | output | onlyClass => true
  | verbose | version | help | dryRun => false

/-- Whether a switch may be given more than once. -/
def isRepeatable : Switch → Bool
  | verbose | onlyClass => true
  | version | help | config | output | dryRun => false

/-- Whether a switch takes the given value: a path must not be empty. -/
def accepts (s : Switch) (value : String) : Bool :=
  match s with
  | config | output => !value.isEmpty
  | _ => true

/-- The switches of a command, or of the program before any command. -/
def available : Option CommandName → List Switch
  | none => [verbose, version, help]
  | some .generate => [verbose, help, config, output, onlyClass, dryRun]
  | some .check => [verbose, help, config]
  | some .list => [verbose, help, onlyClass]

end Switch

/-- A command with its switches. -/
inductive Command
  /-- Write the files of classes, or show them in a dry run. -/
  | generate (configPath? output? : Option String) (classes : List String) (dryRun : Bool)
  /-- Check the catalog. -/
  | check (configPath? : Option String)
  /-- List the catalog. -/
  | list (classes : List String)
  deriving DecidableEq, Repr

/-- What the arguments ask for. -/
inductive Invocation
  /-- Run a command. -/
  | run (command : Command)
  /-- Show the version. -/
  | version
  /-- Show help. -/
  | help
  /-- The arguments make no sense. -/
  | misuse
  deriving DecidableEq, Repr

/-- The arguments read so far. -/
structure Arguments where
  /-- The command, once it has been named. -/
  command? : Option CommandName := none
  /-- The switches given, with their values; that of a switch without value is empty. -/
  given : List (Switch × String) := []
  deriving DecidableEq, Repr

namespace Arguments

/-- The switch with a full name. -/
def long? (a : Arguments) (name : String) : Option Switch :=
  (Switch.available a.command?).find? (·.long == name)

/-- The switch with a letter. -/
def short? (a : Arguments) (letter : Char) : Option Switch :=
  (Switch.available a.command?).find? (·.short? == some letter)

/-- Whether a switch has been given. -/
def has (a : Arguments) (s : Switch) : Bool :=
  a.given.any (·.1 == s)

/-- The values given for a switch, in order. -/
def values (a : Arguments) (s : Switch) : List String :=
  (a.given.filter (·.1 == s)).map (·.2)

/-- One more switch. Version and help end the reading. -/
def give (a : Arguments) (s : Switch) (value : String) : Except Invocation Arguments :=
  match s with
  | .version => .error .version
  | .help => .error .help
  | s =>
    if (a.has s && !s.isRepeatable) || !s.accepts value then .error .misuse
    else .ok { a with given := a.given ++ [(s, value)] }

/-- What the arguments ask for at their end. -/
def finish (a : Arguments) : Invocation :=
  match a.command? with
  | none => .misuse
  | some .generate =>
    .run (.generate (a.values .config).head? (a.values .output).head? (a.values .onlyClass)
      (a.has .dryRun))
  | some .check => .run (.check (a.values .config).head?)
  | some .list => .run (.list (a.values .onlyClass))

/-- Read the letters of an argument behind its dash. A letter whose switch has a value is
the last one: what follows it, after an equals sign if there is one, is the value, and if
nothing does the switch still waits for it. -/
def letters (a : Arguments) : List Char → Except Invocation (Arguments × Option Switch)
  | [] => .ok (a, none)
  | c :: rest =>
    match a.short? c with
    | none => .error .misuse
    | some s =>
      if s.takesValue then
        match rest with
        | [] => .ok (a, some s)
        | '=' :: value => (a.give s (String.ofList value)).map (·, none)
        | value => (a.give s (String.ofList value)).map (·, none)
      else
        match a.give s "" with
        | .error e => .error e
        | .ok a => a.letters rest

/-- Read an argument behind its two dashes. -/
def full (a : Arguments) (text : List Char) : Except Invocation (Arguments × Option Switch) :=
  let name := text.takeWhile (· != '=')
  match a.long? (String.ofList name), text.dropWhile (· != '=') with
  | none, _ => .error .misuse
  | some s, [] =>
    if s.takesValue then .ok (a, some s) else (a.give s "").map (·, none)
  | some s, _ :: value =>
    if s.takesValue then (a.give s (String.ofList value)).map (·, none)
    else .error .misuse

/-- Read the name of a command. -/
def name (a : Arguments) (text : String) : Except Invocation (Arguments × Option Switch) :=
  match a.command?, CommandName.ofText? text with
  | none, some command => .ok ({ a with command? := some command }, none)
  | _, _ => .error .misuse

/-- Help on what the arguments behind the word `help` name: the program, a command, or help
itself. -/
def helpOn : List String → Invocation
  | [] => .help
  | [topic] => if topic == "help" || (CommandName.ofText? topic).isSome then .help else .misuse
  | _ => .misuse

/-- Read one argument that is not a value. -/
def argument (a : Arguments) (text : String) : Except Invocation (Arguments × Option Switch) :=
  match text.toList with
  | '-' :: '-' :: rest => a.full rest
  | '-' :: c :: rest => a.letters (c :: rest)
  | _ => a.name text

/-- Whether an argument can be the value of a switch: it does not look like a switch. -/
def isValue (text : String) : Bool :=
  text == "-" || text.toList.head? != some '-'

/-- Read arguments while the switch `waiting?` may wait for its value. Behind two dashes
alone nothing may follow. -/
def read (a : Arguments) (waiting? : Option Switch) : List String → Invocation
  | [] => if waiting?.isSome then .misuse else a.finish
  | text :: rest =>
    match waiting? with
    | some s =>
      -- A switch never takes another switch as its value.
      if isValue text then
        match a.give s text with
        | .error invocation => invocation
        | .ok a => a.read none rest
      else .misuse
    | none =>
      if text == "--" then if rest.isEmpty then a.finish else .misuse
      else if text == "help" && a.command?.isNone then helpOn rest
      else
        match a.argument text with
        | .error invocation => invocation
        | .ok (a, waiting?) => a.read waiting? rest

end Arguments

/-- What the arguments of the program ask for. -/
def Invocation.ofArguments (arguments : List String) : Invocation :=
  Arguments.read {} none arguments

example : Invocation.ofArguments ["generate", "-vo=out", "--class=A", "--class", "B"] =
    .run (.generate none (some "out") ["A", "B"] false) := by decide +kernel

example : Invocation.ofArguments ["-v", "help", "list"] = .help ∧
    Invocation.ofArguments ["help", "lists"] = .misuse ∧
    Invocation.ofArguments ["list", "help"] = .misuse := by decide +kernel

end OpaqueC
