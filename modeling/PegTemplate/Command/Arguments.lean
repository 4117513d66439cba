import PegTemplate.Value.Operator

/-!
# Arguments of the command line

* `Command`, `Flag` : what can be asked for, and the flags that each command knows;
* `Argument.read` : what one argument is. A long flag may be shortened as far as it stays unambiguous, and
  its value may follow an equals sign;
* `Request` : what a command line asks for;
* `readCommandLine` : the request of a command line, or how it ends without one.
-/

namespace PegTemplate
open Unicode

/-- What can be done with a grammar. -/
inductive Command where
  | check
  | parse
  deriving DecidableEq, Inhabited

/-- The command of a name. -/
def Command.ofName? (name : String) : Option Command :=
  if name = "check" then some .check else if name = "parse" then some .parse else none

/-- A flag. -/
inductive Flag where
  | help
  | debug
  | text
  | input
  | startRule
  deriving DecidableEq, Inhabited

namespace Flag

/-- The long form of a flag, without its dashes. -/
def long : Flag → String
  | help => "help"
  | debug => "debug"
  | text => "text"
  | input => "input"
  | startRule => "start-rule"

/-- The short form of a flag, without its dash. -/
def short? : Flag → Option Char
  | help => some 'h'
  | debug => some 'D'
  | text | input | startRule => none

/-- The flag takes a value. -/
def takesValue : Flag → Bool
  | text | input | startRule => true
  | help | debug => false

end Flag

/-- The flags that a command knows. -/
def Command.flags : Command → List Flag
  | check => [.help, .debug]
  | parse => [.help, .text, .input, .startRule, .debug]

/-! ## Single arguments -/

/-- What is attached to a flag: a text, perhaps after an equals sign. -/
structure Attached where
  equals : Bool
  text : List Char
  deriving DecidableEq, Inhabited

/-- What an argument is. -/
inductive Argument where
  | value (s : String)
  /-- Two dashes, after which there are only values. -/
  | dashes
  | flag (f : Flag) (long : Bool) (attached : Option Attached)
  | unknown
  /-- A shortened flag that may be one of several. -/
  | ambiguous
  deriving DecidableEq, Inhabited

/-- Two parts of a text, if it holds an equals sign. -/
def splitEquals (s : List Char) : List Char × Option Attached :=
  match s.span (· != '=') with
  | (name, _ :: rest) => (name, some ⟨true, rest⟩)
  | (name, []) => (name, none)

/-- The flag of exactly that spelling. -/
def exactFlag? (flags : List Flag) (s : List Char) : Option (Flag × Bool) :=
  match s with
  | ['-', c] => (flags.find? (·.short? == some c)).map fun f => (f, false)
  | '-' :: '-' :: name => (flags.find? (·.long.toList == name)).map fun f => (f, true)
  | _ => none

/-- The readings of an argument as a shortened flag, or as a short flag with more attached to it. -/
def looseFlags (flags : List Flag) (s : List Char) : List Argument :=
  match s with
  | '-' :: '-' :: rest =>
    let (name, attached) := splitEquals rest
    (flags.filter fun f => name.isPrefixOf f.long.toList).map fun f => .flag f true attached
  | '-' :: c :: rest =>
    (flags.filter fun f => f.short? == some c).map fun f => .flag f false (some ⟨false, rest⟩)
  | _ => []

/-- A line feed at the very end is not looked at. -/
def dropLineFeed (s : List Char) : List Char := if s.getLast? = some '\n' then s.dropLast else s

/-- Digits of any script. -/
def areDigits (s : List Char) : Bool := s.all fun c => (digitValue? c.toNat).isSome

/-- A negative number, which is a value and no flag. -/
def isNegativeNumber (s : List Char) : Bool :=
  match dropLineFeed s with
  | '-' :: cs => match cs.span (· != '.') with
    | (whole, _ :: fraction) => areDigits whole && !fraction.isEmpty && areDigits fraction
    | (whole, []) => !whole.isEmpty && areDigits whole
  | _ => false

/-- What an argument is, where these flags are known. -/
def Argument.read (flags : List Flag) (arg : String) : Argument :=
  let s := arg.toList
  if s.head? != some '-' then .value arg
  else match exactFlag? flags s with
    | some (f, long) => .flag f long none
    | none =>
      if s.length = 1 then .value arg
      else match splitEquals s, exactFlag? flags (splitEquals s).1 with
        | (_, some attached), some (f, long) => .flag f long (some attached)
        | _, _ => match looseFlags flags s with
          | _ :: _ :: _ => .ambiguous
          | [a] => a
          | [] => if isNegativeNumber s || s.contains ' ' then .value arg else .unknown

/-- What arguments are. -/
def readArguments (flags : List Flag) : List String → List Argument
  | [] => []
  | a :: as =>
    if a = "--" then .dashes :: as.map .value else Argument.read flags a :: readArguments flags as

/-! ## Flags -/

/-- Short flags that are attached to one another, and whether one of them is unknown. There are none if
something is attached to a flag that takes no value. -/
def attachedFlags? (flags : List Flag) (equals : Bool) : List Char → Option (List Flag × Bool)
  | [] => none
  | c :: cs =>
    if equals || c == '-' then none
    else match flags.find? (·.short? == some c) with
      | none => some ([], true)
      | some g => match cs with
        | [] => some ([g], false)
        | '=' :: _ => none
        | cs => (attachedFlags? flags false cs).map fun r => (g :: r.1, r.2)

/-- The flags of an argument that take no value, and whether one of them is unknown. -/
def plainFlags? (flags : List Flag) (f : Flag) (long : Bool) : Option Attached → Option (List Flag × Bool)
  | none => some ([f], false)
  | some a =>
    if long then none else (attachedFlags? flags a.equals a.text).map fun r => (f :: r.1, r.2)

/-! ## Requests -/

/-- What has been chosen so far. -/
structure Chosen where
  file : Option String
  text : Option String
  input : Option String
  startRule : Option String
  debug : Bool
  /-- There was something that nothing asked for. -/
  surplus : Bool
  deriving DecidableEq, Inhabited

/-- Nothing has been chosen. -/
def Chosen.nothing : Chosen := ⟨none, none, none, none, false, false⟩

/-- Where the text to be parsed comes from. -/
inductive TextSource where
  | given (text : String)
  | file (path : String)
  deriving DecidableEq, Inhabited

/-- What a command line asks for. -/
inductive Request where
  | check (file : String) (debug : Bool)
  | parse (file : String) (source : TextSource) (startRule : Option String) (debug : Bool)
  deriving DecidableEq, Inhabited

/-- The exit code of a command line that asks for help, and of one that is wrong. -/
inductive Usage where
  | help
  | wrong
  deriving DecidableEq, Inhabited

/-- The exit code of a command line that asks for nothing else. -/
def Usage.exitCode : Usage → Nat
  | help => 0
  | wrong => 2

/-- Gives a flag its value. A text and an input exclude each other. -/
def Chosen.set (c : Chosen) (f : Flag) (v : String) : Except Usage Chosen :=
  match f with
  | .text => if c.input.isSome then .error .wrong else .ok { c with text := some v }
  | .input => if c.text.isSome then .error .wrong else .ok { c with input := some v }
  | .startRule => .ok { c with startRule := some v }
  | .help | .debug => .error .wrong

/-- Sets flags that take no value. -/
def Chosen.setPlain (c : Chosen) (fs : List Flag) (surplus : Bool) : Except Usage Chosen :=
  if fs.contains .help then .error .help
  else .ok { c with debug := c.debug || fs.contains .debug, surplus := c.surplus || surplus }

/-- The request of a command, from what has been chosen. -/
def Chosen.request (c : Chosen) (command : Command) : Except Usage Request :=
  match c.surplus, c.file, command, c.text, c.input with
  | false, some file, .check, _, _ => .ok (.check file c.debug)
  | false, some file, .parse, some t, _ => .ok (.parse file (.given t) c.startRule c.debug)
  | false, some file, .parse, none, some path => .ok (.parse file (.file path) c.startRule c.debug)
  | _, _, _, _, _ => .error .wrong

/-- Reads the arguments of a command. -/
def Chosen.readAll (command : Command) (c : Chosen) : List Argument → Except Usage Request
  | [] => c.request command
  | .ambiguous :: _ => .error .wrong
  | .unknown :: as => readAll command { c with surplus := true } as
  | .value s :: .dashes :: as =>
    if c.file.isNone then readAll command { c with file := some s } as
    else readAll command { c with surplus := true } as
  | .value s :: as =>
    if c.file.isNone then readAll command { c with file := some s } as
    else readAll command { c with surplus := true } as
  | .dashes :: .value s :: as =>
    if c.file.isNone then readAll command { c with file := some s } as
    else readAll command { c with surplus := true } as
  | .dashes :: as => readAll command { c with surplus := true } as
  | .flag f long attached :: as =>
    if f.takesValue then
      match attached, as with
      | some a, as => do readAll command (← c.set f (String.ofList a.text)) as
      | none, .value v :: as => do readAll command (← c.set f v) as
      | none, _ => .error .wrong
    else match plainFlags? command.flags f long attached with
      | none => .error .wrong
      | some (fs, surplus) => do readAll command (← c.setPlain fs surplus) as

/-- The request of the arguments of a command. -/
def readCommand (command : Command) (surplus : Bool) (args : List String) : Except Usage Request :=
  let as := readArguments command.flags args
  if as.contains .ambiguous then .error .wrong
  else { Chosen.nothing with surplus := surplus }.readAll command as

/-- The request of a command line. `surplus` says that there was something before that nothing asked for. -/
def readCommandLine (surplus : Bool) : List String → Except Usage Request
  | [] => .error .wrong
  | a :: as =>
    if a = "--" then .error .wrong
    else match Argument.read [.help] a with
      | .value s => match Command.ofName? s with
        | some c => readCommand c surplus as
        | none => .error .wrong
      | .unknown => readCommandLine true as
      | .flag f long attached => match plainFlags? [.help] f long attached with
        | some _ => .error .help
        | none => .error .wrong
      | .dashes | .ambiguous => .error .wrong

end PegTemplate
