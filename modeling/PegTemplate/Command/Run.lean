import PegTemplate.Command.Arguments
import PegTemplate.Grammar.Shown
import PegTemplate.Parser
import PegTemplate.Text.Decoding

/-!
# What commands do

* `Opened`, `Files` : what there is under a path, and on standard input;
* `unifyLineEnds` : each kind of line end becomes a line feed;
* `Outcome` : the exit code and what is printed, or an error that no command handles;
* `runRequest` : the outcome of a request.

Standard input can be read once; after that it is empty.
-/

namespace PegTemplate

/-! ## Files -/

/-- What there is under a path. -/
inductive Opened where
  | text (s : String)
  | undecodable (fault : DecodeFault)
  | refused (error : SystemError)
  deriving DecidableEq, Inhabited

/-- What can be read. -/
structure Files where
  openPath : String → Opened
  standardInput : String

/-- Carriage returns, and those with a line feed after them, become line feeds. -/
def unifyLineEnds : List Char → List Char
  | [] => []
  | '\r' :: '\n' :: cs => '\n' :: unifyLineEnds cs
  | '\r' :: cs => '\n' :: unifyLineEnds cs
  | c :: cs => c :: unifyLineEnds cs

/-- The parts between slashes. -/
def splitSlashes : List Char → List (List Char)
  | [] => [[]]
  | '/' :: cs => [] :: splitSlashes cs
  | c :: cs => match splitSlashes cs with
    | [] => [[c]]
    | p :: ps => (c :: p) :: ps

/-- The parts of a path that count: neither empty nor a single dot. -/
def pathParts (path : String) : List String :=
  ((splitSlashes path.toList).map String.ofList).filter fun p => p != "" && p != "."

/-- The slashes that a path starts with: three and more are one. -/
def pathRoot (path : String) : String :=
  match path.toList with
  | '/' :: '/' :: '/' :: _ => "/"
  | '/' :: '/' :: _ => "//"
  | '/' :: _ => "/"
  | _ => ""

/-- A path without what does not count. -/
def normalPath (path : String) : String :=
  let p := pathRoot path ++ "/".intercalate (pathParts path)
  if p.isEmpty then "." else p

/-- What keeps a command from its end. -/
inductive Trouble where
  | grammar (error : GrammarError)
  | refused (error : SystemError) (path : String)
  | undecodable (fault : DecodeFault)
  /-- There is a character in a path that no path has. -/
  | unusablePath
  | failure (failure : ParseFailure)
  deriving Inhabited

/-- The path that stands for standard input. -/
def inputPath : String := "-"

/-- The text under a path, with line feeds only. `stdin` is what standard input still holds. -/
def Files.load (files : Files) (stdin path : String) : Except Trouble String :=
  let unified (s : String) : String := String.ofList (unifyLineEnds s.toList)
  if path = inputPath then .ok (unified stdin)
  else if path.toList.contains '\x00' then .error .unusablePath
  else match files.openPath (normalPath path) with
    | .text s => .ok (unified s)
    | .undecodable fault => .error (.undecodable fault)
    | .refused e => .error (.refused e (normalPath path))

/-! ## Outcomes -/

/-- What a command prints, and how it ends. -/
inductive Outcome where
  | ended (exitCode : Nat) (output errors : String)
  /-- An error that no command handles. -/
  | escaped (kind message output errors : String)
  deriving DecidableEq, Inhabited

namespace Trouble

/-- The class of a trouble. -/
def kind : Trouble → String
  | grammar _ => "GrammarSyntaxError"
  | refused e _ => e.kind
  | undecodable _ => "UnicodeDecodeError"
  | unusablePath => "ValueError"
  | failure f => f.kind

/-- The report of a trouble. -/
def message : Trouble → String
  | grammar e => e.message
  | refused e path => e.message path
  | undecodable f => f.message
  | unusablePath => "embedded null byte"
  | failure f => f.message

/-- The outcome of a command that has printed `errors` and then meets `t`. What becomes of it is told by its class. -/
def outcome (errors : String) (t : Trouble) : Outcome :=
  if t.kind = "GrammarSyntaxError" then .ended 2 "" (errors ++ "[SYNTAX ERROR]\n" ++ t.message ++ "\n")
  else if t.kind = "InputSyntaxError" then .ended 2 "" (errors ++ "[PARSE ERROR] " ++ t.message ++ "\n")
  else if t.kind = "RuntimeBindingError" || systemErrorKinds.contains t.kind then
    .ended 2 "" (errors ++ "[ERROR] " ++ t.kind ++ " " ++ t.message ++ "\n")
  else .escaped t.kind t.message "" errors

end Trouble

/-! ## Reports for debugging -/

/-- The numbers of rules and actions, and where parsing starts. -/
def Parser.summary (p : Parser) (start : String) : String :=
  "rules=" ++ toString p.grammar.rules.length ++ " actions=" ++ toString p.grammar.blocks.length
    ++ " start=" ++ start

/-- What is printed of a compiled grammar. -/
def Parser.debugText (p : Parser) : String :=
  "DEBUG:pegtag.peg.runtime:compiled PEG grammar: " ++ p.summary (p.startRule none) ++ "\n"
    ++ "[DEBUG] grammar ready | " ++ p.summary p.grammar.start ++ "\n"

/-- What is printed of the rules. -/
def Parser.rulesText (p : Parser) : String :=
  "\n[Rules]\n" ++ String.join (p.grammar.rules.map fun r => "  " ++ r.name ++ ": " ++ r.body.shown ++ "\n")

/-! ## Commands -/

/-- The host of grammars that are compiled without a context. -/
def emptyHost : Host Unit where
  run _ _ _ := throw (.notCallable "NoneType")

/-- Compiles the grammar under a path. -/
def Files.compile (files : Files) (path : String) (allowed : List String) : Except Trouble Parser := do
  let source ← files.load files.standardInput path
  match Parser.compile source [] allowed true with
  | .ok p => return p
  | .error e => throw (.grammar e)

/-- The outcome of `check`. -/
def runCheck (files : Files) (path : String) (debug : Bool) : Outcome :=
  match files.compile path [] with
  | .error t => t.outcome ""
  | .ok p =>
    .ended 0 ("[CHECK OK] " ++ p.summary p.grammar.start ++ "\n")
      (if debug then p.debugText ++ p.rulesText else "")

/-- What is left of standard input once a path has been read. -/
def Files.inputAfter (files : Files) (path : String) : String :=
  if path = inputPath then "" else files.standardInput

/-- The text that is to be parsed. -/
def Files.source (files : Files) (grammarPath : String) : TextSource → Except Trouble String
  | .given t => .ok t
  | .file path => files.load (files.inputAfter grammarPath) path

/-- The value of a text. -/
def Parser.valueOf (p : Parser) (text : String) : Except Trouble Value :=
  match p.parse emptyHost text [] none () with
  | .ok v _ => .ok v
  | .error e _ => .error (.failure e)

/-- The rules that parsing may start from: the one that is asked for, if its name is not empty. -/
def allowedStart (start : Option String) : List String :=
  match start with
  | some r => if r.isEmpty then [] else [r]
  | none => []

/-- The outcome of `parse`. -/
def runParse (files : Files) (path : String) (source : TextSource) (start : Option String) (debug : Bool) :
    Outcome :=
  match files.compile path (allowedStart start) with
  | .error t => t.outcome ""
  | .ok p =>
    let errors := if debug then p.debugText else ""
    match files.source path source >>= p.valueOf with
    | .error t => t.outcome errors
    | .ok v => .ended 0 (v.shown ++ "\n") errors

/-- The outcome of a request. -/
def runRequest (files : Files) : Request → Outcome
  | .check path debug => runCheck files path debug
  | .parse path source start debug => runParse files path source start debug

/-- The outcome of a command line, or how it ends without a request. -/
def runCommandLine (files : Files) (args : List String) : Except Usage Outcome :=
  (readCommandLine false args).map (runRequest files)

end PegTemplate
