import PegTemplate.Parser
import PegTemplate.Template.Basic

/-!
# From a template to a grammar

* `TemplateError` : why a template makes no grammar;
* `register` : the insertions as actions with names and parameters, and the table of all values that the
  blocks use;
* `ActionEntry.block` : the block that calls an action. It makes the context, if the action takes one;
* `assemble` : texts and blocks, alternating;
* `compileTemplate` : assembles a template and hands it to a compiler.
-/

namespace PegTemplate

/-- Why a template makes no grammar. -/
inductive TemplateError where
  | notCallable (value : Value) (index : Nat)
  | badSignature (value : Value) (fault : SignatureFault)
  | unevenSegments (segments entries : Nat)
  /-- Options were given that only the default compiler knows. -/
  | unusedOptions (names : List String)
  deriving BEq, Inhabited

/-- The report of a template that makes no grammar. -/
def TemplateError.message : TemplateError → String
  | notCallable v i => "Interpolated expression #" ++ toString i ++ " must be callable: " ++ v.shown
  | badSignature v fault => "Couldn't determine parameters of " ++ v.shown ++ ": " ++ fault.message
  | unevenSegments segments entries =>
    "template needs len(actions) + 1 literal segments, got " ++ toString segments ++ " segments for "
      ++ toString entries ++ " actions"
  | unusedOptions names =>
    "compile options " ++ (Value.list (names.map .text)).shown ++ " need the default compiler"

/-! ## Registration -/

/-- An action with its name in the grammar. -/
structure ActionEntry where
  name : String
  value : Value
  parameters : List String
  /-- The parameter that takes the context; empty if there is none. -/
  context : String
  deriving BEq, Inhabited

/-- The name of the class of contexts in a grammar. -/
def contextClass : String := Builtin.context.name

/-- The name of an action in a grammar. -/
def syntheticName (index : Nat) : String := "action" ++ toString index

/-- A given name of a parameter, without the blanks around it. -/
def stripped (s : String) : String := String.ofList (strip s.toList)

/-- Names that are given with an action, each of which must be a name. -/
def givenNames (names : List String) : Except SignatureFault (List String) :=
  match names.find? fun n => !Unicode.isName n.toList with
  | some n => .error (.notIdentifier n)
  | none => .ok names

/-- The parameters of an action: the given ones, or else those that it declares. -/
def Insertion.positional (i : Insertion) : Except SignatureFault (List String) :=
  match i.parameters with
  | some names => givenNames (names.map stripped)
  | none => i.signature.positional

/-- An insertion as action number `index`. -/
def Insertion.entry (i : Insertion) (index : Nat) : Except TemplateError ActionEntry :=
  if i.value.isCallable then
    match i.positional with
    | .ok names => .ok ⟨syntheticName index, i.value, names, names.headD ""⟩
    | .error fault => .error (.badSignature i.value fault)
  else .error (.notCallable i.value index)

/-- Insertions as actions, numbered from `index`. -/
def entriesFrom : (index : Nat) → List Insertion → Except TemplateError (List ActionEntry)
  | _, [] => .ok []
  | index, i :: is => do return (← i.entry index) :: (← entriesFrom (index + 1) is)

/-- The values that the blocks of actions use. -/
def actionTable (entries : List ActionEntry) : List (String × Value) :=
  (contextClass, .builtin .context) :: entries.map fun e => (e.name, e.value)

/-- Insertions as actions, and the values that their blocks use. -/
def register (is : List Insertion) : Except TemplateError (List ActionEntry × List (String × Value)) :=
  (entriesFrom 0 is).map fun es => (es, actionTable es)

/-! ## Assembly -/

/-- The block that calls an action. -/
def ActionEntry.block (e : ActionEntry) : String :=
  if e.context.isEmpty then "\x7b return " ++ e.name ++ "() \x7d"
  else
    "\x7b\n    " ++ e.context ++ " = " ++ contextClass ++ "(text=text, location=location, options=options)\n"
      ++ "    return " ++ e.name ++ "(" ++ ", ".intercalate e.parameters ++ ")\n\x7d"

/-- Each block and the text after it. -/
def interleave : List ActionEntry → List String → String
  | e :: es, s :: ss => e.block ++ s ++ interleave es ss
  | _, _ => ""

/-- The first text, the first block, and so on to the last text. -/
def assemble (segments : List String) (entries : List ActionEntry) : Except TemplateError String :=
  match segments with
  | s :: ss =>
    if ss.length = entries.length then .ok (s ++ interleave entries ss)
    else .error (.unevenSegments segments.length entries.length)
  | [] => .error (.unevenSegments 0 entries.length)

/-- The grammar of a template, and the values that it uses. -/
def assembleTemplate (parts : List Part) : Except TemplateError (String × List (String × Value)) := do
  let (segments, insertions) := split parts
  let (entries, table) ← register insertions
  return (← assemble segments entries, table)

/-! ## Compilation -/

/-- Assembles a template and hands it to a compiler. -/
def compileTemplate {m : Type → Type} [Monad m] {α : Type} (parts : List Part)
    (compiler : String → List (String × Value) → m α) : m (Except TemplateError α) :=
  match assembleTemplate parts with
  | .error e => return .error e
  | .ok (grammar, table) => return .ok (← compiler grammar table)

/-- Options can be given only if the compiler is the default one. -/
def checkOptions (custom : Bool) (given : List String) : Except TemplateError Unit :=
  if custom && !given.isEmpty then .error (.unusedOptions (given.mergeSort)) else .ok ()

end PegTemplate
