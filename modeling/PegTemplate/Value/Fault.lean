import PegTemplate.Grammar.Basic
import PegTemplate.Value.Shown

/-!
# What goes wrong in an action

* `SystemError` : why the system does not open a file;
* `NameFault` : a name in the code of a block has no value;
* `Fault` : why an action ends without a value;
* `Fault.kind`, `Fault.message` : the class of a fault and its report;
* `Fault.name?` : the name that a fault is about.
-/

namespace PegTemplate

/-! ## Errors of the system -/

/-- Why the system does not open a file. -/
structure SystemError where
  number : Nat
  reason : String
  deriving DecidableEq, Inhabited

namespace SystemError

/-- There is nothing under a path. -/
def missing : SystemError := ⟨2, "No such file or directory"⟩

/-- A part of a path that is not the last is no directory. -/
def throughFile : SystemError := ⟨20, "Not a directory"⟩

/-- There is a directory under a path. -/
def directory : SystemError := ⟨21, "Is a directory"⟩

/-- The class of an error. -/
def kind (e : SystemError) : String :=
  match e.number with
  | 1 | 13 => "PermissionError"
  | 2 => "FileNotFoundError"
  | 3 => "ProcessLookupError"
  | 4 => "InterruptedError"
  | 10 => "ChildProcessError"
  | 11 | 114 | 115 => "BlockingIOError"
  | 17 => "FileExistsError"
  | 20 => "NotADirectoryError"
  | 21 => "IsADirectoryError"
  | 32 | 108 => "BrokenPipeError"
  | 103 => "ConnectionAbortedError"
  | 104 => "ConnectionResetError"
  | 110 => "TimeoutError"
  | 111 => "ConnectionRefusedError"
  | _ => "OSError"

/-- The report of an error that is about a path. -/
def message (e : SystemError) (path : String) : String :=
  "[Errno " ++ toString e.number ++ "] " ++ e.reason ++ ": " ++ quoteString path

end SystemError

/-- The classes of errors of the system. -/
def systemErrorKinds : List String :=
  ["OSError", "BlockingIOError", "BrokenPipeError", "ChildProcessError", "ConnectionAbortedError", "ConnectionError",
   "ConnectionRefusedError", "ConnectionResetError", "FileExistsError", "FileNotFoundError", "InterruptedError",
   "IsADirectoryError", "NotADirectoryError", "PermissionError", "ProcessLookupError", "TimeoutError"]

/-! ## Faults -/

/-- A name has no value. -/
inductive NameFault where
  /-- Nothing is known by the name. -/
  | undefined (name : String)
  /-- The name is assigned somewhere in the block, but not yet. -/
  | unassigned (name : String)
  deriving DecidableEq, Inhabited

namespace NameFault

/-- The report of a name without a value. -/
def message : NameFault → String
  | undefined n => "name '" ++ n ++ "' is not defined"
  | unassigned n =>
    "cannot access local variable '" ++ n ++ "' where it is not associated with a value"

/-- Only an unknown name is kept with its report. -/
def name? : NameFault → Option String
  | undefined n => some n
  | unassigned _ => none

end NameFault

/-- Why an action ends without a value. -/
inductive Fault where
  /-- An error of the host's own. -/
  | foreign (kind message : String)
  /-- A failure to bind names that the host reports itself. -/
  | binding (message : String) (name : Option String)
  /-- The code of a block uses a name that has no value. -/
  | unresolved (block : Block) (cause : NameFault)
  /-- A block would pass a name on that is no label of its rule. -/
  | forwarded (block : Block) (name : String)
  | notCallable (type : String)
  | notIterable (type : String)
  /-- The arguments of `callee`, or of no call in particular, are spread from what has no members. -/
  | notSpreadable (callee : Option String) (type : String)
  | badOperands (sign left right : String)
  | badConcatenation (left right : String)
  | badRepetition (type : String)
  | sumOfTexts
  | unhashable (type : String)
  | noLength (type : String)
  | notUnpackable (type : String)
  | tooFewValues (expected found : Nat)
  | tooManyValues (expected : Nat)
  | noAttribute (type name : String)
  | notSubscriptable (type : String)
  | outOfRange (type : String)
  | invalidInteger (text : String)
  | notNumeric (type : String)
  | divisionByZero
  /-- The system does not open the file of a path. -/
  | unopened (error : SystemError) (path : String)
  /-- A call does not fit the parameters of what it calls. -/
  | badCall (message : String)
  | readOnlyAssignment
  | readOnlyDeletion
  | missingKey (key : Value)
  deriving BEq, Inhabited

namespace Fault

/-- The class of a fault. -/
def kind : Fault → String
  | foreign k _ => k
  | binding .. | unresolved .. | forwarded .. => "RuntimeBindingError"
  | tooFewValues .. | tooManyValues _ | invalidInteger _ => "ValueError"
  | noAttribute .. => "AttributeError"
  | outOfRange _ => "IndexError"
  | divisionByZero => "ZeroDivisionError"
  | unopened e _ => e.kind
  | missingKey _ => "KeyError"
  | _ => "TypeError"

/-- Labels in a report. -/
def labelsText : List String → String
  | [] => "no labels"
  | ls => commaSeparated ls

/-- The report of a fault. -/
def message : Fault → String
  | foreign _ m | binding m _ | badCall m => m
  | unresolved b cause =>
    "action block #" ++ toString b.index ++ " references " ++ quoteString (cause.name?.getD "a name")
      ++ " which is neither a label of its rule (" ++ labelsText b.labels ++ ") nor a context name: "
      ++ cause.message
  | forwarded b n =>
    "action block #" ++ toString b.index ++ " forwards " ++ quoteString n
      ++ " which is not a label of its rule (" ++ labelsText b.labels ++ ")"
  | notCallable t => "'" ++ t ++ "' object is not callable"
  | notIterable t => "'" ++ t ++ "' object is not iterable"
  | notSpreadable (some callee) t => callee ++ " argument after * must be an iterable, not " ++ t
  | notSpreadable none t => "Value after * must be an iterable, not " ++ t
  | badOperands sign l r => "unsupported operand type(s) for " ++ sign ++ ": '" ++ l ++ "' and '" ++ r ++ "'"
  | badConcatenation l r => "can only concatenate " ++ l ++ " (not \"" ++ r ++ "\") to " ++ l
  | badRepetition t => "can't multiply sequence by non-int of type '" ++ t ++ "'"
  | sumOfTexts => "sum() can't sum strings [use ''.join(seq) instead]"
  | unhashable t => "unhashable type: '" ++ t ++ "'"
  | noLength t => "object of type '" ++ t ++ "' has no len()"
  | notUnpackable t => "cannot unpack non-iterable " ++ t ++ " object"
  | tooFewValues n k =>
    "not enough values to unpack (expected " ++ toString n ++ ", got " ++ toString k ++ ")"
  | tooManyValues n => "too many values to unpack (expected " ++ toString n ++ ")"
  | noAttribute t n => "'" ++ t ++ "' object has no attribute '" ++ n ++ "'"
  | notSubscriptable t => "'" ++ t ++ "' object is not subscriptable"
  | outOfRange t => t ++ " index out of range"
  | invalidInteger s => "invalid literal for int() with base 10: " ++ quoteString s
  | notNumeric t => "int() argument must be a string, a bytes-like object or a real number, not '" ++ t ++ "'"
  | divisionByZero => "integer division or modulo by zero"
  | unopened e path => e.message path
  | readOnlyAssignment => "'mappingproxy' object does not support item assignment"
  | readOnlyDeletion => "'mappingproxy' object does not support item deletion"
  | missingKey k => k.shown

/-- The name that a failure to bind names is about. -/
def name? : Fault → Option String
  | binding _ n => n
  | unresolved _ cause => cause.name?
  | forwarded _ n => some n
  | _ => none

end Fault

end PegTemplate
