import PegTemplate.Value.Shown

/-!
# Signatures

* `Parameter`, `Signature` : what a callable declares, if it declares anything;
* `Parameter.shown` : a parameter as it is written;
* `Signature.positional` : the names of the parameters, if all of them can be bound by their place;
* `SignatureFault` : why they can't be.
-/

namespace PegTemplate

/-- How a parameter is bound. -/
inductive ParameterKind where
  /-- By its place only. -/
  | placed
  /-- By its place or by its name. -/
  | plain
  /-- To all arguments by place that are left. -/
  | variadic
  /-- By its name only. -/
  | named
  /-- To all arguments by name that are left. -/
  | variadicNamed
  deriving DecidableEq, Inhabited

/-- A parameter. -/
structure Parameter where
  name : String
  kind : ParameterKind
  default : Option Value
  deriving BEq, Inhabited

/-- The parameter can be bound by its place to one argument. -/
def Parameter.isPositional (p : Parameter) : Bool :=
  match p.kind with
  | .placed | .plain => true
  | .variadic | .named | .variadicNamed => false

/-- A parameter as it is written. -/
def Parameter.shown (p : Parameter) : String :=
  let stars := match p.kind with
    | .variadic => "*"
    | .variadicNamed => "**"
    | .placed | .plain | .named => ""
  match p.default with
  | none => stars ++ p.name
  | some v => stars ++ p.name ++ "=" ++ v.shown

/-- What a callable declares. -/
inductive Signature where
  | declared (parameters : List Parameter)
  | missing (reason : String)
  deriving BEq, Inhabited

/-- Why no list of parameters by place is known. -/
inductive SignatureFault where
  | unavailable (reason : String)
  | notPositional (parameter : Parameter)
  /-- A parameter that was given with the action is no name. -/
  | notIdentifier (parameter : String)
  deriving BEq, Inhabited

/-- The wording of a fault. -/
def SignatureFault.message : SignatureFault → String
  | unavailable reason => "no signature available (" ++ reason ++ ")"
  | notPositional p => "parameter '" ++ p.shown ++ "' can't be bound positionally to a label"
  | notIdentifier p => "explicit parameter " ++ quoteString p ++ " is not an identifier"

/-- The names of parameters, each of which must be bound by its place. -/
def positionalNames : List Parameter → Except SignatureFault (List String)
  | [] => .ok []
  | p :: ps => if p.isPositional then (positionalNames ps).map (p.name :: ·) else .error (.notPositional p)

/-- The names of the declared parameters, each of which must be bound by its place. -/
def Signature.positional : Signature → Except SignatureFault (List String)
  | declared ps => positionalNames ps
  | missing reason => .error (.unavailable reason)

/-- Parameters that are bound by their place. -/
def placedParameters (names : List String) : Signature :=
  .declared (names.map fun n => ⟨n, .placed, none⟩)

/-- What a builtin declares. -/
def Builtin.signature (b : Builtin) : Signature :=
  match b.name with
  | "len" | "repr" => placedParameters ["obj"]
  | "abs" => placedParameters ["x"]
  | "ord" => placedParameters ["c"]
  | "isinstance" => placedParameters ["obj", "class_or_tuple"]
  | "divmod" => placedParameters ["x", "y"]
  | "sum" => .declared [⟨"iterable", .placed, none⟩, ⟨"start", .plain, some (.int 0)⟩]
  | "sorted" => .declared [⟨"iterable", .placed, none⟩, ⟨"key", .named, some .none⟩,
      ⟨"reverse", .named, some (.bool false)⟩]
  | "print" => .declared [⟨"args", .variadic, none⟩, ⟨"sep", .named, some (.text " ")⟩,
      ⟨"end", .named, some (.text "\n")⟩, ⟨"file", .named, some .none⟩, ⟨"flush", .named, some (.bool false)⟩]
  | "ActionContext" => .declared (["text", "location", "options"].map fun n => ⟨n, .plain, none⟩)
  | _ => .missing ("no signature found for builtin " ++ (if b.isClass then "type " else "") ++ b.shown)

end PegTemplate
