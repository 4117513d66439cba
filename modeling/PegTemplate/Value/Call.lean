import PegTemplate.Value.Operator

/-!
# Calls

* `Host` : how the host runs its own actions;
* `Value.call` : calls a value;
* `Value.member?` : what a value holds under a name.
-/

namespace PegTemplate

/-- How the host runs the action of a number, on arguments by place and by name. -/
structure Host (σ : Type) where
  run : (id : Nat) → (arguments : List Value) → (keywords : List (String × Value)) → EStateM Fault σ Value

/-! ## Builtin functions -/

/-- A number of arguments, with the verb that follows it. -/
def countText (n : Nat) : String := toString n ++ if n = 1 then " was" else " were"

/-- Calls a function without parameters. -/
def callNullary (name : String) (result : Value) (args : List Value) (keywords : List (String × Value)) :
    Except Fault Value :=
  match args, keywords with
  | [], [] => .ok result
  | _, (k, _) :: _ => .error (.badCall (name ++ "() got an unexpected keyword argument '" ++ k ++ "'"))
  | args, [] =>
    .error (.badCall (name ++ "() takes 0 positional arguments but " ++ countText args.length ++ " given"))

/-- Calls a builtin function of one argument. -/
def callUnary (name : String) (f : Value → Except Fault Value) (args : List Value)
    (keywords : List (String × Value)) : Except Fault Value :=
  match args, keywords with
  | _, _ :: _ => .error (.badCall (name ++ "() takes no keyword arguments"))
  | [a], [] => f a
  | args, [] =>
    .error (.badCall (name ++ "() takes exactly one argument (" ++ toString args.length ++ " given)"))

/-- The first keyword that is not among `known`. -/
def unknownKeyword? (known : List String) (keywords : List (String × Value)) : Option String :=
  (keywords.find? fun k => !known.contains k.1).map (·.1)

/-- The fault of a keyword that a function does not know. -/
def invalidKeyword (keyword name : String) : Fault :=
  .badCall ("'" ++ keyword ++ "' is an invalid keyword argument for " ++ name ++ "()")

/-- Calls the class of whole numbers. -/
def callInt (args : List Value) (keywords : List (String × Value)) : Except Fault Value :=
  match args, unknownKeyword? ["base"] keywords with
  | _, some k => .error (invalidKeyword k "int")
  | [], none => .ok (.int 0)
  | [v], none => v.toInteger.map .int
  | _, none => .error (.badCall "int() can't convert non-string with explicit base")

/-- A value as a text. -/
def Value.asText : Value → String
  | text s => s
  | v => v.shown

/-- Calls the class of texts. -/
def callStr (args : List Value) (keywords : List (String × Value)) : Except Fault Value :=
  match args, keywords with
  | [], [] => .ok (.text "")
  | [v], [] => .ok (.text v.asText)
  | [], [("object", v)] => .ok (.text v.asText)
  | args, keywords => match unknownKeyword? ["object", "encoding", "errors"] keywords with
    | some k => .error (invalidKeyword k "str")
    | none => .error (.badCall ("str() argument 'encoding' must be str, not "
        ++ ((args.getD 1 .none).typeName)))

/-- Calls the sum of a collection. -/
def callSum (args : List Value) (keywords : List (String × Value)) : Except Fault Value :=
  match args, keywords with
  | [v], [] => v.sum (.int 0)
  | [v, start], [] | [v], [("start", start)] => v.sum start
  | [], _ => .error (.badCall "sum() takes at least 1 positional argument (0 given)")
  | args, keywords =>
    let given := args.length + keywords.length
    if 2 < given then .error (.badCall ("sum() takes at most 2 arguments (" ++ toString given ++ " given)"))
    else match unknownKeyword? ["start"] keywords with
      | some k => .error (invalidKeyword k "sum")
      | none => .error (.badCall "argument for sum() given by name and position")

/-- Opens a file. There is never one under the empty path, and no other path is opened here. -/
def callOpen (args : List Value) (keywords : List (String × Value)) : Except Fault Value :=
  match args, keywords with
  | [.text ""], [] => .error (.unopened .missing "")
  | [.text _], [] => .error (.badCall "open() can't be called here")
  | [v], [] => .error (.badCall ("expected str, bytes or os.PathLike object, not " ++ v.typeName))
  | [], [] => .error (.badCall "open() missing required argument 'file' (pos 1)")
  | _, _ => .error (.badCall "open() can't be called here")

/-! ## Contexts -/

/-- The parameters of the class of contexts. -/
def contextFields : List String := ["text", "location", "options"]

/-- Words in a report. -/
def joinWords : List String → String
  | [] => ""
  | [a] => a
  | [a, b] => a ++ " and " ++ b
  | as => commaSeparated as.dropLast ++ ", and " ++ as.getLastD ""

/-- Options as a context keeps them: a view as it is, and a copy of a dictionary. -/
def optionsView : Value → Except Fault (List (Value × Value))
  | .dict es | .view es => .ok es
  | v => .error (.notIterable v.typeName)

/-- Makes a context from arguments by place and by name. -/
def callContext (args : List Value) (keywords : List (String × Value)) : Except Fault Value :=
  let name := "ActionContext.__init__()"
  let placed := contextFields.zip args
  match unknownKeyword? contextFields keywords, keywords.find? fun k => placed.any (·.1 == k.1) with
  | some k, _ => .error (.badCall (name ++ " got an unexpected keyword argument '" ++ k ++ "'"))
  | none, some k => .error (.badCall (name ++ " got multiple values for argument '" ++ k.1 ++ "'"))
  | none, none =>
    if 3 < args.length then
      .error (.badCall (name ++ " takes 4 positional arguments but " ++ countText (args.length + 1) ++ " given"))
    else
      let given := placed ++ keywords
      match given.lookup "text", given.lookup "location", given.lookup "options" with
      | some t, some l, some o => (optionsView o).map (.context t l ·)
      | _, _, _ =>
        let missing := contextFields.filter fun f => (given.lookup f).isNone
        .error (.badCall (name ++ " missing " ++ toString missing.length ++ " required positional argument"
          ++ (if missing.length = 1 then "" else "s") ++ ": "
          ++ joinWords (missing.map fun f => "'" ++ f ++ "'")))

/-! ## Options -/

/-- Looks a key up in a table; the value of a key that is missing may be given. -/
def callGetter (entries : List (Value × Value)) (args : List Value) (keywords : List (String × Value)) :
    Except Fault Value :=
  let get (k default : Value) : Except Fault Value :=
    k.asKey.map fun k => (lookupEntry entries k).getD default
  match args, keywords with
  | _, _ :: _ => .error (.badCall "dict.get() takes no keyword arguments")
  | [k], [] => get k .none
  | [k, default], [] => get k default
  | [], [] => .error (.badCall "get expected at least 1 argument, got 0")
  | args, [] => .error (.badCall ("get expected at most 2 arguments, got " ++ toString args.length))

/-! ## Any value -/

namespace Value

/-- How a function is named when its arguments are wrong. -/
def calleeText : Value → String
  | builtin b => b.name ++ "()"
  | getter _ => "get()"
  | matchedText _ => "Packrat._run_action.<locals>.matched_text()"
  | matchedLocation _ => "Packrat._run_action.<locals>.matched_location()"
  | v => v.asText

/-- Calls a value that is no action of the host. -/
def callPlain (f : Value) (args : List Value) (keywords : List (String × Value)) : Except Fault Value :=
  match f with
  | matchedText s => callNullary "Packrat._run_action.<locals>.matched_text" (text s) args keywords
  | matchedLocation l =>
    callNullary "Packrat._run_action.<locals>.matched_location" (location l) args keywords
  | builtin .int => callInt args keywords
  | builtin .str => callStr args keywords
  | builtin .len => callUnary "len" (fun v => v.length.map fun n => int n) args keywords
  | builtin .repr => callUnary "repr" (fun v => .ok (text v.shown)) args keywords
  | builtin .sum => callSum args keywords
  | builtin .openFile => callOpen args keywords
  | builtin .context => callContext args keywords
  | builtin b => .error (.badCall (b.name ++ "() can't be called here"))
  | getter es => callGetter es args keywords
  | f => .error (.notCallable f.typeName)

/-- A computation without effects. -/
def lift {σ α : Type} : Except Fault α → EStateM Fault σ α
  | .ok a => pure a
  | .error e => throw e

/-- Calls a value. -/
def call {σ : Type} (host : Host σ) (f : Value) (args : List Value) (keywords : List (String × Value)) :
    EStateM Fault σ Value :=
  match f with
  | callable id _ => host.run id args keywords
  | f => lift (f.callPlain args keywords)

/-- What a value holds under a name. -/
def member? (v : Value) (name : String) : Option Value :=
  match v with
  | location l => if name = "start" then some (position l.start)
    else if name = "end" then some (position l.stop) else Option.none
  | position p => if name = "offset" then some (int p.offset)
    else if name = "line" then some (int p.line)
    else if name = "column" then some (int p.column) else Option.none
  | dict es | view es => if name = "get" then some (getter es) else Option.none
  | context t l o => if name = "text" then some t
    else if name = "location" then some l
    else if name = "options" then some (view o) else Option.none
  | _ => Option.none

/-- What a value holds under a name. -/
def member (v : Value) (name : String) : Except Fault Value :=
  match v.member? name with
  | some a => .ok a
  | Option.none => .error (.noAttribute v.typeName name)

end Value

end PegTemplate
