import Mathlib.Data.List.TakeDrop
import PegTemplate.Command.Arguments

/-!
# Requests written as command lines

* `Flag.withValue`, `Request.arguments` : a command line for a request;
* `Argument.read_withValue` : what a long flag with a value after an equals sign is read as;
* `readCommandLine_arguments` : **every request can be written, whatever texts and paths it has.**
-/

namespace PegTemplate

/-! ## Flags with values -/

/-- A long flag with its value after an equals sign. -/
def Flag.withValue (f : Flag) (v : String) : String := "--" ++ f.long ++ "=" ++ v

theorem Flag.toList_withValue (f : Flag) (v : String) :
    (f.withValue v).toList = '-' :: '-' :: (f.long.toList ++ '=' :: v.toList) := by
  simp only [withValue, String.toList_append, List.append_assoc]
  rfl

/-- No name of a flag has an equals sign in it. -/
theorem Flag.equals_notMem_long (f : Flag) : '=' ∉ f.long.toList := by
  cases f with
  | help => decide
  | debug => decide
  | text => decide
  | input => decide
  | startRule => decide

theorem splitEquals_withValue (f : Flag) (v : List Char) :
    splitEquals ('-' :: '-' :: (f.long.toList ++ '=' :: v)) = ('-' :: '-' :: f.long.toList, some ⟨true, v⟩) := by
  have hname : ∀ c ∈ '-' :: '-' :: f.long.toList, (c != '=') = true := by
    intro c hc
    refine bne_iff_ne.mpr ?_
    rintro rfl
    rcases List.mem_cons.mp hc with h | h
    · cases h
    · rcases List.mem_cons.mp h with h | h
      · cases h
      · exact f.equals_notMem_long h
  have hspan : ('-' :: '-' :: (f.long.toList ++ '=' :: v)).span (· != '=') =
      ('-' :: '-' :: f.long.toList, '=' :: v) := by
    rw [List.span_eq_takeWhile_dropWhile, ← List.cons_append, ← List.cons_append, List.takeWhile_append_of_pos hname,
      List.dropWhile_append_of_pos hname]
    simp
  rw [splitEquals, hspan]

/-- A text with an equals sign in it is no flag that is written out alone. -/
theorem exactFlag?_withValue (flags : List Flag) (f : Flag) (v : List Char) :
    exactFlag? flags ('-' :: '-' :: (f.long.toList ++ '=' :: v)) = none := by
  have hlong : flags.find? (·.long.toList == f.long.toList ++ '=' :: v) = none := by
    refine List.find?_eq_none.mpr fun g _ hg => g.equals_notMem_long ?_
    rw [eq_of_beq hg]
    simp
  rw [exactFlag?, hlong]
  · rfl
  · intro hc
    simp at hc

theorem exactFlag?_long {f : Flag} (hf : f ∈ Command.parse.flags) :
    exactFlag? Command.parse.flags ('-' :: '-' :: f.long.toList) = some (f, true) := by
  cases f with
  | help => decide
  | debug => decide
  | text => decide
  | input => decide
  | startRule => decide

/-- **A long flag with a value after an equals sign is read as that**, whatever the value is. -/
theorem Argument.read_withValue {f : Flag} (hf : f ∈ Command.parse.flags) (v : String) :
    Argument.read Command.parse.flags (f.withValue v) = .flag f true (some ⟨true, v.toList⟩) := by
  rw [Argument.read, f.toList_withValue, splitEquals_withValue, exactFlag?_withValue]
  dsimp only
  rw [exactFlag?_long hf]
  simp

/-! ## Command lines -/

/-- The flag for reports, if there are to be any. -/
def debugArguments (debug : Bool) : List String := if debug then ["-D"] else []

/-- The argument for the text that is to be parsed. -/
def TextSource.argument : TextSource → String
  | given t => Flag.text.withValue t
  | file path => Flag.input.withValue path

/-- A command line for a request. Values stand after equals signs and the path of the grammar after two dashes, so that
nothing in them is taken for a flag. -/
def Request.arguments : Request → List String
  | check file debug => "check" :: (debugArguments debug ++ ["--", file])
  | parse file source start debug =>
    "parse" :: source.argument ::
      ((start.map Flag.startRule.withValue).toList ++ (debugArguments debug ++ ["--", file]))

theorem withValue_ne_dashes (f : Flag) (v : String) : f.withValue v ≠ "--" := by
  intro h
  have hlist := congrArg String.toList h
  rw [f.toList_withValue] at hlist
  simp at hlist

theorem readArguments_withValue {f : Flag} (hf : f ∈ Command.parse.flags) (v : String) (args : List String) :
    readArguments Command.parse.flags (f.withValue v :: args) =
      .flag f true (some ⟨true, v.toList⟩) :: readArguments Command.parse.flags args := by
  rw [readArguments, if_neg (withValue_ne_dashes f v), Argument.read_withValue hf]

theorem readArguments_debug (command : Command) (debug : Bool) (file : String) :
    readArguments command.flags (debugArguments debug ++ ["--", file]) =
      (if debug then [.flag .debug false none] else []) ++ [.dashes, .value file] := by
  cases debug with
  | false => rfl
  | true =>
    have hread : Argument.read command.flags "-D" = .flag .debug false none := by
      cases command with
      | check => decide
      | parse => decide
    rw [debugArguments, if_pos rfl, if_pos rfl, List.singleton_append, readArguments, if_neg (by decide), hread]
    rfl

/-- What is read at the end of a command line: the flag for reports, and the path of the grammar. -/
theorem readAll_debug (command : Command) {c : Chosen} (hfile : c.file = none) (hdebug : c.debug = false) (debug : Bool)
    (file : String) :
    c.readAll command ((if debug then [.flag .debug false none] else []) ++ [.dashes, .value file]) =
      ({ c with debug := debug, file := some file } : Chosen).request command := by
  have hpath (c : Chosen) (hfile : c.file = none) :
      c.readAll command [.dashes, .value file] = ({ c with file := some file } : Chosen).request command := by
    rw [Chosen.readAll, if_pos (Option.isNone_iff_eq_none.mpr hfile), Chosen.readAll]
  cases debug with
  | false =>
    rw [if_neg Bool.false_ne_true, List.nil_append, hpath c hfile, ← hdebug]
  | true =>
    have hset : c.setPlain [.debug] false = .ok { c with debug := true } := by
      simp [Chosen.setPlain]
    rw [if_pos rfl, List.singleton_append, Chosen.readAll, if_neg (by decide), plainFlags?]
    · simp only [hset]
      exact hpath _ hfile
    · exact nofun

theorem readAll_withValue {command : Command} {c c' : Chosen} {f : Flag} {v : String} (hf : f.takesValue = true)
    (hc : c.set f v = .ok c') (as : List Argument) :
    c.readAll command (.flag f true (some ⟨true, v.toList⟩) :: as) = c'.readAll command as := by
  rw [Chosen.readAll, if_pos hf, String.ofList_toList]
  simp only [hc]
  rfl

/-- Arguments among which none is ambiguous are read one after the other. -/
theorem readCommand_eq {command : Command} {args : List String} {as : List Argument}
    (h : readArguments command.flags args = as) (has : .ambiguous ∉ as) :
    readCommand command false args = Chosen.nothing.readAll command as := by
  rw [readCommand, h, if_neg (fun hc => has (List.contains_iff_mem.mp hc))]
  rfl

theorem readCommandLine_command {name : String} {command : Command} (hname : Argument.read [.help] name = .value name)
    (hcommand : Command.ofName? name = some command) (args : List String) (hdashes : name ≠ "--") :
    readCommandLine false (name :: args) = readCommand command false args := by
  rw [readCommandLine, if_neg hdashes, hname]
  simp only [hcommand]

/-- The flag for a rule to start from, if there is one. -/
def startArguments (start : Option String) : List Argument :=
  (start.map fun r => .flag .startRule true (some ⟨true, r.toList⟩)).toList

theorem readArguments_start (start : Option String) (debug : Bool) (file : String) :
    readArguments Command.parse.flags
        ((start.map Flag.startRule.withValue).toList ++ (debugArguments debug ++ ["--", file])) =
      startArguments start ++ ((if debug then [.flag .debug false none] else []) ++ [.dashes, .value file]) := by
  cases start with
  | none => exact readArguments_debug .parse debug file
  | some rule =>
    rw [Option.map_some, Option.toList_some, List.singleton_append, readArguments_withValue (by decide),
      readArguments_debug .parse]
    rfl

theorem readAll_start {c : Chosen} (hfile : c.file = none) (hdebug : c.debug = false) (hstart : c.startRule = none)
    (start : Option String) (debug : Bool) (file : String) :
    c.readAll .parse
        (startArguments start ++ ((if debug then [.flag .debug false none] else []) ++ [.dashes, .value file])) =
      ({ c with startRule := start, debug := debug, file := some file } : Chosen).request .parse := by
  cases start with
  | none =>
    rw [startArguments, Option.map_none, Option.toList_none, List.nil_append, readAll_debug .parse hfile hdebug, ← hstart]
  | some rule =>
    have hset : c.set .startRule rule = .ok { c with startRule := some rule } := rfl
    rw [startArguments, Option.map_some, Option.toList_some, List.singleton_append, readAll_withValue rfl hset]
    exact @readAll_debug .parse { c with startRule := some rule } hfile hdebug debug file

/-- What is read of a flag with a value, perhaps a rule to start from, the flag for reports and the path of the
grammar. -/
theorem readCommand_parse {f : Flag} {v : String} {c : Chosen} (hf : f ∈ Command.parse.flags)
    (htakes : f.takesValue = true) (hset : Chosen.nothing.set f v = .ok c) (hfile : c.file = none)
    (hdebug : c.debug = false) (hstart : c.startRule = none) (start : Option String) (debug : Bool) (file : String) :
    readCommand .parse false (f.withValue v ::
        ((start.map Flag.startRule.withValue).toList ++ (debugArguments debug ++ ["--", file]))) =
      ({ c with startRule := start, debug := debug, file := some file } : Chosen).request .parse := by
  have hread := readArguments_withValue hf v
    ((start.map Flag.startRule.withValue).toList ++ (debugArguments debug ++ ["--", file]))
  rw [readArguments_start] at hread
  have hclear : Argument.ambiguous ∉ startArguments start ++
      ((if debug then [.flag .debug false none] else []) ++ [.dashes, .value file]) := by
    cases start <;> cases debug <;> simp [startArguments]
  rw [readCommand_eq hread (List.not_mem_cons_of_ne_of_not_mem nofun hclear), readAll_withValue htakes hset,
    readAll_start hfile hdebug hstart]

/-- **Every request can be written as a command line**, whatever texts and paths it has. -/
theorem readCommandLine_arguments (r : Request) : readCommandLine false r.arguments = .ok r := by
  cases r with
  | check file debug =>
    rw [Request.arguments, readCommandLine_command (by decide) rfl _ (by decide),
      readCommand_eq (readArguments_debug .check debug file) (by cases debug <;> simp), readAll_debug .check rfl rfl]
    rfl
  | parse file source start debug =>
    rw [Request.arguments, readCommandLine_command (by decide) rfl _ (by decide)]
    cases source with
    | given t =>
      rw [TextSource.argument, readCommand_parse (by decide) rfl rfl rfl rfl rfl]
      rfl
    | file path =>
      rw [TextSource.argument, readCommand_parse (by decide) rfl rfl rfl rfl rfl]
      rfl

end PegTemplate
