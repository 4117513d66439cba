import PegTemplate.Command.Run
import PegTemplate.Proofs.Command.Spelled
import PegTemplate.Proofs.Parser.Safe

/-!
# Commands do what the library does

* `withLineFeeds`, `compileText` : a text with one kind of line ends, and what the library compiles it to;
* `Trouble.outcome_of_mem`, `Trouble.outcome_of_notMem` : what becomes of a trouble is told by its class;
* `Files.Holds`, `Files.Refuses` : what there is under a path, and that it cannot be opened;
* `Parser.Tells` : how parsing ends as a command, told by how it ends in the library;
* `Request.Agrees`, `request_agrees` : **whatever is asked for on the command line ends as the library says.**
-/

namespace PegTemplate

/-! ## Line ends -/

/-- Puts a line feed in the place of each carriage return that has one behind it. -/
def joinPairs : List Char → List Char
  | [] => []
  | '\r' :: '\n' :: cs => '\n' :: joinPairs cs
  | c :: cs => c :: joinPairs cs

/-- A text with line feeds in the place of carriage returns: first of those with a line feed behind them, then of the
others. -/
def withLineFeeds (s : String) : String :=
  String.ofList ((joinPairs s.toList).map fun c => if c = '\r' then '\n' else c)

theorem unifyLineEnds_eq (cs : List Char) :
    unifyLineEnds cs = (joinPairs cs).map fun c => if c = '\r' then '\n' else c := by
  -- not by the recursion of `unifyLineEnds`: a carriage return alone is no case of the first replacement
  fun_induction joinPairs cs with
  | case1 => rfl
  | case2 cs ih =>
    rw [unifyLineEnds, ih, List.map_cons]
    rfl
  | case3 c cs hpair ih =>
    rw [List.map_cons, ← ih]
    by_cases hc : c = '\r'
    · rw [if_pos hc, hc, unifyLineEnds]
      exact fun ds hds => hpair ds hc hds
    · rw [if_neg hc, unifyLineEnds]
      · exact hpair
      · exact hc

/-! ## Troubles -/

/-- The command has ended with that exit code and has printed `output`, whatever it has reported besides. -/
def Outcome.Ends (o : Outcome) (exitCode : Nat) (output : String) : Prop := ∃ errors, o = .ended exitCode output errors

/-- The classes of errors after which a command ends with an exit code. -/
def handledKinds : List String :=
  "GrammarSyntaxError" :: "InputSyntaxError" :: "RuntimeBindingError" :: systemErrorKinds

theorem SystemError.kind_mem (e : SystemError) : e.kind ∈ handledKinds := by
  unfold SystemError.kind
  split <;> decide

namespace Trouble
variable {t : Trouble}

/-- A trouble of one of these classes ends a command with exit code 2, and nothing is printed. -/
theorem outcome_of_mem (h : t.kind ∈ handledKinds) (errors : String) : (t.outcome errors).Ends 2 "" := by
  unfold outcome
  split_ifs with hgrammar hinput hbinding
  · exact ⟨_, rfl⟩
  · exact ⟨_, rfl⟩
  · exact ⟨_, rfl⟩
  · simp [handledKinds, hgrammar, hinput] at h
    simp [h] at hbinding

/-- A trouble of another class ends in its error. -/
theorem outcome_of_notMem (h : t.kind ∉ handledKinds) (errors : String) :
    t.outcome errors = .escaped t.kind t.message "" errors := by
  simp only [handledKinds, List.mem_cons, not_or] at h
  obtain ⟨hgrammar, hinput, hbinding, hsystem⟩ := h
  rw [outcome, if_neg hgrammar, if_neg hinput, if_neg (by simp [hbinding, hsystem])]

end Trouble

/-! ## Files -/

namespace Files

/-- There is a text under a path. Standard input, which has a path of its own, still holds `stdin`. -/
inductive Holds (files : Files) (stdin : String) : String → String → Prop
  | input : Holds files stdin inputPath stdin
  | file {path text : String} (hpath : path ≠ inputPath) (hnul : '\x00' ∉ path.toList)
    (h : files.openPath (normalPath path) = .text text) : Holds files stdin path text

/-- The system does not open what is under a path. -/
inductive Refuses (files : Files) : String → Prop
  | file {path : String} {e : SystemError} (hpath : path ≠ inputPath) (hnul : '\x00' ∉ path.toList)
    (h : files.openPath (normalPath path) = .refused e) : Refuses files path

variable {files : Files} {stdin path text : String}

theorem Holds.load (h : files.Holds stdin path text) : files.load stdin path = .ok (withLineFeeds text) := by
  have hunified (s : String) : String.ofList (unifyLineEnds s.toList) = withLineFeeds s := by
    rw [withLineFeeds, unifyLineEnds_eq]
  cases h with
  | input =>
    rw [Files.load, if_pos rfl]
    exact congrArg Except.ok (hunified stdin)
  | file hpath hnul hopen =>
    rw [Files.load, if_neg hpath, if_neg (by simpa using hnul), hopen]
    exact congrArg Except.ok (hunified text)

theorem Refuses.load (h : files.Refuses path) (stdin : String) :
    ∃ t, files.load stdin path = .error t ∧ t.kind ∈ handledKinds := by
  cases h with
  | @file e hpath hnul hopen =>
    refine ⟨.refused e (normalPath path), ?_, e.kind_mem⟩
    rw [Files.load, if_neg hpath, if_neg (by simpa using hnul), hopen]

end Files

/-! ## Commands -/

/-- What the library compiles the text of a grammar to, without a context, if parsing is to start from a rule or no
rule is given. The empty name is no rule. -/
def compileText (source : String) (start : Option String) : Except GrammarError Parser :=
  Parser.compile (withLineFeeds source) [] (start.filter (· ≠ "")).toList true

/-- What `check` prints of a grammar. -/
def Parser.checked (p : Parser) : String :=
  "[CHECK OK] rules=" ++ toString p.grammar.rules.length ++ " actions=" ++ toString p.grammar.blocks.length
    ++ " start=" ++ (p.grammar.rules.map Rule.name).headD "" ++ "\n"

/-- How a command ends that parses a text, told by how parsing ends in the library: with the value, with a mismatch, or
with what an action block raised. -/
inductive Parser.Tells (p : Parser) (text : String) : Outcome → Prop
  | value {v : Value} {o : Outcome} (h : p.parse emptyHost text [] none () = .ok v ())
    (ho : o.Ends 0 (v.shown ++ "\n")) : Tells p text o
  | mismatch {e : InputError} {o : Outcome} (h : p.parse emptyHost text [] none () = .error (.mismatch e) ())
    (ho : o.Ends 2 "") : Tells p text o
  | handled {f : Fault} {o : Outcome} (h : p.parse emptyHost text [] none () = .error (.halted (.raised f)) ())
    (hraises : p.Raises emptyHost text.toList [] f) (hf : f.kind ∈ handledKinds) (ho : o.Ends 2 "") : Tells p text o
  | escaped {f : Fault} {errors : String}
    (h : p.parse emptyHost text [] none () = .error (.halted (.raised f)) ())
    (hraises : p.Raises emptyHost text.toList [] f) (hf : f.kind ∉ handledKinds) :
    Tells p text (.escaped f.kind f.message "" errors)

/-- How `check` ends, told by the library. -/
structure Files.CheckAgrees (files : Files) (path : String) (o : Outcome) : Prop where
  refused : files.Refuses path → o.Ends 2 ""
  invalid : ∀ source e, files.Holds files.standardInput path source → compileText source none = .error e → o.Ends 2 ""
  valid : ∀ source p, files.Holds files.standardInput path source → compileText source none = .ok p → o.Ends 0 p.checked

/-- The text to be parsed: one that is given is taken as it is, one that is read has line feeds. What is read from
standard input is empty if the grammar was read from it. -/
inductive Files.Gives (files : Files) (grammarPath : String) : TextSource → String → Prop
  | given (text : String) : Gives files grammarPath (.given text) text
  | file {path text : String} (h : files.Holds (files.inputAfter grammarPath) path text) :
    Gives files grammarPath (.file path) (withLineFeeds text)

/-- How `parse` ends, told by the library. -/
structure Files.ParseAgrees (files : Files) (path : String) (input : TextSource) (start : Option String)
    (o : Outcome) : Prop where
  refused : files.Refuses path → o.Ends 2 ""
  invalid : ∀ source e, files.Holds files.standardInput path source → compileText source start = .error e → o.Ends 2 ""
  inputRefused : ∀ source p inputPath, files.Holds files.standardInput path source → compileText source start = .ok p →
    input = .file inputPath → files.Refuses inputPath → o.Ends 2 ""
  parsed : ∀ source p text, files.Holds files.standardInput path source → compileText source start = .ok p →
    files.Gives path input text → p.Tells text o

/-- How a request ends, told by the library. -/
def Request.Agrees (files : Files) : Request → Outcome → Prop
  | .check path _, o => files.CheckAgrees path o
  | .parse path input start _, o => files.ParseAgrees path input start o

/-! ## Compilation -/

theorem allowedStart_eq (start : Option String) : allowedStart start = (start.filter (· ≠ "")).toList := by
  cases start with
  | none => rfl
  | some r =>
    rw [allowedStart, Option.filter_some]
    by_cases hr : r = ""
    · simp [hr]
    · simp [hr]

section
variable {files : Files} {path source : String}

theorem Files.Refuses.compile (h : files.Refuses path) (allowed : List String) :
    ∃ t, files.compile path allowed = .error t ∧ t.kind ∈ handledKinds := by
  obtain ⟨t, hload, ht⟩ := h.load files.standardInput
  refine ⟨t, ?_, ht⟩
  rw [Files.compile, hload]
  rfl

theorem Files.Holds.compile_error (h : files.Holds files.standardInput path source) {start : Option String}
    {e : GrammarError} (he : compileText source start = .error e) :
    files.compile path (allowedStart start) = .error (.grammar e) := by
  rw [compileText, ← allowedStart_eq] at he
  rw [Files.compile, h.load]
  simp only [bind, Except.bind, he]
  rfl

theorem Files.Holds.compile_ok (h : files.Holds files.standardInput path source) {start : Option String} {p : Parser}
    (hp : compileText source start = .ok p) : files.compile path (allowedStart start) = .ok p := by
  rw [compileText, ← allowedStart_eq] at hp
  rw [Files.compile, h.load]
  simp only [bind, Except.bind, hp]
  rfl

end

theorem Parser.checked_eq {source : String} {start : Option String} {p : Parser} (h : compileText source start = .ok p) :
    p.checked = "[CHECK OK] " ++ p.summary p.grammar.start ++ "\n" := by
  have hstart : (p.grammar.rules.map Rule.name).headD "" = p.grammar.start := by
    cases hg : Grammar.read (withLineFeeds source) with
    | error e =>
      rw [compileText, Parser.compile, hg] at h
      cases h
    | ok g =>
      obtain ⟨hgrammar, -, -⟩ := Parser.compile_eq hg h
      rw [List.headD_eq_head?_getD, List.head?_map, hgrammar, (Grammar.read_formed hg).start]
      rfl
  unfold checked summary
  rw [hstart]
  simp only [← String.append_assoc, String.reduceAppend]

/-- What a parser comes to that was compiled without a context is what the command makes of it. -/
theorem Parser.tells {source : String} {start : Option String} {p : Parser} (h : compileText source start = .ok p)
    (text errors : String) :
    p.Tells text (match p.valueOf text with
      | .error t => t.outcome errors
      | .ok v => .ended 0 (v.shown ++ "\n") errors) := by
  have hends := (Parser.compile_linked h).ends emptyHost text [] none ()
  rw [Parser.valueOf]
  generalize hx : p.parse emptyHost text [] none () = x at hends ⊢
  cases hends with
  | value _ v _ => exact .value hx ⟨errors, rfl⟩
  | mismatch _ e _ =>
    have ht : (Trouble.failure (.mismatch e)).kind ∈ handledKinds := List.mem_cons_of_mem _ List.mem_cons_self
    exact .mismatch hx (Trouble.outcome_of_mem ht errors)
  | raised _ f hf _ =>
    have ht : (Trouble.failure (.halted (.raised f))).kind = f.kind := rfl
    by_cases hkind : f.kind ∈ handledKinds
    · exact .handled hx hf hkind (Trouble.outcome_of_mem (ht ▸ hkind) errors)
    · dsimp only
      rw [Trouble.outcome_of_notMem (ht ▸ hkind)]
      exact .escaped hx hf hkind
  -- no rule is asked for, so none can be disallowed
  | disallowed _ hs => cases hs

theorem runCheck_agrees (files : Files) (path : String) (debug : Bool) :
    files.CheckAgrees path (runCheck files path debug) where
  refused h := by
    obtain ⟨t, ht, hkind⟩ := h.compile []
    rw [runCheck, ht]
    exact Trouble.outcome_of_mem hkind ""
  invalid source e hsource he := by
    rw [runCheck, show files.compile path [] = .error (.grammar e) from hsource.compile_error he]
    exact Trouble.outcome_of_mem List.mem_cons_self ""
  valid source p hsource hp := by
    rw [runCheck, show files.compile path [] = .ok p from hsource.compile_ok hp, Parser.checked_eq hp]
    exact ⟨_, rfl⟩

theorem runParse_agrees (files : Files) (path : String) (input : TextSource) (start : Option String) (debug : Bool) :
    files.ParseAgrees path input start (runParse files path input start debug) where
  refused h := by
    obtain ⟨t, ht, hkind⟩ := h.compile (allowedStart start)
    rw [runParse, ht]
    exact Trouble.outcome_of_mem hkind ""
  invalid source e hsource he := by
    rw [runParse, hsource.compile_error he]
    exact Trouble.outcome_of_mem List.mem_cons_self ""
  inputRefused source p inputPath hsource hp hinput h := by
    obtain ⟨t, ht, hkind⟩ := h.load (files.inputAfter path)
    have hload : files.source path input = .error t := by rw [hinput, Files.source, ht]
    rw [runParse, hsource.compile_ok hp]
    simp only [hload]
    exact Trouble.outcome_of_mem hkind _
  parsed source p text hsource hp hgives := by
    have hload : files.source path input = .ok text := by
      cases hgives with
      | given => rfl
      | file h => exact h.load
    have hvalue : files.source path input >>= p.valueOf = p.valueOf text := by
      rw [hload]
      rfl
    rw [runParse, hsource.compile_ok hp]
    simp only [hvalue]
    exact Parser.tells hp text _

/-- **Commands do what the library does.** A request can be written as a command line; and every command line for it
ends as the library says: with exit code 2 and nothing printed if the grammar cannot be opened or is refused; `check`
with the numbers of rules and actions and the first rule; `parse` with the value as it is written, with exit code 2 and
nothing printed if the text cannot be opened or does not match, and else as it becomes of what an action block raised:
errors that the commands handle end with exit code 2, and all others escape as they are. -/
theorem request_agrees (files : Files) (r : Request) :
    readCommandLine false r.arguments = .ok r ∧
      ∀ args, readCommandLine false args = .ok r → ∃ o, runCommandLine files args = .ok o ∧ r.Agrees files o := by
  refine ⟨readCommandLine_arguments r, fun args hargs => ⟨runRequest files r, ?_, ?_⟩⟩
  · rw [runCommandLine, hargs]
    rfl
  · cases r with
    | check path debug => exact runCheck_agrees files path debug
    | parse path input start debug => exact runParse_agrees files path input start debug

/-! ## Examples -/

/-- There is one file, under the path `g`. -/
def oneFile (text : String) : Files := ⟨fun path => if path = "g" then .text text else .refused .missing, ""⟩

theorem oneFile_holds (text : String) : (oneFile text).Holds "" "g" text := .file (by decide) (by decide) rfl

/-- A parse that ends with a value, as it is written. -/
def shownValue? : EStateM.Result ParseFailure Unit Value → Option String
  | .ok v _ => some v.shown
  | .error _ _ => none

/-- A grammar in which each line ends with a carriage return and a line feed. -/
def returnedLines : String := "s = n:'x'\r\n  \x7b return n \x7d\r\n"

theorem returnedLines_agrees :
    ∃ o, runCommandLine (oneFile returnedLines) ["parse", "g", "--text", "x"] = .ok o ∧ o.Ends 0 "'x'\n" := by
  obtain ⟨o, ho, hagrees⟩ :=
    (request_agrees (oneFile returnedLines) (.parse "g" (.given "x") none false)).2 ["parse", "g", "--text", "x"] rfl
  refine ⟨o, ho, ?_⟩
  have hshown : (compileText returnedLines none).toOption.bind
      (fun p => shownValue? (p.parse emptyHost "x" [] none ())) = some "'x'" := by
    decide +kernel
  cases hp : compileText returnedLines none with
  | error e =>
    rw [hp] at hshown
    cases hshown
  | ok p =>
    rw [hp] at hshown
    change shownValue? (p.parse emptyHost "x" [] none ()) = some "'x'" at hshown
    cases hagrees.parsed returnedLines p "x" (oneFile_holds returnedLines) hp (.given "x") with
    | value h hends =>
      rw [h] at hshown
      rwa [Option.some.inj hshown] at hends
    | mismatch h =>
      rw [h] at hshown
      cases hshown
    | handled h =>
      rw [h] at hshown
      cases hshown
    | escaped h =>
      rw [h] at hshown
      cases hshown

/-- The file that was not opened by what a parse ran. -/
def unopened? : EStateM.Result ParseFailure Unit Value → Option (SystemError × String)
  | .error (.halted (.raised (.unopened e path))) _ => some (e, path)
  | _ => none

theorem eq_of_unopened? {x : EStateM.Result ParseFailure Unit Value} {e : SystemError} {path : String}
    (h : unopened? x = some (e, path)) : x = .error (.halted (.raised (.unopened e path))) () := by
  unfold unopened? at h
  split at h
  · cases h
    rfl
  · cases h

/-- A grammar whose action opens a file that there is not. -/
def openingSource : String := "s = 'x' \x7b return open('') \x7d\n"

/-- An error of the system that an action block raises is neither a mismatch nor a failure to bind names, and yet it does
not escape: the command ends with exit code 2. -/
theorem openingSource_handled : ∃ p f, compileText openingSource none = .ok p ∧
    p.parse emptyHost "x" [] none () = .error (.halted (.raised f)) () ∧
    f.kind = "FileNotFoundError" ∧ f.kind ∉ ["InputSyntaxError", "RuntimeBindingError"] ∧
    runCommandLine (oneFile openingSource) ["parse", "g", "--text", "x"] =
      .ok (.ended 2 "" ("[ERROR] FileNotFoundError " ++ f.message ++ "\n")) ∧
    ∀ output errors, runCommandLine (oneFile openingSource) ["parse", "g", "--text", "x"] ≠
      .ok (.escaped f.kind f.message output errors) := by
  have hunopened : (compileText openingSource none).toOption.bind
      (fun p => unopened? (p.parse emptyHost "x" [] none ())) = some (.missing, "") := by
    decide +kernel
  cases hp : compileText openingSource none with
  | error e =>
    rw [hp] at hunopened
    cases hunopened
  | ok p =>
    rw [hp] at hunopened
    have hparse : p.parse emptyHost "x" [] none () = .error (.halted (.raised (.unopened .missing ""))) () :=
      eq_of_unopened? hunopened
    have hrun : runCommandLine (oneFile openingSource) ["parse", "g", "--text", "x"] =
        .ok (.ended 2 "" ("[ERROR] FileNotFoundError " ++ SystemError.missing.message "" ++ "\n")) := by
      decide +kernel
    refine ⟨p, .unopened .missing "", rfl, hparse, rfl, by decide, hrun, fun output errors h => ?_⟩
    rw [hrun] at h
    cases h

end PegTemplate
