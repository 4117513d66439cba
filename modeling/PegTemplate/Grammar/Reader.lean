import PegTemplate.Block.Source
import PegTemplate.Block.Syntax
import PegTemplate.Grammar.Token

/-!
# From tokens to a grammar

* `Read` : what a reader read, the action blocks so far, and the tokens that are left;
* `readChoice`, `readAlternative`, `readSequence`, `readItem`, `readPrefixed`, `readSuffixed`,
  `readPrimary` : one reader for each level of an expression;
* `readRule`, `readRules` : definitions;
* `Grammar.read` : the whole source.

A sequence has no end mark: it ends before what cannot go on with it, and before a name that starts the
next definition.
-/

namespace PegTemplate

/-! ## Reserved labels -/

/-- A label may not be one of the context parameters or a keyword. -/
def isReserved (label : String) : Bool :=
  contextParameters.contains label || keywords.contains label

/-- The first member that occurs before. -/
def firstRepeat? : (seen : List String) → List String → Option String
  | _, [] => none
  | seen, l :: ls => if seen.contains l then some l else firstRepeat? (l :: seen) ls

/-! ## What is next -/

namespace Tokens

/-- The sign that starts a definition is next. A doubled `=` is none. -/
def atDefinition : Tokens → Bool
  | cons _ .arrow _ => true
  | cons _ (.equals doubled) _ => !doubled
  | _ => false

/-- A name, perhaps a display name, and the sign that starts a definition are next. -/
def atRuleHead : Tokens → Except ReadError Bool
  | cons _ (.name _) rest => match rest with
    | halted e => .error e
    | cons _ (.literal ..) rest => match rest with
      | halted e => .error e
      | rest => .ok rest.atDefinition
    | rest => .ok rest.atDefinition
  | _ => .ok false

/-- The mark `c` is next; what follows it. -/
def afterMark? (c : Char) : Tokens → Option Tokens
  | cons _ (.mark d) rest => if d = c then some rest else none
  | _ => none

theorem afterMark?_length {c : Char} {ts rest : Tokens} (h : ts.afterMark? c = some rest) :
    rest.length < ts.length := by
  unfold afterMark? at h
  split at h
  · split at h
    · cases h; simp [length]
    · cases h
  · cases h

/-- The offset of what is next. -/
def offset : Tokens → Nat
  | done p | broken p _ _ | cons p _ _ => p
  | halted e => e.offset

/-- The error that stands before what is next. -/
def halt? : Tokens → Option ReadError
  | halted e => some e
  | _ => none

end Tokens

/-- The marks at which a sequence ends. -/
def endsSequence (c : Char) : Bool := c == ')' || c == '/' || c == '}' || c == ';'

/-! ## Expressions -/

/-- What a reader of `ts` read, the action blocks so far, and the tokens left, which are fewer by at least
`used`. -/
structure Read (α : Type) (ts : Tokens) (used : Nat) where
  value : α
  blocks : List Block
  rest : Tokens
  fewer : rest.length + used ≤ ts.length

/-- The same of more tokens. -/
def Read.mono {α : Type} {ts ts' : Tokens} {used used' : Nat} (r : Read α ts used)
    (h : ts.length + used' ≤ ts'.length + used) : Read α ts' used' :=
  ⟨r.value, r.blocks, r.rest, by have := r.fewer; omega⟩

/-- The same with another value. -/
def Read.map {α β : Type} {ts : Tokens} {used : Nat} (f : α → β) (r : Read α ts used) :
    Read β ts used :=
  ⟨f r.value, r.blocks, r.rest, r.fewer⟩

/-- Whether the next token goes on with a sequence. -/
def continuesSequence (ts : Tokens) : Except ReadError Bool :=
  match ts with
  | .halted e => .error e
  | .done _ => .ok false
  | .broken _ c _ => .ok (c != '{')
  | .cons _ (.block _) _ => .ok false
  | .cons _ (.mark c) _ => .ok (!endsSequence c)
  | .cons .. => ts.atRuleHead.map (!·)

/-- A node from the items of a sequence: one item is not wrapped. -/
def Node.ofItems : List Node → Node
  | [n] => n
  | ns => .sequence ns

/-- A node from alternatives: one alternative is not wrapped. -/
def Node.ofAlternatives : List Node → Node
  | [n] => n
  | ns => .choice ns

/-- The kind of repetition that a mark stands for. -/
def repetition? (c : Char) : Option Repetition :=
  if c = '?' then some .optional
  else if c = '*' then some .star
  else if c = '+' then some .plus
  else none

/-- What a mark in front of an expression makes of it. -/
def operator? (c : Char) : Option (Node → Node) :=
  if c = '&' then some .followedBy
  else if c = '!' then some .notFollowedBy
  else if c = '$' then some .text
  else none

/-- Takes the mark of a repetition, if it is next. -/
def readRepetition {ts : Tokens} (r : Read Node ts 1) : Except ReadError (Read Node ts 1) :=
  match hr : r.rest with
  | .halted e => .error e
  | .cons _ (.mark c) rest => match repetition? c with
    | some kind => .ok ⟨.repeated kind r.value, r.blocks, rest, by
        have := r.fewer
        rw [hr] at this
        simp only [Tokens.length] at this
        omega⟩
    | none => .ok r
  | _ => .ok r

/-- Closes a sequence with the action block that is next, if one is. -/
def readAction {ts : Tokens} (r : Read Node ts 0) : Except ReadError (Read Node ts 0) :=
  match hr : r.rest with
  | .halted e => .error e
  | .broken _ '{' e => .error e
  | .cons p (.block code) rest => match firstRepeat? [] r.value.itemLabels with
    | some l => .error ⟨.duplicateLabel l, p⟩
    | none =>
      let block : Block := ⟨code, r.value.itemLabels, r.blocks.length⟩
      .ok ⟨.action r.value block, r.blocks ++ [block], rest, by
        have := r.fewer
        rw [hr] at this
        simp only [Tokens.length] at this
        omega⟩
  | _ => .ok r

mutual

/-- Alternatives between slashes. -/
def readChoice (blocks : List Block) (ts : Tokens) : Except ReadError (Read Node ts 0) :=
  match readAlternative blocks ts with
  | .error e => .error e
  | .ok first => match readAlternatives first.blocks first.rest with
    | .error e => .error e
    | .ok more =>
      .ok ((more.map fun ns => Node.ofAlternatives (first.value :: ns)).mono
        (by have := first.fewer; omega))
termination_by ts.length * 8 + 7
decreasing_by
  · omega
  · have := first.fewer
    omega

/-- The alternatives that follow, each after a slash. -/
def readAlternatives (blocks : List Block) (ts : Tokens) : Except ReadError (Read (List Node) ts 0) :=
  match ts.halt? with
  | some e => .error e
  | none => match _hm : ts.afterMark? '/' with
    | none => .ok ⟨[], blocks, ts, Nat.le_refl _⟩
    | some rest => match readAlternative blocks rest with
      | .error e => .error e
      | .ok next => match readAlternatives next.blocks next.rest with
        | .error e => .error e
        | .ok more =>
          .ok ((more.map (next.value :: ·)).mono
            (by have h1 := next.fewer; have h2 := Tokens.afterMark?_length _hm; omega))
termination_by ts.length * 8 + 6
decreasing_by
  · have := Tokens.afterMark?_length _hm
    omega
  · have h1 := next.fewer
    have h2 := Tokens.afterMark?_length _hm
    omega

/-- A sequence and perhaps an action block. -/
def readAlternative (blocks : List Block) (ts : Tokens) : Except ReadError (Read Node ts 0) :=
  match readSequence blocks ts with
  | .error e => .error e
  | .ok items => readAction (items.map Node.ofItems)
termination_by ts.length * 8 + 5
decreasing_by omega

/-- Items up to what cannot go on with the sequence. -/
def readSequence (blocks : List Block) (ts : Tokens) : Except ReadError (Read (List Node) ts 0) :=
  match continuesSequence ts with
  | .error e => .error e
  | .ok false => .ok ⟨[], blocks, ts, Nat.le_refl _⟩
  | .ok true => match readItem blocks ts with
    | .error e => .error e
    | .ok item => match readSequence item.blocks item.rest with
      | .error e => .error e
      | .ok more => .ok ((more.map (item.value :: ·)).mono (by have := item.fewer; omega))
termination_by ts.length * 8 + 4
decreasing_by
  · omega
  · have := item.fewer
    omega

/-- An expression, perhaps with a label. -/
def readItem (blocks : List Block) (ts : Tokens) : Except ReadError (Read Node ts 1) :=
  match ts with
  | .cons p (.name label) rest => match rest.halt? with
    | some e => .error e
    | none => match _hm : rest.afterMark? ':' with
      | none => readPrefixed blocks (.cons p (.name label) rest)
      | some body =>
        if isReserved label then .error ⟨.reservedLabel label, p⟩
        else match readPrefixed blocks body with
          | .error e => .error e
          | .ok r => .ok ((r.map (.labeled label)).mono
              (by have := Tokens.afterMark?_length _hm; simp only [Tokens.length]; omega))
  | ts => readPrefixed blocks ts
termination_by ts.length * 8 + 3
decreasing_by
  · omega
  · have := Tokens.afterMark?_length _hm
    simp only [Tokens.length]
    omega
  · omega

/-- An expression, perhaps after one of the marks for a look ahead and for its text. -/
def readPrefixed (blocks : List Block) (ts : Tokens) : Except ReadError (Read Node ts 1) :=
  match ts with
  | .cons p (.mark c) rest => match operator? c with
    | some f => match readSuffixed blocks rest with
      | .error e => .error e
      | .ok r => .ok ((r.map f).mono (by simp only [Tokens.length]; omega))
    | none => readSuffixed blocks (.cons p (.mark c) rest)
  | ts => readSuffixed blocks ts
termination_by ts.length * 8 + 2
decreasing_by
  · simp only [Tokens.length]
    omega
  · omega
  · omega

/-- An expression, perhaps before the mark of a repetition. -/
def readSuffixed (blocks : List Block) (ts : Tokens) : Except ReadError (Read Node ts 1) :=
  match readPrimary blocks ts with
  | .error e => .error e
  | .ok r => readRepetition r
termination_by ts.length * 8 + 1
decreasing_by omega

/-- One token, or an expression in parentheses. -/
def readPrimary (blocks : List Block) (ts : Tokens) : Except ReadError (Read Node ts 1) :=
  match ts with
  | .halted e => .error e
  | .done p => .error ⟨.unexpected none, p⟩
  | .broken p c e => if c = '{' then .error ⟨.unexpected (some c), p⟩ else .error e
  | .cons p t rest => match t with
    | .name r => .ok ⟨.ref r, blocks, rest, Nat.le_refl _⟩
    | .literal text flag => .ok ⟨.literal text flag, blocks, rest, Nat.le_refl _⟩
    | .charClass members => .ok ⟨.charClass members, blocks, rest, Nat.le_refl _⟩
    | .block _ => .error ⟨.unexpected (some '{'), p⟩
    | .arrow => .error ⟨.unexpected (some '<'), p⟩
    | .equals _ => .error ⟨.unexpected (some '='), p⟩
    | .mark c =>
      if c = '.' then .ok ⟨.any, blocks, rest, Nat.le_refl _⟩
      else if c = '(' then
        match readChoice blocks rest with
        | .error e => .error e
        | .ok r => match r.rest.halt? with
          | some e => .error e
          | none => match hm : r.rest.afterMark? ')' with
            | none => .error ⟨.expected ")", r.rest.offset⟩
            | some rest' => .ok ⟨r.value, r.blocks, rest', by
                have h1 := Tokens.afterMark?_length hm
                have h2 := r.fewer
                simp only [Tokens.length]
                omega⟩
      else .error ⟨.unexpected (some c), p⟩
termination_by ts.length * 8
decreasing_by
  simp only [Tokens.length]
  omega

end

/-! ## Definitions -/

/-- The display name, if a literal is next. -/
def readDisplay (ts : Tokens) : Except ReadError (Option String × { r : Tokens // r.length ≤ ts.length }) :=
  match ts with
  | .halted e => .error e
  | .broken p c e => if isQuote c then .error e else .ok (none, ⟨.broken p c e, Nat.le_refl _⟩)
  | .cons _ (.literal text _) rest => .ok (some (textOf text), ⟨rest, by simp [Tokens.length]⟩)
  | ts => .ok (none, ⟨ts, Nat.le_refl _⟩)

/-- Passes the sign that starts a definition. -/
def readDefinitionSign (ts : Tokens) : Except ReadError { r : Tokens // r.length ≤ ts.length } :=
  match ts with
  | .halted e => .error e
  | .cons _ .arrow rest => .ok ⟨rest, by simp [Tokens.length]⟩
  | .cons _ (.equals _) rest => .ok ⟨rest, by simp [Tokens.length]⟩
  | ts => .error ⟨.expected "=", ts.offset⟩

/-- A definition: a name, perhaps a display name, the sign, an expression, perhaps a semicolon. -/
def readRule (blocks : List Block) (ts : Tokens) : Except ReadError (Read Rule ts 1) :=
  match ts with
  | .halted e => .error e
  | .cons _ (.name name) rest => match readDisplay rest with
    | .error e => .error e
    | .ok (display, ⟨r1, h1⟩) => match readDefinitionSign r1 with
      | .error e => .error e
      | .ok ⟨r2, h2⟩ => match readChoice blocks r2 with
        | .error e => .error e
        | .ok body => match body.rest.halt? with
          | some e => .error e
          | none =>
            .ok ⟨⟨name, display, body.value⟩, body.blocks,
              (body.rest.afterMark? ';').getD body.rest, by
                have h3 := body.fewer
                have h4 : ((body.rest.afterMark? ';').getD body.rest).length ≤ body.rest.length := by
                  cases hm : body.rest.afterMark? ';' with
                  | none => exact Nat.le_refl _
                  | some r => exact Nat.le_of_lt (Tokens.afterMark?_length hm)
                simp only [Tokens.length]
                omega⟩
  | ts => .error ⟨.expectedName, ts.offset⟩

/-- Definitions up to the end of the source. `names` are the names of the rules before. -/
def readRules (names : List String) (blocks : List Block) (ts : Tokens) :
    Except ReadError (List Rule × List Block) :=
  match ts with
  | .done p => if names.isEmpty then .error ⟨.emptyGrammar, p⟩ else .ok ([], blocks)
  | ts => match readRule blocks ts with
    | .error e => .error e
    | .ok r =>
      if names.contains r.value.name then .error ⟨.duplicateRule r.value.name, ts.offset⟩
      else match readRules (r.value.name :: names) r.blocks r.rest with
        | .error e => .error e
        | .ok (rules, blocks) => .ok (r.value :: rules, blocks)
termination_by ts.length
decreasing_by
  have := r.fewer
  omega

/-! ## Grammars -/

/-- The first reference to a rule that there is none of, and the rule that it stands in. -/
def undefinedReference? (rules : List Rule) : Option (String × String) :=
  rules.findSome? fun r =>
    (r.body.refs.find? fun name => !rules.any (·.name == name)).map fun name => (name, r.name)

/-- Reads the source of a grammar. -/
def Grammar.read (source : String) : Except GrammarError Grammar :=
  match readRules [] [] (tokenize source.toList) with
  | .error e => .error (e.inText source.toList)
  | .ok (rules, blocks) => match undefinedReference? rules with
    | some (rule, referrer) => .error (.undefinedReference rule referrer)
    | none => .ok ⟨rules, (rules.head?.map (·.name)).getD "", blocks⟩

end PegTemplate
