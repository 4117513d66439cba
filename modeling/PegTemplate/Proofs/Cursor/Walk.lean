import PegTemplate.Grammar.Reader

/-!
# Reading with a cursor

The readers of `Grammar.read` take a text apart from its front, so they cannot get stuck. Here are the same readers as they
move a cursor over the whole text: they look at offsets where there may be no character, the cursor may pass the end, and
their loops and calls go on until something stops them.

* `Stop` : why such a reader gives no result. Only one of the reasons is about the grammar;
* `Cursor.skip`, `Cursor.escape`, `Cursor.literal`, `Cursor.charClass`, `Cursor.code` : readers of single tokens;
* `Cursor.primary`, `Cursor.suffixed`, `Cursor.prefixed`, `Cursor.item`, `Cursor.sequence`, `Cursor.alternative`,
  `Cursor.choice` : readers of expressions;
* `Cursor.rule`, `Cursor.rules` : readers of definitions;
* `Grammar.walk` : the reader of grammars. `limit` bounds the turns of each loop and the depth of calls.
-/

namespace PegTemplate
open Unicode

/-- Why a reader with a cursor gives no result. -/
inductive Stop (ε : Type) where
  | refused (error : ε)
  /-- A character was used that is not there, or a number that is no code point. -/
  | fault
  /-- A loop made all its turns, or the calls were nested to their limit. -/
  | endless
  deriving DecidableEq

/-- What a reader with a cursor returns. -/
abbrev Walk (α : Type) := Except (Stop ReadError) α

/-- Refuses the text at an offset. -/
def refuse {α : Type} (cause : ReadError.Cause) (offset : Nat) : Walk α := .error (.refused ⟨cause, offset⟩)

/-- The character, which has to be there. -/
def the : Option Char → Walk Char
  | some c => .ok c
  | none => .error .fault

/-- The code point of a number. -/
def chr (n : Nat) : Walk CodePoint := if n < 0x110000 then .ok n else .error .fault

/-- Where a reader stands, and the action blocks so far. -/
structure Cursor where
  offset : Nat
  blocks : List Block

namespace Cursor

variable (src : List Char)

/-! ## Looking ahead -/

/-- The character at an offset. -/
def peek (i : Nat) : Option Char := src[i]?

/-- The text goes on with `mark`. -/
def starts (i : Nat) (mark : List Char) : Bool := mark.isPrefixOf (src.drop i)

/-- The first offset at which `mark` stands in the text, from `i` on. -/
def find? (mark : List Char) (i : Nat) : Option Nat := go i (src.drop i)
where
  go : Nat → List Char → Option Nat
    | _, [] => none
    | i, c :: cs => if mark.isPrefixOf (c :: cs) then some i else go (i + 1) cs

/-- The text between two offsets. -/
def slice (i j : Nat) : List Char := (src.drop i).take (j - i)

/-- The name at an offset. -/
def name? (i : Nat) : Option (List Char) :=
  match src.drop i with
  | [] => none
  | c :: cs => if isNameStart c then some (c :: cs.takeWhile isNamePart) else none

/-- The character is a quote. -/
def quote? (i : Nat) : Bool := (peek src i).any isQuote

/-! ## Blanks and comments -/

/-- The offset of the end of the line. -/
def lineEnd : (turns i : Nat) → Walk Nat
  | 0, _ => .error .endless
  | turns + 1, i => if src.length ≤ i ∨ peek src i = some '\n' then .ok i else lineEnd turns (i + 1)

/-- One turn for each blank and each comment. -/
def skipLoop (limit : Nat) : (turns i : Nat) → Walk Nat
  | 0, _ => .error .endless
  | turns + 1, i =>
    if src.length ≤ i then .ok i
    else if starts src i ['/', '*'] then match find? src ['*', '/'] (i + 2) with
      | none => refuse .unclosedComment (i + 2)
      | some j => skipLoop limit turns (j + 2)
    else do
      let c ← the (peek src i)
      if isLayout c then skipLoop limit turns (i + 1)
      else if starts src i ['/', '/'] || c == '#' then
        let j ← lineEnd src limit i
        skipLoop limit turns j
      else .ok i

/-- The offset behind blanks and comments. -/
def skip (limit i : Nat) : Walk Nat := skipLoop src limit limit i

/-- The offset behind `mark`, which has to come next. -/
def eat (limit : Nat) (mark : List Char) (i : Nat) : Walk Nat := do
  let i ← skip src limit i
  if starts src i mark then .ok (i + mark.length) else refuse (.expected (String.ofList mark)) i

/-- Whether `mark` comes next, and the offset behind it or before what comes instead. -/
def tryEat (limit : Nat) (mark : List Char) (i : Nat) : Walk (Bool × Nat) := do
  let i ← skip src limit i
  if starts src i mark then .ok (true, i + mark.length) else .ok (false, i)

/-- The name that comes next. -/
def name (limit i : Nat) : Walk (List Char × Nat) := do
  let i ← skip src limit i
  match name? src i with
  | none => refuse .expectedName i
  | some n => .ok (n, i + n.length)

/-! ## Escapes -/

/-- The value of a digit. `i` is the offset behind it, and behind all that was passed with it. -/
def hexDigit (c : Option Char) (i : Nat) : Walk Nat :=
  match c with
  | none => refuse .unterminatedEscape i
  | some c => match hexValue? c with
    | some d => .ok d
    | none => refuse .invalidHexDigit i

/-- As many digits as the escape has, each passed before it is looked at. -/
def hexDigits : (n value i : Nat) → Walk (CodePoint × Nat)
  | 0, value, i => do
    let c ← chr value
    .ok (c, i)
  | n + 1, value, i => do
    let d ← hexDigit (peek src i) (i + 1)
    hexDigits n (value * 16 + d) (i + 1)

/-- What follows a backslash. -/
def escape (i : Nat) : Walk (CodePoint × Nat) :=
  match peek src i with
  | none => refuse .unterminatedEscape i
  | some 'n' => .ok (10, i + 1)
  | some 'r' => .ok (13, i + 1)
  | some 't' => .ok (9, i + 1)
  | some '0' => .ok (0, i + 1)
  | some 'x' => do
    let high ← hexDigit (peek src (i + 1)) (i + 3)
    let low ← hexDigit (peek src (i + 2)) (i + 3)
    let c ← chr (high * 16 + low)
    .ok (c, i + 3)
  | some 'u' => hexDigits src 4 0 (i + 1)
  | some c => .ok (c.toNat, i + 1)

/-- Whether the letter `i` is glued to what was read. -/
def flag (i : Nat) : Bool × Nat :=
  if peek src i = some 'i' then
    match peek src (i + 1) with
    | none => (true, i + 1)
    | some c => if isNameStart c then (false, i) else (true, i + 1)
  else (false, i)

/-! ## Literals and classes -/

/-- One turn for each character or escape up to the closing quote. -/
def quoted (q : Char) : (turns i : Nat) → Walk (List CodePoint × Nat)
  | 0, _ => .error .endless
  | turns + 1, i =>
    if src.length ≤ i then refuse .unterminatedString i
    else do
      let c ← the (peek src i)
      if c = q then .ok ([], i + 1)
      else if c = '\\' then
        let (d, j) ← escape src (i + 1)
        let (ds, j) ← quoted q turns j
        .ok (d :: ds, j)
      else
        let (ds, j) ← quoted q turns (i + 1)
        .ok (c.toNat :: ds, j)

/-- A literal. It is a fault to look for one where there is no quote. -/
def literal (limit i : Nat) : Walk ((List CodePoint × Bool) × Nat) := do
  let i ← skip src limit i
  let q ← the (peek src i)
  if isQuote q then
    let (text, j) ← quoted src q limit (i + 1)
    .ok ((text, (flag src j).1), (flag src j).2)
  else .error .fault

/-- A character of a class. -/
def member (i : Nat) : Walk (CodePoint × Nat) :=
  if src.length ≤ i then refuse .unterminatedClass i
  else do
    let c ← the (peek src i)
    if c = '\\' then escape src (i + 1) else .ok (c.toNat, i + 1)

/-- A hyphen that makes a range. -/
def hyphen (i : Nat) : Bool :=
  peek src i = some '-' && peek src (i + 1) != some ']' && (peek src (i + 1)).isSome

/-- One turn for each range or single character up to the closing bracket. -/
def members (start : Nat) : (turns i : Nat) → Walk ((List (CodePoint × CodePoint) × List CodePoint) × Nat)
  | 0, _ => .error .endless
  | turns + 1, i =>
    if src.length ≤ i then refuse .unterminatedClass start
    else if peek src i = some ']' then .ok (([], []), i + 1)
    else do
      let (a, i) ← member src i
      if hyphen src i then
        let (b, i) ← member src (i + 1)
        if a > b then refuse (.invalidRange a b) i
        else
          let ((ranges, singles), i) ← members start turns i
          .ok (((a, b) :: ranges, singles), i)
      else
        let ((ranges, singles), i) ← members start turns i
        .ok ((ranges, a :: singles), i)

/-- A class. -/
def charClass (limit i : Nat) : Walk (CharClass × Nat) := do
  let start ← skip src limit i
  let i ← eat src limit ['['] start
  let negated := peek src i = some '^'
  let ((ranges, singles), i) ← members src start limit (if negated then i + 1 else i)
  .ok (⟨negated, ranges, singles, (flag src i).1, String.ofList (slice src start (flag src i).2)⟩, (flag src i).2)

/-! ## Action blocks -/

/-- The offset of the threefold quotes that close. One turn for each that is found; `start` is where the string began. -/
def tripleEnd (quotes : List Char) (start : Nat) : (turns i : Nat) → Walk Nat
  | 0, _ => .error .endless
  | turns + 1, i => match find? src quotes i with
    | none => refuse .unterminatedTripleQuote start
    | some j => do
      let c ← the (peek src (j - 1))
      if c != '\\' then .ok j else tripleEnd quotes start turns (j + 1)

/-- The offset of the quote or the line feed that ends a string of one line. -/
def stringEnd (q : Char) : (turns i : Nat) → Walk Nat
  | 0, _ => .error .endless
  | turns + 1, i =>
    if src.length ≤ i ∨ peek src i = some q ∨ peek src i = some '\n' then .ok i
    else stringEnd q turns (if peek src i = some '\\' then i + 2 else i + 1)

/-- One turn for each string, comment or other character of a block. `start` is where the block began, `body` where its
code did, and `depth` braces are open. -/
def codeLoop (limit start body : Nat) : (turns depth i : Nat) → Walk (List Char × Nat)
  | 0, _, _ => .error .endless
  | turns + 1, depth, i =>
    if src.length ≤ i then refuse .unterminatedBlock start
    else if starts src i ['\'', '\'', '\''] || starts src i ['"', '"', '"'] then do
      let j ← tripleEnd src (slice src i (i + 3)) i limit (i + 3)
      codeLoop limit start body turns depth (j + 3)
    else do
      let c ← the (peek src i)
      if isQuote c then
        let j ← stringEnd src c limit (i + 1)
        codeLoop limit start body turns depth (j + 1)
      else if c = '#' then
        let j ← lineEnd src limit i
        codeLoop limit start body turns depth j
      else if c = '{' then codeLoop limit start body turns (depth + 1) (i + 1)
      else if c = '}' then
        if depth = 1 then .ok (slice src body i, i + 1) else codeLoop limit start body turns (depth - 1) (i + 1)
      else codeLoop limit start body turns depth (i + 1)

/-- The code of a block. -/
def code (limit i : Nat) : Walk (List Char × Nat) := do
  let body ← eat src limit ['{'] i
  codeLoop src limit i body limit 1 body

/-! ## Expressions -/

/-- The sign that starts a definition stands at an offset. A doubled `=` is none. -/
def sign (i : Nat) : Bool := starts src i ['<', '-'] || (starts src i ['='] && !starts src i ['=', '='])

/-- Whether a name, perhaps a display name, and the sign that starts a definition come next. A literal that cannot be read
is no display name. -/
def atRuleHead (limit i : Nat) : Walk Bool :=
  match name? src i with
  | none => .ok false
  | some n => do
    let i ← skip src limit (i + n.length)
    if quote? src i then match literal src limit i with
      | .error (.refused _) => .ok false
      | .error stop => .error stop
      | .ok (_, j) => do
        let j ← skip src limit j
        .ok (sign src j)
    else .ok (sign src i)

/-- A name, a literal, a class, the mark for any character, or what `expr` reads in parentheses. -/
def primary (limit : Nat) (expr : Cursor → Walk (Node × Cursor)) (s : Cursor) : Walk (Node × Cursor) := do
  let i ← skip src limit s.offset
  let c := peek src i
  if c = some '(' then
    let (n, s) ← expr ⟨i + 1, s.blocks⟩
    let i ← eat src limit [')'] s.offset
    Except.ok (n, ⟨i, s.blocks⟩)
  else if c = some '.' then .ok (.any, ⟨i + 1, s.blocks⟩)
  else if quote? src i then
    let ((text, ignoreCase), i) ← literal src limit i
    .ok (.literal text ignoreCase, ⟨i, s.blocks⟩)
  else if c = some '[' then
    let (members, i) ← charClass src limit i
    .ok (.charClass members, ⟨i, s.blocks⟩)
  else if (name? src i).isNone then refuse (.unexpected c) i
  else
    let (n, i) ← name src limit i
    .ok (.ref (String.ofList n), ⟨i, s.blocks⟩)

/-- Puts what a mark stands for around an expression. -/
def wrapped (f : Node → Node) (x : Walk (Node × Cursor)) : Walk (Node × Cursor) := do
  let (n, s) ← x
  .ok (f n, s)

/-- Takes the mark of a repetition of `n`, if it comes next. -/
def repetition (limit : Nat) (n : Node) (s : Cursor) : Walk (Node × Cursor) := do
  let i ← skip src limit s.offset
  let (optional, i) ← tryEat src limit ['?'] i
  if optional then .ok (.repeated .optional n, ⟨i, s.blocks⟩)
  else
    let (star, i) ← tryEat src limit ['*'] i
    if star then .ok (.repeated .star n, ⟨i, s.blocks⟩)
    else
      let (plus, i) ← tryEat src limit ['+'] i
      if plus then .ok (.repeated .plus n, ⟨i, s.blocks⟩) else .ok (n, ⟨i, s.blocks⟩)

/-- Closes the sequence `n` with an action block, if one comes next. -/
def action (limit : Nat) (n : Node) (s : Cursor) : Walk (Node × Cursor) := do
  let i ← skip src limit s.offset
  if peek src i = some '{' then
    let (text, j) ← code src limit i
    match firstRepeat? [] n.itemLabels with
    | some l => refuse (.duplicateLabel l) i
    | none =>
      let block : Block := ⟨String.ofList text, n.itemLabels, s.blocks.length⟩
      .ok (.action n block, ⟨j, s.blocks ++ [block]⟩)
  else .ok (n, ⟨i, s.blocks⟩)

section
variable (limit : Nat) (expr : Cursor → Walk (Node × Cursor))

/-- An expression, perhaps before the mark of a repetition. -/
def suffixed (s : Cursor) : Walk (Node × Cursor) := do
  let (n, s) ← primary src limit expr s
  repetition src limit n s

/-- An expression, perhaps after one of the marks for a look ahead and for its text. -/
def prefixed (s : Cursor) : Walk (Node × Cursor) := do
  let i ← skip src limit s.offset
  let (ahead, i) ← tryEat src limit ['&'] i
  if ahead then wrapped .followedBy (suffixed src limit expr ⟨i, s.blocks⟩)
  else
    let (not, i) ← tryEat src limit ['!'] i
    if not then wrapped .notFollowedBy (suffixed src limit expr ⟨i, s.blocks⟩)
    else
      let (text, i) ← tryEat src limit ['$'] i
      if text then wrapped .text (suffixed src limit expr ⟨i, s.blocks⟩)
      else suffixed src limit expr ⟨i, s.blocks⟩

/-- An expression, perhaps with a label. The cursor goes back if a name is no label. -/
def item (s : Cursor) : Walk (Node × Cursor) :=
  match name? src s.offset with
  | none => prefixed src limit expr s
  | some label => do
    let i ← skip src limit (s.offset + label.length)
    if peek src i = some ':' then
      if isReserved (String.ofList label) then refuse (.reservedLabel (String.ofList label)) s.offset
      else wrapped (.labeled (String.ofList label)) (prefixed src limit expr ⟨i + 1, s.blocks⟩)
    else prefixed src limit expr s

/-- One turn for each item. -/
def sequence : (turns : Nat) → Cursor → Walk (List Node × Cursor)
  | 0, _ => .error .endless
  | turns + 1, s => do
    let i ← skip src limit s.offset
    match peek src i with
    | none => .ok ([], ⟨i, s.blocks⟩)
    | some c =>
      if [')', '/', '{', '}', ';'].contains c then .ok ([], ⟨i, s.blocks⟩)
      else
        let head ← atRuleHead src limit i
        if head then .ok ([], ⟨i, s.blocks⟩)
        else
          let (n, s) ← item src limit expr ⟨i, s.blocks⟩
          let (ns, s) ← sequence turns s
          .ok (n :: ns, s)

/-- A sequence and perhaps an action block. -/
def alternative (s : Cursor) : Walk (Node × Cursor) := do
  let (items, s) ← sequence src limit expr limit s
  action src limit (Node.ofItems items) s

/-- One turn for each alternative after a slash. -/
def alternatives : (turns : Nat) → Cursor → Walk (List Node × Cursor)
  | 0, _ => .error .endless
  | turns + 1, s => do
    let (slash, i) ← tryEat src limit ['/'] s.offset
    if slash then
      let (n, s) ← alternative src limit expr ⟨i, s.blocks⟩
      let (ns, s) ← alternatives turns s
      .ok (n :: ns, s)
    else .ok ([], ⟨i, s.blocks⟩)

end

/-- Alternatives between slashes, with calls nested up to `depth`. -/
def choice (limit : Nat) : (depth : Nat) → Cursor → Walk (Node × Cursor)
  | 0, _ => .error .endless
  | depth + 1, s => do
    let (n, s) ← alternative src limit (choice limit depth) s
    let (ns, s) ← alternatives src limit (choice limit depth) limit s
    .ok (Node.ofAlternatives (n :: ns), s)

/-! ## Definitions -/

/-- The display name, if a literal comes next. -/
def display (limit i : Nat) : Walk (Option String × Nat) := do
  let i ← skip src limit i
  if quote? src i then
    let ((text, _), j) ← literal src limit i
    .ok (some (textOf text), j)
  else .ok (none, i)

/-- Passes the sign that starts a definition. -/
def definitionSign (limit i : Nat) : Walk Nat := do
  let (arrow, i) ← tryEat src limit ['<', '-'] i
  if arrow then .ok i else eat src limit ['='] i

/-- A definition: a name, perhaps a display name, the sign, an expression, perhaps a semicolon. -/
def rule (limit : Nat) (s : Cursor) : Walk (Rule × Cursor) := do
  let (n, i) ← name src limit s.offset
  let (shown, i) ← display src limit i
  let i ← definitionSign src limit i
  let (body, s) ← choice src limit limit ⟨i, s.blocks⟩
  let (_, i) ← tryEat src limit [';'] s.offset
  .ok (⟨String.ofList n, shown, body⟩, ⟨i, s.blocks⟩)

/-- One turn for each definition. -/
def rules (limit : Nat) : (turns : Nat) → (names : List String) → Cursor → Walk (List Rule × List Block)
  | 0, _, _ => .error .endless
  | turns + 1, names, s => do
    let head ← skip src limit s.offset
    if src.length ≤ head then
      if names.isEmpty then refuse .emptyGrammar head else .ok ([], s.blocks)
    else
      let (r, s) ← rule src limit ⟨head, s.blocks⟩
      if names.contains r.name then refuse (.duplicateRule r.name) head
      else
        let (more, blocks) ← rules limit turns (r.name :: names) s
        .ok (r :: more, blocks)

end Cursor

/-- Reads the source of a grammar with a cursor. -/
def Grammar.walk (limit : Nat) (source : String) : Except (Stop GrammarError) Grammar :=
  match Cursor.rules source.toList limit limit [] ⟨0, []⟩ with
  | .error (.refused e) => .error (.refused (e.inText source.toList))
  | .error .fault => .error .fault
  | .error .endless => .error .endless
  | .ok (rules, blocks) => match undefinedReference? rules with
    | some (rule, referrer) => .error (.refused (.undefinedReference rule referrer))
    | none => .ok ⟨rules, (rules.head?.map (·.name)).getD "", blocks⟩

end PegTemplate
