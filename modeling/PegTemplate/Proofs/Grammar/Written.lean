import PegTemplate.Proofs.Grammar.Shape
import PegTemplate.Proofs.Grammar.Spelling

/-!
# Grammars in writing

* `Node.level`, `Node.written` : the tokens of an expression, with parentheses where it binds less tightly than its
  place wants;
* `Style`, `Rule.tokens`, `Grammar.written` : the text of a grammar, its tokens between blanks and its rules in lines;
* `Grammar.Writable` : what a grammar needs to be written;
* `Node.Accounts` : where the tokens of an expression come from;
* `Grammar.spells_written` : the text of a grammar spells its tokens.
-/

namespace PegTemplate
open Unicode

/-! ## Expressions in tokens -/

/-- The mark of a repetition. -/
def Repetition.mark : Repetition → Char
  | optional => '?'
  | star => '*'
  | plus => '+'

/-- The tokens of an expression of the level, between parentheses if only lower levels may stand in its place. -/
def enclose (limit level : Nat) (ts : List Token) : List Token :=
  if level ≤ limit then ts else .mark '(' :: (ts ++ [.mark ')'])

namespace Node

/-- How loosely an expression binds: one token, a repetition, an expression after a mark, one with a label, a sequence,
a sequence that a block closes, or a choice. -/
def level : Node → Nat
  | literal .. | charClass _ | any | ref _ => 0
  | repeated .. => 1
  | followedBy _ | notFollowedBy _ | text _ => 2
  | labeled .. => 3
  | sequence _ => 4
  | action .. => 5
  | choice _ => 6

mutual

/-- The tokens of an expression. -/
def written : Node → List Token
  | literal t i => [.literal t i]
  | charClass m => [.charClass m]
  | any => [.mark '.']
  | ref r => [.name r]
  | followedBy n => .mark '&' :: enclose 1 n.level n.written
  | notFollowedBy n => .mark '!' :: enclose 1 n.level n.written
  | text n => .mark '$' :: enclose 1 n.level n.written
  | labeled l n => .name l :: .mark ':' :: enclose 2 n.level n.written
  | repeated k n => enclose 0 n.level n.written ++ [.mark k.mark]
  | sequence ns => writtenItems ns
  | choice ns => (writtenAfterSlashes ns).tail
  | action n b => enclose 4 n.level n.written ++ [.block b.code]

/-- The tokens of the items of a sequence. -/
def writtenItems : List Node → List Token
  | [] => []
  | n :: ns => enclose 3 n.level n.written ++ writtenItems ns

/-- The tokens of alternatives, each after a slash. -/
def writtenAfterSlashes : List Node → List Token
  | [] => []
  | n :: ns => .mark '/' :: (enclose 5 n.level n.written ++ writtenAfterSlashes ns)

end

end Node

/-! ## Grammars in text -/

/-- What a grammar leaves open about the text of a rule. -/
structure Style where
  /-- The sign is an arrow. -/
  arrow : Bool
  /-- A semicolon closes the rule. -/
  semicolon : Bool
  /-- Strings stand between double quotes. -/
  double : Bool

/-- The quote around strings. -/
def Style.quote (s : Style) : Char := if s.double then '"' else '\''

/-- The sign that starts a definition. -/
def Style.sign (s : Style) : Token := if s.arrow then .arrow else .equals false

/-- The tokens that close a rule. -/
def Style.closing (s : Style) : List Token := if s.semicolon then [.mark ';'] else []

/-- The tokens of a display name. -/
def displayTokens : Option String → List Token
  | none => []
  | some d => [.literal (codes d.toList) false]

/-- The tokens of a rule. -/
def Rule.tokens (s : Style) (r : Rule) : List Token :=
  .name r.name :: (displayTokens r.display ++ s.sign :: (r.body.written ++ s.closing))

/-- Texts with a character between them. -/
def joined (c : Char) : List (List Char) → List Char
  | [] => []
  | [x] => x
  | x :: y :: xs => x ++ c :: joined c (y :: xs)

/-- The line of a rule, with a space between its tokens. -/
def Rule.line (s : Style) (r : Rule) : List Char := joined ' ' ((r.tokens s).map (Token.spelling s.quote))

/-- The text of a grammar, with a line for each rule. -/
def Grammar.written (style : Rule → Style) (g : Grammar) : String :=
  String.ofList (joined '\n' (g.rules.map fun r => r.line (style r)))

/-! ## What may be written -/

/-- What an expression of its kind needs to be written, apart from the expressions inside it. -/
def Node.Writable : Node → Prop
  | literal t _ => ∀ c ∈ t, c < 0x110000
  | charClass m => m.Spelled
  | action _ b => ∀ c ∈ b.code.toList, isOrdinary c = true
  | _ => True

/-- Literals are made of code points, classes have a spelling, and blocks are free of quotes, braces and comments. -/
def Grammar.Writable (g : Grammar) : Prop := ∀ r ∈ g.rules, ∀ k, Node.Part k r.body → k.Writable

/-- The tokens of the rules that follow. -/
def rulesTokens (style : Rule → Style) (rules : List Rule) : List Token := rules.flatMap fun r => r.tokens (style r)

/-! ## Where tokens come from -/

/-- The sign starts a definition. -/
def Token.startsDefinition : Token → Bool
  | arrow => true
  | equals doubled => !doubled
  | _ => false

/-- An item of a sequence may start with the token. -/
def Token.startsItem : Token → Bool
  | name _ | literal .. | charClass _ => true
  | mark c => c == '.' || c == '(' || c == '&' || c == '!' || c == '$'
  | _ => false

/-- An item starts with the tokens. -/
def StartsItem (ts : List Token) : Prop := ∃ t r, ts = t :: r ∧ t.startsItem = true

theorem StartsItem.append {ts : List Token} (h : StartsItem ts) (ts' : List Token) : StartsItem (ts ++ ts') := by
  obtain ⟨t, r, rfl, ht⟩ := h
  exact ⟨t, r ++ ts', rfl, ht⟩

theorem startsItem_parentheses {limit level : Nat} {ts : List Token} (h : level ≤ limit → StartsItem ts) :
    StartsItem (enclose limit level ts) := by
  unfold enclose
  split_ifs with hlevel
  · exact h hlevel
  · exact ⟨_, _, rfl, rfl⟩

theorem startsItem_written {n : Node} (h : n.level ≤ 3) : StartsItem n.written := by
  cases n with
  | repeated k n =>
    refine StartsItem.append (startsItem_parentheses fun hn => ?_) _
    cases n with
    | literal t i => exact ⟨_, _, rfl, rfl⟩
    | charClass m => exact ⟨_, _, rfl, rfl⟩
    | any => exact ⟨_, _, rfl, rfl⟩
    | ref r => exact ⟨_, _, rfl, rfl⟩
    | _ => simp [Node.level] at hn
  | sequence ns => simp [Node.level] at h
  | choice ns => simp [Node.level] at h
  | action n b => simp [Node.level] at h
  | _ => exact ⟨_, _, rfl, rfl⟩

/-- In place of an item, any expression starts like one. -/
theorem startsItem_enclose {limit : Nat} (hlimit : limit ≤ 3) (n : Node) :
    StartsItem (enclose limit n.level n.written) :=
  startsItem_parentheses fun hn => startsItem_written (Nat.le_trans hn hlimit)

/-- The token of an expression that the expressions inside it do not account for. -/
def Node.token? : Node → Option Token
  | .literal t i => some (.literal t i)
  | .charClass m => some (.charClass m)
  | .ref r => some (.name r)
  | .labeled l _ => some (.name l)
  | .action _ b => some (.block b.code)
  | _ => none

/-- The token is a mark, or belongs to a part of the expression. -/
def Node.Accounts (n : Node) (t : Token) : Prop :=
  (∃ c ∈ marks, t = .mark c) ∨ ∃ k, Node.Part k n ∧ k.token? = some t

namespace Node.Accounts

variable {n : Node} {t : Token}

theorem mark {c : Char} (hc : c ∈ marks) (ht : t = .mark c) : n.Accounts t := Or.inl ⟨c, hc, ht⟩

theorem own (h : n.token? = some t) : n.Accounts t := Or.inr ⟨n, .self, h⟩

theorem child {c : Node} (h : c.Accounts t) (hc : c ∈ n.children) : n.Accounts t :=
  h.imp_right fun ⟨k, hk, ht⟩ => ⟨k, .child hc hk, ht⟩

theorem enclosed {limit level : Nat} {ts : List Token} (h : t ∈ enclose limit level ts) (ht : t ∈ ts → n.Accounts t) :
    n.Accounts t := by
  unfold enclose at h
  split_ifs at h
  · exact ht h
  · simp only [List.mem_cons, List.mem_append, List.not_mem_nil, or_false] at h
    rcases h with h | h | h
    · exact mark (by decide) h
    · exact ht h
    · exact mark (by decide) h

end Node.Accounts

theorem mem_writtenItems {ns : List Node} {t : Token} (h : t ∈ Node.writtenItems ns) :
    ∃ n ∈ ns, t ∈ enclose 3 n.level n.written := by
  induction ns with
  | nil => cases h
  | cons n ns ih =>
    rw [Node.writtenItems, List.mem_append] at h
    rcases h with h | h
    · exact ⟨n, List.mem_cons_self .., h⟩
    · obtain ⟨m, hm, ht⟩ := ih h
      exact ⟨m, List.mem_cons_of_mem _ hm, ht⟩

theorem mem_writtenAfterSlashes {ns : List Node} {t : Token} (h : t ∈ Node.writtenAfterSlashes ns) :
    t = .mark '/' ∨ ∃ n ∈ ns, t ∈ enclose 5 n.level n.written := by
  induction ns with
  | nil => cases h
  | cons n ns ih =>
    rw [Node.writtenAfterSlashes, List.mem_cons, List.mem_append] at h
    rcases h with h | h | h
    · exact Or.inl h
    · exact Or.inr ⟨n, List.mem_cons_self .., h⟩
    · exact (ih h).imp_right fun ⟨m, hm, ht⟩ => ⟨m, List.mem_cons_of_mem _ hm, ht⟩

/-- An expression accounts for its tokens. -/
theorem accounts_of_mem_written {n : Node} {t : Token} (h : t ∈ n.written) : n.Accounts t := by
  -- One expression inside, perhaps in parentheses.
  have hinside : ∀ {m : Node} {limit : Nat} {n : Node}, m.children = [n] → (t ∈ n.written → n.Accounts t) →
      t ∈ enclose limit n.level n.written → m.Accounts t := fun hm ih h =>
    .enclosed h fun ht => (ih ht).child (by rw [hm]; exact List.mem_singleton_self _)
  induction n using Node.induction with
  | literal text i => exact .own (by rw [List.mem_singleton.1 h]; rfl)
  | charClass m => exact .own (by rw [List.mem_singleton.1 h]; rfl)
  | any => exact .mark (by decide) (List.mem_singleton.1 h)
  | ref r => exact .own (by rw [List.mem_singleton.1 h]; rfl)
  | followedBy n ih =>
    exact (List.mem_cons.1 h).elim (fun h => .mark (by decide) h) (hinside rfl ih)
  | notFollowedBy n ih =>
    exact (List.mem_cons.1 h).elim (fun h => .mark (by decide) h) (hinside rfl ih)
  | text n ih =>
    exact (List.mem_cons.1 h).elim (fun h => .mark (by decide) h) (hinside rfl ih)
  | labeled l n ih =>
    rcases List.mem_cons.1 h with h | h
    · exact .own (by rw [h]; rfl)
    · exact (List.mem_cons.1 h).elim (fun h => .mark (by decide) h) (hinside rfl ih)
  | repeated k n ih =>
    rw [Node.written, List.mem_append] at h
    refine h.elim (hinside rfl ih) fun h => .mark ?_ (List.mem_singleton.1 h)
    cases k <;> decide
  | sequence ns ih =>
    obtain ⟨n, hn, h⟩ := mem_writtenItems h
    exact .enclosed h fun ht => (ih n hn ht).child hn
  | choice ns ih =>
    rcases mem_writtenAfterSlashes (List.mem_of_mem_tail h) with h | ⟨n, hn, h⟩
    · exact .mark (by decide) h
    · exact .enclosed h fun ht => (ih n hn ht).child hn
  | action n b ih _ =>
    rw [Node.written, List.mem_append] at h
    exact h.elim (hinside rfl ih) fun h => .own (by rw [List.mem_singleton.1 h]; rfl)

/-- No token of an expression starts a definition. -/
theorem startsDefinition_of_mem_written {n : Node} {t : Token} (h : t ∈ n.written) : t.startsDefinition = false := by
  rcases accounts_of_mem_written h with ⟨c, -, rfl⟩ | ⟨k, -, hk⟩
  · rfl
  · cases k <;> cases hk <;> rfl

theorem startsDefinition_of_mem_enclose {limit : Nat} {n : Node} {t : Token}
    (h : t ∈ enclose limit n.level n.written) : t.startsDefinition = false := by
  unfold enclose at h
  split_ifs at h
  · exact startsDefinition_of_mem_written h
  · simp only [List.mem_cons, List.mem_append, List.not_mem_nil, or_false] at h
    rcases h with rfl | h | rfl
    · rfl
    · exact startsDefinition_of_mem_written h
    · rfl

/-! ## Texts -/

theorem Style.isQuote_quote (s : Style) : isQuote s.quote = true := by
  unfold Style.quote
  split_ifs <;> rfl

/-- Tokens with spaces between them are spelled before what spells others. -/
theorem spells_joined {q : Char} (hq : isQuote q = true) {cs : List Char} (hcs : Bounded cs) {l : List Token}
    (hl : Spells l cs) (ts : List Token) : Spells (ts ++ l) (joined ' ' (ts.map (Token.spelling q)) ++ cs) := by
  induction ts with
  | nil => exact hl
  | cons t ts ih =>
    cases ts with
    | nil => exact .token hq hcs hl
    | cons t' ts =>
      rw [List.map_cons, List.map_cons, joined, List.append_assoc]
      exact .token hq (.cons rfl _) (.blank rfl ih)

/-- The text of a grammar spells its tokens. -/
theorem Grammar.spells_written (style : Rule → Style) (rules : List Rule) :
    Spells (rulesTokens style rules) (joined '\n' (rules.map fun r => r.line (style r))) := by
  induction rules with
  | nil => exact .nil
  | cons r rules ih =>
    have hline : ∀ {cs l}, Bounded cs → Spells l cs → Spells (r.tokens (style r) ++ l) (r.line (style r) ++ cs) :=
      fun hcs hl => spells_joined (style r).isQuote_quote hcs hl _
    cases rules with
    | nil =>
      have hlast := hline .nil .nil
      rwa [List.append_nil (r.line (style r))] at hlast
    | cons r' rules => exact hline (.cons rfl _) (.blank rfl ih)

theorem lt_of_mem_codes {cs : List Char} {c : CodePoint} (h : c ∈ codes cs) : c < 0x110000 := by
  obtain ⟨d, -, rfl⟩ := List.mem_map.1 h
  rcases d.valid with h | h
  · exact Nat.lt_trans h (by decide)
  · exact h.2

theorem Rule.spellable {r : Rule} (hname : isName r.name.toList = true)
    (hbody : ∀ t ∈ r.body.written, t.Spellable) (s : Style) : ∀ t ∈ r.tokens s, t.Spellable := by
  have hdisplay : ∀ t ∈ displayTokens r.display, t.Spellable := by
    cases r.display with
    | none => exact nofun
    | some d =>
      intro t ht
      rw [List.mem_singleton.1 ht]
      exact fun c hc => lt_of_mem_codes hc
  have hsign : s.sign.Spellable := by
    unfold Style.sign
    split_ifs
    · trivial
    · rfl
  have hclosing : ∀ t ∈ s.closing, t.Spellable := by
    unfold Style.closing
    split_ifs
    · intro t ht
      rw [List.mem_singleton.1 ht]
      show ';' ∈ marks
      decide
    · exact nofun
  intro t ht
  simp only [Rule.tokens, List.mem_cons, List.mem_append] at ht
  rcases ht with rfl | ht | rfl | ht | ht
  · exact hname
  · exact hdisplay t ht
  · exact hsign
  · exact hbody t ht
  · exact hclosing t ht

/-- What a rule refers to has a name. -/
theorem Grammar.Formed.isName_ref {g : Grammar} (h : g.Formed) {r : Rule} (hr : r ∈ g.rules) {x : String}
    (hx : Node.Part (.ref x) r.body) : isName x.toList = true := by
  have hrule := h.closed r hr x hx.mem_refs
  obtain ⟨k, hk, he⟩ := List.any_eq_true.1 hrule
  exact beq_iff_eq.1 he ▸ h.named k hk

/-- The tokens of a formed grammar that is writable have spellings. -/
theorem Grammar.spellable {g : Grammar} (hf : g.Formed) (hw : g.Writable) (style : Rule → Style) :
    ∀ t ∈ rulesTokens style g.rules, t.Spellable := by
  intro t ht
  obtain ⟨r, hr, ht⟩ := List.mem_flatMap.1 ht
  refine Rule.spellable (hf.named r hr) (fun t ht => ?_) (style r) t ht
  rcases accounts_of_mem_written ht with ⟨c, hc, rfl⟩ | ⟨k, hk, htoken⟩
  · exact hc
  · have hshaped := hf.formed r hr k hk
    have hwritable := hw r hr k hk
    cases k with
    | literal text flag => cases htoken; exact hwritable
    | charClass m => cases htoken; exact hwritable
    | ref x => cases htoken; exact hf.isName_ref hr hk
    | labeled x n => cases htoken; exact hshaped.1
    | action n b => cases htoken; exact hwritable
    | _ => cases htoken

end PegTemplate
