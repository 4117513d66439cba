import PegTemplate.Grammar.Basic
import PegTemplate.Grammar.Error
import PegTemplate.Unicode.Identifier

/-!
# Tokens of a grammar

* `skipLayout` : passes over blanks and comments;
* `readEscape`, `readLiteral`, `readClass`, `readBlock` : what is between quotes, brackets and braces;
* `readToken` : one token, each kind being told by its first character;
* `Tokens`, `tokenize` : all tokens with their offsets. A part that cannot be read ends the list with its
  error, which counts only if a reader gets that far.

Readers take the offset of the text that they are given, and return what they read, the offset after it
and the rest of the text. The offset of an error may lie past the end of the source.
-/

namespace PegTemplate
open Unicode

/-- What a reader read, the offset after it, and the text that follows. -/
abbrev Lexed (α : Type) := Except ReadError (α × Nat × List Char)

/-! ## Blanks and comments -/

/-- The blanks between tokens. -/
def isLayout (c : Char) : Bool := c == ' ' || c == '\t' || c == '\r' || c == '\n'

/-- Where `skipLayout` stands: between comments, in a comment to the end of its line, or in a closed
comment that starts before the given offset. -/
inductive Layout where
  | blank
  | line
  | comment (start : Nat)
  deriving DecidableEq

/-- Passes over blanks and comments. -/
def skipFrom : Layout → (pos : Nat) → List Char → Except ReadError (Nat × List Char)
  | .blank, pos, [] => .ok (pos, [])
  | .blank, pos, '/' :: '*' :: cs => skipFrom (.comment (pos + 2)) (pos + 2) cs
  | .blank, pos, '/' :: '/' :: cs => skipFrom .line (pos + 2) cs
  | .blank, pos, '#' :: cs => skipFrom .line (pos + 1) cs
  | .blank, pos, c :: cs => if isLayout c then skipFrom .blank (pos + 1) cs else .ok (pos, c :: cs)
  | .line, pos, [] => .ok (pos, [])
  | .line, pos, c :: cs => skipFrom (if c = '\n' then .blank else .line) (pos + 1) cs
  | .comment start, _, [] => .error ⟨.unclosedComment, start⟩
  | .comment _, pos, '*' :: '/' :: cs => skipFrom .blank (pos + 2) cs
  | .comment start, pos, _ :: cs => skipFrom (.comment start) (pos + 1) cs

/-- Passes over blanks and comments. -/
def skipLayout (pos : Nat) (cs : List Char) : Except ReadError (Nat × List Char) :=
  skipFrom .blank pos cs

/-! ## Escapes -/

/-- The value of a hexadecimal digit. -/
def hexValue? (c : Char) : Option Nat :=
  if '0' ≤ c && c ≤ '9' then some (c.toNat - 48)
  else if 'a' ≤ c && c ≤ 'f' then some (c.toNat - 87)
  else if 'A' ≤ c && c ≤ 'F' then some (c.toNat - 55)
  else none

/-- The value of the digit that is first in a text. -/
def hexDigitOf : List Char → Except ReadError.Cause Nat
  | [] => .error .unterminatedEscape
  | c :: _ => match hexValue? c with
    | some d => .ok d
    | none => .error .invalidHexDigit

/-- Two hexadecimal digits. Both are passed before either is looked at. -/
def readTwoDigits (pos : Nat) (cs : List Char) : Lexed CodePoint :=
  match hexDigitOf cs with
  | .error cause => .error ⟨cause, pos + 2⟩
  | .ok high => match hexDigitOf (cs.drop 1) with
    | .error cause => .error ⟨cause, pos + 2⟩
    | .ok low => .ok (high * 16 + low, pos + 2, cs.drop 2)

/-- `n` hexadecimal digits after the value `acc`. Each is passed before it is looked at. -/
def readDigits : (n acc pos : Nat) → List Char → Lexed CodePoint
  | 0, acc, pos, cs => .ok (acc, pos, cs)
  | n + 1, acc, pos, cs => match hexDigitOf cs with
    | .ok d => readDigits n (acc * 16 + d) (pos + 1) (cs.drop 1)
    | .error cause => .error ⟨cause, pos + 1⟩

/-- What a backslash and the text after it stand for. A character without a meaning of its own stands
for itself. -/
def readEscape (pos : Nat) : List Char → Lexed CodePoint
  | [] => .error ⟨.unterminatedEscape, pos⟩
  | 'n' :: cs => .ok (10, pos + 1, cs)
  | 'r' :: cs => .ok (13, pos + 1, cs)
  | 't' :: cs => .ok (9, pos + 1, cs)
  | '0' :: cs => .ok (0, pos + 1, cs)
  | 'x' :: cs => readTwoDigits (pos + 1) cs
  | 'u' :: cs => readDigits 4 0 (pos + 1) cs
  | c :: cs => .ok (c.toNat, pos + 1, cs)

/-- One character, which may be spelled by an escape. -/
def readMember (pos : Nat) : List Char → Lexed CodePoint
  | [] => .error ⟨.unterminatedClass, pos⟩
  | '\\' :: cs => readEscape (pos + 1) cs
  | c :: cs => .ok (c.toNat, pos + 1, cs)

/-- The end of a range, if a hyphen and then something other than the closing bracket come next. -/
def rangeEnd? : List Char → Option (List Char)
  | '-' :: c :: cs => if c = ']' then none else some (c :: cs)
  | _ => none

/-- The letter `i` right after a literal or a class makes it ignore case, unless it starts a name. -/
def readFlag (pos : Nat) : List Char → Bool × Nat × List Char
  | 'i' :: cs => match cs with
    | [] => (true, pos + 1, cs)
    | c :: _ => if isNameStart c then (false, pos, 'i' :: cs) else (true, pos + 1, cs)
  | cs => (false, pos, cs)

/-! ## Lengths, for the recursions below -/

theorem readTwoDigits_length {pos : Nat} {cs : List Char} {c : CodePoint} {p : Nat} {r : List Char}
    (h : readTwoDigits pos cs = .ok (c, p, r)) : r.length ≤ cs.length := by
  unfold readTwoDigits at h
  split at h
  · cases h
  · split at h
    · cases h
    · cases h; simp

theorem readDigits_length {n acc pos : Nat} {cs : List Char} {c : CodePoint} {p : Nat} {r : List Char}
    (h : readDigits n acc pos cs = .ok (c, p, r)) : r.length ≤ cs.length := by
  induction n generalizing acc pos cs with
  | zero => cases h; exact Nat.le_refl _
  | succ n ih =>
    simp only [readDigits] at h
    split at h
    · have := ih h
      simp at this
      omega
    · cases h

theorem readEscape_length {pos : Nat} {cs : List Char} {c : CodePoint} {p : Nat} {r : List Char}
    (h : readEscape pos cs = .ok (c, p, r)) : r.length < cs.length := by
  unfold readEscape at h
  split at h
  · cases h
  · cases h; simp
  · cases h; simp
  · cases h; simp
  · cases h; simp
  · have := readTwoDigits_length h
    simp; omega
  · have := readDigits_length h
    simp; omega
  · cases h; simp

theorem readMember_length {pos : Nat} {cs : List Char} {c : CodePoint} {p : Nat} {r : List Char}
    (h : readMember pos cs = .ok (c, p, r)) : r.length < cs.length := by
  unfold readMember at h
  split at h
  · cases h
  · have := readEscape_length h
    simp; omega
  · cases h; simp

theorem rangeEnd?_length {cs r : List Char} (h : rangeEnd? cs = some r) : r.length < cs.length := by
  unfold rangeEnd? at h
  split at h
  · split at h
    · cases h
    · cases h; simp
  · cases h

theorem readFlag_length (pos : Nat) (cs : List Char) :
    (readFlag pos cs).2.2.length ≤ cs.length := by
  unfold readFlag
  split
  · split
    · simp
    · split <;> simp
  · simp

/-! ## Literals -/

/-- The text up to the closing quote `q`. -/
def readQuoted (q : Char) (pos : Nat) (cs : List Char) : Lexed (List CodePoint) :=
  match cs with
  | [] => .error ⟨.unterminatedString, pos⟩
  | c :: rest =>
    if c = q then .ok ([], pos + 1, rest)
    else if c = '\\' then
      match _h : readEscape (pos + 1) rest with
      | .error e => .error e
      | .ok (d, p, r) => match readQuoted q p r with
        | .error e => .error e
        | .ok (ds, p', r') => .ok (d :: ds, p', r')
    else match readQuoted q (pos + 1) rest with
      | .error e => .error e
      | .ok (ds, p', r') => .ok (c.toNat :: ds, p', r')
termination_by cs.length
decreasing_by
  · have := readEscape_length _h
    simp; omega
  · simp

/-- The text up to the closing quote and the flag after it. -/
def readLiteral (q : Char) (pos : Nat) (cs : List Char) : Lexed (List CodePoint × Bool) :=
  match readQuoted q pos cs with
  | .error e => .error e
  | .ok (text, p, r) => .ok ((text, (readFlag p r).1), (readFlag p r).2)

theorem readQuoted_length {q : Char} {pos : Nat} {cs : List Char} {t : List CodePoint} {p : Nat}
    {r : List Char} (h : readQuoted q pos cs = .ok (t, p, r)) : r.length < cs.length := by
  induction hn : cs.length using Nat.strongRecOn generalizing pos cs t p r with
  | ind n ih =>
    subst hn
    unfold readQuoted at h
    split at h
    · cases h
    · split at h
      · cases h; simp
      · split at h
        · split at h
          · cases h
          · rename_i he
            have hl := readEscape_length he
            split at h
            · cases h
            · rename_i hq
              cases h
              have := ih _ (by simp; omega) hq rfl
              simp; omega
        · split at h
          · cases h
          · rename_i hq
            cases h
            have := ih _ (by simp) hq rfl
            simp; omega

theorem readLiteral_length {q : Char} {pos : Nat} {cs : List Char} {t : List CodePoint × Bool} {p : Nat}
    {r : List Char} (h : readLiteral q pos cs = .ok (t, p, r)) : r.length < cs.length := by
  unfold readLiteral at h
  split at h
  · cases h
  · rename_i p' r' hq
    have h1 := readQuoted_length hq
    have h2 := readFlag_length p' r'
    simp only [Except.ok.injEq, Prod.mk.injEq] at h
    rw [h.2] at h2
    exact Nat.lt_of_le_of_lt h2 h1

/-! ## Character classes -/

/-- The members up to the closing bracket: pairs, and single ones. A hyphen makes a pair unless the
bracket follows it. `start` is where the class began. -/
def readMembers (start pos : Nat) (cs : List Char) :
    Lexed (List (CodePoint × CodePoint) × List CodePoint) :=
  match cs with
  | [] => .error ⟨.unterminatedClass, start⟩
  | ']' :: rest => .ok (([], []), pos + 1, rest)
  | c :: rest =>
    match _ha : readMember pos (c :: rest) with
    | .error e => .error e
    | .ok (a, p, r) =>
      match _hr : rangeEnd? r with
      | none => match readMembers start p r with
        | .error e => .error e
        | .ok ((ranges, singles), p', r') => .ok ((ranges, a :: singles), p', r')
      | some last =>
        match _hb : readMember (p + 1) last with
        | .error e => .error e
        | .ok (b, p', r') =>
          if a > b then .error ⟨.invalidRange a b, p'⟩
          else match readMembers start p' r' with
            | .error e => .error e
            | .ok ((ranges, singles), p'', r'') => .ok (((a, b) :: ranges, singles), p'', r'')
termination_by cs.length
decreasing_by
  · have := readMember_length _ha
    simpa using this
  · have h1 := readMember_length _ha
    have h2 := readMember_length _hb
    have h3 := rangeEnd?_length _hr
    simp at h1 ⊢; omega

/-- What is between the brackets, the flag, and the spelling of it all. `cs` is what follows the opening
bracket, which stands at `start`. -/
def readClass (start : Nat) (cs : List Char) : Lexed CharClass :=
  let negated := cs.head? = some '^'
  let skip := if negated then 1 else 0
  match readMembers start (start + 1 + skip) (cs.drop skip) with
  | .error e => .error e
  | .ok ((ranges, singles), p, r) =>
    let (flag, p, rest) := readFlag p r
    let spelling := '[' :: cs.take (cs.length - rest.length)
    .ok (⟨negated, ranges, singles, flag, String.ofList spelling⟩, p, rest)

theorem readMembers_length {start pos : Nat} {cs : List Char}
    {m : List (CodePoint × CodePoint) × List CodePoint} {p : Nat} {r : List Char}
    (h : readMembers start pos cs = .ok (m, p, r)) : r.length < cs.length := by
  induction hn : cs.length using Nat.strongRecOn generalizing pos cs m p r with
  | ind n ih =>
    subst hn
    unfold readMembers at h
    split at h
    · cases h
    · cases h; simp
    · split at h
      · cases h
      · rename_i ha
        have h1 := readMember_length ha
        split at h
        · split at h
          · cases h
          · rename_i hm
            cases h
            have := ih _ h1 hm rfl
            omega
        · rename_i hr
          have h2 := rangeEnd?_length hr
          split at h
          · cases h
          · rename_i hb
            have h3 := readMember_length hb
            split at h
            · cases h
            · split at h
              · cases h
              · rename_i hm
                cases h
                have := ih _ (by omega) hm rfl
                omega

theorem readClass_length {start : Nat} {cs : List Char} {c : CharClass} {p : Nat} {r : List Char}
    (h : readClass start cs = .ok (c, p, r)) : r.length < cs.length := by
  simp only [readClass] at h
  split at h
  · cases h
  · rename_i p' r' hm
    have h1 := readMembers_length hm
    have h2 := readFlag_length p' r'
    simp only [Except.ok.injEq, Prod.mk.injEq] at h
    rw [h.2.2] at h2
    simp at h1
    omega

/-! ## Action blocks -/

/-- Where `readCode` stands in the code of a block. -/
inductive CodeMode where
  | plain
  | comment
  /-- In a string of one line. -/
  | string (quote : Char)
  /-- In a string between threefold quotes that began at `start`; `previous` is its newest character. -/
  | triple (quote : Char) (start : Nat) (previous : Char)
  /-- The next `n` characters are passed over. -/
  | pass (n : Nat) (after : CodeMode)
  deriving DecidableEq

/-- The character is a quote. -/
def isQuote (c : Char) : Bool := c == '\'' || c == '"'

/-- The text starts with two quotes `q`. -/
def startsPair (q : Char) : List Char → Bool
  | a :: b :: _ => a == q && b == q
  | _ => false

/-- The mode after the character `c` at `pos`, which `cs` follows. -/
def CodeMode.next (pos : Nat) (c : Char) (cs : List Char) : CodeMode → CodeMode
  | plain =>
    if isQuote c then if startsPair c cs then .pass 2 (.triple c pos c) else .string c
    else if c = '#' then .comment
    else .plain
  | comment => if c = '\n' then .plain else .comment
  | string q =>
    if c = '\\' then .pass 1 (.string q)
    else if c = q || c = '\n' then .plain
    else .string q
  | triple q start previous =>
    if c = q && startsPair q cs && previous != '\\' then .pass 2 .plain else .triple q start c
  | pass n after => if n ≤ 1 then after else .pass (n - 1) after

/-- Why code that ends in this mode is not finished; `start` is where its block began. -/
def CodeMode.unfinished (start : Nat) : CodeMode → ReadError
  | triple _ s _ => ⟨.unterminatedTripleQuote, s⟩
  | _ => ⟨.unterminatedBlock, start⟩

/-- How many braces are open after `c`. -/
def CodeMode.depthAfter (depth : Nat) (c : Char) : CodeMode → Nat
  | plain => if c = '{' then depth + 1 else if c = '}' then depth - 1 else depth
  | _ => depth

/-- Puts a character before the code that was read. -/
def Lexed.consCode (c : Char) : Lexed (List Char) → Lexed (List Char)
  | .ok (code, p, r) => .ok (c :: code, p, r)
  | .error e => .error e

/-- The code up to the brace that closes the block. `depth` more braces are open, and `start` is where the
block began. Strings and comments are passed over as they are. -/
def readCode (start : Nat) : CodeMode → (depth pos : Nat) → List Char → Lexed (List Char)
  | mode, _, _, [] => .error (mode.unfinished start)
  | mode, depth, pos, c :: cs =>
    if mode = .plain ∧ c = '}' ∧ depth = 0 then .ok ([], pos + 1, cs)
    else
      Lexed.consCode c (readCode start (mode.next pos c cs) (mode.depthAfter depth c) (pos + 1) cs)

theorem Lexed.consCode_eq_ok {c : Char} {x : Lexed (List Char)} {code : List Char} {p : Nat}
    {r : List Char} (h : Lexed.consCode c x = .ok (code, p, r)) :
    ∃ code', code = c :: code' ∧ x = .ok (code', p, r) := by
  unfold Lexed.consCode at h
  split at h
  · cases h; exact ⟨_, rfl, rfl⟩
  · cases h

/-- Nothing is lost: the code, its closing brace and the rest make up the text. -/
theorem readCode_append {start : Nat} {mode : CodeMode} {depth pos : Nat} {cs code : List Char} {p : Nat}
    {r : List Char} (h : readCode start mode depth pos cs = .ok (code, p, r)) :
    cs = code ++ '}' :: r := by
  induction cs generalizing mode depth pos code with
  | nil => simp [readCode] at h
  | cons c cs ih =>
    unfold readCode at h
    split at h
    · rename_i hc
      cases h
      simp [hc.2.1]
    · obtain ⟨code', rfl, h'⟩ := Lexed.consCode_eq_ok h
      rw [ih h', List.cons_append]

/-! ## Single tokens -/

/-- The tokens of a grammar. -/
inductive Token where
  | name (text : String)
  | literal (text : List CodePoint) (ignoreCase : Bool)
  | charClass (members : CharClass)
  | block (code : String)
  /-- The sign `<-`. -/
  | arrow
  /-- The sign `=`, and whether another one is glued to it. -/
  | equals (doubled : Bool)
  /-- Any other character. -/
  | mark (c : Char)
  deriving BEq, Inhabited

/-- The token that starts with `c` at `pos`; `cs` is what follows `c`. -/
def readToken (pos : Nat) (c : Char) (cs : List Char) : Lexed Token :=
  if isQuote c then
    match readLiteral c (pos + 1) cs with
    | .error e => .error e
    | .ok ((text, flag), p, r) => .ok (.literal text flag, p, r)
  else if c = '[' then
    match readClass pos cs with
    | .error e => .error e
    | .ok (members, p, r) => .ok (.charClass members, p, r)
  else if c = '{' then
    match readCode pos .plain 0 (pos + 1) cs with
    | .error e => .error e
    | .ok (code, p, r) => .ok (.block (String.ofList code), p, r)
  else if c = '<' && cs.head? = some '-' then .ok (.arrow, pos + 2, cs.drop 1)
  else if c = '=' then .ok (.equals (cs.head? = some '='), pos + 1, cs)
  else if isNameStart c then
    let tail := cs.takeWhile isNamePart
    .ok (.name (String.ofList (c :: tail)), pos + 1 + tail.length, cs.dropWhile isNamePart)
  else .ok (.mark c, pos + 1, cs)

theorem readToken_length {pos : Nat} {c : Char} {cs : List Char} {t : Token} {p : Nat} {r : List Char}
    (h : readToken pos c cs = .ok (t, p, r)) : r.length ≤ cs.length := by
  unfold readToken at h
  split at h
  · split at h
    · cases h
    · rename_i hl
      cases h
      exact Nat.le_of_lt (readLiteral_length hl)
  · split at h
    · split at h
      · cases h
      · rename_i hc
        cases h
        exact Nat.le_of_lt (readClass_length hc)
    · split at h
      · split at h
        · cases h
        · rename_i hb
          cases h
          rw [readCode_append hb]
          simp
          omega
      · split at h
        · cases h; simp
        · split at h
          · cases h; simp
          · split at h
            · cases h
              exact (List.dropWhile_sublist _).length_le
            · cases h; simp

theorem skipFrom_length {m : Layout} {pos : Nat} {cs : List Char} {p : Nat} {r : List Char}
    (h : skipFrom m pos cs = .ok (p, r)) : r.length ≤ cs.length := by
  fun_induction skipFrom m pos cs with
  | case1 => cases h; simp
  | case2 _ _ ih => have := ih h; simp; omega
  | case3 _ _ ih => have := ih h; simp; omega
  | case4 _ _ ih => have := ih h; simp; omega
  | case5 _ _ _ _ _ _ _ ih => have := ih h; simp; omega
  | case6 => cases h; simp
  | case7 => cases h; simp
  | case8 _ _ _ ih => have := ih h; simp; omega
  | case9 => cases h
  | case10 _ _ _ ih => have := ih h; simp; omega
  | case11 _ _ _ _ _ ih => have := ih h; simp; omega

/-! ## All tokens -/

/-- The tokens of a source with their offsets. -/
inductive Tokens where
  /-- The source ends. -/
  | done (offset : Nat)
  /-- A comment is not closed. -/
  | halted (error : ReadError)
  /-- What starts with `opening` is no token. -/
  | broken (offset : Nat) (opening : Char) (error : ReadError)
  | cons (offset : Nat) (token : Token) (rest : Tokens)
  deriving Inhabited

/-- The number of tokens. -/
def Tokens.length : Tokens → Nat
  | cons _ _ rest => rest.length + 1
  | _ => 0

/-- The tokens of a text that starts at `pos`. -/
def tokensFrom (pos : Nat) (cs : List Char) : Tokens :=
  match _hs : skipLayout pos cs with
  | .error e => .halted e
  | .ok (p, []) => .done p
  | .ok (p, c :: rest) =>
    match _ht : readToken p c rest with
    | .error e => .broken p c e
    | .ok (t, p', r) => .cons p t (tokensFrom p' r)
termination_by cs.length
decreasing_by
  have h1 := skipFrom_length _hs
  have h2 := readToken_length _ht
  simp at h1
  omega

/-- The tokens of a grammar. -/
def tokenize (source : List Char) : Tokens := tokensFrom 0 source

end PegTemplate
