import Mathlib.Data.Bool.AllAny
import PegTemplate.Proofs.Grammar.Code
import PegTemplate.Text.Quoted

/-!
# How tokens are spelled

* `Token.spelling` : a token as it stands in a source, its strings between quotes of either kind;
* `Token.Spellable` : the tokens that have a spelling. A class has any that is read as that class;
* `Apart`, `readFlag_apart`, `readClass_apart` : what follows a token does not change it;
* `readToken_spelling` : a spelling before a blank is read as its token;
* `Spells` : a text that spells a list of tokens, with blanks between them;
* `Tokens.Lists`, `tokensFrom_lists` : **what spells tokens is read as these tokens.**
-/

namespace PegTemplate
open Unicode

/-! ## Spellings -/

/-- How one code point stands between quotes `q`. A surrogate is no character and is written by its number. -/
def spellCode (q : Char) (c : CodePoint) : List Char :=
  if c = q.toNat ∨ c = 92 then ['\\', Char.ofNat c]
  else if c.isValidChar then [Char.ofNat c]
  else '\\' :: 'u' :: hexDigits 4 c

/-- The characters that are tokens by themselves. -/
def marks : List Char := ['.', '(', ')', '&', '!', '$', '?', '*', '+', ':', '/', ';']

/-- The class is what its spelling is read as. -/
def CharClass.Spelled (m : CharClass) : Prop :=
  ∃ cs p, m.spelling.toList = '[' :: cs ∧ readClass 0 cs = .ok (m, p, [])

namespace Token

/-- A token as it stands in a source, with quotes `q`. -/
def spelling (q : Char) : Token → List Char
  | name x => x.toList
  | literal text ignoreCase => q :: (text.flatMap (spellCode q) ++ q :: if ignoreCase then ['i'] else [])
  | charClass m => m.spelling.toList
  | block code => '{' :: (code.toList ++ ['}'])
  | arrow => ['<', '-']
  | equals _ => ['=']
  | mark c => [c]

/-- The token is what its spelling stands for. -/
def Spellable : Token → Prop
  | name x => isName x.toList = true
  | literal text _ => ∀ c ∈ text, c < 0x110000
  | charClass m => m.Spelled
  | block code => ∀ c ∈ code.toList, isOrdinary c = true
  | arrow => True
  | equals doubled => doubled = false
  | mark c => c ∈ marks

end Token

/-- The text is over or goes on with a blank. -/
def Bounded (cs : List Char) : Prop := ∀ c r, cs = c :: r → isLayout c = true

theorem Bounded.nil : Bounded [] := nofun

theorem Bounded.cons {c : Char} (hc : isLayout c = true) (cs : List Char) : Bounded (c :: cs) := by
  rintro c' r' h
  cases h
  exact hc

theorem isLayout_cases {c : Char} (h : isLayout c = true) : c = ' ' ∨ c = '\t' ∨ c = '\r' ∨ c = '\n' := by
  simpa [isLayout, or_assoc] using h

theorem isNamePart_of_isLayout {c : Char} (h : isLayout c = true) : isNamePart c = false := by
  rcases isLayout_cases h with rfl | rfl | rfl | rfl <;> decide +kernel

theorem isNameStart_of_isLayout {c : Char} (h : isLayout c = true) : isNameStart c = false := by
  rcases isLayout_cases h with rfl | rfl | rfl | rfl <;> decide +kernel

/-- The text is over, or goes on with a blank or a block. -/
def Apart (cs : List Char) : Prop := ∀ c r, cs = c :: r → isLayout c = true ∨ c = '{'

theorem Bounded.apart {cs : List Char} (h : Bounded cs) : Apart cs := fun c r hc => .inl (h c r hc)

/-- No token goes on into such a text. -/
theorem Apart.first {c : Char} {cs : List Char} (h : Apart (c :: cs)) : isNamePart c = false ∧ isNameStart c = false ∧
    c ≠ 'i' ∧ c ≠ '=' ∧ c ≠ '-' ∧ c ≠ '/' ∧ c ≠ '*' := by
  rcases h c cs rfl with hc | rfl
  · refine ⟨isNamePart_of_isLayout hc, isNameStart_of_isLayout hc, ?_⟩
    rcases isLayout_cases hc with rfl | rfl | rfl | rfl <;> decide
  · decide +kernel

/-! ## Names -/

/-- A name does not start like any other token, nor like a comment or a blank. -/
theorem ne_of_isNameStart {c : Char} (h : isNameStart c = true) :
    isQuote c = false ∧ c ≠ '[' ∧ c ≠ '{' ∧ c ≠ '<' ∧ c ≠ '=' ∧ c ≠ '#' ∧ c ≠ '/' ∧ isLayout c = false := by
  have hne : ∀ d : Char, isNameStart d = false → c ≠ d := by
    rintro d hd rfl
    rw [h] at hd
    cases hd
  refine ⟨?_, hne _ (by decide +kernel), hne _ (by decide +kernel), hne _ (by decide +kernel),
    hne _ (by decide +kernel), hne _ (by decide +kernel), hne _ (by decide +kernel), ?_⟩
  · simp [isQuote, hne '\'' (by decide +kernel), hne '"' (by decide +kernel)]
  · rw [← Bool.not_eq_true]
    exact fun hl => absurd (isNameStart_of_isLayout hl) (by rw [h]; decide)

theorem takeWhile_append_bounded {cs rest : List Char} (h : cs.all isNamePart = true) (hr : Bounded rest) :
    (cs ++ rest).takeWhile isNamePart = cs ∧ (cs ++ rest).dropWhile isNamePart = rest := by
  have hcs : ∀ c ∈ cs, isNamePart c = true := List.all_eq_true.1 h
  have hrest : rest.takeWhile isNamePart = [] ∧ rest.dropWhile isNamePart = rest := by
    cases rest with
    | nil => exact ⟨rfl, rfl⟩
    | cons c r => simp [isNamePart_of_isLayout (hr c r rfl)]
  rw [List.takeWhile_append_of_pos hcs, List.dropWhile_append_of_pos hcs, hrest.1, hrest.2, List.append_nil]
  exact ⟨rfl, rfl⟩

theorem readToken_name {c : Char} {cs : List Char} (h : isName (c :: cs) = true) (pos : Nat) {rest : List Char}
    (hr : Bounded rest) :
    readToken pos c (cs ++ rest) = .ok (.name (String.ofList (c :: cs)), pos + 1 + cs.length, rest) := by
  rw [isName, Bool.and_eq_true] at h
  obtain ⟨hq, h1, h2, h3, h4, -⟩ := ne_of_isNameStart h.1
  obtain ⟨htake, hdrop⟩ := takeWhile_append_bounded h.2 hr
  rw [readToken, if_neg (by simp [hq]), if_neg h1, if_neg h2, if_neg (by simp [h3]), if_neg h4, if_pos h.1]
  simp only [htake, hdrop]

/-! ## Strings -/

/-- The flag is told before a blank and before a block as at the end of the text. -/
theorem readFlag_apart {x : List Char} (hx : Apart x) (pos pos' : Nat) (cs : List Char) :
    ∃ p', readFlag pos' (cs ++ x) = ((readFlag pos cs).1, p', (readFlag pos cs).2.2 ++ x) := by
  cases cs with
  | nil =>
    cases x with
    | nil => exact ⟨pos', rfl⟩
    | cons d x =>
      refine ⟨pos', ?_⟩
      rw [List.nil_append, readFlag]
      · rfl
      · rintro r hr
        exact hx.first.2.2.1 (List.cons.inj hr).1
  | cons c cs =>
    by_cases hc : c = 'i'
    · subst hc
      cases cs with
      | nil =>
        cases x with
        | nil => exact ⟨pos' + 1, rfl⟩
        | cons d x =>
          refine ⟨pos' + 1, ?_⟩
          simp [readFlag, hx.first.2.1]
      | cons d cs =>
        by_cases hd : isNameStart d = true
        · exact ⟨pos', by simp [readFlag, hd]⟩
        · exact ⟨pos' + 1, by simp [readFlag, hd]⟩
    · have hne : ∀ {p : Nat} {y : List Char}, readFlag p (c :: y) = (false, p, c :: y) := fun {p y} => by
        rw [readFlag]
        rintro r hr
        exact hc (List.cons.inj hr).1
      exact ⟨pos', by rw [List.cons_append, hne, hne, List.cons_append]⟩

theorem readFlag_bounded (pos : Nat) {rest : List Char} (hr : Bounded rest) (flag : Bool) :
    ∃ p, readFlag pos ((if flag then ['i'] else []) ++ rest) = (flag, p, rest) := by
  obtain ⟨p, hp⟩ := readFlag_apart hr.apart 0 pos (if flag then ['i'] else [])
  cases flag
  · exact ⟨p, hp⟩
  · exact ⟨p, hp⟩

theorem hexValue?_hexDigit : ∀ n < 16, hexValue? (hexDigit n) = some n := by decide

theorem readDigits_hexDigits {c : Nat} (hc : c < 0x10000) (pos : Nat) (rest : List Char) :
    readDigits 4 0 pos (hexDigits 4 c ++ rest) = .ok (c, pos + 4, rest) := by
  have hdigit : ∀ n, hexValue? (hexDigit (n % 16)) = some (n % 16) :=
    fun n => hexValue?_hexDigit _ (Nat.mod_lt n (by decide))
  have hvalue : (((0 * 16 + c / 16 / 16 / 16 % 16) * 16 + c / 16 / 16 % 16) * 16 + c / 16 % 16) * 16 + c % 16 = c := by
    omega
  simp only [hexDigits, List.nil_append, List.cons_append, readDigits, hexDigitOf, hdigit, List.drop_one,
    List.tail_cons, hvalue]

theorem readEscape_self {c : Char} (hc : c ≠ 'n' ∧ c ≠ 'r' ∧ c ≠ 't' ∧ c ≠ '0' ∧ c ≠ 'x' ∧ c ≠ 'u') (pos : Nat)
    (cs : List Char) : readEscape pos (c :: cs) = .ok (c.toNat, pos + 1, cs) := by
  obtain ⟨h1, h2, h3, h4, h5, h6⟩ := hc
  simp only [readEscape]

theorem toNat_ofNat {c : Nat} (h : c.isValidChar) : (Char.ofNat c).toNat = c := by
  unfold Char.ofNat
  rw [dif_pos h]
  rfl

theorem ofNat_ne {c : CodePoint} (h : c.isValidChar) {d : Char} (hd : c ≠ d.toNat) : Char.ofNat c ≠ d := by
  rintro rfl
  exact hd (toNat_ofNat h).symm

theorem readQuoted_escape {q : Char} (hq : isQuote q = true) {pos p : Nat} {cs r : List Char} {c : CodePoint}
    (h : readEscape (pos + 1) cs = .ok (c, p, r)) {text : List CodePoint} {p' : Nat} {r' : List Char}
    (ht : readQuoted q p r = .ok (text, p', r')) : readQuoted q pos ('\\' :: cs) = .ok (c :: text, p', r') := by
  rw [readQuoted, if_neg (ne_of_isQuote hq rfl).symm, if_pos rfl]
  split
  · rename_i he
    rw [h] at he
    cases he
  · rename_i he
    rw [h] at he
    cases he
    rw [ht]

theorem readQuoted_char {q c : Char} (hq : c ≠ q) (hb : c ≠ '\\') {pos : Nat} {cs : List Char}
    {text : List CodePoint} {p : Nat} {r : List Char} (ht : readQuoted q (pos + 1) cs = .ok (text, p, r)) :
    readQuoted q pos (c :: cs) = .ok (c.toNat :: text, p, r) := by
  rw [readQuoted, if_neg hq, if_neg hb, ht]

/-- What is no character is a surrogate. -/
theorem lt_of_not_isValidChar {c : Nat} (h : ¬c.isValidChar) (hc : c < 0x110000) : c < 0x10000 := by
  unfold Nat.isValidChar at h
  omega

/-- One code point is read back in front of what is read already. -/
theorem readQuoted_spellCode {q : Char} (hq : isQuote q = true) {c : CodePoint} (hc : c < 0x110000) {cs r : List Char}
    {text : List CodePoint} (ht : ∀ pos, ∃ p, readQuoted q pos cs = .ok (text, p, r)) (pos : Nat) :
    ∃ p, readQuoted q pos (spellCode q c ++ cs) = .ok (c :: text, p, r) := by
  unfold spellCode
  split_ifs with hescaped hvalid
  · have hv : c.isValidChar := by
      rcases hescaped with rfl | rfl
      · exact q.valid
      · decide
    have hself : readEscape (pos + 1) (Char.ofNat c :: cs) = .ok (c, pos + 2, cs) := by
      have hne : Char.ofNat c = q ∨ Char.ofNat c = '\\' := by
        rcases hescaped with rfl | rfl
        · exact Or.inl (Char.ofNat_toNat q)
        · exact Or.inr rfl
      rw [readEscape_self, toNat_ofNat hv]
      rcases hne with h | h <;> rw [h]
      · exact ⟨ne_of_isQuote hq rfl, ne_of_isQuote hq rfl, ne_of_isQuote hq rfl, ne_of_isQuote hq rfl,
          ne_of_isQuote hq rfl, ne_of_isQuote hq rfl⟩
      · decide
    obtain ⟨p, hp⟩ := ht (pos + 2)
    exact ⟨p, readQuoted_escape hq hself hp⟩
  · rw [not_or] at hescaped
    obtain ⟨p, hp⟩ := ht (pos + 1)
    refine ⟨p, ?_⟩
    rw [List.singleton_append, readQuoted_char (ofNat_ne hvalid hescaped.1) (ofNat_ne hvalid hescaped.2) hp,
      toNat_ofNat hvalid]
  · have hsurrogate := lt_of_not_isValidChar hvalid hc
    have hnumber : readEscape (pos + 1) ('u' :: (hexDigits 4 c ++ cs)) = .ok (c, pos + 2 + 4, cs) :=
      readDigits_hexDigits hsurrogate (pos + 2) cs
    obtain ⟨p, hp⟩ := ht (pos + 2 + 4)
    exact ⟨p, readQuoted_escape hq hnumber hp⟩

theorem readQuoted_spelling {q : Char} (hq : isQuote q = true) {text : List CodePoint} (ht : ∀ c ∈ text, c < 0x110000)
    (rest : List Char) (pos : Nat) :
    ∃ p, readQuoted q pos (text.flatMap (spellCode q) ++ q :: rest) = .ok (text, p, rest) := by
  induction text generalizing pos with
  | nil => exact ⟨pos + 1, by rw [List.flatMap_nil, List.nil_append, readQuoted, if_pos rfl]⟩
  | cons c text ih =>
    rw [List.flatMap_cons, List.append_assoc]
    exact readQuoted_spellCode hq (ht c (List.mem_cons_self ..)) (ih fun d hd => ht d (List.mem_cons_of_mem _ hd)) pos

theorem readToken_literal {q : Char} (hq : isQuote q = true) {text : List CodePoint} (ht : ∀ c ∈ text, c < 0x110000)
    (flag : Bool) (pos : Nat) {rest : List Char} (hr : Bounded rest) :
    ∃ p, readToken pos q (text.flatMap (spellCode q) ++ q :: ((if flag then ['i'] else []) ++ rest)) =
      .ok (.literal text flag, p, rest) := by
  obtain ⟨p, hp⟩ := readQuoted_spelling hq ht ((if flag then ['i'] else []) ++ rest) (pos + 1)
  obtain ⟨p', hp'⟩ := readFlag_bounded p hr flag
  exact ⟨p', by rw [readToken, if_pos hq, readLiteral, hp]; simp only [hp']⟩

/-! ## Classes

What a class is read as depends neither on where it stands nor on what follows its closing bracket.
-/

theorem hexDigitOf_append {cs : List Char} {d : Nat} (h : hexDigitOf cs = .ok d) (x : List Char) :
    hexDigitOf (cs ++ x) = .ok d ∧ (cs ++ x).drop 1 = cs.drop 1 ++ x := by
  cases cs with
  | nil => cases h
  | cons c cs => exact ⟨h, rfl⟩

theorem readTwoDigits_append {pos p : Nat} {cs r : List Char} {c : CodePoint}
    (h : readTwoDigits pos cs = .ok (c, p, r)) (pos' : Nat) (x : List Char) :
    ∃ p', readTwoDigits pos' (cs ++ x) = .ok (c, p', r ++ x) := by
  unfold readTwoDigits at h
  cases hhigh : hexDigitOf cs with
  | error e =>
    rw [hhigh] at h
    cases h
  | ok high =>
    cases hlow : hexDigitOf (cs.drop 1) with
    | error e =>
      rw [hhigh, hlow] at h
      cases h
    | ok low =>
      rw [hhigh, hlow] at h
      cases h
      obtain ⟨h1, h2⟩ := hexDigitOf_append hhigh x
      obtain ⟨h3, h4⟩ := hexDigitOf_append hlow x
      have hdrop : (cs ++ x).drop 2 = cs.drop 2 ++ x := by
        rw [← List.drop_drop (i := 1) (j := 1), h2, h4, List.drop_drop]
      exact ⟨pos' + 2, by rw [readTwoDigits, h1, h2, h3, hdrop]⟩

theorem readDigits_append {n acc pos p : Nat} {cs r : List Char} {c : CodePoint}
    (h : readDigits n acc pos cs = .ok (c, p, r)) (pos' : Nat) (x : List Char) :
    ∃ p', readDigits n acc pos' (cs ++ x) = .ok (c, p', r ++ x) := by
  induction n generalizing acc pos pos' cs with
  | zero =>
    cases h
    exact ⟨pos', rfl⟩
  | succ n ih =>
    rw [readDigits] at h
    cases hd : hexDigitOf cs with
    | error e =>
      rw [hd] at h
      cases h
    | ok d =>
      rw [hd] at h
      obtain ⟨h1, h2⟩ := hexDigitOf_append hd x
      obtain ⟨p', hp'⟩ := ih h (pos' + 1)
      exact ⟨p', by rw [readDigits, h1, h2]; exact hp'⟩

theorem readEscape_append {pos p : Nat} {cs r : List Char} {c : CodePoint} (h : readEscape pos cs = .ok (c, p, r))
    (pos' : Nat) (x : List Char) : ∃ p', readEscape pos' (cs ++ x) = .ok (c, p', r ++ x) := by
  unfold readEscape at h
  split at h
  · cases h
  · cases h; exact ⟨pos' + 1, rfl⟩
  · cases h; exact ⟨pos' + 1, rfl⟩
  · cases h; exact ⟨pos' + 1, rfl⟩
  · cases h; exact ⟨pos' + 1, rfl⟩
  · exact readTwoDigits_append h (pos' + 1) x
  · exact readDigits_append h (pos' + 1) x
  · rename_i h1 h2 h3 h4 h5 h6
    cases h
    exact ⟨pos' + 1, readEscape_self ⟨by simpa using h1, by simpa using h2, by simpa using h3, by simpa using h4,
      by simpa using h5, by simpa using h6⟩ pos' _⟩

theorem readMember_append {pos p : Nat} {cs r : List Char} {c : CodePoint} (h : readMember pos cs = .ok (c, p, r))
    (pos' : Nat) (x : List Char) : ∃ p', readMember pos' (cs ++ x) = .ok (c, p', r ++ x) := by
  unfold readMember at h
  split at h
  · cases h
  · exact readEscape_append h (pos' + 1) x
  · rename_i c cs hb
    cases h
    refine ⟨pos' + 1, ?_⟩
    rw [List.cons_append, readMember]
    exact fun h => hb (by simpa using h)

theorem rangeEnd?_of_ne {c : Char} (hc : c ≠ '-') (cs : List Char) : rangeEnd? (c :: cs) = none := by
  unfold rangeEnd?
  split
  · rename_i h
    cases h
    exact absurd rfl hc
  · rfl

theorem rangeEnd?_append_of_some {cs last : List Char} (h : rangeEnd? cs = some last) (x : List Char) :
    rangeEnd? (cs ++ x) = some (last ++ x) := by
  unfold rangeEnd? at h
  split at h
  · split_ifs at h with hc
    cases h
    exact if_neg hc
  · cases h

theorem readMembers_hyphen (start pos : Nat) (x : (List (CodePoint × CodePoint) × List CodePoint) × Nat × List Char) :
    readMembers start pos ['-'] ≠ .ok x := by
  intro h
  rw [readMembers] at h
  · split at h
    · cases h
    · rename_i ha
      cases ha
      split at h
      · rw [readMembers] at h
        cases h
      · rename_i hr
        cases hr
  · decide

/-- A class does not end in a hyphen, so that what follows the class is not needed to tell a range. -/
theorem rangeEnd?_append_of_none {start pos p : Nat} {cs r : List Char}
    {m : List (CodePoint × CodePoint) × List CodePoint} (h : readMembers start pos cs = .ok (m, p, r))
    (hr : rangeEnd? cs = none) (x : List Char) : rangeEnd? (cs ++ x) = none := by
  cases cs with
  | nil =>
    rw [readMembers] at h
    cases h
  | cons c cs =>
    by_cases hc : c = '-'
    · subst hc
      cases cs with
      | nil => exact absurd h (readMembers_hyphen start pos _)
      | cons d cs =>
        by_cases hd : d = ']'
        · exact if_pos hd
        · rw [rangeEnd?, if_neg hd] at hr
          cases hr
    · exact rangeEnd?_of_ne hc _

theorem readMembers_single {start pos p p' : Nat} {c : Char} {cs r r' : List Char} (hc : c ≠ ']') {a : CodePoint}
    {ranges : List (CodePoint × CodePoint)} {singles : List CodePoint} (ha : readMember pos (c :: cs) = .ok (a, p, r))
    (hr : rangeEnd? r = none) (h : readMembers start p r = .ok ((ranges, singles), p', r')) :
    readMembers start pos (c :: cs) = .ok ((ranges, a :: singles), p', r') := by
  rw [readMembers]
  · split
    · rename_i he
      rw [ha] at he
      cases he
    · rename_i he
      rw [ha] at he
      cases he
      split
      · rw [h]
      · rename_i he
        rw [hr] at he
        cases he
  · exact hc

theorem readMembers_range {start pos p p' p'' : Nat} {c : Char} {cs r last r' r'' : List Char} (hc : c ≠ ']')
    {a b : CodePoint} {ranges : List (CodePoint × CodePoint)} {singles : List CodePoint}
    (ha : readMember pos (c :: cs) = .ok (a, p, r)) (hr : rangeEnd? r = some last)
    (hb : readMember (p + 1) last = .ok (b, p', r')) (hab : ¬a > b)
    (h : readMembers start p' r' = .ok ((ranges, singles), p'', r'')) :
    readMembers start pos (c :: cs) = .ok (((a, b) :: ranges, singles), p'', r'') := by
  rw [readMembers]
  · split
    · rename_i he
      rw [ha] at he
      cases he
    · rename_i he
      rw [ha] at he
      cases he
      split
      · rename_i he
        rw [hr] at he
        cases he
      · rename_i he
        rw [hr] at he
        cases he
        split
        · rename_i he
          rw [hb] at he
          cases he
        · rename_i he
          rw [hb] at he
          cases he
          rw [if_neg hab, h]
  · exact hc

theorem readMembers_append {start pos p : Nat} {cs r : List Char} {m : List (CodePoint × CodePoint) × List CodePoint}
    (h : readMembers start pos cs = .ok (m, p, r)) (start' pos' : Nat) (x : List Char) :
    ∃ p', readMembers start' pos' (cs ++ x) = .ok (m, p', r ++ x) := by
  induction hn : cs.length using Nat.strongRecOn generalizing pos cs m p r pos' with
  | ind n ih =>
    subst hn
    unfold readMembers at h
    split at h
    · cases h
    · cases h
      exact ⟨pos' + 1, by rw [List.cons_append, readMembers]⟩
    · rename_i c cs hc
      have hc' : c ≠ ']' := fun he => hc (by simpa using he)
      split at h
      · cases h
      · rename_i ha
        obtain ⟨pa, hpa⟩ := readMember_append ha pos' x
        have hlt := readMember_length ha
        split at h
        · rename_i hr
          split at h
          · cases h
          · rename_i hm
            cases h
            obtain ⟨p', hp'⟩ := ih _ hlt hm pa rfl
            exact ⟨p', readMembers_single hc' hpa (rangeEnd?_append_of_none hm hr x) hp'⟩
        · rename_i last hr
          split at h
          · cases h
          · rename_i hb
            split at h
            · cases h
            · rename_i hab
              split at h
              · cases h
              · rename_i hm
                cases h
                obtain ⟨pb, hpb⟩ := readMember_append hb (pa + 1) x
                have hlast := rangeEnd?_length hr
                obtain ⟨p', hp'⟩ := ih _ (by have := readMember_length hb; omega) hm pb rfl
                exact ⟨p', readMembers_range hc' hpa (rangeEnd?_append_of_some hr x) hpb hab hp'⟩

/-- The flag at the end of a class is told before a blank as at the end of the text. -/
theorem readFlag_append {pos p : Nat} {cs : List Char} {flag : Bool} (h : readFlag pos cs = (flag, p, [])) (pos' : Nat)
    {rest : List Char} (hr : Bounded rest) : ∃ p', readFlag pos' (cs ++ rest) = (flag, p', rest) := by
  have hflag := readFlag_apart hr.apart pos pos' cs
  rwa [h] at hflag

/-- The caret that may come first is passed over. -/
def skipCaret (cs : List Char) : Nat := if cs.head? = some '^' then 1 else 0

theorem readClass_eq (start : Nat) (cs : List Char) : readClass start cs =
    match readMembers start (start + 1 + skipCaret cs) (cs.drop (skipCaret cs)) with
    | .error e => .error e
    | .ok ((ranges, singles), p, r) => .ok (⟨cs.head? = some '^', ranges, singles, (readFlag p r).1,
        String.ofList ('[' :: cs.take (cs.length - (readFlag p r).2.2.length))⟩, (readFlag p r).2) := rfl

/-- What is between brackets depends neither on where it stands nor on a blank or a block behind it. -/
theorem readClass_apart {start p : Nat} {cs r : List Char} {m : CharClass} (h : readClass start cs = .ok (m, p, r))
    (start' : Nat) {x : List Char} (hx : Apart x) : ∃ p', readClass start' (cs ++ x) = .ok (m, p', r ++ x) := by
  cases cs with
  | nil => simp [readClass, readMembers] at h
  | cons c cs =>
    have hlength := readClass_length h
    rw [readClass_eq] at h
    split at h
    · cases h
    · rename_i ranges singles p₁ r₁ hm
      injection h with h
      obtain ⟨rfl, hafter⟩ := Prod.mk.inj h
      obtain rfl : (readFlag p₁ r₁).2.2 = r := congrArg Prod.snd hafter
      obtain ⟨p₂, hp₂⟩ := readMembers_append hm start' (start' + 1 + skipCaret (c :: cs)) x
      obtain ⟨p₃, hp₃⟩ := readFlag_apart hx p₁ p₂ r₁
      have hskip : (c :: (cs ++ x)).drop (skipCaret (c :: cs)) = (c :: cs).drop (skipCaret (c :: cs)) ++ x := by
        unfold skipCaret
        split_ifs <;> rfl
      have hcaret : skipCaret (c :: (cs ++ x)) = skipCaret (c :: cs) := rfl
      have hnegated : decide ((c :: (cs ++ x)).head? = some '^') = decide ((c :: cs).head? = some '^') := rfl
      have hspelling : (c :: (cs ++ x)).take ((c :: (cs ++ x)).length - ((readFlag p₁ r₁).2.2 ++ x).length) =
          (c :: cs).take ((c :: cs).length - (readFlag p₁ r₁).2.2.length) := by
        rw [← List.cons_append, List.length_append, List.length_append, Nat.add_sub_add_right,
          List.take_append_of_le_length (Nat.sub_le _ _)]
      refine ⟨p₃, ?_⟩
      rw [List.cons_append, readClass_eq, hcaret, hskip, hp₂]
      simp only [hp₃, hspelling, hnegated]

theorem readClass_append {start p : Nat} {cs : List Char} {m : CharClass} (h : readClass start cs = .ok (m, p, []))
    (start' : Nat) {rest : List Char} (hr : Bounded rest) :
    ∃ p', readClass start' (cs ++ rest) = .ok (m, p', rest) := readClass_apart h start' hr.apart

theorem readToken_charClass {m : CharClass} {cs : List Char} {p : Nat}
    (h : readClass 0 cs = .ok (m, p, [])) (pos : Nat) {rest : List Char} (hr : Bounded rest) :
    ∃ p', readToken pos '[' (cs ++ rest) = .ok (.charClass m, p', rest) := by
  obtain ⟨p', hp'⟩ := readClass_append h pos hr
  refine ⟨p', ?_⟩
  rw [readToken, if_neg (by decide), if_pos rfl, hp']

/-! ## Blocks -/

theorem scannedCode_of_ordinary {cs : List Char} (h : ∀ c ∈ cs, isOrdinary c = true) : ScannedCode cs := by
  induction cs with
  | nil => exact .nil
  | cons c cs ih => exact .ordinary (h c (List.mem_cons_self ..)) (ih fun d hd => h d (List.mem_cons_of_mem _ hd))

theorem readToken_code {code : String} (h : ∀ c ∈ code.toList, isOrdinary c = true) (pos : Nat) (rest : List Char) :
    readToken pos '{' (code.toList ++ '}' :: rest) = .ok (.block code, pos + code.toList.length + 2, rest) := by
  rw [(readExactly_iff_scanned code.toList).2 (scannedCode_of_ordinary h) pos rest, String.ofList_toList]

/-! ## Tokens -/

theorem readToken_mark {c : Char} (hc : c ∈ marks) (pos : Nat) (rest : List Char) :
    readToken pos c rest = .ok (.mark c, pos + 1, rest) := by
  have hmarks : ∀ c ∈ marks, isQuote c = false ∧ c ≠ '[' ∧ c ≠ '{' ∧ c ≠ '<' ∧ c ≠ '=' ∧ isNameStart c = false :=
    List.all_iff_forall_prop.mp (by decide +kernel)
  obtain ⟨h1, h2, h3, h4, h5, h6⟩ := hmarks c hc
  rw [readToken, if_neg (by simp [h1]), if_neg h2, if_neg h3, if_neg (by simp [h4]), if_neg h5, if_neg (by simp [h6])]

theorem skipLayout_of_ne {c : Char} (hl : isLayout c = false) (hc : c ≠ '#') {cs : List Char}
    (hs : c ≠ '/' ∨ Bounded cs) (pos : Nat) : skipLayout pos (c :: cs) = .ok (pos, c :: cs) := by
  have hslash : ∀ d r, isLayout d = false → c = '/' → cs ≠ d :: r := by
    rintro d r hd hc rfl
    rcases hs with hs | hs
    · exact hs hc
    · rw [hs d r rfl] at hd
      cases hd
  rw [skipLayout, skipFrom, if_neg (by simp [hl])]
  · exact fun r => hslash '*' r rfl
  · exact fun r => hslash '/' r rfl
  · exact hc

/-- A spelling before a blank is no blank and no comment, and is read as its token. -/
theorem readToken_spelling {t : Token} (ht : t.Spellable) {q : Char} (hq : isQuote q = true) (pos : Nat)
    {rest : List Char} (hr : Bounded rest) : ∃ c cs p, t.spelling q ++ rest = c :: cs ∧
      skipLayout pos (c :: cs) = .ok (pos, c :: cs) ∧ readToken pos c cs = .ok (t, p, rest) := by
  cases t with
  | name x =>
    cases hx : x.toList with
    | nil =>
      rw [Token.Spellable, hx] at ht
      cases ht
    | cons c cs =>
      rw [Token.Spellable, hx] at ht
      obtain ⟨-, -, -, -, -, hhash, hslash, hl⟩ := ne_of_isNameStart (Bool.and_eq_true_iff.1 ht).1
      refine ⟨c, cs ++ rest, pos + 1 + cs.length, by rw [Token.spelling, hx]; rfl,
        skipLayout_of_ne hl hhash (Or.inl hslash) pos, ?_⟩
      rw [readToken_name ht pos hr, ← hx, String.ofList_toList]
  | literal text flag =>
    obtain ⟨p, hp⟩ := readToken_literal hq ht flag pos hr
    refine ⟨q, _, p, by simp [Token.spelling], skipLayout_of_ne ?_ (ne_of_isQuote hq rfl)
      (Or.inl (ne_of_isQuote hq rfl)) pos, hp⟩
    simp [isLayout, ne_of_isQuote hq (c := ' ') rfl, ne_of_isQuote hq (c := '\t') rfl,
      ne_of_isQuote hq (c := '\r') rfl, ne_of_isQuote hq (c := '\n') rfl]
  | charClass m =>
    obtain ⟨cs, p, hs, hread⟩ := ht
    obtain ⟨p', hp'⟩ := readToken_charClass hread pos hr
    exact ⟨'[', cs ++ rest, p', by rw [Token.spelling, hs]; rfl,
      skipLayout_of_ne rfl (by decide) (Or.inl (by decide)) pos, hp'⟩
  | block code =>
    exact ⟨'{', code.toList ++ '}' :: rest, _, by simp [Token.spelling],
      skipLayout_of_ne rfl (by decide) (Or.inl (by decide)) pos, readToken_code ht pos rest⟩
  | arrow =>
    exact ⟨'<', '-' :: rest, _, rfl, skipLayout_of_ne rfl (by decide) (Or.inl (by decide)) pos, rfl⟩
  | equals doubled =>
    obtain rfl : doubled = false := ht
    refine ⟨'=', rest, pos + 1, rfl, skipLayout_of_ne rfl (by decide) (Or.inl (by decide)) pos, ?_⟩
    have hne : rest.head? ≠ some '=' := by
      intro h
      obtain ⟨r, rfl⟩ := List.head?_eq_some_iff.1 h
      cases hr _ _ rfl
    rw [readToken, if_neg (by decide), if_neg (by decide), if_neg (by decide), if_neg (by simp), if_pos rfl,
      decide_eq_false hne]
  | mark c =>
    have hmark : ∀ c ∈ marks, isLayout c = false ∧ c ≠ '#' := List.all_iff_forall_prop.mp (by decide)
    exact ⟨c, rest, pos + 1, rfl, skipLayout_of_ne (hmark c ht).1 (hmark c ht).2 (Or.inr hr) pos,
      readToken_mark ht pos rest⟩

/-! ## Texts -/

/-- A text that spells these tokens, each of them followed by a blank or the end. -/
inductive Spells : List Token → List Char → Prop
  | nil : Spells [] []
  | blank {c : Char} {ts : List Token} {cs : List Char} (hc : isLayout c = true) (h : Spells ts cs) : Spells ts (c :: cs)
  | token {q : Char} {t : Token} {ts : List Token} {cs : List Char} (hq : isQuote q = true) (hb : Bounded cs)
    (h : Spells ts cs) : Spells (t :: ts) (t.spelling q ++ cs)

/-- The tokens of the list, at whatever offsets. -/
inductive Tokens.Lists : Tokens → List Token → Prop
  | done (p : Nat) : Lists (.done p) []
  | cons (p : Nat) (t : Token) {ts : Tokens} {l : List Token} (h : Lists ts l) : Lists (.cons p t ts) (t :: l)

theorem tokensFrom_eq (pos : Nat) (cs : List Char) : tokensFrom pos cs =
    match skipLayout pos cs with
    | .error e => .halted e
    | .ok (p, []) => .done p
    | .ok (p, c :: rest) => match readToken p c rest with
      | .error e => .broken p c e
      | .ok (t, p', r) => .cons p t (tokensFrom p' r) := by
  rw [tokensFrom]
  split
  · rename_i hs
    rw [hs]
  · rename_i hs
    rw [hs]
  · rename_i hs
    rw [hs]
    dsimp only
    split
    · rename_i ht
      rw [ht]
    · rename_i ht
      rw [ht]

/-- Only what follows the layout counts. -/
theorem tokensFrom_congr {pos pos' : Nat} {cs ds : List Char} (h : skipLayout pos cs = skipLayout pos' ds) :
    tokensFrom pos cs = tokensFrom pos' ds := by
  rw [tokensFrom_eq, tokensFrom_eq, h]

theorem tokensFrom_done {pos p : Nat} {cs : List Char} (h : skipLayout pos cs = .ok (p, [])) :
    tokensFrom pos cs = .done p := by
  rw [tokensFrom_eq, h]

theorem tokensFrom_cons {pos p p' : Nat} {cs r r' : List Char} {c : Char} {t : Token}
    (h : skipLayout pos cs = .ok (p, c :: r)) (ht : readToken p c r = .ok (t, p', r')) :
    tokensFrom pos cs = .cons p t (tokensFrom p' r') := by
  rw [tokensFrom_eq, h]
  dsimp only
  rw [ht]

theorem skipLayout_blank {c : Char} (hc : isLayout c = true) (pos : Nat) (cs : List Char) :
    skipLayout pos (c :: cs) = skipLayout (pos + 1) cs := by
  rcases isLayout_cases hc with rfl | rfl | rfl | rfl <;> rfl

/-- **What spells tokens is read as these tokens.** -/
theorem tokensFrom_lists {ts : List Token} {cs : List Char} (h : Spells ts cs) (hts : ∀ t ∈ ts, t.Spellable)
    (pos : Nat) : (tokensFrom pos cs).Lists ts := by
  -- Blanks in front of the text make no difference, so they are left to `skipLayout`.
  suffices hall : ∀ pos pos' cs', skipLayout pos' cs' = skipLayout pos cs → (tokensFrom pos' cs').Lists ts from
    hall pos pos cs rfl
  clear pos
  induction h with
  | nil =>
    intro pos pos' cs' hskip
    rw [tokensFrom_done hskip]
    exact .done pos
  | blank hc _ ih =>
    intro pos pos' cs' hskip
    rw [skipLayout_blank hc] at hskip
    exact ih hts _ _ _ hskip
  | @token q t ts cs hq hb _ ih =>
    intro pos pos' cs' hskip
    obtain ⟨c, r, p, hcs, hlayout, hread⟩ := readToken_spelling (hts t (List.mem_cons_self ..)) hq pos hb
    rw [hcs, hlayout] at hskip
    rw [tokensFrom_cons hskip hread]
    exact .cons pos t (ih (fun t ht => hts t (List.mem_cons_of_mem _ ht)) p p cs rfl)

end PegTemplate
