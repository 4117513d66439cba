import Mathlib.Data.List.Forall2
import PegTemplate.Proofs.Grammar.Spelling

/-!
# All ways to write a character

A grammar may write a character by itself, behind a backslash, by a letter, or by its number in hexadecimal digits of
either case.

* `SpeltAs`, `ClassItem.SpeltAs` : what may stand for a code point, and for an item of a class;
* `SpeltAs.cases` : that is the character itself, or an escape, which is read as the code point;
* `readQuoted_spelt`, `readMembers_spelt` : what is spelt is read back, whatever the spellings and whatever follows;
* `flagged`, `readFlag_eq` : the letter that makes a token ignore case;
* `spelt_read` : **every spelling of a string and every spelling of a class are read as that string and that class.**
-/

namespace PegTemplate
open Unicode List

/-! ## Spellings -/

/-- The letters that mean something behind a backslash. -/
def escapeLetters : List Char := ['n', 'r', 't', '0', 'x', 'u']

/-- The last `width` hexadecimal digits of `n`, each in either case. -/
def DigitsOf (width n : Nat) (ds : List Char) : Prop :=
  Forall₂ (fun lower d => d = lower ∨ d = lower.toUpper) (hexDigits width n) ds

instance (width n : Nat) (ds : List Char) : Decidable (DigitsOf width n ds) :=
  inferInstanceAs (Decidable (Forall₂ _ _ _))

/-- The text may stand for the code point, where the `reserved` characters do not stand for themselves. -/
inductive SpeltAs (reserved : List Char) : CodePoint → List Char → Prop
  | itself {c : Char} (h : c ∉ reserved) : SpeltAs reserved c.toNat [c]
  | escaped {c : Char} (h : c ∉ escapeLetters) : SpeltAs reserved c.toNat ['\\', c]
  | lineFeed : SpeltAs reserved 10 ['\\', 'n']
  | carriageReturn : SpeltAs reserved 13 ['\\', 'r']
  | tab : SpeltAs reserved 9 ['\\', 't']
  | null : SpeltAs reserved 0 ['\\', '0']
  | twoDigits {n : Nat} {ds : List Char} (hn : n < 0x100) (h : DigitsOf 2 n ds) :
    SpeltAs reserved n ('\\' :: 'x' :: ds)
  | fourDigits {n : Nat} {ds : List Char} (hn : n < 0x10000) (h : DigitsOf 4 n ds) :
    SpeltAs reserved n ('\\' :: 'u' :: ds)

/-- What a class lists. -/
inductive ClassItem where
  | single (c : CodePoint)
  | range (first last : CodePoint)
  deriving DecidableEq

namespace ClassItem

/-- The code point that a single item is. -/
def single? : ClassItem → Option CodePoint
  | single c => some c
  | range .. => none

/-- The ends of a range. -/
def range? : ClassItem → Option (CodePoint × CodePoint)
  | single _ => none
  | range a b => some (a, b)

/-- The characters that never stand for themselves between brackets. -/
def reserved : List Char := [']', '\\', '-', '^']

/-- The text may stand for the item. -/
inductive SpeltAs : ClassItem → List Char → Prop
  | single {c : CodePoint} {s : List Char} (h : PegTemplate.SpeltAs reserved c s) : SpeltAs (single c) s
  | range {a b : CodePoint} {s t : List Char} (hab : a ≤ b) (hs : PegTemplate.SpeltAs reserved a s)
    (ht : PegTemplate.SpeltAs reserved b t) : SpeltAs (range a b) (s ++ '-' :: t)

end ClassItem

/-! ## Escapes -/

theorem hexValue?_of_case {n : Nat} (hn : n < 16) {d : Char} (h : d = hexDigit n ∨ d = (hexDigit n).toUpper) :
    hexValue? d = some n := by
  have hall : ∀ n < 16, hexValue? (hexDigit n) = some n ∧ hexValue? (hexDigit n).toUpper = some n := by decide
  rcases h with rfl | rfl
  · exact (hall n hn).1
  · exact (hall n hn).2

theorem hexDigitOf_of_case {n : Nat} {d : Char} (h : d = hexDigit (n % 16) ∨ d = (hexDigit (n % 16)).toUpper)
    (cs : List Char) : hexDigitOf (d :: cs) = .ok (n % 16) := by
  rw [hexDigitOf, hexValue?_of_case (Nat.mod_lt n (by decide)) h]

theorem readTwoDigits_digitsOf {n : Nat} (hn : n < 0x100) {ds : List Char} (h : DigitsOf 2 n ds) (pos : Nat)
    (rest : List Char) : readTwoDigits pos (ds ++ rest) = .ok (n, pos + ds.length, rest) := by
  obtain ⟨high, _, hhigh, htail, rfl⟩ := forall₂_cons_left_iff.mp h
  obtain ⟨low, _, hlow, hnil, rfl⟩ := forall₂_cons_left_iff.mp htail
  obtain rfl := forall₂_nil_left_iff.mp hnil
  have hvalue : n / 16 % 16 * 16 + n % 16 = n := by omega
  simp only [cons_append, nil_append, readTwoDigits, hexDigitOf_of_case hhigh, hexDigitOf_of_case hlow, drop_succ_cons,
    drop_zero, hvalue, length_cons, length_nil]

theorem readDigits_digitsOf {n : Nat} (hn : n < 0x10000) {ds : List Char} (h : DigitsOf 4 n ds) (pos : Nat)
    (rest : List Char) : readDigits 4 0 pos (ds ++ rest) = .ok (n, pos + ds.length, rest) := by
  obtain ⟨d₁, _, h₁, htail₁, rfl⟩ := forall₂_cons_left_iff.mp h
  obtain ⟨d₂, _, h₂, htail₂, rfl⟩ := forall₂_cons_left_iff.mp htail₁
  obtain ⟨d₃, _, h₃, htail₃, rfl⟩ := forall₂_cons_left_iff.mp htail₂
  obtain ⟨d₄, _, h₄, hnil, rfl⟩ := forall₂_cons_left_iff.mp htail₃
  obtain rfl := forall₂_nil_left_iff.mp hnil
  have hvalue : (((0 * 16 + n / 16 / 16 / 16 % 16) * 16 + n / 16 / 16 % 16) * 16 + n / 16 % 16) * 16 + n % 16 = n := by
    omega
  simp only [cons_append, nil_append, readDigits, hexDigitOf_of_case h₁, hexDigitOf_of_case h₂, hexDigitOf_of_case h₃,
    hexDigitOf_of_case h₄, drop_succ_cons, drop_zero, hvalue, length_cons, length_nil]

namespace SpeltAs

variable {reserved : List Char} {c : CodePoint} {s : List Char}

/-- What may stand for a code point: the character itself, or a backslash and what is read as the code point. -/
theorem cases (h : SpeltAs reserved c s) :
    (∃ d, d ∉ reserved ∧ s = [d] ∧ c = d.toNat) ∨
      ∃ t, s = '\\' :: t ∧ ∀ pos rest, readEscape pos (t ++ rest) = .ok (c, pos + t.length, rest) := by
  cases h with
  | @itself d hd => exact .inl ⟨d, hd, rfl, rfl⟩
  | @escaped d hd =>
    refine .inr ⟨[d], rfl, fun pos rest => readEscape_self ?_ pos rest⟩
    simpa [escapeLetters] using hd
  | lineFeed => exact .inr ⟨['n'], rfl, fun pos rest => rfl⟩
  | carriageReturn => exact .inr ⟨['r'], rfl, fun pos rest => rfl⟩
  | tab => exact .inr ⟨['t'], rfl, fun pos rest => rfl⟩
  | null => exact .inr ⟨['0'], rfl, fun pos rest => rfl⟩
  | twoDigits hn hds =>
    refine .inr ⟨'x' :: _, rfl, fun pos rest => ?_⟩
    rw [cons_append, readEscape, readTwoDigits_digitsOf hn hds, length_cons, Nat.add_right_comm, Nat.add_assoc]
  | fourDigits hn hds =>
    refine .inr ⟨'u' :: _, rfl, fun pos rest => ?_⟩
    rw [cons_append, readEscape, readDigits_digitsOf hn hds, length_cons, Nat.add_right_comm, Nat.add_assoc]

/-- The first character is a backslash, or stands for itself. -/
theorem exists_cons (h : SpeltAs reserved c s) : ∃ d t, s = d :: t ∧ (d = '\\' ∨ d ∉ reserved) := by
  rcases h.cases with ⟨d, hd, rfl, -⟩ | ⟨t, rfl, -⟩
  · exact ⟨d, [], rfl, .inr hd⟩
  · exact ⟨'\\', t, rfl, .inl rfl⟩

end SpeltAs

/-! ## Strings -/

/-- A string is read back up to the quote that closes it. -/
theorem readQuoted_spelt {q : Char} (hq : isQuote q = true) {text : List CodePoint} {pieces : List (List Char)}
    (h : Forall₂ (SpeltAs [q, '\\']) text pieces) (pos : Nat) (rest : List Char) :
    readQuoted q pos (pieces.flatten ++ q :: rest) = .ok (text, pos + pieces.flatten.length + 1, rest) := by
  induction h generalizing pos with
  | nil => rw [flatten_nil, nil_append, readQuoted, if_pos rfl, length_nil, Nat.add_zero]
  | @cons c s text pieces hc _ ih =>
    have hpos : ∀ k, pos + k + pieces.flatten.length + 1 = pos + (k + pieces.flatten.length) + 1 := fun k => by omega
    rw [flatten_cons, append_assoc, length_append]
    rcases hc.cases with ⟨d, hd, rfl, rfl⟩ | ⟨t, rfl, ht⟩
    · rw [mem_cons, mem_singleton, not_or] at hd
      rw [singleton_append, readQuoted_char hd.1 hd.2 (ih (pos + 1)), length_singleton, hpos]
    · rw [cons_append, readQuoted_escape hq (ht (pos + 1) _) (ih _), length_cons, ← hpos, Nat.add_right_comm pos 1,
        Nat.add_assoc pos]

/-! ## The letter that ignores case -/

/-- The text starts with the letter `i`, and no name starts behind it. -/
def flagged (cs : List Char) : Bool := cs.head? == some 'i' && !cs.tail.head?.any isNameStart

/-- The letter after a token that ignores case. -/
def caseLetter (flag : Bool) : List Char := if flag then ['i'] else []

theorem readFlag_eq (pos : Nat) (cs : List Char) :
    readFlag pos cs = (flagged cs, pos + (caseLetter (flagged cs)).length, cs.drop (caseLetter (flagged cs)).length) ∧
      caseLetter (flagged cs) ++ cs.drop (caseLetter (flagged cs)).length = cs := by
  unfold readFlag
  split
  · split
    · exact ⟨rfl, rfl⟩
    · rename_i c cs
      cases hc : isNameStart c <;> simp [flagged, caseLetter, hc]
  · rename_i hne
    have hflag : flagged cs = false := by
      cases cs with
      | nil => rfl
      | cons c cs =>
        have hc : c ≠ 'i' := fun he => hne cs (by rw [he])
        simp [flagged, hc]
    rw [hflag]
    exact ⟨rfl, rfl⟩

/-! ## Classes -/

theorem readMember_spelt {reserved : List Char} (hb : '\\' ∈ reserved) {c : CodePoint} {s : List Char}
    (h : SpeltAs reserved c s) (pos : Nat) (rest : List Char) :
    readMember pos (s ++ rest) = .ok (c, pos + s.length, rest) := by
  rcases h.cases with ⟨d, hd, rfl, rfl⟩ | ⟨t, rfl, ht⟩
  · have hne : d ≠ '\\' := fun he => hd (he ▸ hb)
    rw [singleton_append, readMember]
    · rfl
    · exact hne
  · rw [cons_append, readMember, ht, length_cons, Nat.add_right_comm, Nat.add_assoc]

namespace ClassItem

/-- What stands for a code point between brackets starts with no character that means something there, but perhaps with
a backslash. -/
theorem exists_cons_of_spelt {c : CodePoint} {s : List Char} (h : PegTemplate.SpeltAs reserved c s) :
    ∃ d t, s = d :: t ∧ d ≠ ']' ∧ d ≠ '-' ∧ d ≠ '^' := by
  obtain ⟨d, t, rfl, hd⟩ := h.exists_cons
  refine ⟨d, t, rfl, ?_⟩
  rcases hd with rfl | hd
  · decide
  · simp only [reserved, mem_cons, not_mem_nil, or_false, not_or] at hd
    exact ⟨hd.1, hd.2.2.1, hd.2.2.2⟩

/-- No hyphen follows an item that would make it the start of a range, and no caret comes first. -/
theorem rangeEnd?_spelt {items : List ClassItem} {pieces : List (List Char)} (h : Forall₂ SpeltAs items pieces)
    (rest : List Char) :
    rangeEnd? (pieces.flatten ++ ']' :: rest) = none ∧ (pieces.flatten ++ ']' :: rest).head? ≠ some '^' := by
  have hcons : ∀ {c s cs}, PegTemplate.SpeltAs reserved c s →
      rangeEnd? (s ++ cs) = none ∧ (s ++ cs).head? ≠ some '^' := by
    intro c s cs hs
    obtain ⟨d, t, rfl, -, hhyphen, hcaret⟩ := exists_cons_of_spelt hs
    exact ⟨rangeEnd?_of_ne hhyphen _, by simpa using hcaret⟩
  cases h with
  | nil => exact ⟨rangeEnd?_of_ne (by decide) rest, by simp⟩
  | cons hi _ =>
    rw [flatten_cons, append_assoc]
    cases hi with
    | single hs => exact hcons hs
    | range hab hs ht =>
      rw [append_assoc]
      exact hcons hs

/-- An item is read back in front of what is read already. -/
theorem SpeltAs.readMembers {i : ClassItem} {s : List Char} (h : i.SpeltAs s) {start pos p : Nat} {cs r : List Char}
    {ranges : List (CodePoint × CodePoint)} {singles : List CodePoint} (hcs : rangeEnd? cs = none)
    (hread : readMembers start (pos + s.length) cs = .ok ((ranges, singles), p, r)) :
    PegTemplate.readMembers start pos (s ++ cs) =
      .ok ((i.range?.toList ++ ranges, i.single?.toList ++ singles), p, r) := by
  have hbackslash : '\\' ∈ reserved := by decide
  cases h with
  | single hs =>
    have hmember := readMember_spelt hbackslash hs pos cs
    obtain ⟨d, u, rfl, hbracket, -, -⟩ := exists_cons_of_spelt hs
    exact readMembers_single hbracket hmember hcs hread
  | @range a b s t hab hs ht =>
    have hfirst := readMember_spelt hbackslash hs pos ('-' :: (t ++ cs))
    have hlast := readMember_spelt hbackslash ht (pos + s.length + 1) cs
    have hend : rangeEnd? ('-' :: (t ++ cs)) = some (t ++ cs) := by
      obtain ⟨e, v, rfl, hbracket, -, -⟩ := exists_cons_of_spelt ht
      exact if_neg hbracket
    have hpos : pos + (s ++ '-' :: t).length = pos + s.length + 1 + t.length := by
      rw [length_append, length_cons]
      omega
    rw [hpos] at hread
    obtain ⟨d, u, rfl, hbracket, -, -⟩ := exists_cons_of_spelt hs
    rw [append_assoc, cons_append, cons_append]
    exact readMembers_range hbracket hfirst hend hlast (Nat.not_lt.mpr hab) hread

end ClassItem

/-- The items of a class are read back up to the bracket that closes it. -/
theorem readMembers_spelt {items : List ClassItem} {pieces : List (List Char)}
    (h : Forall₂ ClassItem.SpeltAs items pieces) (start pos : Nat) (rest : List Char) :
    readMembers start pos (pieces.flatten ++ ']' :: rest) =
      .ok ((items.filterMap ClassItem.range?, items.filterMap ClassItem.single?), pos + pieces.flatten.length + 1,
        rest) := by
  induction h generalizing pos with
  | nil =>
    rw [flatten_nil, nil_append, readMembers]
    rfl
  | @cons i s items pieces hi hitems ih =>
    have hcons : ∀ {α : Type} (f : ClassItem → Option α),
        (i :: items).filterMap f = (f i).toList ++ items.filterMap f := by
      intro α f
      cases hf : f i <;> simp [hf]
    have hrest := ih (pos + s.length)
    rw [Nat.add_assoc pos] at hrest
    rw [flatten_cons, append_assoc, length_append, hcons, hcons]
    exact hi.readMembers (ClassItem.rangeEnd?_spelt hitems rest).1 hrest

/-- The caret of a class that lists what is no member. -/
def caret (negated : Bool) : List Char := if negated then ['^'] else []

/-- A class as it stands in a source: its items and the letter that ignores case. -/
def classText (negated : Bool) (pieces : List (List Char)) (flag : Bool) : List Char :=
  '[' :: (caret negated ++ pieces.flatten ++ ']' :: caseLetter flag)

theorem readClass_spelt (negated : Bool) {items : List ClassItem} {pieces : List (List Char)}
    (h : Forall₂ ClassItem.SpeltAs items pieces) (pos : Nat) (rest : List Char) :
    readClass pos (caret negated ++ pieces.flatten ++ ']' :: rest) =
      .ok (⟨negated, items.filterMap ClassItem.range?, items.filterMap ClassItem.single?, flagged rest,
          String.ofList (classText negated pieces (flagged rest))⟩,
        pos + (classText negated pieces (flagged rest)).length, rest.drop (caseLetter (flagged rest)).length) := by
  obtain ⟨hflag, hrest⟩ := readFlag_eq (pos + 1 + (caret negated).length + pieces.flatten.length + 1) rest
  generalize hcs : caret negated ++ pieces.flatten ++ ']' :: rest = cs
  have hcaret : cs.head? = some '^' ↔ negated = true := by
    rw [← hcs, append_assoc]
    cases negated with
    | true => simp [caret]
    | false => simpa [caret] using (ClassItem.rangeEnd?_spelt h rest).2
  have hskip : skipCaret cs = (caret negated).length := by
    rw [skipCaret, caret]
    cases negated with
    | true => rw [if_pos (hcaret.mpr rfl), if_pos rfl, length_singleton]
    | false => rw [if_neg fun he => absurd (hcaret.mp he) (by decide), if_neg (by decide), length_nil]
  have hdrop : cs.drop (skipCaret cs) = pieces.flatten ++ ']' :: rest := by
    rw [hskip, ← hcs, append_assoc, drop_left]
  have htext : '[' :: cs.take (cs.length - (rest.drop (caseLetter (flagged rest)).length).length) =
      classText negated pieces (flagged rest) := by
    have hsplit : cs = (caret negated ++ pieces.flatten ++ ']' :: caseLetter (flagged rest)) ++
        rest.drop (caseLetter (flagged rest)).length := by
      rw [← hcs, append_assoc (caret negated ++ _), cons_append, hrest]
    have hlength := congrArg length hsplit
    rw [length_append] at hlength
    rw [classText, hlength, Nat.add_sub_cancel]
    exact congrArg _ (hsplit ▸ take_left)
  have hpos : pos + 1 + (caret negated).length + pieces.flatten.length + 1 + (caseLetter (flagged rest)).length =
      pos + (classText negated pieces (flagged rest)).length := by
    simp only [classText, length_cons, length_append]
    omega
  rw [readClass_eq, hdrop, hskip, readMembers_spelt h]
  simp only [hflag, htext, hpos, hcaret, Bool.decide_eq_true]

/-! ## Tokens -/

/-- **Every spelling of a string and every spelling of a class are read as that string and that class.** Whatever follows
a class, its text is just what is read: up to the closing bracket, and the letter that ignores case if there is one. -/
theorem spelt_read :
    (∀ q, isQuote q = true → ∀ text pieces, Forall₂ (SpeltAs [q, '\\']) text pieces →
      ∀ pos rest, rest.head? ≠ some 'i' → readToken pos q (pieces.flatten ++ q :: rest) =
        .ok (.literal text false, pos + (q :: pieces.flatten ++ [q]).length, rest)) ∧
    ∀ negated items pieces, Forall₂ ClassItem.SpeltAs items pieces → ∀ pos rest, ∃ r,
      rest = caseLetter (flagged rest) ++ r ∧
      readToken pos '[' (caret negated ++ pieces.flatten ++ ']' :: rest) =
        .ok (.charClass ⟨negated, items.filterMap ClassItem.range?, items.filterMap ClassItem.single?, flagged rest,
            String.ofList (classText negated pieces (flagged rest))⟩,
          pos + (classText negated pieces (flagged rest)).length, r) := by
  constructor
  · intro q hq text pieces h pos rest hrest
    have hpos : pos + 1 + pieces.flatten.length + 1 = pos + (q :: pieces.flatten ++ [q]).length := by
      simp only [length_append, length_cons, length_nil]
      omega
    have hflagged : flagged rest = false := by simp [flagged, hrest]
    have hflag : readFlag (pos + (q :: pieces.flatten ++ [q]).length) rest =
        (false, pos + (q :: pieces.flatten ++ [q]).length, rest) := by
      rw [(readFlag_eq _ rest).1, hflagged]
      rfl
    rw [readToken, if_pos hq, readLiteral, readQuoted_spelt hq h]
    simp only [hpos, hflag]
  · intro negated items pieces h pos rest
    refine ⟨_, ((readFlag_eq pos rest).2).symm, ?_⟩
    rw [readToken, if_neg (by decide), if_pos rfl, readClass_spelt negated h]

/-- Characters in all ways of writing them. -/
def mixedString : List (List Char) :=
  [['a'], ['\\', '\''], ['\\', 'q'], ['\\', 'n'], ['\\', 'x', '4', 'E'], ['\\', 'u', '2', '0', 'a', 'C']]

/-- Items with all characters that a class can't list without a backslash, and a range of surrogates. -/
def mixedClass : List (List Char) :=
  [['\\', '-', '-', '\\', ']'], ['\\', 'x', '5', 'e'],
    ['\\', 'u', 'D', '8', '0', '0', '-', '\\', 'u', 'd', 'f', 'F', 'F']]

/-- They are read back, and an `i` behind a space is no part of the string. -/
theorem mixed_spelt_read :
    readToken 0 '\'' (mixedString.flatten ++ '\'' :: [' ', 'i']) =
      .ok (.literal [0x61, 0x27, 0x71, 10, 0x4E, 0x20AC] false, 19, [' ', 'i']) ∧
    readToken 0 '[' (caret true ++ mixedClass.flatten ++ ']' :: ['i', ')']) =
      .ok (.charClass ⟨true, [(0x2D, 0x5D), (0xD800, 0xDFFF)], [0x5E], true,
        String.ofList ("[^\\--\\]\\x5e\\uD800-\\udfFF]i".toList)⟩, 26, [')']) := by
  constructor
  · refine spelt_read.1 '\'' (by decide) [0x61, 0x27, 0x71, 10, 0x4E, 0x20AC] mixedString ?_ 0 [' ', 'i'] (by decide)
    exact .cons (.itself (c := 'a') (by decide)) (.cons (.escaped (c := '\'') (by decide))
      (.cons (.escaped (c := 'q') (by decide)) (.cons .lineFeed (.cons (.twoDigits (by decide) (by decide))
        (.cons (.fourDigits (by decide) (by decide)) .nil)))))
  · have hmarks : ClassItem.SpeltAs (.range 0x2D 0x5D) (['\\', '-'] ++ '-' :: ['\\', ']']) :=
      .range (by decide) (.escaped (c := '-') (by decide)) (.escaped (c := ']') (by decide))
    have hcaret : ClassItem.SpeltAs (.single 0x5E) ['\\', 'x', '5', 'e'] :=
      .single (.twoDigits (by decide) (by decide))
    have hsurrogates : ClassItem.SpeltAs (.range 0xD800 0xDFFF)
        (['\\', 'u', 'D', '8', '0', '0'] ++ '-' :: ['\\', 'u', 'd', 'f', 'F', 'F']) :=
      .range (by decide) (.fourDigits (by decide) (by decide)) (.fourDigits (by decide) (by decide))
    obtain ⟨r, hr, hread⟩ := spelt_read.2 true _ mixedClass (.cons hmarks (.cons hcaret (.cons hsurrogates .nil))) 0
      ['i', ')']
    have hflag : flagged ['i', ')'] = true := by decide +kernel
    rw [hflag] at hr hread
    cases hr
    exact hread

end PegTemplate
