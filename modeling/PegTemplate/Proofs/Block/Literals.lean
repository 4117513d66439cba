import PegTemplate.Proofs.Block.Lines
import PegTemplate.Proofs.Block.Words

/-!
# The literals of code

* `Scan.literals`, `literalValue?` : what stands between quotes in some code, and what it denotes;
* `Scan.margins` : the indentation of the lines at which a line of code starts;
* `relaid` : what becomes of what stands between quotes when its lines are relaid;
* `Lined` : text between quotes up to the start of a line, and what becomes of it.
-/

namespace PegTemplate
open Unicode

/-! ## Literals and margins -/

/-- What the text between quotes denotes. -/
def literalValue? (raw : List Char) : Option String := (unescape raw).map textOf

/-- The indentation, if a line of code starts here: neither an empty line nor a comment. -/
def codeMargin? (cs : List Char) : Option (List Char) :=
  match cs.dropWhile isIndent with
  | [] => none
  | c :: _ => if c = '#' || c = '\n' then none else some (cs.takeWhile isIndent)

theorem codeMargin?_cons {c : Char} (hc : isIndent c = true) (cs : List Char) :
    codeMargin? (c :: cs) = (codeMargin? cs).map (c :: ·) := by
  rw [codeMargin?, codeMargin?, List.dropWhile_cons_of_pos hc, List.takeWhile_cons_of_pos hc]
  cases cs.dropWhile isIndent with
  | nil => rfl
  | cons d ds =>
    dsimp only
    split
    · rfl
    · rfl

theorem codeMargin?_code {c : Char} (hc : isIndent c = false) (hcomment : c ≠ '#') (hfeed : c ≠ '\n') (cs : List Char) :
    codeMargin? (c :: cs) = some [] := by
  rw [codeMargin?, List.dropWhile_cons_of_neg (by simp [hc]), List.takeWhile_cons_of_neg (by simp [hc])]
  simp [hcomment, hfeed]

theorem codeMargin?_indent_append {is : List Char} (h : ∀ i ∈ is, isIndent i = true) (cs : List Char) :
    codeMargin? (is ++ cs) = (codeMargin? cs).map (is ++ ·) := by
  induction is with
  | nil => simp
  | cons i is ih =>
    rw [List.cons_append, codeMargin?_cons (h i List.mem_cons_self), ih fun j hj => h j (List.mem_cons_of_mem _ hj),
      Option.map_map]
    rfl

/-- Whether a line of code starts is seen in the line itself. -/
theorem codeMargin?_append {l m : List Char} (h : codeMargin? l = some m) (cs : List Char) :
    codeMargin? (l ++ cs) = some m := by
  induction l generalizing m with
  | nil => cases h
  | cons c l ih =>
    by_cases hc : isIndent c = true
    · rw [codeMargin?_cons hc] at h
      obtain ⟨k, hk, rfl⟩ := Option.map_eq_some_iff.mp h
      rw [List.cons_append, codeMargin?_cons hc, ih hk]
      rfl
    · rw [codeMargin?, List.dropWhile_cons_of_neg hc, List.takeWhile_cons_of_neg hc] at h
      rwa [codeMargin?, List.cons_append, List.dropWhile_cons_of_neg hc, List.takeWhile_cons_of_neg hc]

namespace Scan

/-- What stands between quotes that end before or with a character. -/
def literal? (s : Scan) (c : Char) : Option (List Char) :=
  match s.mode with
  | .opening2 q => if c = q then none else some []
  | .short q chars => if c = q then some chars.reverse else none
  | .long q quotes chars => if c = q ∧ quotes = 2 then some (chars.drop 2).reverse else none
  | _ => none

/-- What stands between quotes, from where a scan stands on. -/
def literals (s : Scan) : List Char → List (List Char)
  | [] => []
  | c :: cs => (s.literal? c).toList ++ match s.step c with
    | none => []
    | some t => t.literals cs

/-- The indentations of the lines at which a line of code starts. -/
def margins (s : Scan) : List Char → List (List Char)
  | [] => []
  | c :: cs => (if s.mode = .margin 0 0 then (codeMargin? (c :: cs)).toList else []) ++ match s.step c with
    | none => []
    | some t => t.margins cs

end Scan

/-! ## Relaid text -/

/-- The parts between line feeds. -/
def cutAtFeeds : List Char → List (List Char)
  | [] => [[]]
  | c :: cs => if c = '\n' then [] :: cutAtFeeds cs else consLine c (cutAtFeeds cs)

/-- Lines behind the first one of a text between quotes. The last one is not blank, as the closing quotes stand in it. -/
def relaidLines (n : Nat) : List (List Char) → List (List Char)
  | [] => []
  | [l] => [bodyMargin ++ l.drop n]
  | l :: k :: ls => relay n l :: relaidLines n (k :: ls)

/-- What becomes of the text between quotes when all lines but its first one are relaid. -/
def relaid (n : Nat) (raw : List Char) : List Char :=
  match cutAtFeeds raw with
  | [] => []
  | l :: ls => joinLines (l :: relaidLines n ls)

/-- Text between quotes up to the start of a line, and what becomes of it. -/
inductive Lined (n : Nat) : List Char → List Char → Prop
  | first {l : List Char} (hl : '\n' ∉ l) : Lined n (l ++ ['\n']) (l ++ ['\n'])
  | next {a b l : List Char} (h : Lined n a b) (hl : '\n' ∉ l) : Lined n (a ++ (l ++ ['\n'])) (b ++ (relay n l ++ ['\n']))

theorem cutAtFeeds_unbroken {l : List Char} (hl : '\n' ∉ l) : cutAtFeeds l = [l] := by
  induction l with
  | nil => rfl
  | cons c l ih =>
    have hc : c ≠ '\n' := fun h => hl (h ▸ List.mem_cons_self)
    rw [cutAtFeeds, if_neg hc, ih fun h => hl (List.mem_cons_of_mem _ h), consLine]

theorem cutAtFeeds_append {l : List Char} (hl : '\n' ∉ l) (cs : List Char) :
    cutAtFeeds (l ++ '\n' :: cs) = l :: cutAtFeeds cs := by
  induction l with
  | nil => rw [List.nil_append, cutAtFeeds, if_pos rfl]
  | cons c l ih =>
    have hc : c ≠ '\n' := fun h => hl (h ▸ List.mem_cons_self)
    rw [List.cons_append, cutAtFeeds, if_neg hc, ih fun h => hl (List.mem_cons_of_mem _ h), consLine]

/-- A text of one line stays as it is. -/
theorem relaid_unbroken {raw : List Char} (h : '\n' ∉ raw) (n : Nat) : relaid n raw = raw := by
  rw [relaid, cutAtFeeds_unbroken h]
  rfl

theorem relaidLines_concat (n : Nat) (ls : List (List Char)) (l : List Char) :
    relaidLines n (ls ++ [l]) = ls.map (relay n) ++ [bodyMargin ++ l.drop n] := by
  induction ls with
  | nil => rfl
  | cons k ls ih =>
    cases ls with
    | nil => rfl
    | cons m ls => rw [List.cons_append, List.cons_append, relaidLines, ← List.cons_append, ih]; rfl

/-- The lines of text up to the start of a line. -/
theorem Lined.lines {n : Nat} {a b : List Char} (h : Lined n a b) : ∃ l ls, '\n' ∉ l ∧ (∀ k ∈ ls, '\n' ∉ k) ∧
    a = (l :: ls).flatMap (· ++ ['\n']) ∧ b = (l :: ls.map (relay n)).flatMap (· ++ ['\n']) := by
  induction h with
  | @first l hl => exact ⟨l, [], hl, nofun, by simp, by simp⟩
  | @next a b k h hk ih =>
    obtain ⟨l, ls, hl, hls, rfl, rfl⟩ := ih
    refine ⟨l, ls ++ [k], hl, fun m hm => ?_, by simp, by simp⟩
    rcases List.mem_append.mp hm with hm | hm
    · exact hls m hm
    · rwa [List.mem_singleton.mp hm]

theorem cutAtFeeds_flatMap {ls : List (List Char)} (h : ∀ l ∈ ls, '\n' ∉ l) {x : List Char} (hx : '\n' ∉ x) :
    cutAtFeeds (ls.flatMap (· ++ ['\n']) ++ x) = ls ++ [x] := by
  induction ls with
  | nil => exact cutAtFeeds_unbroken hx
  | cons l ls ih =>
    rw [List.flatMap_cons, List.append_assoc, List.append_assoc, List.singleton_append,
      cutAtFeeds_append (h l List.mem_cons_self), ih fun k hk => h k (List.mem_cons_of_mem _ hk), List.cons_append]

theorem joinLines_concat (ls : List (List Char)) (x : List Char) :
    joinLines (ls ++ [x]) = ls.flatMap (· ++ ['\n']) ++ x := by
  induction ls with
  | nil => rfl
  | cons l ls ih => rw [List.cons_append, joinLines_cons l (by simp), ih]; simp

/-- The last line of a text of several lines gets another margin. -/
theorem Lined.relaid_append {n : Nat} {a b : List Char} (h : Lined n a b) {x : List Char} (hx : '\n' ∉ x) :
    relaid n (a ++ x) = b ++ (bodyMargin ++ x.drop n) := by
  obtain ⟨l, ls, hl, hls, rfl, rfl⟩ := h.lines
  have hlines : ∀ k ∈ l :: ls, '\n' ∉ k := by
    intro k hk
    rcases List.mem_cons.mp hk with rfl | hk
    · exact hl
    · exact hls k hk
  rw [relaid, cutAtFeeds_flatMap hlines hx, List.cons_append]
  dsimp only
  rw [relaidLines_concat, ← List.cons_append, joinLines_concat]

end PegTemplate
