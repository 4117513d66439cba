import Mathlib.Data.List.Nodup
import Mathlib.Data.List.Perm.Subperm
import Mathlib.Data.List.ProdSigma
import PegTemplate.Match.Memo

/-!
# Applications in progress

* `Application` : a rule applied at a position;
* `Memo.keys`, `Memo.Distinct` : the applications that a table knows, each once;
* `Memo.begun` : those that have begun and are not done, the newest first (`mem_begun_iff`, `begun_enter`,
  `begun_insert`, `begun_erase`);
* `Memo.ofStack` : the table in which just these applications have begun;
* `Memo.EndsBy` : the remembered matches end by a position, and none before its start;
* `Memo.length_le` : so many distinct applications there are.
-/

namespace PegTemplate

/-- A rule applied at a position. -/
abbrev Application := String × Nat

/-- The application that a row is about. -/
def Memo.Row.key (r : Memo.Row) : Application := (r.rule, r.position)

/-- The application of a row, if it has begun and is not done. -/
def Memo.Row.begun? (r : Memo.Row) : Option Application :=
  match r.entry with
  | .begun => some r.key
  | .done _ => none

/-- A match that starts at `start` does not end before that, nor after `last`. -/
def Result.EndsIn (start last : Nat) : Result → Prop
  | .failed => True
  | .matched stop _ => start ≤ stop ∧ stop ≤ last

theorem Result.EndsIn.mono {start start' last : Nat} {r : Result} (h : r.EndsIn start last)
    (hs : start' ≤ start) : r.EndsIn start' last := by
  cases r with
  | failed => trivial
  | matched stop v => exact ⟨Nat.le_trans hs h.1, h.2⟩

namespace Memo

/-- The applications that a table knows. -/
def keys (m : Memo) : List Application := m.map Row.key

/-- No application has two rows. -/
def Distinct (m : Memo) : Prop := m.keys.Nodup

/-- The applications in progress, the newest first. -/
def begun (m : Memo) : List Application := m.filterMap Row.begun?

/-- The table in which just these applications have begun. -/
def ofStack (stack : List Application) : Memo := stack.map fun a => ⟨a.1, a.2, .begun⟩

/-- Every remembered match ends at or after its start, and not after `last`. -/
def EndsBy (m : Memo) (last : Nat) : Prop :=
  ∀ row ∈ m, ∀ r, row.entry = .done r → r.EndsIn row.position last

/-! ## Look-up -/

theorem Row.isFor_iff_key {r : Row} {rule : String} {position : Nat} :
    r.isFor rule position = true ↔ r.key = (rule, position) := by
  rw [Row.isFor_iff, Row.key, Prod.mk.injEq]

theorem find?_eq_none_iff {m : Memo} {rule : String} {position : Nat} :
    m.find? rule position = none ↔ (rule, position) ∉ m.keys := by
  simp only [find?, Option.map_eq_none_iff, List.find?_eq_none, Row.isFor_iff_key, keys, List.mem_map, not_exists,
    not_and]

theorem mem_of_find? {m : Memo} {rule : String} {position : Nat} {e : Entry}
    (h : m.find? rule position = some e) : ⟨rule, position, e⟩ ∈ m := by
  obtain ⟨row, hrow, rfl⟩ := Option.map_eq_some_iff.1 h
  have hf : row.isFor rule position = true := List.find?_some (p := fun r : Row => r.isFor rule position) hrow
  obtain ⟨rfl, rfl⟩ := Row.isFor_iff.1 hf
  exact List.mem_of_find?_eq_some hrow

theorem find?_of_mem {m : Memo} (hm : m.Distinct) {row : Row} (h : row ∈ m) :
    m.find? row.rule row.position = some row.entry := by
  induction m with
  | nil => cases h
  | cons r m ih =>
    have hd := List.nodup_cons.1 hm
    rw [find?_cons]
    rcases List.mem_cons.1 h with rfl | h'
    · rw [if_pos (Row.isFor_iff.2 ⟨rfl, rfl⟩)]
    · rw [if_neg, ih hd.2 h']
      rw [Row.isFor_iff_key]
      intro he
      exact hd.1 (he ▸ List.mem_map_of_mem h')

theorem mem_begun {m : Memo} {a : Application} : a ∈ m.begun ↔ ⟨a.1, a.2, .begun⟩ ∈ m := by
  simp only [begun, List.mem_filterMap]
  constructor
  · rintro ⟨⟨rule, position, e⟩, hrow, h⟩
    cases e with
    | begun => cases h; exact hrow
    | done r => cases h
  · exact fun h => ⟨_, h, rfl⟩

theorem mem_begun_iff {m : Memo} (hm : m.Distinct) {rule : String} {position : Nat} :
    (rule, position) ∈ m.begun ↔ m.find? rule position = some .begun :=
  ⟨fun h => find?_of_mem hm (mem_begun.1 h), fun h => mem_begun.2 (mem_of_find? h)⟩

theorem begun_subset_keys (m : Memo) : m.begun ⊆ m.keys := fun _ h =>
  List.mem_map_of_mem (f := Row.key) (mem_begun.1 h)

theorem mem_keys_of_find? {m : Memo} {rule : String} {position : Nat} {e : Entry}
    (h : m.find? rule position = some e) : (rule, position) ∈ m.keys :=
  List.mem_map_of_mem (f := Row.key) (mem_of_find? h)

/-- What is known of an application, and not begun, is done. -/
theorem exists_done {m : Memo} {a : Application} (hk : a ∈ m.keys) (hb : a ∉ m.begun) :
    ∃ r, m.find? a.1 a.2 = some (.done r) := by
  cases h : m.find? a.1 a.2 with
  | none => exact absurd hk (find?_eq_none_iff.1 h)
  | some e =>
    cases e with
    | begun => exact absurd (mem_begun.2 (mem_of_find? h)) hb
    | done r => exact ⟨r, rfl⟩

/-! ## Steps -/

theorem begun_enter {m : Memo} {stack : List Application} (h : m.begun = stack) (rule : String) (position : Nat) :
    (m.enter rule position).begun = (rule, position) :: stack :=
  congrArg ((rule, position) :: ·) h

theorem Distinct.enter {m : Memo} (hm : m.Distinct) {rule : String} {position : Nat}
    (h : m.find? rule position = none) : (m.enter rule position).Distinct :=
  List.nodup_cons.2 ⟨find?_eq_none_iff.1 h, hm⟩

theorem EndsBy.enter {m : Memo} {last : Nat} (hm : m.EndsBy last) (rule : String) (position : Nat) :
    (m.enter rule position).EndsBy last := by
  intro row hrow r hr
  rcases List.mem_cons.1 hrow with rfl | h
  · cases hr
  · exact hm row h r hr

theorem keys_insert {m : Memo} {rule : String} {position : Nat} (h : (rule, position) ∈ m.keys) (e : Entry) :
    (m.insert rule position e).keys = m.keys := by
  induction m with
  | nil => cases h
  | cons r m ih =>
    unfold insert
    split
    · rename_i hr
      rw [Row.isFor_iff_key] at hr
      simp [keys, Row.key] at hr ⊢
      exact ⟨hr.1.symm, hr.2.symm⟩
    · rename_i hr
      rw [Row.isFor_iff_key] at hr
      rcases List.mem_cons.1 h with h | h
      · exact absurd h.symm hr
      · exact congrArg (r.key :: ·) (ih h)

/-- The newest application in progress gets its result. -/
theorem begun_insert {m : Memo} (hm : m.Distinct) {rule : String} {position : Nat} {stack : List Application}
    (h : m.begun = (rule, position) :: stack) (r : Result) :
    (m.insert rule position (.done r)).begun = stack := by
  induction m with
  | nil => cases h
  | cons row m ih =>
    have hd := List.nodup_cons.1 hm
    obtain ⟨rule', position', e⟩ := row
    unfold insert
    cases e with
    | begun =>
      obtain ⟨hk, hs⟩ := List.cons.inj (show (rule', position') :: begun m = _ from h)
      obtain ⟨rfl, rfl⟩ := Prod.mk.inj hk
      rw [if_pos (Row.isFor_iff.2 ⟨rfl, rfl⟩)]
      exact hs
    | done r' =>
      have hb : begun m = (rule, position) :: stack := h
      rw [if_neg]
      · exact ih hd.2 hb
      · rw [Row.isFor_iff_key]
        intro he
        refine hd.1 (begun_subset_keys m ?_)
        rw [hb, he]
        exact List.mem_cons_self ..

theorem Distinct.insert {m : Memo} (hm : m.Distinct) {rule : String} {position : Nat}
    (h : (rule, position) ∈ m.keys) (e : Entry) : (m.insert rule position e).Distinct := by
  unfold Distinct
  rw [keys_insert h]
  exact hm

theorem mem_insert {m : Memo} {rule : String} {position : Nat} {e : Entry} {row : Row}
    (h : row ∈ m.insert rule position e) : row = ⟨rule, position, e⟩ ∨ row ∈ m := by
  induction m with
  | nil => exact Or.inl (List.mem_singleton.1 h)
  | cons r m ih =>
    unfold insert at h
    split at h
    · rcases List.mem_cons.1 h with h | h
      · exact Or.inl h
      · exact Or.inr (List.mem_cons_of_mem _ h)
    · rcases List.mem_cons.1 h with rfl | h
      · exact Or.inr (List.mem_cons_self ..)
      · exact (ih h).imp id (List.mem_cons_of_mem _)

theorem EndsBy.insert {m : Memo} {last : Nat} (hm : m.EndsBy last) {rule : String} {position : Nat} {r : Result}
    (hr : r.EndsIn position last) : (m.insert rule position (.done r)).EndsBy last := by
  intro row hrow r' hr'
  rcases mem_insert hrow with rfl | h
  · cases hr'
    exact hr
  · exact hm row h r' hr'

theorem EndsBy.erase {m : Memo} {last : Nat} (hm : m.EndsBy last) (rule : String) (position : Nat) :
    (m.erase rule position).EndsBy last := fun row hrow => hm row (List.mem_filter.1 hrow).1

theorem EndsBy.find? {m : Memo} {last : Nat} (hm : m.EndsBy last) {rule : String} {position : Nat} {r : Result}
    (h : m.find? rule position = some (.done r)) : r.EndsIn position last :=
  hm _ (mem_of_find? h) r rfl

theorem Distinct.erase {m : Memo} (hm : m.Distinct) (rule : String) (position : Nat) :
    (m.erase rule position).Distinct :=
  List.Nodup.sublist (List.Sublist.map _ List.filter_sublist) hm

theorem begun_cons_begun (rule : String) (position : Nat) (m : Memo) :
    begun (⟨rule, position, .begun⟩ :: m) = (rule, position) :: m.begun := rfl

theorem begun_cons_done (rule : String) (position : Nat) (r : Result) (m : Memo) :
    begun (⟨rule, position, .done r⟩ :: m) = m.begun := rfl

theorem begun_sublist_keys (m : Memo) : m.begun.Sublist m.keys := by
  induction m with
  | nil => exact List.Sublist.slnil
  | cons row m ih =>
    obtain ⟨rule, position, e⟩ := row
    cases e with
    | begun => exact ih.cons_cons _
    | done r => exact ih.cons _

theorem Distinct.begun_nodup {m : Memo} (hm : m.Distinct) : m.begun.Nodup :=
  List.Nodup.sublist m.begun_sublist_keys hm

theorem begun_erase_eq_filter (m : Memo) (rule : String) (position : Nat) :
    (m.erase rule position).begun = m.begun.filter (· ≠ (rule, position)) := by
  induction m with
  | nil => rfl
  | cons row m ih =>
    obtain ⟨rule', position', e⟩ := row
    unfold erase at ih ⊢
    rw [List.filter_cons]
    split
    · rename_i h
      rw [Bool.not_eq_true', Bool.eq_false_iff, Ne, Row.isFor_iff_key] at h
      cases e with
      | begun => rw [begun_cons_begun, begun_cons_begun, ih, List.filter_cons_of_pos (by rw [decide_eq_true_eq]; exact h)]
      | done r => rw [begun_cons_done, begun_cons_done, ih]
    · rename_i h
      rw [Bool.not_eq_true', Bool.not_eq_false, Row.isFor_iff_key] at h
      cases e with
      | begun => rw [begun_cons_begun, ih, List.filter_cons_of_neg (by simpa [Row.key] using h)]
      | done r => rw [begun_cons_done, ih]

/-- The newest application in progress is forgotten. -/
theorem begun_erase {m : Memo} (hm : m.Distinct) {rule : String} {position : Nat} {stack : List Application}
    (h : m.begun = (rule, position) :: stack) : (m.erase rule position).begun = stack := by
  have hn := hm.begun_nodup
  rw [h] at hn
  rw [begun_erase_eq_filter, h, List.filter_cons_of_neg (by simp)]
  refine List.filter_eq_self.2 fun a ha => decide_eq_true ?_
  rintro rfl
  exact (List.nodup_cons.1 hn).1 ha

/-! ## Tables of applications in progress -/

theorem keys_ofStack (stack : List Application) : (ofStack stack).keys = stack := by
  induction stack with
  | nil => rfl
  | cons a stack ih => exact congrArg (a :: ·) ih

theorem find?_ofStack_of_mem {stack : List Application} {rule : String} {position : Nat}
    (h : (rule, position) ∈ stack) : (ofStack stack).find? rule position = some .begun := by
  induction stack with
  | nil => cases h
  | cons a stack ih =>
    rw [ofStack, List.map_cons, find?_cons]
    split
    · rfl
    · rename_i hn
      rw [Row.isFor_iff_key] at hn
      exact ih ((List.mem_cons.1 h).resolve_left fun he => hn he.symm)

theorem find?_ofStack_of_notMem {stack : List Application} {rule : String} {position : Nat}
    (h : (rule, position) ∉ stack) : (ofStack stack).find? rule position = none := by
  rwa [find?_eq_none_iff, keys_ofStack]

theorem enter_ofStack (stack : List Application) (rule : String) (position : Nat) :
    (ofStack stack).enter rule position = ofStack ((rule, position) :: stack) := rfl

theorem erase_ofStack {stack : List Application} {rule : String} {position : Nat}
    (h : (rule, position) ∉ stack) : (ofStack ((rule, position) :: stack)).erase rule position = ofStack stack := by
  unfold erase
  rw [ofStack, List.map_cons, List.filter_cons_of_neg (by simp [Row.isFor]), ofStack, List.filter_eq_self]
  intro row hrow
  obtain ⟨a, ha, rfl⟩ := List.mem_map.1 hrow
  rw [Bool.not_eq_true', Bool.eq_false_iff, Ne, Row.isFor_iff_key]
  intro he
  exact h ((show a = (rule, position) from he) ▸ ha)

/-- There are no more applications of these rules than that at positions up to `last`. -/
theorem length_le {rules : List String} {last : Nat} {stack : List Application} (hn : stack.Nodup)
    (h : ∀ a ∈ stack, a.1 ∈ rules ∧ a.2 ≤ last) : stack.length ≤ rules.length * (last + 1) := by
  have hs : stack ⊆ rules ×ˢ List.range (last + 1) := fun a ha =>
    List.mem_product.2 ⟨(h a ha).1, List.mem_range.2 (Nat.lt_succ_of_le (h a ha).2)⟩
  have hl := (List.subperm_of_subset hn hs).length_le
  rwa [List.length_product, List.length_range] at hl

end Memo

end PegTemplate
