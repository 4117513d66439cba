import PegTemplate.Template.Signature

/-!
# Templates

* `Insertion` : what stands between the texts of a template: a value that should be callable, perhaps
  with the names of its parameters;
* `Part` : a text or an insertion;
* `split` : the texts around the insertions, and the insertions.

There is one text more than there are insertions: an empty one stands between two insertions side by side,
and at an end where there is none.
-/

namespace PegTemplate

/-- What stands between the texts of a template. -/
structure Insertion where
  value : Value
  /-- What the value declares. -/
  signature : Signature
  /-- It is wrapped, so that its parameters can be given. -/
  wrapped : Bool
  /-- The parameters that are given with it. -/
  parameters : Option (List String)
  deriving BEq, Inhabited

/-- A part of a template. -/
inductive Part where
  | text (s : String)
  | insertion (i : Insertion)
  deriving BEq, Inhabited

/-- Puts text before the first text. -/
def prependText (s : String) : List String → List String
  | [] => [s]
  | g :: gs => (s ++ g) :: gs

/-- The texts around the insertions, and the insertions. Texts side by side are one text. -/
def split : List Part → List String × List Insertion
  | [] => ([""], [])
  | .text s :: ps => (prependText s (split ps).1, (split ps).2)
  | .insertion i :: ps => ("" :: (split ps).1, i :: (split ps).2)

theorem length_prependText {s : String} {gs : List String} (h : gs ≠ []) :
    (prependText s gs).length = gs.length := by
  cases gs with
  | nil => exact absurd rfl h
  | cons g gs => rfl

end PegTemplate
