import Stencil.Text.Basic

/-!
# Caches

A cache keeps the text of a template under the name that it was found by, until it is emptied. Every
name is kept once; keeping it again replaces its text.
-/

namespace Stencil

/-- The texts that are kept, by name. -/
structure Cache where
  entries : List (Text × Text)
deriving DecidableEq, Repr, Inhabited

namespace Cache

/-- The cache that keeps nothing. -/
def empty : Cache := ⟨[]⟩

/-- The text kept under a name, among entries. -/
def find? (name : Text) : List (Text × Text) → Option Text
  | [] => none
  | (n, source) :: rest => if n = name then some source else find? name rest

/-- The text kept under a name. -/
def get? (c : Cache) (name : Text) : Option Text := find? name c.entries

/-- Keeps a text under a name. -/
def put (c : Cache) (name source : Text) : Cache :=
  ⟨(name, source) :: c.entries.filter fun (n, _) => n ≠ name⟩

/-- The names under which texts are kept. -/
def names (c : Cache) : List Text := c.entries.map Prod.fst

theorem get?_empty (name : Text) : empty.get? name = none := rfl

theorem get?_put_self (c : Cache) (name source : Text) :
    (c.put name source).get? name = some source := by
  simp [put, get?, find?]

theorem find?_filter_ne {name other : Text} (h : other ≠ name) (entries : List (Text × Text)) :
    find? other (entries.filter fun (n, _) => n ≠ name) = find? other entries := by
  induction entries with
  | nil => rfl
  | cons entry rest ih =>
    obtain ⟨n, source⟩ := entry
    by_cases hn : n = name
    · subst hn; simp only [ne_eq, not_true_eq_false, decide_false, Bool.false_eq_true,
        not_false_eq_true, List.filter_cons_of_neg, find?, if_neg (Ne.symm h)]; exact ih
    · simp only [ne_eq, hn, not_false_eq_true, decide_true, List.filter_cons_of_pos, find?]
      split
      · rfl
      · exact ih

theorem get?_put_of_ne (c : Cache) {name other : Text} (source : Text) (h : other ≠ name) :
    (c.put name source).get? other = c.get? other := by
  simp only [put, get?, find?, if_neg (Ne.symm h)]
  exact find?_filter_ne h c.entries

end Cache

end Stencil
