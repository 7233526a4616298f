import Mathlib
import Stencil.Proofs.Template.Opacity
import Stencil.Proofs.Value.Keys

/-!
# The names that a template mentions

A template looks up the names of its tags and no others. So contexts that bind those alike give the same
output, or the same failure: what else they hold, under other names or under keys that are no names, and
in which order they hold it, cannot be seen (`process_of_mentions`).

Inside of loops a name is looked up in the elements first, and in the context only when they leave it
unbound. The elements themselves come from the context under a name that is mentioned, so both runs go
through the same ones, and what carries the law is `Scope.Agree`: two scopes bind the names of a set
alike. Entering a loop with one element keeps that, whatever the element binds or hides.
-/

namespace Stencil

namespace Dict

/-- Without repeated keys, what a name finds is what stands under it. -/
theorem get?_eq_some_iff_mem {d : Dict} (h : d.Distinct) {name : Text} {v : Value} :
    get? name d = some v ↔ (.text name, v) ∈ d := by
  refine ⟨mem_of_get?, fun hmem => ?_⟩
  induction d with
  | nil => cases hmem
  | cons entry d ih =>
    obtain ⟨k, w⟩ := entry
    obtain ⟨hk, hd⟩ := List.pairwise_cons.mp h
    rw [get?_cons]
    rcases List.mem_cons.mp hmem with heq | htail
    · cases heq
      exact if_pos (Value.sameKey_text.mpr rfl)
    · have hother : ¬ k.sameKey (.text name) = true := Bool.eq_false_iff.mp (hk _ htail)
      rw [if_neg hother]
      exact ih hd htail

/-- In any order of the entries a name finds the same. -/
theorem get?_perm {d e : Dict} (hd : d.Distinct) (h : d.Perm e) (name : Text) :
    get? name d = get? name e :=
  Option.ext fun v => by
    rw [get?_eq_some_iff_mem hd, get?_eq_some_iff_mem (hd.perm h)]
    exact h.mem_iff

/-- An entry of another key is not found by a name. -/
theorem get?_append_cons {name : Text} {k : Value} (hk : k ≠ .text name) (front back : Dict) (v : Value) :
    get? name (front ++ (k, v) :: back) = get? name (front ++ back) := by
  induction front with
  | nil =>
    rw [List.nil_append, get?_cons, if_neg (mt Value.sameKey_text.mp hk)]
    rfl
  | cons entry front ih =>
    obtain ⟨j, w⟩ := entry
    rw [List.cons_append, List.cons_append, get?_cons, get?_cons, ih]

end Dict

/-! ## Scopes -/

/-- Two scopes bind the names of a set alike. -/
def Scope.Agree (names : Text → Prop) (scope other : Scope) : Prop :=
  ∀ name, names name → scope.find? name = other.find? name

/-- Inside of a loop scopes agree as they do outside of it. -/
theorem Scope.Agree.within {names : Text → Prop} {scope other : Scope} (h : scope.Agree names other)
    (element : Value) : (scope.within element).Agree names (other.within element) := by
  intro name hname
  rw [find?_within, find?_within, h name hname]

namespace Template

/-! ## Templates -/

/-- A tag among some pieces carries a name. -/
def Piece.Carries (pieces : List Piece) (name : Text) : Prop :=
  ∃ tag, Piece.tag tag ∈ pieces ∧ tag.name? = some name

/-- A variable, a conditional or a loop of a source has a name. -/
def Mentions (source name : Text) : Prop :=
  Piece.Carries ((tokenize source).map Token.piece) name

/-- **Nodes are rendered alike in scopes that agree** on the names of the pieces that they derive. -/
theorem Derives.renderNodes_eq {limit : Int} {around : Nat} {nodes : List Node} {pieces all : List Piece}
    (h : Derives limit around nodes pieces) : ∀ {scope other : Scope}, pieces ⊆ all →
      scope.Agree (Piece.Carries all) other → renderNodes scope nodes = renderNodes other nodes := by
  induction h with
  | nil =>
    intro scope other _ _
    rfl
  | text _ ih =>
    intro scope other hsub hagree
    obtain ⟨-, hrest⟩ := List.cons_subset.mp hsub
    rw [renderNodes, renderNodes, ih hrest hagree]
    rfl
  | «variable» _ ih =>
    intro scope other hsub hagree
    obtain ⟨htag, hrest⟩ := List.cons_subset.mp hsub
    rw [renderNodes, renderNodes, ih hrest hagree, renderNode, renderNode,
      hagree _ ⟨_, htag, rfl⟩]
  | cond _ _ _ ihthen ih =>
    intro scope other hsub hagree
    obtain ⟨htag, hsub⟩ := List.cons_subset.mp hsub
    obtain ⟨hthen, hrest⟩ := subset_of_part hsub
    rw [renderNodes, renderNodes, ih hrest hagree, renderNode, renderNode,
      hagree _ ⟨_, htag, rfl⟩, ihthen hthen hagree]
    rfl
  | condElse _ _ _ _ ihthen ihelse ih =>
    intro scope other hsub hagree
    obtain ⟨htag, hsub⟩ := List.cons_subset.mp hsub
    obtain ⟨hthen, hsub⟩ := subset_of_part hsub
    obtain ⟨helse, hrest⟩ := subset_of_part hsub
    rw [renderNodes, renderNodes, ih hrest hagree, renderNode, renderNode,
      hagree _ ⟨_, htag, rfl⟩, ihthen hthen hagree, ihelse helse hagree]
  | @loop _ _ _ body _ _ _ _ _ _ ihbody ih =>
    intro scope other hsub hagree
    obtain ⟨htag, hsub⟩ := List.cons_subset.mp hsub
    obtain ⟨hbody, hrest⟩ := subset_of_part hsub
    -- Both loops run over the same elements, and each element is one step into agreeing scopes.
    have hinside : (fun element => renderNodes (scope.within element) body) =
        fun element => renderNodes (other.within element) body :=
      funext fun element => ihbody hbody (hagree.within element)
    rw [renderNodes, renderNodes, ih hrest hagree, renderNode, renderNode,
      hagree _ ⟨_, htag, rfl⟩, hinside]

/-- Contexts that bind the mentioned names alike are not told apart. -/
theorem process_eq_of_agree {limit : Int} {source : Text} {context other : Dict}
    (h : ∀ name, Mentions source name → context.get? name = other.get? name) :
    process limit context source = process limit other source := by
  have hagree : Scope.Agree (Mentions source) [context] [other] := by
    intro name hname
    rw [Scope.merges_singleton context name, Scope.merges_singleton other name, h name hname]
  rw [process, process]
  cases hparse : parse limit source with
  | error e => rfl
  | ok nodes =>
    have hder := derives_of_parseTokens hparse
    have hrender := hder.renderNodes_eq (List.Subset.refl _) hagree
    simp only [rendered, render, hrender]

/-- **Nothing but the names that a source mentions is looked up.** Contexts that bind them alike give the
same output or the same failure. So an entry whose key is none of them may stand in a context or not,
and entries may stand in any order. -/
theorem process_of_mentions (limit : Int) (source : Text) :
    (∀ context other : Dict,
      (∀ name, Mentions source name → context.get? name = other.get? name) →
      process limit context source = process limit other source) ∧
    (∀ (front back : Dict) (k v : Value), (∀ name, Mentions source name → k ≠ .text name) →
      process limit (front ++ (k, v) :: back) source = process limit (front ++ back) source) ∧
    ∀ context other : Dict, context.Distinct → context.Perm other →
      process limit context source = process limit other source := by
  refine ⟨fun context other => process_eq_of_agree, fun front back k v hk => ?_,
    fun context other hdistinct hperm => ?_⟩
  · exact process_eq_of_agree fun name hname => Dict.get?_append_cons (hk name hname) front back v
  · exact process_eq_of_agree fun name _ => Dict.get?_perm hdistinct hperm name

/-! A loop over rows mentions the rows and the field that it prints. -/

theorem mentions_eachRow {name : Text} (h : Mentions eachRow name) : name = ['r'] ∨ name = ['n'] := by
  have hpieces : (tokenize eachRow).map Token.piece =
      [.tag (.eachOpen [' '] ['r']), .tag (.variable ['n']), .tag .eachClose] := by cbv
  obtain ⟨tag, htag, hname⟩ := h
  rw [hpieces] at htag
  simp only [List.mem_cons, Piece.tag.injEq, List.not_mem_nil, or_false] at htag
  rcases htag with rfl | rfl | rfl
  · exact .inl (Option.some.inj hname).symm
  · exact .inr (Option.some.inj hname).symm
  · cases hname

/-- **A total beside the rows is not printed**, nor seen from where it stands; it may as well be missing. -/
theorem process_of_mentions_eachRow :
    process 1 ((.text ['t'], .int 1) :: oneRow ['x']) eachRow =
        process 1 (oneRow ['x'] ++ [(.text ['t'], .int 2)]) eachRow ∧
      process 1 ([] ++ (.text ['t'], .int 1) :: oneRow ['x']) eachRow =
        process 1 ([] ++ oneRow ['x']) eachRow ∧
      process 1 ((.text ['t'], .int 1) :: oneRow ['x']) eachRow =
        process 1 (oneRow ['x'] ++ [(.text ['t'], .int 1)]) eachRow := by
  obtain ⟨hagree, hdrop, hperm⟩ := process_of_mentions 1 eachRow
  refine ⟨hagree _ _ fun name hname => ?_, hdrop _ _ _ _ fun name hname => ?_, hperm _ _ ?_ ?_⟩
  · rcases mentions_eachRow hname with rfl | rfl <;> rfl
  · rcases mentions_eachRow hname with rfl | rfl <;> simp
  · refine .cons (List.forall_mem_singleton.mpr ?_) (List.pairwise_singleton _ _)
    exact Bool.eq_false_iff.mpr (mt Value.text_sameKey.mp (by simp))
  · exact List.Perm.swap _ _ _

end Template

end Stencil
