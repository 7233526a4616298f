import Stencil.Proofs.Template.Merging
import Stencil.Proofs.Template.Parsing
import Stencil.Proofs.Value.Shape
import Stencil.Template.Render

/-!
# Values are opaque

A template looks into the context for what it can step into, for what is nothing and for what counts
as true. It never looks at what a plain value is. So two contexts of one shape give the same output
but for the values themselves, chunk by chunk: `Chunk.Matches` is what two chunks at one place may
be, the same text of the template or values that one way leads to in both contexts. Braces in a value
are therefore never a tag, because they would have to add, drop or change a chunk.

The law is about two runs of one derivation. Its invariant is that the scopes bind every name to
values that one way leads to; which way that is differs from scope to scope, and `Scope.Linked` does
not fix it.

What the law does not give is an output. A value that cannot be shown stops a run, and of two
contexts of one shape one may hold such a value where the other does not.
-/

namespace Stencil

/-! ## Scopes -/

/-- Two scopes bind the same names, each to values that one way leads to. -/
def Scope.Linked (context other : Dict) (scope scope' : Scope) : Prop :=
  ∀ name, Option.Rel (Value.Linked (.dict context) (.dict other)) (scope.find? name)
    (scope'.find? name)

namespace Scope.Linked

variable {context other : Dict} {scope scope' : Scope} {name : Text}

/-- Contexts of one shape are linked as scopes. -/
theorem singleton (hshape : (Value.dict context).SameShape (.dict other)) :
    Scope.Linked context other [context] [other] := by
  intro name
  have hfield : Option.Rel (Value.Linked (.dict context) (.dict other)) (context.get? name)
      (other.get? name) := (Value.Linked.refl _ _).follow hshape (.field name)
  simpa only [find?, List.findSome?_singleton] using hfield

/-- Inside of a loop scopes stay linked when their elements are. -/
theorem within (hshape : (Value.dict context).SameShape (.dict other))
    (h : Scope.Linked context other scope scope') {element element' : Value}
    (helement : Value.Linked (.dict context) (.dict other) element element') :
    Scope.Linked context other (scope.within element) (scope'.within element') := by
  intro name
  rw [find?_within, find?_within]
  split
  next => exact .some helement
  next =>
    have hfield := helement.follow hshape (.field name)
    rw [Value.follow, Value.follow] at hfield
    generalize element.entries?.bind (Dict.get? name) = x,
      element'.entries?.bind (Dict.get? name) = y at hfield
    cases hfield with
    | none => exact h name
    | some hlinked => exact .some hlinked

/-- A conditional takes the same part in linked scopes. -/
theorem holds_eq (hshape : (Value.dict context).SameShape (.dict other))
    (h : Scope.Linked context other scope scope') :
    Template.holds (scope.find? name) = Template.holds (scope'.find? name) := by
  have hbound := h name
  generalize scope.find? name = x, scope'.find? name = y at hbound
  cases hbound with
  | none => rfl
  | some hlinked => exact (hlinked.alike hshape).truthy

/-- A loop runs over linked elements in linked scopes. -/
theorem loopElements (hshape : (Value.dict context).SameShape (.dict other))
    (h : Scope.Linked context other scope scope') :
    List.Forall₂ (Value.Linked (.dict context) (.dict other))
      (Template.loopElements (scope.find? name)) (Template.loopElements (scope'.find? name)) := by
  have hbound := h name
  generalize scope.find? name = x, scope'.find? name = y at hbound
  cases hbound with
  | none => exact .nil
  | some hlinked => exact hlinked.elements hshape

end Scope.Linked

namespace Template

/-! ## Chunks of two runs -/

/-- What may stand at one place in two outputs: the same copy of a piece of the template, or values
that one way leads to in both contexts. -/
inductive Chunk.Matches (pieces : List Piece) (context other : Dict) : Chunk → Chunk → Prop
  | text {content : Text} : Piece.text content ∈ pieces →
      Matches pieces context other (.literal content) (.literal content)
  | tag {name : Text} : Piece.tag (.variable name) ∈ pieces →
      Matches pieces context other (.literal (Tag.variable name).spelling)
        (.literal (Tag.variable name).spelling)
  | value {v w : Value} : Value.Linked (.dict context) (.dict other) v w →
      Matches pieces context other (.value v) (.value w)

/-- What a run makes of its chunks: their texts behind one another, or the complaint that one of
them has no text. -/
def Chunk.printed (chunks : List Chunk) : Except (Failure SyntaxError) Symbols :=
  match output chunks with
  | some s => .ok s
  | none => .error (.escaped .badValue)

/-- A variable puts out its tag in both runs, or linked values. -/
theorem matches_substituted {pieces : List Piece} {context other : Dict} {scope scope' : Scope}
    {name : Text} (hshape : (Value.dict context).SameShape (.dict other))
    (h : Scope.Linked context other scope scope') (htag : Piece.tag (.variable name) ∈ pieces) :
    Chunk.Matches pieces context other
      (substituted (scope.find? name) (Tag.variable name).spelling)
      (substituted (scope'.find? name) (Tag.variable name).spelling) := by
  have hbound := h name
  generalize scope.find? name = x, scope'.find? name = y at hbound
  cases hbound with
  | none => exact .tag htag
  | @some v w hlinked =>
    -- A name that is bound to nothing puts out its tag too, and is so in both runs or in neither.
    have hvalue : ∀ {u : Value}, u ≠ .null → ∀ raw, substituted (some u) raw = .value u := by
      intro u hu raw
      cases u <;> first | rfl | exact absurd rfl hu
    by_cases hnull : v = .null
    · rw [hnull, (hlinked.alike hshape).eq_null_iff.mp hnull]
      exact .tag htag
    · rw [hvalue hnull, hvalue (mt (hlinked.alike hshape).eq_null_iff.mpr hnull)]
      exact .value hlinked

/-- A part of a block and what comes behind the tag that ends it. -/
theorem subset_of_part {part rest all : List Piece} {mark : Piece}
    (h : part ++ mark :: rest ⊆ all) : part ⊆ all ∧ rest ⊆ all := by
  obtain ⟨hpart, hbehind⟩ := List.append_subset.mp h
  exact ⟨hpart, (List.cons_subset.mp hbehind).2⟩

/-- **Two runs of one derivation match chunk by chunk**, from any linked scopes. -/
theorem Derives.matches_renderNodes {limit : Int} {around : Nat} {nodes : List Node}
    {pieces all : List Piece} {context other : Dict}
    (hshape : (Value.dict context).SameShape (.dict other)) (h : Derives limit around nodes pieces) :
    ∀ {scope scope' : Scope}, pieces ⊆ all → Scope.Linked context other scope scope' →
      List.Forall₂ (Chunk.Matches all context other) (renderNodes scope nodes)
        (renderNodes scope' nodes) := by
  induction h with
  | nil =>
    intro scope scope' _ _
    exact .nil
  | text _ ih =>
    intro scope scope' hsub hlinked
    obtain ⟨hcontent, hrest⟩ := List.cons_subset.mp hsub
    exact .cons (.text hcontent) (ih hrest hlinked)
  | «variable» _ ih =>
    intro scope scope' hsub hlinked
    obtain ⟨htag, hrest⟩ := List.cons_subset.mp hsub
    exact .cons (matches_substituted hshape hlinked htag) (ih hrest hlinked)
  | cond _ _ _ ihthen ih =>
    intro scope scope' hsub hlinked
    obtain ⟨hthen, hrest⟩ := subset_of_part (List.cons_subset.mp hsub).2
    refine List.rel_append ?_ (ih hrest hlinked)
    rw [renderNode, renderNode, hlinked.holds_eq hshape]
    split
    next => exact ihthen hthen hlinked
    next => exact .nil
  | condElse _ _ _ _ ihthen ihelse ih =>
    intro scope scope' hsub hlinked
    obtain ⟨hthen, hsub⟩ := subset_of_part (List.cons_subset.mp hsub).2
    obtain ⟨helse, hrest⟩ := subset_of_part hsub
    refine List.rel_append ?_ (ih hrest hlinked)
    rw [renderNode, renderNode, hlinked.holds_eq hshape]
    split
    next => exact ihthen hthen hlinked
    next => exact ihelse helse hlinked
  | loop _ _ _ ihbody ih =>
    intro scope scope' hsub hlinked
    obtain ⟨hbody, hrest⟩ := subset_of_part (List.cons_subset.mp hsub).2
    refine List.rel_append ?_ (ih hrest hlinked)
    rw [renderNode, renderNode]
    exact List.rel_flatMap (hlinked.loopElements hshape)
      fun {_ _} helement => ihbody hbody (hlinked.within hshape helement)

/-! ## Sources -/

/-- **Contexts of one shape are told apart by nothing but their values.** Either the source is no
template, and both runs end with the same complaint about it, or both put out equally many chunks
that match one by one. A run whose chunks do not all have a text ends with the complaint of it. -/
theorem process_of_sameShape {context other : Dict}
    (hshape : (Value.dict context).SameShape (.dict other)) (limit : Int) (source : Text) :
    (∃ e, process limit context source = .error (.reported e) ∧
        process limit other source = .error (.reported e)) ∨
      ∃ chunks chunks',
        List.Forall₂ (Chunk.Matches ((tokenize source).map Token.piece) context other) chunks
          chunks' ∧
        process limit context source = Chunk.printed chunks ∧
        process limit other source = Chunk.printed chunks' := by
  cases hparse : parse limit source with
  | error e =>
    refine .inl ⟨e, ?_, ?_⟩ <;> rw [process, hparse]
  | ok nodes =>
    refine .inr ⟨renderNodes [context] nodes, renderNodes [other] nodes, ?_, ?_, ?_⟩
    · have hder := derives_of_parseTokens hparse
      exact hder.matches_renderNodes hshape (List.Subset.refl _) (.singleton hshape)
    · rw [process, hparse]
      rfl
    · rw [process, hparse]
      rfl

/-- A context of one row, whose only field is a text. -/
def oneRow (field : Text) : Dict := [(.text ['r'], .list [.dict [(.text ['n'], .text field)]])]

/-- The template that puts out the field of each row. -/
def eachRow : Text :=
  (Tag.eachOpen [' '] ['r']).spelling ++ (Tag.variable ['n']).spelling ++ Tag.eachClose.spelling

/-- Rows with fields that are not empty have one shape. -/
theorem oneRow_sameShape {field field' : Text} (h : field ≠ []) (h' : field' ≠ []) :
    (Value.dict (oneRow field)).SameShape (.dict (oneRow field')) := by
  have hplain : ∀ s : Text, (Value.text s).IsPlain := fun s => ⟨Value.noConfusion, rfl, rfl⟩
  have hfield : (Value.text field).SameShape (.text field') := by
    refine (hplain field).sameShape (hplain field') ?_
    rw [Value.truthy, Value.truthy, List.isEmpty_eq_false_iff.mpr h,
      List.isEmpty_eq_false_iff.mpr h']
  have hrow := Value.sameShape_dict_singleton ['n'] hfield
  exact Value.sameShape_dict_singleton ['r']
    (Value.sameShape_of_elements? rfl rfl (.cons hrow .nil))

/-- A field that is a tag of the template stands in its row as any other field does. -/
theorem process_oneRow_tag :
    (Value.dict (oneRow ['x'])).SameShape (.dict (oneRow Tag.eachClose.spelling)) ∧
      ((∃ e, process 1 (oneRow ['x']) eachRow = .error (.reported e) ∧
          process 1 (oneRow Tag.eachClose.spelling) eachRow = .error (.reported e)) ∨
        ∃ chunks chunks',
          List.Forall₂ (Chunk.Matches ((tokenize eachRow).map Token.piece) (oneRow ['x'])
            (oneRow Tag.eachClose.spelling)) chunks chunks' ∧
          process 1 (oneRow ['x']) eachRow = Chunk.printed chunks ∧
          process 1 (oneRow Tag.eachClose.spelling) eachRow = Chunk.printed chunks') := by
  have hshape : (Value.dict (oneRow ['x'])).SameShape (.dict (oneRow Tag.eachClose.spelling)) :=
    oneRow_sameShape (by decide) (by decide)
  exact ⟨hshape, process_of_sameShape hshape 1 eachRow⟩

/-! ## A value without a text -/

/-- A context of one value. -/
def oneValue (v : Value) : Dict := [(.text ['v'], v)]

/-- The template that puts out the value. -/
def itsValue : Text := (Tag.variable ['v']).spelling

/-- The template of one value puts out that value, if there is one. -/
theorem process_oneValue {limit : Int} {v : Value} (hv : v ≠ .null) :
    process limit (oneValue v) itsValue = Chunk.printed [.value v] := by
  have hparse : parse limit itsValue = .ok [.variable ['v'] itsValue] := by
    have hname : IsName ['v'] := ⟨List.cons_ne_nil _ _, List.forall_mem_singleton.mpr rfl⟩
    refine parse_eq_ok_iff.mpr ⟨⟨?_, ⟨trivial, trivial⟩⟩, ?_⟩
    · exact ⟨⟨hname, rfl⟩, fun htext => Bool.noConfusion htext, trivial⟩
    · exact Spells.variable .nil
  have hrender : renderNodes [oneValue v] [.variable ['v'] itsValue] = [.value v] := by
    cases v <;> first | rfl | exact absurd rfl hv
  rw [process, hparse]
  simp only [rendered, render, hrender]
  rfl

/-- An integer of more digits than are allowed cannot be shown. -/
theorem shown_int_eq_none {n : Nat} (hn : Nat.pow 10 Decimal.longestInteger ≤ n) :
    (Value.int n).shown = none := by
  simp only [Value.shown, Value.plain, Value.written, Value.writtenWithin, writtenInt_eq_none hn,
    Option.map_none]

/-- The least integer that is too long to be shown. -/
def tooLong : Value := .int (Nat.pow 10 Decimal.longestInteger)

/-- Of two contexts of one shape only one may have an output: where the value of the other cannot be
shown, the runs neither end alike nor put out matching chunks. -/
theorem process_oneValue_tooLong :
    (Value.dict (oneValue (.int 1))).SameShape (.dict (oneValue tooLong)) ∧
      ¬ ((∃ e, process 64 (oneValue (.int 1)) itsValue = .error e ∧
          process 64 (oneValue tooLong) itsValue = .error e) ∨
        ∃ chunks chunks' s s',
          List.Forall₂ (Chunk.Matches ((tokenize itsValue).map Token.piece) (oneValue (.int 1))
            (oneValue tooLong)) chunks chunks' ∧
          Chunk.output chunks = some s ∧ Chunk.output chunks' = some s' ∧
          process 64 (oneValue (.int 1)) itsValue = .ok s ∧
          process 64 (oneValue tooLong) itsValue = .ok s') := by
  have hone : process 64 (oneValue (.int 1)) itsValue = .ok (.ofText ['1']) := by
    rw [process_oneValue Value.noConfusion]
    rfl
  have hother : process 64 (oneValue tooLong) itsValue = .error (.escaped .badValue) := by
    have hshown : tooLong.shown = none := shown_int_eq_none (Nat.le_refl _)
    rw [process_oneValue Value.noConfusion, Chunk.printed, Chunk.output_singleton, Chunk.shown,
      hshown]
  refine ⟨?_, ?_⟩
  · refine Value.sameShape_dict_singleton ['v'] (Value.IsPlain.sameShape ?_ ?_ ?_)
    · exact ⟨Value.noConfusion, rfl, rfl⟩
    · exact ⟨Value.noConfusion, rfl, rfl⟩
    · have hpos : ∀ k, 0 < Nat.pow 10 k := fun k => Nat.pow_pos (by decide)
      exact (bne_iff_ne.mpr (Int.natCast_ne_zero.mpr (hpos Decimal.longestInteger).ne')).symm
  · rintro (⟨e, he, -⟩ | ⟨chunks, chunks', s, s', -, -, -, -, hs'⟩)
    · rw [hone] at he
      cases he
    · rw [hother] at hs'
      cases hs'

end Template

end Stencil
