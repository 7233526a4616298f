import Stencil.Proofs.Template.Refusal

/-!
# The nesting limit

A limit is looked at where a block opens and nowhere else (`limit_only_nests`). What a source is parsed to,
or what is complained of in it, is the same under every higher limit, but for the complaint that blocks are
nested too deep. And that complaint is made exactly where an opening tag stands inside of as many blocks as
are allowed with no misplaced tag before it; the first such tag is the one that is complained of.

So a limit has no say in which tags are misplaced, and a misplaced tag behind the place where blocks are
nested too deep is not looked for.
-/

namespace Stencil.Template

/-! ## Under a higher limit -/

section

variable {limit limit' : Int}

/-- Under a higher limit a token is read as before, unless it opened a block too deep. -/
theorem Unfinished.read_of_le (h : limit ≤ limit') (u : Unfinished) (t : Token) :
    u.read limit t = u.read limit' t ∨ ∃ e, u.read limit t = .error e ∧ e.misuse.isNesting = true := by
  have hopen (name : Text) (part : Part) (opener : Token) :
      u.openBlock limit name part opener = u.openBlock limit' name part opener ∨
        ∃ e, u.openBlock limit name part opener = .error e ∧ e.misuse.isNesting = true := by
    by_cases hroom : u.blocks.length + 1 ≤ limit
    · rw [openBlock_eq hroom, openBlock_eq (hroom.trans h)]
      exact .inl rfl
    · exact .inr ⟨_, if_pos (Int.not_le.mp hroom), rfl⟩
  obtain ⟨piece, position⟩ := t
  cases piece with
  | text content => exact .inl rfl
  | tag tag =>
    cases tag with
    | «variable» name => exact .inl rfl
    | ifOpen gap name => exact hopen name .thenPart _
    | eachOpen gap name => exact hopen name .body _
    | elseMark => exact .inl rfl
    | ifClose => exact .inl rfl
    | eachClose => exact .inl rfl

/-- What is read within a limit is read within a higher one. -/
theorem foldlM_read_of_le (h : limit ≤ limit') {tokens : List Token} {u v : Unfinished}
    (hrun : tokens.foldlM (Unfinished.read limit) u = .ok v) :
    tokens.foldlM (Unfinished.read limit') u = .ok v := by
  induction tokens generalizing u with
  | nil => exact hrun
  | cons t tokens ih =>
    rw [List.foldlM_cons] at hrun
    obtain ⟨w, hstep, hrest⟩ := bind_eq_ok_iff.mp hrun
    have hstep' : u.read limit' t = .ok w := by
      rcases u.read_of_le h t with heq | ⟨e, he, -⟩
      · rw [← heq, hstep]
      · cases hstep.symm.trans he
    exact (foldlM_read_cons hstep').trans (ih hrest)

/-- A template within a limit is the same one within a higher limit. -/
theorem parse_ok_of_le (h : limit ≤ limit') {source : Text} {nodes : List Node}
    (hparse : parse limit source = .ok nodes) : parse limit' source = .ok nodes := by
  obtain ⟨u, hrun, hfinish⟩ := bind_eq_ok_iff.mp hparse
  exact bind_eq_ok_iff.mpr ⟨u, foldlM_read_of_le h hrun, hfinish⟩

/-- What else is complained of within a limit is complained of within a higher limit. -/
theorem parse_error_of_le (h : limit ≤ limit') {source : Text} {e : SyntaxError}
    (hparse : parse limit source = .error e) (hkind : e.misuse.isNesting = false) :
    parse limit' source = .error e := by
  rw [parse_eq_error_iff] at hparse ⊢
  rcases hparse with ⟨front, t, back, u, hsplit, hrun, hread⟩ | ⟨u, hrun, hfinish⟩
  · refine .inl ⟨front, t, back, u, hsplit, foldlM_read_of_le h hrun, ?_⟩
    rcases u.read_of_le h t with heq | ⟨e', he', hnesting⟩
    · rw [← heq, hread]
    · obtain rfl := Except.error.inj (hread.symm.trans he')
      cases hkind.symm.trans hnesting
  · exact .inr ⟨u, foldlM_read_of_le h hrun, hfinish⟩

end

/-! ## Blocks that are nested too deep -/

/-- An opening tag inside of as many blocks as are allowed, with no misplaced tag before it. A limit below
zero allows as many as zero. -/
structure TooDeep (limit : Int) (tokens front : List Token) (opener : Token) : Prop where
  behind : front ++ [opener] <+: tokens
  opens : opener.Opens
  deep : max limit 0 ≤ rise front
  orderly : Orderly front

section

variable {limit : Int} {source : Text} {tokens : List Token} {u : Unfinished}

/-- Among tokens that are read each has a place, and each that opens a block has room for it. -/
theorem of_foldlM_read (hrun : tokens.foldlM (Unfinished.read limit) .empty = .ok u)
    {front : List Token} {t : Token} (hfront : front ++ [t] <+: tokens) :
    HasPlace front t.piece ∧ (t.Opens → rise front < limit) := by
  obtain ⟨back, rfl⟩ := concat_isPrefix_iff.mp hfront
  rw [List.foldlM_append] at hrun
  obtain ⟨v, hv, hrest⟩ := bind_eq_ok_iff.mp hrun
  rw [List.foldlM_cons] at hrest
  obtain ⟨w, hread, -⟩ := bind_eq_ok_iff.mp hrest
  exact (Standing.of_foldlM hv).of_read_ok hread

/-- Where a block is nested too deep, that is complained of. -/
theorem TooDeep.exists_error {front : List Token} {opener : Token}
    (h : TooDeep limit (tokenize source) front opener) :
    ∃ e, parse limit source = .error e ∧ e.misuse.isNesting = true := by
  obtain ⟨back, hsplit⟩ := concat_isPrefix_iff.mp h.behind
  cases hrun : front.foldlM (Unfinished.read limit) .empty with
  | error e =>
    -- Reading stops before the tag, at a token that has a place, so that is nested too deep.
    obtain ⟨before, t, between, v, rfl, hv, hread⟩ := foldlM_eq_error_iff.mp hrun
    refine ⟨e, parse_eq_error_iff.mpr (.inl ⟨before, t, between ++ opener :: back, v, ?_, hv, hread⟩), ?_⟩
    · rw [hsplit, List.append_assoc, List.cons_append]
    · rcases ((Standing.of_foldlM hv).of_read_error hread).2 with ⟨hkind, -⟩ | ⟨-, hplace⟩
      · exact hkind
      · exact absurd (h.orderly before t (concat_isPrefix_iff.mpr ⟨between, rfl⟩)) hplace
  | ok v =>
    have hstanding := Standing.of_foldlM hrun
    cases hread : v.read limit opener with
    | ok w =>
      have hroom := (hstanding.of_read_ok hread).2 h.opens
      have := h.deep
      omega
    | error e =>
      refine ⟨e, parse_eq_error_iff.mpr (.inl ⟨front, opener, back, v, hsplit, hrun, hread⟩), ?_⟩
      rcases (hstanding.of_read_error hread).2 with ⟨hkind, -⟩ | ⟨-, hplace⟩
      · exact hkind
      · exact absurd (h.opens.hasPlace front) hplace

/-- What is complained of as nested too deep is the first tag that is. -/
theorem exists_first_tooDeep {e : SyntaxError} (hparse : parse limit source = .error e)
    (hkind : e.misuse.isNesting = true) :
    ∃ front opener, TooDeep limit (tokenize source) front opener ∧
      (∀ front' opener', TooDeep limit (tokenize source) front' opener' →
        front.length ≤ front'.length) ∧ e.position = opener.position := by
  rcases parse_eq_error_iff.mp hparse with ⟨front, t, back, v, hsplit, hrun, hread⟩ | ⟨v, -, hfinish⟩
  · have hstanding := Standing.of_foldlM hrun
    obtain ⟨hplace, ⟨-, hopens, hdeep⟩ | ⟨hother, -⟩⟩ := hstanding.of_read_error hread
    · have hbehind : front ++ [t] <+: tokenize source := concat_isPrefix_iff.mpr ⟨back, hsplit⟩
      have hcount := hstanding.rise_eq
      refine ⟨front, t, ⟨hbehind, hopens, by omega, ?_⟩, ?_, hplace⟩
      · exact fun before other hbefore => (of_foldlM_read hrun hbefore).1
      · intro front' opener' hfirst
        by_contra hshort
        -- An earlier one was read, so there was room for it.
        have hbefore : front' ++ [opener'] <+: front := by
          refine List.prefix_of_prefix_length_le hfirst.behind
            ((List.prefix_append front [t]).trans hbehind) ?_
          rw [List.length_append, List.length_singleton]
          omega
        have hroom := (of_foldlM_read hrun hbefore).2 hfirst.opens
        have := hfirst.deep
        omega
    · cases hkind.symm.trans hother
  · obtain ⟨b, outer, -, rfl⟩ := Unfinished.finish_eq_error_iff.mp hfinish
    cases hkind

end

/-- **A nesting limit only ever adds the complaint that blocks are nested too deep.** Under a higher limit a
source is parsed to the same nodes, or any other complaint is made with the same words at the same place.
The complaint about nesting is made exactly when an opening tag is inside of as many blocks as are allowed
and no tag before it is misplaced, and it is made of the first such tag. -/
theorem limit_only_nests {limit limit' : Int} (h : limit ≤ limit') (source : Text) :
    (∀ nodes, parse limit source = .ok nodes → parse limit' source = .ok nodes) ∧
      (∀ e, parse limit source = .error e → e.misuse.isNesting = false →
        parse limit' source = .error e) ∧
      ((∃ e, parse limit source = .error e ∧ e.misuse.isNesting = true) ↔
        ∃ front opener, TooDeep limit (tokenize source) front opener) ∧
      ∀ e, parse limit source = .error e → e.misuse.isNesting = true →
        ∃ front opener, TooDeep limit (tokenize source) front opener ∧
          (∀ front' opener', TooDeep limit (tokenize source) front' opener' →
            front.length ≤ front'.length) ∧ e.position = opener.position := by
  refine ⟨fun nodes => parse_ok_of_le h, fun e => parse_error_of_le h, ⟨?_, ?_⟩,
    fun e => exists_first_tooDeep⟩
  · rintro ⟨e, hparse, hkind⟩
    obtain ⟨front, opener, hdeep, -⟩ := exists_first_tooDeep hparse hkind
    exact ⟨front, opener, hdeep⟩
  · rintro ⟨front, opener, hdeep⟩
    exact hdeep.exists_error

/-- Within a limit of one it is the loop that is complained of, and the close tag behind it is not. -/
theorem limit_only_nests_crossedSource :
    let e : SyntaxError := ⟨.tooDeep 1, ⟨9, 1, 10⟩⟩
    (1 : Int) ≤ 2 ∧ parse 1 crossedSource = .error e ∧ e.misuse.isNesting = true ∧
      ∃ front opener, TooDeep 1 (tokenize crossedSource) front opener ∧
        (∀ front' opener', TooDeep 1 (tokenize crossedSource) front' opener' →
          front.length ≤ front'.length) ∧ e.position = opener.position := by
  intro e
  have hlimit : (1 : Int) ≤ 2 := by decide
  have hparse : parse 1 crossedSource = .error e := by
    rw [parse, tokenize_crossedSource]
    rfl
  obtain ⟨-, -, -, hfirst⟩ := limit_only_nests hlimit crossedSource
  exact ⟨hlimit, hparse, rfl, hfirst e hparse rfl⟩

end Stencil.Template
