import Stencil.Proofs.Template.Refusal
import Stencil.Proofs.Text.Console

/-!
# What a syntax error quotes

A syntax error names the tags that it is about, as they stand in the source, and says nothing else of the
source (`quotes_of_parse`). A tag is made of braces, a keyword, blanks and a name, so nothing in the message
has a meaning of its own on a console (`ordinary_message`), whatever the source holds.
-/

namespace Stencil.Template

namespace Misuse

/-- The tags that are quoted from the source, and those that are missed there. -/
def quotes : Misuse → List Text
  | .strayElse | .tooDeep _ => []
  | .unopened closer => [closer.spelling]
  | .secondElse opener | .elseInLoop opener => [opener]
  | .crossed closer opener _ expected => [closer.spelling, opener, expected.spelling]
  | .unclosed opener expected => [opener, expected.spelling]

end Misuse

/-- The spelling of a tag of the grammar. -/
def SpellsTag (s : Text) : Prop := ∃ tag : Tag, tag.Proper ∧ s = tag.spelling

section

variable {limit : Int} {source : Text} {e : SyntaxError}

theorem Part.spellsTag_closer (part : Part) : SpellsTag part.closer.spelling := by
  cases part with
  | thenPart => exact ⟨.ifClose, trivial, rfl⟩
  | elsePart thenNodes => exact ⟨.ifClose, trivial, rfl⟩
  | body => exact ⟨.eachClose, trivial, rfl⟩

namespace Unfinished

variable {u : Unfinished} {t : Token} {p : Position}

theorem quotes_of_openBlock {name : Text} {part : Part} (h : u.openBlock limit name part t = .error e) :
    ∀ s ∈ e.misuse.quotes, SpellsTag s := by
  unfold openBlock at h
  split at h
  next =>
    cases h
    exact List.forall_mem_nil _
  next => cases h

theorem quotes_of_elseMark (h : u.elseMark p = .error e)
    (hopeners : ∀ b ∈ u.blocks.head?, SpellsTag b.opener.raw) :
    ∀ s ∈ e.misuse.quotes, SpellsTag s := by
  unfold elseMark at h
  split at h
  next =>
    cases h
    exact List.forall_mem_nil _
  next b outer hblocks =>
    have hopener : SpellsTag b.opener.raw := hopeners b (by rw [hblocks]; rfl)
    split at h
    next => cases h
    next =>
      cases h
      exact List.forall_mem_singleton.mpr hopener
    next =>
      cases h
      exact List.forall_mem_singleton.mpr hopener

theorem quotes_of_closeBlock {closer : Tag} (h : u.closeBlock closer p = .error e)
    (hcloser : SpellsTag closer.spelling)
    (hopeners : ∀ b ∈ u.blocks.head?, SpellsTag b.opener.raw) :
    ∀ s ∈ e.misuse.quotes, SpellsTag s := by
  unfold closeBlock at h
  split at h
  next =>
    cases h
    exact List.forall_mem_singleton.mpr hcloser
  next b outer hblocks =>
    have hopener : SpellsTag b.opener.raw := hopeners b (by rw [hblocks]; rfl)
    split at h
    next => cases h
    next =>
      cases h
      simp only [OpenBlock.crossedBy, Misuse.quotes, List.forall_mem_cons]
      exact ⟨hcloser, hopener, b.part.spellsTag_closer, List.forall_mem_nil _⟩

/-- A token that is refused is complained of as a tag, with the innermost open block at most. -/
theorem quotes_of_read (h : u.read limit t = .error e)
    (hopeners : ∀ b ∈ u.blocks.head?, SpellsTag b.opener.raw) :
    ∀ s ∈ e.misuse.quotes, SpellsTag s := by
  unfold read at h
  split at h
  next => cases h
  next => cases h
  next => exact quotes_of_openBlock h
  next => exact quotes_of_openBlock h
  next => exact quotes_of_elseMark h hopeners
  next => exact quotes_of_closeBlock h ⟨.ifClose, trivial, rfl⟩ hopeners
  next => exact quotes_of_closeBlock h ⟨.eachClose, trivial, rfl⟩ hopeners

end Unfinished

/-- A block that is open behind tokens of a source was opened by a tag of the grammar. -/
theorem Standing.spellsTag_opener {b : OpenBlock} {outer : List OpenBlock} {tokens : List Token}
    (h : Standing (b :: outer) tokens) (htokens : tokens <+: tokenize source) :
    SpellsTag b.opener.raw := by
  obtain ⟨inner, hholds, hin⟩ := h.innermost
  obtain ⟨gap, name, hpiece⟩ := hholds.opens.exists_tag
  have hmem : b.opener ∈ tokenize source := htokens.subset (hin.behind.subset List.mem_cons_self)
  rcases hpiece with hpiece | hpiece
  · exact ⟨_, proper_of_mem_tokenize hmem hpiece, congrArg Piece.raw hpiece⟩
  · exact ⟨_, proper_of_mem_tokenize hmem hpiece, congrArg Piece.raw hpiece⟩

/-- **A syntax error quotes tags of the grammar**, and nothing else. -/
theorem quotes_of_parse (h : parse limit source = .error e) : ∀ s ∈ e.misuse.quotes, SpellsTag s := by
  rcases parse_eq_error_iff.mp h with ⟨front, t, back, u, hsplit, hrun, hread⟩ | ⟨u, hrun, hfinish⟩
  · refine Unfinished.quotes_of_read hread fun b hb => ?_
    obtain ⟨outer, hblocks⟩ := List.head?_eq_some_iff.mp hb
    have hstanding := Standing.of_foldlM hrun
    rw [hblocks] at hstanding
    exact hstanding.spellsTag_opener ⟨t :: back, hsplit.symm⟩
  · obtain ⟨b, outer, hblocks, rfl⟩ := Unfinished.finish_eq_error_iff.mp hfinish
    have hstanding := Standing.of_foldlM hrun
    rw [hblocks] at hstanding
    simp only [Misuse.quotes, List.forall_mem_cons]
    exact ⟨hstanding.spellsTag_opener List.prefix_rfl, b.part.spellsTag_closer, List.forall_mem_nil _⟩

end

/-! ## The message -/

theorem ordinary_ofNat (n : Nat) : Markup.Ordinary (Text.ofNat n) :=
  Markup.ordinary_of_forall (p := Char.isDigit) (by decide)
    fun _ hc => Nat.isDigit_of_mem_toDigits (by decide) (by decide) hc

theorem ordinary_ofInt (n : Int) : Markup.Ordinary (Text.ofInt n) := by
  cases n with
  | ofNat n => exact ordinary_ofNat n
  | negSucc n =>
    have hsign : Markup.Ordinary ['-'] := by decide
    exact Markup.ordinary_append_iff.mpr ⟨hsign, ordinary_ofNat (n + 1)⟩

theorem ordinary_name {name : Text} (h : IsName name) : Markup.Ordinary name :=
  Markup.ordinary_of_forall (by decide) h.2

theorem ordinary_gap {gap : Text} (h : IsGap gap) : Markup.Ordinary gap :=
  Markup.ordinary_of_forall (by decide) h.2

/-- A tag of the grammar is an ordinary text. -/
theorem SpellsTag.ordinary {s : Text} (h : SpellsTag s) : Markup.Ordinary s := by
  obtain ⟨tag, hproper, rfl⟩ := h
  cases tag with
  | «variable» name =>
    simp only [Tag.spelling, Markup.ordinary_append_iff]
    exact ⟨⟨by decide, ordinary_name hproper⟩, by decide⟩
  | ifOpen gap name | eachOpen gap name =>
    simp only [Tag.spelling, Markup.ordinary_append_iff]
    exact ⟨⟨⟨by decide, ordinary_gap hproper.1⟩, ordinary_name hproper.2⟩, by decide⟩
  | elseMark | ifClose | eachClose => decide

theorem Misuse.ordinary_quote {s : Text} (h : Markup.Ordinary s) : Markup.Ordinary (quote s) := by
  simp only [quote, Markup.ordinary_append_iff]
  exact ⟨⟨by decide, h⟩, by decide⟩

/-- A message that quotes ordinary texts is one. -/
theorem Misuse.ordinary_message {m : Misuse} (h : ∀ s ∈ m.quotes, Markup.Ordinary s) :
    Markup.Ordinary m.message := by
  cases m with
  | strayElse => decide
  | unopened closer =>
    simp only [quotes, List.forall_mem_cons] at h
    unfold message
    simp only [Markup.ordinary_append_iff]
    exact ⟨ordinary_quote h.1, by decide⟩
  | secondElse opener =>
    simp only [quotes, List.forall_mem_cons] at h
    unfold message
    simp only [Markup.ordinary_append_iff, and_assoc]
    exact ⟨by decide, by decide, by decide, ordinary_quote h.1, by decide⟩
  | elseInLoop opener =>
    simp only [quotes, List.forall_mem_cons] at h
    unfold message
    simp only [Markup.ordinary_append_iff, and_assoc]
    exact ⟨by decide, by decide, ordinary_quote h.1, by decide⟩
  | crossed closer opener line expected =>
    simp only [quotes, List.forall_mem_cons] at h
    obtain ⟨hcloser, hopener, hexpected, -⟩ := h
    unfold message
    simp only [Markup.ordinary_append_iff, and_assoc]
    exact ⟨ordinary_quote hcloser, by decide, ordinary_quote hopener, by decide, ordinary_ofNat line,
      by decide, ordinary_quote hexpected⟩
  | unclosed opener expected =>
    simp only [quotes, List.forall_mem_cons] at h
    unfold message
    simp only [Markup.ordinary_append_iff, and_assoc]
    exact ⟨ordinary_quote h.1, by decide, ordinary_quote h.2.1⟩
  | tooDeep limit =>
    unfold message
    simp only [Markup.ordinary_append_iff, and_assoc]
    exact ⟨by decide, ordinary_ofInt limit, by decide⟩

end Stencil.Template
