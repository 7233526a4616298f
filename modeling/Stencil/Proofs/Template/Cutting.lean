import Mathlib.Data.List.Infix
import Mathlib.Data.List.TakeWhile
import Stencil.Template.Token

/-!
# Cutting a source

A source is cut into tags and texts in exactly one way. `Separated` says what a cut may look like:
every tag is one of the grammar, every text is not empty and holds no tag, and no two texts are
neighbours. `Piece.ofSource_eq_iff` says that the pieces of a source are the only separated ones
that it is the concatenation of.

Two facts carry this. Reading a tag at the head of a text succeeds exactly when a tag of the grammar
is spelled there (`Tag.scan_eq_some_iff`), because a gap, a name and the closing braces share no
character. And no tag begins in a text and ends behind it (`Tag.isPrefix_of_seam`): a tag has its
opening braces at its head and nowhere else, so it cannot run into the next one.
-/

namespace Stencil.Template

/-! ## Characters of a tag -/

/-- A name character is no blank, so a gap ends where a name begins. -/
theorem not_isBlank_of_isNameChar {c : Char} (h : isNameChar c = true) : isBlank c = false := by
  have hrange : (48 ≤ c.toNat ∧ c.toNat ≤ 57) ∨ (65 ≤ c.toNat ∧ c.toNat ≤ 90) ∨
      (97 ≤ c.toNat ∧ c.toNat ≤ 122) ∨ c.toNat = 95 := by
    unfold isNameChar Char.isAlphanum Char.isAlpha Char.isUpper Char.isLower Char.isDigit at h
    simp only [Bool.or_eq_true, Bool.and_eq_true, decide_eq_true_eq, beq_iff_eq,
      UInt32.le_iff_toNat_le, ge_iff_le] at h
    change (((65 ≤ c.toNat ∧ c.toNat ≤ 90) ∨ (97 ≤ c.toNat ∧ c.toNat ≤ 122)) ∨
      (48 ≤ c.toNat ∧ c.toNat ≤ 57)) ∨ c = '_' at h
    rcases h with h | rfl
    · omega
    · decide
  simp only [isBlank, Bool.or_eq_false_iff, Bool.and_eq_false_iff, decide_eq_false_iff_not,
    beq_eq_false_iff_ne]
  omega

/-- The two parts of a list that are told apart by a predicate are found again. -/
theorem span_append {α : Type} {p : α → Bool} {front back : List α} (hfront : ∀ a ∈ front, p a = true)
    (hback : ∀ a, back.head? = some a → p a = false) :
    (front ++ back).takeWhile p = front ∧ (front ++ back).dropWhile p = back := by
  rw [List.takeWhile_append_of_pos hfront, List.dropWhile_append_of_pos hfront]
  cases back with
  | nil => simp
  | cons a back => simp [hback a rfl]

namespace Tag

/-! ## Reading a tag back -/

/-- A proper name behind which the closing braces stand is read. -/
theorem scanName_append {name : Text} (h : IsName name) (rest : Text) :
    scanName (name ++ '}' :: '}' :: rest) = some (name, rest) := by
  obtain ⟨c, name, rfl⟩ := List.exists_cons_of_ne_nil h.1
  have hbrace : ∀ a, ('}' :: '}' :: rest).head? = some a → isNameChar a = false := by
    intro a ha
    cases ha
    decide
  obtain ⟨htake, hdrop⟩ := span_append h.2 hbrace
  simp only [scanName, htake, hdrop]

/-- What is read as a name is one. -/
theorem isName_of_scanName {s name rest : Text} (h : scanName s = some (name, rest)) :
    IsName name := by
  unfold scanName at h
  split at h
  next c n r hn _ =>
    cases h
    refine ⟨List.cons_ne_nil c n, fun a ha => ?_⟩
    rw [← hn] at ha
    exact List.mem_takeWhile_imp ha
  next => cases h

/-- A proper gap and a proper name are read. -/
theorem scanGapName_append {gap name : Text} (hgap : IsGap gap) (hname : IsName name) (rest : Text) :
    scanGapName (gap ++ name ++ '}' :: '}' :: rest) = some (gap, name, rest) := by
  obtain ⟨b, gap, rfl⟩ := List.exists_cons_of_ne_nil hgap.1
  have hhead : ∀ a, (name ++ '}' :: '}' :: rest).head? = some a → isBlank a = false := by
    intro a ha
    obtain ⟨c, name, rfl⟩ := List.exists_cons_of_ne_nil hname.1
    obtain rfl := Option.some.inj ha
    exact not_isBlank_of_isNameChar (hname.2 _ List.mem_cons_self)
  obtain ⟨htake, hdrop⟩ := span_append hgap.2 hhead
  rw [List.append_assoc]
  simp only [scanGapName, htake, hdrop, scanName_append hname, Option.map_some]

/-- What is read as a gap and a name are these. -/
theorem isGap_of_scanGapName {s gap name rest : Text} (h : scanGapName s = some (gap, name, rest)) :
    IsGap gap ∧ IsName name := by
  unfold scanGapName at h
  split at h
  next => cases h
  next b g hg =>
    simp only [Option.map_eq_some_iff, Prod.exists, Prod.mk.injEq] at h
    obtain ⟨n, r, hscan, rfl, rfl, rfl⟩ := h
    refine ⟨⟨List.cons_ne_nil b g, fun a ha => ?_⟩, isName_of_scanName hscan⟩
    rw [← hg] at ha
    exact List.mem_takeWhile_imp ha

/-- A tag of the grammar at the head of a text is read. -/
theorem scan_append {tag : Tag} (h : tag.Proper) (rest : Text) :
    scan (tag.spelling ++ rest) = some (tag, rest) := by
  cases tag with
  | «variable» name =>
    obtain ⟨c, name, rfl⟩ := List.exists_cons_of_ne_nil h.1
    have hname := scanName_append h rest
    have hc := h.2 c List.mem_cons_self
    simp only [spelling, List.cons_append, List.nil_append, List.append_assoc] at hname ⊢
    rw [scan.eq_6, hname, Option.map_some]
    -- A name character follows the braces, so none of the other spellings is there.
    all_goals
      intro tail heq
      rw [(List.cons.inj heq).1] at hc
      exact absurd hc (by decide)
  | ifOpen gap name =>
    have hread := scanGapName_append h.1 h.2 rest
    simp only [spelling, List.cons_append, List.nil_append, List.append_assoc] at hread ⊢
    simp only [scan, hread, Option.map_some]
  | eachOpen gap name =>
    have hread := scanGapName_append h.1 h.2 rest
    simp only [spelling, List.cons_append, List.nil_append, List.append_assoc] at hread ⊢
    simp only [scan, hread, Option.map_some]
  | elseMark => rfl
  | ifClose => rfl
  | eachClose => rfl

/-- What is read as a tag is one of the grammar. -/
theorem proper_of_scan {s rest : Text} {tag : Tag} (h : scan s = some (tag, rest)) : tag.Proper := by
  unfold scan at h
  split at h
  case h_1 | h_2 =>
    simp only [Option.map_eq_some_iff, Prod.exists, Prod.mk.injEq] at h
    obtain ⟨gap, name, r, hscan, rfl, rfl⟩ := h
    exact isGap_of_scanGapName hscan
  case h_3 | h_4 | h_5 => cases h; trivial
  case h_6 =>
    simp only [Option.map_eq_some_iff, Prod.exists, Prod.mk.injEq] at h
    obtain ⟨name, r, hscan, rfl, rfl⟩ := h
    exact isName_of_scanName hscan
  case h_7 => cases h

/-- A tag is read exactly where one of the grammar is spelled. -/
theorem scan_eq_some_iff {s rest : Text} {tag : Tag} :
    scan s = some (tag, rest) ↔ tag.Proper ∧ s = tag.spelling ++ rest := by
  constructor
  · intro h
    exact ⟨proper_of_scan h, eq_spelling_of_scan h⟩
  · rintro ⟨h, rfl⟩
    exact scan_append h rest

/-! ## Where a tag cannot begin -/

/-- A tag of the grammar has its opening braces at its head, and no opening brace behind them. -/
theorem exists_spelling_eq {tag : Tag} (h : tag.Proper) :
    ∃ c body, tag.spelling = '{' :: '{' :: c :: body ∧ '{' ∉ c :: body := by
  have hname : ∀ {name : Text}, IsName name → '{' ∉ name ++ ['}', '}'] := by
    intro name hn hmem
    rcases List.mem_append.mp hmem with hmem | hmem
    · exact absurd (hn.2 _ hmem) (by decide)
    · exact absurd hmem (by decide)
  have hgap : ∀ {gap : Text}, IsGap gap → '{' ∉ gap := fun hg hmem =>
    absurd (hg.2 _ hmem) (by decide)
  cases tag with
  | «variable» name =>
    obtain ⟨c, name, rfl⟩ := List.exists_cons_of_ne_nil h.1
    exact ⟨c, name ++ ['}', '}'], rfl, hname h⟩
  | ifOpen gap name =>
    refine ⟨'#', 'i' :: 'f' :: (gap ++ name ++ ['}', '}']), rfl, ?_⟩
    rw [List.append_assoc]
    simp [hgap h.1, hname h.2]
  | eachOpen gap name =>
    refine ⟨'#', 'e' :: 'a' :: 'c' :: 'h' :: (gap ++ name ++ ['}', '}']), rfl, ?_⟩
    rw [List.append_assoc]
    simp [hgap h.1, hname h.2]
  | elseMark => exact ⟨_, _, rfl, by decide⟩
  | ifClose => exact ⟨_, _, rfl, by decide⟩
  | eachClose => exact ⟨_, _, rfl, by decide⟩

/-- A tag that begins in a text in front of another tag lies inside of that text. -/
theorem isPrefix_of_seam {tag next : Tag} {content rest after : Text} (htag : tag.Proper)
    (hcontent : content ≠ []) (hnext : next.Proper)
    (h : tag.spelling ++ rest = content ++ (next.spelling ++ after)) :
    tag.spelling <+: content := by
  obtain ⟨c, body, hspell, hbody⟩ := exists_spelling_eq htag
  obtain ⟨d, body', hspell', -⟩ := exists_spelling_eq hnext
  rcases List.append_eq_append_iff.mp h with ⟨inside, hin, -⟩ | ⟨extra, hextra, hrest⟩
  · exact ⟨inside, hin.symm⟩
  · cases extra with
    | nil =>
      rw [List.append_nil] at hextra
      rw [hextra]
    | cons x extra =>
      -- The tag runs over into the next one, so a brace stands behind its first two.
      exfalso
      simp only [hspell', List.cons_append, List.cons.injEq] at hrest
      obtain ⟨rfl, hrest⟩ := hrest
      rw [hspell] at hextra
      obtain ⟨a, content, rfl⟩ := List.exists_cons_of_ne_nil hcontent
      have hextra := (List.cons.inj hextra).2
      cases content with
      | nil =>
        have hbraces : c :: body = extra := (List.cons.inj hextra).2
        rw [← hbraces, List.cons_append] at hrest
        have hc : '{' = c := (List.cons.inj hrest).1
        exact hbody (List.mem_cons.mpr (Or.inl hc))
      | cons b content =>
        have hbraces : c :: body = content ++ '{' :: extra := (List.cons.inj hextra).2
        exact hbody (by simp [hbraces])

end Tag

/-! ## Separated pieces -/

/-- Some stretch of a text spells a tag of the grammar. -/
def HoldsTag (s : Text) : Prop := ∃ tag : Tag, tag.Proper ∧ tag.spelling <:+: s

namespace Piece

/-- Whether a piece is plain text. -/
def isText : Piece → Bool
  | .text _ => true
  | .tag _ => false

/-- Pieces that a source is cut into: tags of the grammar, and texts that are not empty, hold no tag
and have no text behind them. -/
inductive Separated : List Piece → Prop
  | nil : Separated []
  | tag {t : Tag} {pieces : List Piece} : t.Proper → Separated pieces → Separated (.tag t :: pieces)
  | text {content : Text} {pieces : List Piece} : content ≠ [] → ¬ HoldsTag content →
      (∀ p ∈ pieces.head?, p.isText = false) → Separated pieces →
      Separated (.text content :: pieces)

/-- A tag keeps what is in front of it apart from what is behind it. -/
theorem separated_append_tag {front back : List Piece} {t : Tag} :
    Separated (front ++ .tag t :: back) ↔ Separated front ∧ t.Proper ∧ Separated back := by
  constructor
  · intro h
    induction front with
    | nil =>
      cases h with
      | tag ht hback => exact ⟨.nil, ht, hback⟩
    | cons p front ih =>
      cases h with
      | tag hp hrest =>
        obtain ⟨hfront, hback⟩ := ih hrest
        exact ⟨.tag hp hfront, hback⟩
      | text hc hno hnext hrest =>
        obtain ⟨hfront, hback⟩ := ih hrest
        refine ⟨.text hc hno ?_ hfront, hback⟩
        cases front with
        | nil => simp
        | cons q front => simpa using hnext
  · rintro ⟨hfront, ht, hback⟩
    induction hfront with
    | nil => exact .tag ht hback
    | tag hp _ ih => exact .tag hp ih
    | @text content pieces hc hno hnext _ ih =>
      refine .text hc hno ?_ ih
      cases pieces with
      | nil => simp [isText]
      | cons q pieces => simpa using hnext

/-! ## The pieces of a source -/

@[simp]
theorem ofSource_nil : ofSource [] = [] := by
  rw [ofSource]
  simp [Tag.scan]

/-- Where a tag is read, it is the first piece. -/
theorem ofSource_of_scan {source rest : Text} {t : Tag} (h : Tag.scan source = some (t, rest)) :
    ofSource source = .tag t :: ofSource rest := by
  rw [ofSource]
  split
  next t' rest' h' =>
    rw [h] at h'
    cases h'
    rfl
  next h' =>
    rw [h] at h'
    cases h'

/-- Where no tag is read, the first character is text. -/
theorem ofSource_cons {c : Char} {rest : Text} (h : Tag.scan (c :: rest) = none) :
    ofSource (c :: rest) = consChar c (ofSource rest) := by
  rw [ofSource]
  split
  next t' rest' h' =>
    rw [h] at h'
    cases h'
  next => rfl

/-- The pieces make up the source. -/
theorem flatMap_raw_ofSource (source : Text) : (ofSource source).flatMap raw = source := by
  induction source using ofSource.induct with
  | case1 source t rest h ih =>
    rw [ofSource_of_scan h, List.flatMap_cons, ih]
    exact (Tag.eq_spelling_of_scan h).symm
  | case2 => simp
  | case3 c rest h ih =>
    rw [ofSource_cons h]
    have hcons : ∀ pieces : List Piece,
        (consChar c pieces).flatMap raw = c :: pieces.flatMap raw := by
      intro pieces
      unfold consChar
      split <;> simp [raw]
    rw [hcons, ih]

/-- A character in front of separated pieces keeps them separated, unless a tag begins with it. -/
theorem Separated.consChar {c : Char} {pieces : List Piece} (h : Separated pieces)
    (hscan : Tag.scan (c :: pieces.flatMap raw) = none) : Separated (consChar c pieces) := by
  have hnone : ∀ content behind : Text, pieces.flatMap raw = content ++ behind →
      ¬ HoldsTag content → ¬ HoldsTag (c :: content) := by
    rintro content behind hraw hno ⟨t, ht, hin⟩
    rcases List.infix_cons_iff.mp hin with ⟨rest, hrest⟩ | hin
    · have hread : Tag.scan (c :: pieces.flatMap raw) = some (t, rest ++ behind) := by
        refine Tag.scan_eq_some_iff.mpr ⟨ht, ?_⟩
        rw [hraw, ← List.append_assoc, hrest, List.cons_append]
      rw [hscan] at hread
      cases hread
    · exact hno ⟨t, ht, hin⟩
  have hnil : ¬ HoldsTag [] := by
    rintro ⟨t, -, hin⟩
    exact Tag.spelling_ne_nil t (List.infix_nil.mp hin)
  unfold Piece.consChar
  split
  next content rest =>
    cases h with
    | text hc hno hnext hrest =>
      exact .text (List.cons_ne_nil _ _) (hnone content _ rfl hno) hnext hrest
  next hhead =>
    refine .text (List.cons_ne_nil _ _) (hnone [] _ rfl hnil) ?_ h
    intro p hp
    cases p with
    | tag t => rfl
    | text content =>
      obtain ⟨rest, rfl⟩ := List.head?_eq_some_iff.mp hp
      exact absurd rfl (hhead content rest)

/-- A source is cut into separated pieces. -/
theorem separated_ofSource (source : Text) : Separated (ofSource source) := by
  induction source using ofSource.induct with
  | case1 source t rest h ih =>
    rw [ofSource_of_scan h]
    exact .tag (Tag.proper_of_scan h) ih
  | case2 =>
    rw [ofSource_nil]
    exact .nil
  | case3 c rest h ih =>
    rw [ofSource_cons h]
    refine ih.consChar ?_
    rw [flatMap_raw_ofSource]
    exact h

/-- No tag is read in a text in front of separated pieces that begin with no text. -/
theorem scan_text_append {content : Text} {pieces : List Piece} (hcontent : content ≠ [])
    (hno : ¬ HoldsTag content) (hnext : ∀ p ∈ pieces.head?, p.isText = false)
    (h : Separated pieces) : Tag.scan (content ++ pieces.flatMap raw) = none := by
  refine Option.eq_none_iff_forall_ne_some.mpr ?_
  rintro ⟨t, rest⟩ hscan
  obtain ⟨ht, hread⟩ := Tag.scan_eq_some_iff.mp hscan
  refine hno ⟨t, ht, List.IsPrefix.isInfix ?_⟩
  cases h with
  | nil => exact ⟨rest, by simpa using hread.symm⟩
  | tag hp _ => exact Tag.isPrefix_of_seam ht hcontent hp hread.symm
  | text => exact absurd (hnext _ rfl) (by simp [isText])

/-- A text in front of separated pieces that begin with no text is one piece. -/
theorem ofSource_text_append {content : Text} {pieces : List Piece} (hcontent : content ≠ [])
    (hno : ¬ HoldsTag content) (hnext : ∀ p ∈ pieces.head?, p.isText = false)
    (h : Separated pieces) (hcut : ofSource (pieces.flatMap raw) = pieces) :
    ofSource (content ++ pieces.flatMap raw) = .text content :: pieces := by
  induction content with
  | nil => exact absurd rfl hcontent
  | cons c content ih =>
    have hscan := scan_text_append hcontent hno hnext h
    rw [List.cons_append] at hscan ⊢
    rw [ofSource_cons hscan]
    cases content with
    | nil =>
      rw [List.nil_append, hcut]
      cases pieces with
      | nil => rfl
      | cons p pieces =>
        cases p with
        | tag t => rfl
        | text content => exact absurd (hnext _ rfl) (by simp [isText])
    | cons d content =>
      have hno' : ¬ HoldsTag (d :: content) := by
        rintro ⟨t, ht, hin⟩
        exact hno ⟨t, ht, hin.trans (List.suffix_cons c _).isInfix⟩
      rw [ih (List.cons_ne_nil d content) hno']
      rfl

/-- Separated pieces are what their concatenation is cut into. -/
theorem ofSource_flatMap_raw {pieces : List Piece} (h : Separated pieces) :
    ofSource (pieces.flatMap raw) = pieces := by
  induction h with
  | nil => exact ofSource_nil
  | @tag t pieces ht _ ih =>
    have hscan : Tag.scan ((Piece.tag t).raw ++ pieces.flatMap raw) = some (t, pieces.flatMap raw) :=
      Tag.scan_append ht _
    rw [List.flatMap_cons, ofSource_of_scan hscan, ih]
  | text hcontent hno hnext h ih => exact ofSource_text_append hcontent hno hnext h ih

/-- **A source is cut in exactly one way**: its pieces are the separated ones that make it up. -/
theorem ofSource_eq_iff {source : Text} {pieces : List Piece} :
    ofSource source = pieces ↔ Separated pieces ∧ pieces.flatMap raw = source := by
  constructor
  · rintro rfl
    exact ⟨separated_ofSource source, flatMap_raw_ofSource source⟩
  · rintro ⟨h, rfl⟩
    exact ofSource_flatMap_raw h

end Piece

end Stencil.Template
