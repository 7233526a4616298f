import Stencil.Proofs.Text.Markup
import Stencil.Text.Console

/-!
# What the console shows of a line

A line is put together from a word in a style, blanks, and escaped text. The console shows it piece by piece:
a styled word and ordinary text as they are (`plain_styled_append`, `plain_ordinary_append`), and of an
escaped text the text (`plain_escape_append`), as long as no character is left in it that has a meaning of
its own. Brackets come back from escaping, but a backslash may be taken for one that escapes, and a colon for
one that opens the name of an emoji. A colon with a blank behind it opens none (`Spaced`), so what is said
behind it is shown, whatever stands before (`exists_plain_append`).

What is put behind an escaped text can still end a tag that has begun there, so it must not hold a closing
bracket (`items_append`).
-/

namespace Stencil

/-! ## Emoji -/

namespace Emoji

/-- A text in which every colon has a blank behind it. -/
inductive Spaced : Text → Prop
  | nil : Spaced []
  | char {c : Char} {rest : Text} : c ≠ ':' → Spaced rest → Spaced (c :: rest)
  | colon {blank : Char} {rest : Text} : isBlank blank = true → Spaced (blank :: rest) →
      Spaced (':' :: blank :: rest)

/-- A colon in front of a blank opens no name. -/
theorem name?_of_blank {c : Char} (h : isBlank c = true) (rest : Text) : name? (c :: rest) = none := by
  have hstops : staysInName c = false := by simp [staysInName, h]
  have hcolon : c ≠ ':' := by
    rintro rfl
    cases h
  rw [name?, List.dropWhile_cons_of_neg (by simp [hstops])]
  split
  next heq => exact absurd (List.cons.inj heq).1 hcolon
  next => rfl

/-- Where every colon has a blank behind it, there are no emoji. -/
theorem Spaced.shown_eq {s : Text} (h : Spaced s) : shown s = s := by
  induction h with
  | nil => rw [shown]
  | @char c rest hc _ ih => rw [shown, if_neg hc, ih]
  | @colon blank rest hblank _ ih =>
    rw [shown, if_pos rfl]
    split
    next name after hname => rw [name?_of_blank hblank] at hname; cases hname
    next => rw [ih]

theorem Spaced.append {s rest : Text} (hs : ':' ∉ s) (h : Spaced rest) : Spaced (s ++ rest) := by
  induction s with
  | nil => exact h
  | cons c s ih =>
    rw [List.mem_cons, not_or] at hs
    exact .char (Ne.symm hs.1) (ih hs.2)

theorem spaced_of_notMem {s : Text} (hs : ':' ∉ s) : Spaced s := by
  rw [← List.append_nil s]
  exact .append hs .nil

/-- A name is what stands before the first colon, if there is no blank in it. -/
theorem eq_append_of_name? {s name after : Text} (h : name? s = some (name, after)) :
    s = name ++ ':' :: after ∧ ':' ∉ name := by
  unfold name? at h
  split at h
  next rest hrest =>
    cases h
    refine ⟨by rw [← hrest, List.takeWhile_append_dropWhile], fun hmem => ?_⟩
    cases List.mem_takeWhile_imp hmem
  next => cases h

/-- **No name reaches over a blank**: what stands behind a colon and begins with one is shown as it is,
whatever is before the colon. -/
theorem exists_shown_append {blank : Char} {rest : Text} (hblank : isBlank blank = true)
    (hspaced : Spaced (blank :: rest)) (s : Text) :
    ∃ front, shown (s ++ ':' :: blank :: rest) = front ++ blank :: rest := by
  have hrest : shown (blank :: rest) = blank :: rest := hspaced.shown_eq
  -- By induction on what is shown: a name that is found is left behind as a whole.
  generalize hwhole : s ++ ':' :: blank :: rest = whole
  fun_induction shown whole generalizing s with
  | case1 => simp at hwhole
  | case2 after name left hname ih =>
    cases s with
    | nil =>
      obtain ⟨-, rfl⟩ := List.cons.inj hwhole
      rw [name?_of_blank hblank] at hname
      cases hname
    | cons c s =>
      obtain ⟨-, rfl⟩ := List.cons.inj hwhole
      obtain ⟨hsplit, hcolon⟩ := eq_append_of_name? hname
      rcases List.append_eq_append_iff.mp hsplit with ⟨mid, rfl, hmid⟩ | ⟨mid, -, hmid⟩
      · -- The colon is the one that closes the name.
        obtain rfl : mid = [] := by
          by_contra hne
          obtain ⟨d, mid, rfl⟩ := List.exists_cons_of_ne_nil hne
          obtain ⟨rfl, -⟩ := List.cons.inj hmid
          exact hcolon (List.mem_append_right _ List.mem_cons_self)
        obtain ⟨-, rfl⟩ := List.cons.inj hmid
        exact ⟨_, congrArg _ hrest⟩
      · cases mid with
        | nil =>
          obtain ⟨-, rfl⟩ := List.cons.inj hmid
          exact ⟨_, congrArg _ hrest⟩
        | cons d mid =>
          obtain ⟨-, rfl⟩ := List.cons.inj hmid
          obtain ⟨front, hfront⟩ := ih mid rfl
          exact ⟨_ ++ front, by rw [hfront, List.append_assoc]⟩
  | case3 after hname ih =>
    cases s with
    | nil =>
      obtain ⟨-, rfl⟩ := List.cons.inj hwhole
      exact ⟨[':'], by rw [hrest]; rfl⟩
    | cons c s =>
      obtain ⟨-, rfl⟩ := List.cons.inj hwhole
      obtain ⟨front, hfront⟩ := ih s rfl
      exact ⟨':' :: front, by rw [hfront]; rfl⟩
  | case4 c after hc ih =>
    cases s with
    | nil => exact absurd (List.cons.inj hwhole).1.symm hc
    | cons d s =>
      obtain ⟨rfl, rfl⟩ := List.cons.inj hwhole
      obtain ⟨front, hfront⟩ := ih s rfl
      exact ⟨d :: front, by rw [hfront]; rfl⟩

end Emoji

/-! ## Markup -/

namespace Markup

/-- The characters that may have a meaning of their own. -/
def special : Text := ['[', ']', '\\', ':']

/-- A text in which no character has a meaning of its own. -/
def Ordinary (s : Text) : Prop := ∀ c ∈ special, c ∉ s

instance (s : Text) : Decidable (Ordinary s) := List.decidableBAll (fun c => c ∉ s) special

theorem ordinary_append_iff {s s' : Text} : Ordinary (s ++ s') ↔ Ordinary s ∧ Ordinary s' := by
  simp only [Ordinary, List.mem_append, not_or, forall_and]

/-- A text of characters of another class is ordinary. -/
theorem ordinary_of_forall {p : Char → Bool} (hp : special.any p = false) {s : Text}
    (h : ∀ c ∈ s, p c = true) : Ordinary s := by
  intro c hc hmem
  have hany : special.any p = true := List.any_eq_true.mpr ⟨c, hc, h c hmem⟩
  rw [hp] at hany
  cases hany

/-- A text without backslashes is shown as it is between tags. -/
theorem shownStretch_eq {s : Text} (h : '\\' ∉ s) : shownStretch s = s := by
  induction s with
  | nil => rfl
  | cons c s ih =>
    rw [List.mem_cons, not_or] at h
    rw [shownStretch, ih h.2]
    rintro rest rfl -
    exact h.1 rfl

/-- No tag begins with another character than a bracket. -/
theorem plain_cons {c : Char} (hbracket : c ≠ '[') (hslash : c ≠ '\\') (rest : Text) :
    Plain (c :: rest) := by
  have hstop : (c :: rest).dropWhile (· == '\\') = c :: rest := by simp [hslash]
  rw [Plain, hstop]
  refine Option.eq_none_iff_forall_ne_some.mpr ?_
  rintro ⟨tag, after⟩ hsome
  obtain ⟨⟨d, inside, -, -, rfl⟩, hsplit⟩ := tag?_eq_some_iff.mp hsome
  exact hbracket (List.cons.inj hsplit).1

theorem IsTag.getLast? {tag : Text} (h : IsTag tag) : tag.getLast? = some ']' := by
  obtain ⟨c, inside, -, -, rfl⟩ := h
  rw [← List.cons_append, ← List.cons_append, List.getLast?_append]
  rfl

/-- A tag at the head of two texts is one at the head of the first, if the second cannot end it. -/
theorem exists_tag_of_append {s rest tag after : Text} (htag : IsTag tag) (hrest : ']' ∉ rest)
    (h : s ++ rest = tag ++ after) : ∃ front, s = tag ++ front := by
  rcases List.append_eq_append_iff.mp h with ⟨excess, hexcess, hsplit⟩ | ⟨front, hfront, -⟩
  · -- The tag would end with what it has of the second text.
    cases hlast : excess.getLast? with
    | none =>
      rw [List.getLast?_eq_none_iff.mp hlast, List.append_nil] at hexcess
      exact ⟨[], by rw [hexcess, List.append_nil]⟩
    | some c =>
      have hend := htag.getLast?
      rw [hexcess, List.getLast?_append, hlast] at hend
      cases hend
      refine absurd (List.mem_of_getLast? hlast) fun hmem => hrest ?_
      rw [hsplit]
      exact List.mem_append_left after hmem
  · exact ⟨front, hfront⟩

/-- A text that holds no closing bracket ends no tag. -/
theorem Plain.append {s rest : Text} (h : Plain s) (hrest : ']' ∉ rest) : Plain (s ++ rest) := by
  refine Option.eq_none_iff_forall_ne_some.mpr ?_
  rintro ⟨tag, after⟩ hsome
  obtain ⟨htag, hsplit⟩ := tag?_eq_some_iff.mp hsome
  rw [List.dropWhile_append] at hsplit
  split at hsplit
  next =>
    refine hrest ((List.dropWhile_sublist (· == '\\')).subset ?_)
    rw [hsplit]
    exact List.mem_append_left after (List.mem_of_getLast? htag.getLast?)
  next =>
    obtain ⟨front, hfront⟩ := exists_tag_of_append htag hrest hsplit
    have hsome : tag? (s.dropWhile (· == '\\')) = some (tag, front) :=
      tag?_eq_some_iff.mpr ⟨htag, hfront⟩
    cases h.symm.trans hsome

/-- **The items of a text are not touched by what is put behind it**, if that cannot end a tag. -/
theorem items_append (s : Text) {rest : Text} (hrest : ']' ∉ rest) :
    items (s ++ rest) = items s ++ rest.map .char := by
  induction s using itemsInduction with
  | nil =>
    rw [items_nil]
    induction rest with
    | nil => exact items_nil
    | cons c rest ih =>
      have hnil : Plain [] := rfl
      rw [List.nil_append, items_cons (hnil.append hrest)]
      rw [List.mem_cons, not_or] at hrest
      exact congrArg (Item.char c :: ·) (ih hrest.2)
  | tag n tag s htag ih =>
    rw [List.append_assoc, items_tag htag, items_tag htag, ih, List.cons_append]
  | char c s hplain ih =>
    have hlonger := hplain.append hrest
    rw [List.cons_append] at hlonger ⊢
    rw [items_cons hlonger, items_cons hplain, ih, List.cons_append]

/-- A text without brackets and backslashes has its characters for items. -/
theorem items_of_notMem {s : Text} (hbracket : '[' ∉ s) (hslash : '\\' ∉ s) :
    items s = s.map .char := by
  induction s with
  | nil => exact items_nil
  | cons c s ih =>
    rw [List.mem_cons, not_or] at hbracket hslash
    rw [items_cons (plain_cons (Ne.symm hbracket.1) (Ne.symm hslash.1) _), ih hbracket.2 hslash.2]
    rfl

theorem shownItems_chars (stretch s : Text) (items : List Item) :
    shownItems stretch (s.map .char ++ items) = shownItems (stretch ++ s) items := by
  induction s generalizing stretch with
  | nil => rw [List.append_nil]; rfl
  | cons c s ih =>
    rw [List.map_cons, List.cons_append, shownItems, ih, List.append_assoc]
    rfl

/-- A stretch without backslashes and emoji is shown as it is. -/
theorem shownItems_nil {stretch : Text} (hslash : '\\' ∉ stretch) (hcolon : Emoji.Spaced stretch) :
    shownItems stretch [] = stretch := by
  rw [shownItems, shownStretch_eq hslash, hcolon.shown_eq]

/-- An escaped tag is shown behind the stretch before it. -/
theorem shownItems_escaped {stretch tag : Text} (hslash : '\\' ∉ stretch) (hcolon : ':' ∉ stretch)
    (htag : ':' ∉ tag) (items : List Item) :
    shownItems stretch (.tag 1 tag :: items) = stretch ++ tag ++ shownItems [] items := by
  rw [shownItems, shownStretch_eq hslash, (Emoji.spaced_of_notMem hcolon).shown_eq,
    (Emoji.spaced_of_notMem htag).shown_eq]
  simp

/-- The items of an escaped text are shown as the text, and what is behind them as it is. -/
theorem shownItems_unmarked {s rest : Text} (hrest : '\\' ∉ rest) (hspaced : Emoji.Spaced rest)
    (stretch : Text) (hslash : '\\' ∉ stretch ++ s) (hcolon : ':' ∉ stretch ++ s) :
    shownItems stretch ((items s).map Item.unmarked ++ rest.map .char) = stretch ++ s ++ rest := by
  induction s using itemsInduction generalizing stretch with
  | nil =>
    rw [List.append_nil] at hslash hcolon ⊢
    have hall : '\\' ∉ stretch ++ rest := by
      rw [List.mem_append, not_or]
      exact ⟨hslash, hrest⟩
    rw [items_nil, List.map_nil, List.nil_append, ← List.append_nil (rest.map Item.char),
      shownItems_chars, shownItems_nil hall (.append hcolon hspaced)]
  | tag n tag s htag ih =>
    simp only [List.mem_append, not_or] at hslash hcolon ih
    obtain ⟨hstretch, ⟨hcount, -⟩, hs⟩ := hslash
    obtain ⟨hcolonStretch, ⟨-, hcolonTag⟩, hcolonS⟩ := hcolon
    obtain rfl : n = 0 := by
      by_contra hpos
      exact hcount (List.mem_replicate.mpr ⟨hpos, rfl⟩)
    rw [items_tag htag]
    show shownItems stretch (.tag 1 tag :: ((items s).map Item.unmarked ++ rest.map .char)) = _
    rw [shownItems_escaped hstretch hcolonStretch hcolonTag,
      ih [] ⟨List.not_mem_nil, hs⟩ ⟨List.not_mem_nil, hcolonS⟩]
    simp
  | char c s hplain ih =>
    rw [List.append_cons] at hslash hcolon ⊢
    rw [items_cons hplain]
    exact ih (stretch ++ [c]) hslash hcolon

/-- **The console shows what was escaped**, and what is put behind it, word for word: no backslash may be in
any of it, a colon only behind the escaped text and in front of a blank, and no closing bracket there. -/
theorem plain_escape_append {s rest : Text} (hslash : '\\' ∉ s) (hcolon : ':' ∉ s) (hend : ']' ∉ rest)
    (hrest : '\\' ∉ rest) (hspaced : Emoji.Spaced rest) : plain (escape s ++ rest) = s ++ rest := by
  have hescape : escape s = unmarked s := escape_eq fun hlast => hslash (List.mem_of_getLast? hlast)
  rw [plain, hescape, items_append _ hend, items_unmarked]
  exact shownItems_unmarked hrest hspaced [] hslash hcolon

/-- Behind a colon, a stretch without backslashes is shown as it is between tags. -/
theorem shownStretch_append {rest : Text} (hrest : '\\' ∉ rest) (s : Text) :
    shownStretch (s ++ ':' :: rest) = shownStretch s ++ ':' :: rest := by
  have hcolon : shownStretch (':' :: rest) = ':' :: rest := by
    exact shownStretch_eq (List.not_mem_cons_of_ne_of_not_mem (by decide) hrest)
  fun_induction shownStretch s with
  | case1 s ih =>
    show '[' :: shownStretch (s ++ ':' :: rest) = _
    rw [ih]
    rfl
  | case2 c s hescapes ih =>
    rw [List.cons_append, shownStretch, ih, List.cons_append]
    rintro after rfl hafter
    cases s with
    | nil => cases hafter
    | cons d s =>
      obtain ⟨rfl, -⟩ := List.cons.inj hafter
      exact hescapes s rfl rfl
  | case3 => exact hcolon

/-- Behind a colon, what begins with a blank is shown as it is, whatever is before the colon, if it holds
neither a backslash nor a closing bracket and every colon in it has a blank behind it. -/
theorem exists_plain_append {blank : Char} {rest : Text} (hblank : isBlank blank = true)
    (hslash : '\\' ∉ blank :: rest) (hend : ']' ∉ blank :: rest)
    (hspaced : Emoji.Spaced (blank :: rest)) (s : Text) :
    ∃ front, plain (s ++ ':' :: blank :: rest) = front ++ blank :: rest := by
  have hshown (stretch : Text) (found : List Item) :
      ∃ front, shownItems stretch (found ++ (':' :: blank :: rest).map .char) =
        front ++ blank :: rest := by
    induction found generalizing stretch with
    | nil =>
      obtain ⟨front, hfront⟩ := Emoji.exists_shown_append hblank hspaced (shownStretch stretch)
      refine ⟨front, ?_⟩
      rw [List.nil_append, ← List.append_nil (List.map _ _), shownItems_chars, shownItems,
        shownStretch_append hslash, hfront]
    | cons item found ih =>
      cases item with
      | char c => exact ih (stretch ++ [c])
      | tag n tag =>
        obtain ⟨front, hfront⟩ := ih []
        rw [List.cons_append, shownItems, hfront, ← List.append_assoc]
        exact ⟨_, rfl⟩
  have hcolon : ']' ∉ ':' :: blank :: rest := List.not_mem_cons_of_ne_of_not_mem (by decide) hend
  rw [plain, items_append s hcolon]
  exact hshown [] (items s)

/-- A text without brackets and backslashes is not changed by escaping. -/
theorem escape_of_notMem {s : Text} (hbracket : '[' ∉ s) (hslash : '\\' ∉ s) : escape s = s := by
  rw [escape_eq fun hlast => hslash (List.mem_of_getLast? hlast), unmarked,
    items_of_notMem hbracket hslash, List.flatMap_map]
  exact List.flatMap_singleton' s

/-! ## Pieces of a line -/

theorem shownItems_cons {c : Char} (hslash : c ≠ '\\') (hcolon : c ≠ ':') (stretch : Text)
    (items : List Item) : shownItems (c :: stretch) items = c :: shownItems stretch items := by
  have hshown (stretch : Text) :
      Emoji.shown (shownStretch (c :: stretch)) = c :: Emoji.shown (shownStretch stretch) := by
    have hstretch : shownStretch (c :: stretch) = c :: shownStretch stretch := by
      rw [shownStretch]
      rintro rest rfl -
      exact hslash rfl
    rw [hstretch, Emoji.shown, if_neg hcolon]
  induction items generalizing stretch with
  | nil => exact hshown stretch
  | cons item items ih =>
    cases item with
    | tag n tag =>
      rw [shownItems, shownItems, hshown, List.cons_append, List.cons_append, List.cons_append]
    | char d => exact ih (stretch ++ [d])

/-- An ordinary text is shown in front of what it stands in front of. -/
theorem plain_ordinary_append {front : Text} (h : Ordinary front) (s : Text) :
    plain (front ++ s) = front ++ plain s := by
  induction front with
  | nil => rfl
  | cons c front ih =>
    have hspecial (d : Char) (hd : d ∈ special) : c ≠ d ∧ d ∉ front := by
      have hmem := h d hd
      rw [List.mem_cons, not_or] at hmem
      exact ⟨Ne.symm hmem.1, hmem.2⟩
    have hslash := (hspecial '\\' (by decide)).1
    have hitems : items (c :: (front ++ s)) = .char c :: items (front ++ s) :=
      items_cons (plain_cons (hspecial '[' (by decide)).1 hslash _)
    rw [List.cons_append, plain, hitems, shownItems, List.nil_append,
      shownItems_cons hslash (hspecial ':' (by decide)).1, ← plain, ih fun d hd => (hspecial d hd).2,
      List.cons_append]

/-- A tag is not shown. -/
theorem plain_tag_append {tag : Text} (h : IsTag tag) (s : Text) : plain (tag ++ s) = plain s := by
  have hitems : items (tag ++ s) = .tag 0 tag :: items s := items_tag h 0 s
  have hnothing : Emoji.shown (shownStretch []) = [] := by
    rw [shownStretch, Emoji.shown]
  rw [plain, hitems, shownItems, hnothing]
  rfl

/-- A text that makes a tag of brackets around it. -/
def IsStyle (style : Text) : Prop := style.head?.any opensTag = true ∧ style.all staysInTag = true

instance (style : Text) : Decidable (IsStyle style) :=
  inferInstanceAs (Decidable (style.head?.any opensTag = true ∧ style.all staysInTag = true))

/-- A word in a style is shown as it is. -/
theorem plain_styled_append {style word : Text} (hstyle : IsStyle style) (hword : Ordinary word)
    (s : Text) : plain (styled style word ++ s) = word ++ plain s := by
  have hstays := List.all_eq_true.mp hstyle.2
  have hbegin : IsTag (['['] ++ style ++ [']']) := by
    cases style with
    | nil => cases hstyle.1
    | cons c style => exact ⟨c, style, hstyle.1, (List.forall_mem_cons.mp hstays).2, rfl⟩
  have hend : IsTag (['[', '/'] ++ style ++ [']']) := ⟨'/', style, rfl, hstays, rfl⟩
  have hsplit : styled style word ++ s =
      (['['] ++ style ++ [']']) ++ (word ++ ((['[', '/'] ++ style ++ [']']) ++ s)) := by
    simp only [styled, List.append_assoc]
  rw [hsplit, plain_tag_append hbegin, plain_ordinary_append hword, plain_tag_append hend]

end Markup

end Stencil
