import Stencil.Proofs.Config.Layering

/-!
# The configured depth limit

Settings have room for an empty depth limit, under which no block is allowed. No configuration that is
read from files has one (`maxDepth_of_build`): a document leaves no key without a value, laying tables
over each other adds none, and an option that is left open chooses nothing.
-/

namespace Stencil

open Value (Keyed)

theorem Value.Keyed.update {d entries : Dict} (hd : Keyed (.dict d)) (h : ∀ e ∈ entries, Keyed e.2) :
    Keyed (.dict (d.update entries)) := by
  induction entries generalizing d with
  | nil => exact hd
  | cons e rest ih =>
    obtain ⟨he, hrest⟩ := List.forall_mem_cons.mp h
    exact ih (hd.insert he e.1) hrest

namespace Config

/-! ## Tables -/

/-- A user's table under a project's is made of the values that both have. -/
theorem keyed_merged {user project : Dict} (hu : Keyed (.dict user)) (hp : Keyed (.dict project)) :
    Keyed (.dict (merged user project)) := by
  have hproject : ∀ e ∈ Dict.erase profilesKey project, Keyed e.2 :=
    fun e he => hp.entry e (List.mem_filter.mp he).1
  unfold merged
  refine .update ?_ hproject
  split
  next ours p ps hours htheirs =>
    refine hu.insert ?_ _
    have hours : Keyed (.dict ours) := hours ▸ hu.getD profilesKey
    exact hours.update (hp.get? htheirs).entry
  next => exact hu

/-- The table that is loaded from files is made of the values that the files have. -/
theorem keyed_load (t : FileTree) (userFile dir : Path) :
    Yields (fun table => Keyed (.dict table)) (load t userFile dir) := by
  refine .bind (keyed_ofFile t userFile) fun v hv => ?_
  have huser : Keyed (.dict (v.entries?.getD [])) := by
    cases hv with
    | scalar h => cases v <;> first | exact .empty | cases h
    | list _ => exact .empty
    | dict hdistinct hentries => exact .dict hdistinct hentries
  refine .bind (keyed_firstTable t dir projectFiles) fun found hfound => ?_
  split
  next => exact .pure huser
  next project => exact .pure (keyed_merged huser (hfound project rfl))

/-! ## Layers -/

/-- Whatever a layer chooses is a value. -/
def Filled (layer : Layer) : Prop := ∀ x, layer x ≠ some .null

theorem filled_empty : Filled .empty := fun _ h => nomatch h

theorem Filled.atop {upper lower : Layer} (hu : Filled upper) (hl : Filled lower) :
    Filled (upper.atop lower) := by
  intro x h
  rcases Option.or_eq_some_iff.mp h with h | ⟨-, h⟩
  · exact hu x h
  · exact hl x h

/-- A table under no key of which a value is left empty. -/
theorem filled_of_get? {table : Dict} (h : ∀ key, Dict.get? key table ≠ some .null) :
    Filled (.ofTable table) := by
  intro x hx
  obtain ⟨_, key, _, -, hget, -⟩ := List.findSome?_eq_some_iff.mp hx
  exact h key hget

theorem filled_ofTable {table : Dict} (h : Keyed (.dict table)) : Filled (.ofTable table) :=
  filled_of_get? fun _ hget => (h.get? hget).ne_null rfl

theorem filled_profileLayer {table : Dict} (h : Keyed (.dict table)) (profile : Option Text) :
    Yields Filled (profileLayer table profile) := by
  unfold profileLayer
  split
  next => exact .ok filled_empty
  next => exact .ok filled_empty
  next name =>
    split
    next profiles hprofiles =>
      split
      next chosen hchosen =>
        have hkeyed : Keyed (.dict profiles) := hprofiles ▸ h.getD profilesKey
        exact .ok (filled_ofTable (hkeyed.get? hchosen))
      next => exact .error _
    next => exact .error _

theorem filled_optionLayer (options : List (Text × Value)) : Yields Filled (optionLayer options) := by
  induction options with
  | nil => exact .ok filled_empty
  | cons option rest ih =>
    obtain ⟨name, v⟩ := option
    rw [optionLayer]
    split
    next => exact .error _
    next s _ =>
      refine .bind ih fun layer hlayer => ?_
      split
      next => exact .pure hlayer
      next v hv =>
        refine .pure fun x h => ?_
        split at h
        next =>
          rcases Option.or_eq_some_iff.mp h with h | ⟨-, h⟩
          · exact hlayer x h
          · exact hv (Option.some.inj h)
        next => exact hlayer x h

/-- **A depth limit that is read from files is a number.** -/
theorem maxDepth_of_build {t : FileTree} {userFile dir : Path} {table : Dict}
    {profile : Option Text} {options : List (Text × Value)} {s : Settings}
    (hload : load t userFile dir = .ok table) (hbuild : build table profile options = .ok s) :
    ∃ limit, s.maxDepth = some limit := by
  have htable : Keyed (.dict table) := keyed_load t userFile dir table hload
  obtain ⟨layer, hlayer, hbuild⟩ := bind_eq_ok_iff.mp hbuild
  obtain ⟨chosen, hchosen, hlayer⟩ := bind_eq_ok_iff.mp hlayer
  obtain ⟨given, hgiven, hlayer⟩ := bind_eq_ok_iff.mp hlayer
  cases hlayer
  have hfilled : Filled (given.atop (chosen.atop (.ofTable table))) :=
    (filled_optionLayer options given hgiven).atop
      ((filled_profileLayer htable profile chosen hchosen).atop (filled_ofTable htable))
  obtain ⟨depth, hdepth, hlimit⟩ := settings_eq_ok_iff.mp hbuild .maxDepth
  have hnull := hfilled .maxDepth
  generalize (given.atop (chosen.atop (.ofTable table))) .maxDepth = choice at hdepth hnull
  rw [← hlimit]
  unfold readDepth at hdepth
  split at hdepth
  next =>
    cases hdepth
    exact ⟨64, rfl⟩
  next => exact absurd rfl hnull
  next n =>
    split at hdepth
    next => cases hdepth
    next =>
      cases hdepth
      exact ⟨n, rfl⟩
  next => cases hdepth

end Config

end Stencil
