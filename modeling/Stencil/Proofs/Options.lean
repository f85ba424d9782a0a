import Stencil.Options
import Stencil.Proofs.Dict

/-!
# Layers of options

The options of a call are laid over those of a base, and the result may be the
base of a further call.  Two layers do the same as one that combines them
(`agrees_resolve_combine`): the modules of the first run before those of the
second, and of two values for one thing the second wins.

Directives are the part that needs an argument, since each layer that names any
adds a map over the maps below.  `get?_overlay` finds a directive through one
such layer, so that a chain of layers is a chain of `Option.or`.
-/

namespace Stencil

/-! ## Directives through layers -/

namespace DirectiveMap

variable {α : Type}

/-- The map that a map lies over. -/
def below? : DirectiveMap α → Option (DirectiveMap α)
  | flat _ => none
  | layered _ base => some base

theorem get?_insert (m : DirectiveMap α) (name other : String) (value : α) :
    (m.insert name value).get? other = if other = name then some value else m.get? other := by
  cases m with
  | flat own => exact Dict.get?_insert own name other value
  | layered own base =>
      simp only [insert, get?, Dict.get?_insert]
      split_ifs
      · rfl
      · rfl

theorem below?_insert (m : DirectiveMap α) (name : String) (value : α) :
    (m.insert name value).below? = m.below? := by
  cases m <;> rfl

/-- Inserting entries one after another leaves those of them that a dictionary
would keep. -/
theorem get?_insertAll (m : DirectiveMap α) (entries : List (String × α)) (name : String) :
    (entries.foldl (fun map entry => map.insert entry.1 entry.2) m).get? name =
      ((Dict.ofList entries).get? name).or (m.get? name) := by
  induction entries generalizing m with
  | nil => rfl
  | cons entry entries ih =>
      change _ = (((Dict.empty.insert entry.1 entry.2).insertAll entries).get? name).or _
      rw [List.foldl_cons, ih, get?_insert, Dict.get?_insertAll, Dict.get?_insert, Option.or_assoc]
      split_ifs
      · rfl
      · rfl

theorem below?_insertAll (m : DirectiveMap α) (entries : List (String × α)) :
    (entries.foldl (fun map entry => map.insert entry.1 entry.2) m).below? = m.below? := by
  induction entries generalizing m with
  | nil => rfl
  | cons entry entries ih => rw [List.foldl_cons, ih, below?_insert]

end DirectiveMap

/-! ## Options that behave alike -/

/-- Two sets of options with the same values and the same handler for every
directive, in however many layers they keep them. -/
structure Options.Agrees (o o' : Options) : Prop where
  delimiters_eq : o.delimiters = o'.delimiters
  mustUseProp_eq : o.mustUseProp = o'.mustUseProp
  modules_eq : o.modules = o'.modules
  staticKeys_eq : o.staticKeys = o'.staticKeys
  preserveWhitespace_eq : o.preserveWhitespace = o'.preserveWhitespace
  comments_eq : o.comments = o'.comments
  outputSourceRange_eq : o.outputSourceRange = o'.outputSourceRange
  optimize_eq : o.optimize = o'.optimize
  get?_directives : ∀ name, o.directives.get? name = o'.directives.get? name

namespace CallOptions

/-- The options of two calls as those of one: `b` comes behind `a` and wins. -/
def combine (a b : CallOptions) : CallOptions where
  delimiters := b.delimiters.or a.delimiters
  modules := a.modules ++ b.modules
  directives := .ofList (a.directives.entries ++ b.directives.entries)
  preserveWhitespace := b.preserveWhitespace.or a.preserveWhitespace
  comments := b.comments.or a.comments
  outputSourceRange := b.outputSourceRange.or a.outputSourceRange
  optimize := b.optimize.or a.optimize

/-- The directives of the second call hide those of the first. -/
theorem get?_combine (a b : CallOptions) (name : String) :
    (a.combine b).directives.get? name =
      ((Dict.ofList b.directives.entries).get? name).or
        ((Dict.ofList a.directives.entries).get? name) :=
  Dict.get?_ofList_append a.directives.entries b.directives.entries name

/-! ## One layer -/

theorem get?_overlay (directives : Dict DirectiveHandler) (base : DirectiveMap DirectiveHandler)
    (name : String) :
    (overlay directives base).get? name =
      ((Dict.ofList directives.entries).get? name).or (base.get? name) := by
  unfold overlay
  split_ifs with hempty
  · rw [List.isEmpty_iff.mp hempty]
    rfl
  · rw [DirectiveMap.get?_insertAll]
    rfl

/-- A layer of directives is put over the base or left out. -/
theorem overlay_eq_or_below? (directives : Dict DirectiveHandler)
    (base : DirectiveMap DirectiveHandler) :
    overlay directives base = base ∨ (overlay directives base).below? = some base := by
  unfold overlay
  split_ifs
  · exact .inl rfl
  · rw [DirectiveMap.below?_insertAll]
    exact .inr rfl

theorem modules_resolve (c : CallOptions) (base : Options) :
    (c.resolve base).modules = base.modules ++ c.modules := by
  unfold resolve
  dsimp only
  split_ifs with hempty
  · rw [List.isEmpty_iff.mp hempty, List.append_nil]
  · rfl

/-- The static keys are those of the base as long as no modules are added, and
are else read off all modules again. -/
theorem staticKeys_resolve (c : CallOptions) (base : Options) :
    (c.resolve base).staticKeys =
      if c.modules.isEmpty then base.staticKeys
      else Module.joinedKeys (base.modules ++ c.modules) := by
  unfold resolve
  dsimp only
  split_ifs <;> rfl

theorem toScope_resolve (c : CallOptions) (base : Options) :
    (c.resolve base).toScope = ⟨c.delimiters.or base.delimiters, base.mustUseProp⟩ := by
  unfold resolve
  dsimp only
  split_ifs
  · rfl
  · rfl

theorem mustUseProp_resolve (c : CallOptions) (base : Options) :
    (c.resolve base).mustUseProp = base.mustUseProp := by
  rw [toScope_resolve]

/-! ## Two layers -/

theorem staticKeys_resolve_resolve (a b : CallOptions) (base : Options) :
    (b.resolve (a.resolve base)).staticKeys = ((a.combine b).resolve base).staticKeys := by
  simp only [staticKeys_resolve, modules_resolve, combine, List.append_assoc]
  -- Keys that were inherited are forgotten as soon as one layer adds a module.
  cases b.modules with
  | nil => simp only [List.isEmpty_nil, if_true, List.append_nil]
  | cons second seconds =>
      cases a.modules with
      | nil => rfl
      | cons first firsts => rfl

theorem agrees_resolve_combine (a b : CallOptions) (base : Options) :
    (b.resolve (a.resolve base)).Agrees ((a.combine b).resolve base) where
  delimiters_eq := Option.or_assoc.symm
  mustUseProp_eq := by simp only [mustUseProp_resolve]
  modules_eq := by simp only [modules_resolve, combine, List.append_assoc]
  staticKeys_eq := staticKeys_resolve_resolve a b base
  preserveWhitespace_eq := Option.getD_or.symm
  comments_eq := Option.getD_or.symm
  outputSourceRange_eq := Option.getD_or.symm
  optimize_eq := Option.getD_or.symm
  get?_directives name := by
    have hentries : Dict.ofList (a.combine b).directives.entries = (a.combine b).directives :=
      Dict.ofList_entries (Dict.nodup_names_ofList _)
    let first := (Dict.ofList a.directives.entries).get? name
    let second := (Dict.ofList b.directives.entries).get? name
    calc (overlay b.directives (overlay a.directives base.directives)).get? name
        = second.or (first.or (base.directives.get? name)) := by rw [get?_overlay, get?_overlay]
      _ = (second.or first).or (base.directives.get? name) := Option.or_assoc.symm
      _ = ((a.combine b).directives.get? name).or (base.directives.get? name) := by
          rw [get?_combine]
      _ = (overlay (a.combine b).directives base.directives).get? name := by
          rw [get?_overlay, hentries]

theorem resolve_empty (base : Options) : CallOptions.resolve {} base = base := rfl

end CallOptions

/-- **Layers of options are associative.**  Laying `b` over the result of laying
`a` over a base gives options that agree with those of the combined layer.  The
layer that sets nothing changes nothing.  And no layer `c` touches the directives
of its base: they are kept as they were, with at most one new map over them, and
are found under every name that `c` does not give itself. -/
theorem resolve_layers (a b c : CallOptions) (base : Options) :
    (b.resolve (a.resolve base)).Agrees ((a.combine b).resolve base) ∧
    CallOptions.resolve {} base = base ∧
    ((c.resolve base).directives = base.directives ∨
      (c.resolve base).directives.below? = some base.directives) ∧
    ∀ name, name ∉ c.directives.names →
      (c.resolve base).directives.get? name = base.directives.get? name := by
  refine ⟨CallOptions.agrees_resolve_combine a b base, CallOptions.resolve_empty base,
    CallOptions.overlay_eq_or_below? c.directives base.directives, fun name hname => ?_⟩
  have hnone : (Dict.ofList c.directives.entries).get? name = none :=
    Dict.get?_eq_none_iff.mpr fun hmem => hname (Dict.mem_names_ofList.mp hmem)
  change (CallOptions.overlay c.directives base.directives).get? name = _
  rw [CallOptions.get?_overlay, hnone, Option.none_or]

end Stencil
