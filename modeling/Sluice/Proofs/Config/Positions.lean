import Sluice.Proofs.Config.Rendered
import Sluice.Proofs.Value.Position

/-!
# What rendering keeps

A configuration is a tree: lists and mappings hold further values, and everything else is a leaf. A
position of it is told by numbers, one for each level: which item of a list, or which entry of a
mapping. Rendering replaces texts where they are. Every other leaf, the lengths of lists and the
keys of mappings stay as they are, and so does every position.

* `render_child`, `render_member`: what is below a rendered value is rendered, and nothing else is
  below it;
* `render_at`: **a rendered configuration has the positions of the configuration itself**, and at
  each of them what stands there has been rendered.
-/

namespace Sluice

namespace Template

/-! ## 1. What rendering does -/

/-- A value that rendering looks at; any other one stays as it is. -/
def looksAt : Value → Bool
  | .text _ | .list _ | .mapping _ => true
  | _ => false

/-- **What rendering does to one value**, apart from what it does to those below it. -/
inductive Renders (scope : Scope) : Value → Value → Prop where
  | text {t u : Text} (h : renderText scope t = .ok u) : Renders scope (.text t) (.text u)
  | list {xs ys : List Value} (h : ys.length = xs.length) : Renders scope (.list xs) (.list ys)
  | mapping {es fs : List (Value × Value)} (h : fs.map (·.1) = es.map (·.1)) :
      Renders scope (.mapping es) (.mapping fs)
  | leaf {v : Value} (h : looksAt v = false) : Renders scope v v

/-! ## 2. Items and entries -/

section Parts

variable {scope : Scope}

theorem renderItems_forall₂ {xs ys : List Value} (h : render.renderItems scope xs = .ok ys) :
    List.Forall₂ (fun x y => render scope x = .ok y) xs ys := by
  induction xs generalizing ys with
  | nil =>
    cases h
    exact .nil
  | cons x rest ih =>
    unfold render.renderItems at h
    obtain ⟨y, hy, h⟩ := bind_ok h
    obtain ⟨others, hrest, h⟩ := bind_ok h
    cases h
    exact .cons hy (ih hrest)

/-- Entries are rendered one by one, each under the key it has. -/
theorem renderEntries_forall₂ {es fs : List (Value × Value)}
    (h : render.renderEntries scope es = .ok fs) :
    List.Forall₂ (fun e f => f.1 = e.1 ∧ render scope e.2 = .ok f.2) es fs := by
  induction es generalizing fs with
  | nil =>
    cases h
    exact .nil
  | cons e rest ih =>
    obtain ⟨k, v⟩ := e
    unfold render.renderEntries at h
    obtain ⟨w, hw, h⟩ := bind_ok h
    obtain ⟨others, hrest, h⟩ := bind_ok h
    cases h
    exact .cons ⟨rfl, hw⟩ (ih hrest)

/-- What is stored under a name is rendered, and nothing else is stored. -/
theorem rel_lookup {es fs : List (Value × Value)} (name : Text)
    (h : List.Forall₂ (fun e f => f.1 = e.1 ∧ render scope e.2 = .ok f.2) es fs) :
    Option.Rel (fun v w => render scope v = .ok w) (Value.lookup name es)
      (Value.lookup name fs) := by
  induction h with
  | nil => exact .none
  | @cons e f es fs hhead _ ih =>
    obtain ⟨k, v⟩ := e
    obtain ⟨k', w⟩ := f
    obtain ⟨hkey, hw⟩ := hhead
    cases hkey
    cases k with
    | text k =>
      simp only [Value.lookup]
      by_cases hk : k = name
      · rw [if_pos hk, if_pos hk]
        exact .some hw
      · rw [if_neg hk, if_neg hk]
        exact ih
    | _ => exact ih

end Parts

/-! ## 3. Rendered values -/

section Rendered

variable {scope : Scope} {v w : Value}

/-- A value is rendered in one of four ways. -/
theorem render_ok (h : render scope v = .ok w) :
    (∃ t u, v = .text t ∧ w = .text u ∧ renderText scope t = .ok u) ∨
    (∃ xs ys, v = .list xs ∧ w = .list ys ∧ render.renderItems scope xs = .ok ys) ∨
    (∃ es fs, v = .mapping es ∧ w = .mapping fs ∧ render.renderEntries scope es = .ok fs) ∨
    (looksAt v = false ∧ w = v) := by
  cases v with
  | text t =>
    obtain ⟨u, hu, rfl⟩ := map_ok h
    exact .inl ⟨t, u, rfl, rfl, hu⟩
  | list xs =>
    obtain ⟨ys, hys, rfl⟩ := map_ok h
    exact .inr (.inl ⟨xs, ys, rfl, rfl, hys⟩)
  | mapping es =>
    obtain ⟨fs, hfs, rfl⟩ := map_ok h
    exact .inr (.inr (.inl ⟨es, fs, rfl, rfl, hfs⟩))
  | _ =>
    cases h
    exact .inr (.inr (.inr ⟨rfl, rfl⟩))

theorem renders_of_render (h : render scope v = .ok w) : Renders scope v w := by
  rcases render_ok h with ⟨t, u, rfl, rfl, hu⟩ | ⟨xs, ys, rfl, rfl, hys⟩ |
    ⟨es, fs, rfl, rfl, hfs⟩ | ⟨hleaf, rfl⟩
  · exact .text hu
  · exact .list (renderItems_forall₂ hys).length_eq.symm
  · exact .mapping (renderEntries_keys hfs)
  · exact .leaf hleaf

/-- Below a rendered value there is what is below the value itself, rendered. -/
theorem render_child (h : render scope v = .ok w) (i : Nat) :
    Option.Rel (fun v w => render scope v = .ok w) (v.child? i) (w.child? i) := by
  rcases render_ok h with ⟨t, u, rfl, rfl, -⟩ | ⟨xs, ys, rfl, rfl, hys⟩ |
    ⟨es, fs, rfl, rfl, hfs⟩ | ⟨hleaf, rfl⟩
  · exact .none
  · exact rel_getElem? (renderItems_forall₂ hys) i
  · exact rel_entry ((renderEntries_forall₂ hfs).imp fun _ _ hentry => hentry.2) i
  · cases w with
    | text _ => cases hleaf
    | list _ => cases hleaf
    | mapping _ => cases hleaf
    | _ => exact .none

/-- The members of a rendered mapping are those of the mapping itself, rendered. -/
theorem render_member {es : List (Value × Value)} (h : render scope (.mapping es) = .ok w)
    (name : Text) :
    Option.Rel (fun v w => render scope v = .ok w) (Value.lookup name es) (w.member? name) := by
  obtain ⟨fs, hfs, rfl⟩ := map_ok h
  exact rel_lookup name (renderEntries_forall₂ hfs)

/-- **A rendered configuration has the positions of the configuration itself**, and at each of them
what stands there has been rendered. -/
theorem render_at (h : render scope v = .ok w) (position : List Nat) :
    Option.Rel (Renders scope) (v.at? position) (w.at? position) :=
  Value.rel_at (Q := fun v w => render scope v = .ok w) (fun _ _ => renders_of_render)
    (fun _ _ => render_child) h position

/-- Where a text stands, it stands rendered. -/
theorem text_at {position : List Nat} {t : Text} (h : render scope v = .ok w)
    (ht : v.at? position = some (.text t)) :
    ∃ u, w.at? position = some (.text u) ∧ renderText scope t = .ok u := by
  have hrel := render_at h position
  rw [ht] at hrel
  obtain ⟨x, hx, hrenders⟩ := rel_some hrel
  cases hrenders with
  | text hu => exact ⟨_, hx, hu⟩
  | leaf hleaf => cases hleaf

/-- A member that is a text is rendered as a text. -/
theorem text_member {es : List (Value × Value)} {name t : Text}
    (h : render scope (.mapping es) = .ok w) (ht : Value.lookup name es = some (.text t)) :
    ∃ u, w.member? name = some (.text u) ∧ renderText scope t = .ok u := by
  have hrel := render_member h name
  rw [ht] at hrel
  obtain ⟨x, hx, hrender⟩ := rel_some hrel
  obtain ⟨u, hu, rfl⟩ := map_ok hrender
  exact ⟨u, hx, hu⟩

end Rendered

end Template

end Sluice
