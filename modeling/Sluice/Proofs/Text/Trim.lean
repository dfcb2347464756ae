import Sluice.Text.Blank

/-!
# Texts without the blanks at their ends

What is trimmed off a text is blank, and what is left neither begins nor ends with a blank. So a
text is trimmed to a part of it whenever that part does not begin or end with a blank and there is
nothing but blanks around it.

* `IsTrimmed`: texts with no blank at their ends;
* `exists_trim`: **a text is what is left of it between blanks**;
* `trim_between`: **such a text between blanks is what is left**.
-/

namespace Sluice.Text

/-- Nothing but blanks. -/
def AllBlank (blank : Symbol → Bool) (t : Text) : Prop := ∀ s ∈ t, blank s = true

/-- A text that neither begins nor ends with a blank. -/
def IsTrimmed (blank : Symbol → Bool) (t : Text) : Prop :=
  (∀ s ∈ t.head?, blank s = false) ∧ ∀ s ∈ t.getLast?, blank s = false

variable {blank : Symbol → Bool} {t : Text}

theorem allBlank_nil : AllBlank blank [] := fun _ hs => absurd hs List.not_mem_nil

theorem AllBlank.append {u : Text} (ht : AllBlank blank t) (hu : AllBlank blank u) :
    AllBlank blank (t ++ u) := by
  intro s hs
  rcases List.mem_append.mp hs with hs | hs
  · exact ht s hs
  · exact hu s hs

theorem AllBlank.reverse (h : AllBlank blank t) : AllBlank blank t.reverse :=
  fun s hs => h s (List.mem_reverse.mp hs)

theorem allBlank_takeWhile (t : Text) : AllBlank blank (t.takeWhile blank) :=
  fun _ hs => List.all_eq_true.mp List.all_takeWhile _ hs

/-- A text that does not begin with a blank keeps its beginning. -/
theorem dropWhile_of_head (h : ∀ s ∈ t.head?, blank s = false) : t.dropWhile blank = t := by
  cases t with
  | nil => rfl
  | cons s rest =>
    have hs : blank s = false := h s rfl
    rw [List.dropWhile_cons_of_neg (by simp [hs])]

theorem trim_allBlank (h : AllBlank blank t) : trim blank t = [] := by
  have hnone : t.dropWhile blank = [] := by
    rw [← List.append_nil t, List.dropWhile_append_of_pos h]
    rfl
  unfold trim
  rw [hnone]
  rfl

/-- **A text is what is left of it between blanks.** -/
theorem exists_trim (blank : Symbol → Bool) (t : Text) : ∃ before after,
    AllBlank blank before ∧ AllBlank blank after ∧ t = before ++ trim blank t ++ after := by
  let rest := t.dropWhile blank
  have hfront : t = t.takeWhile blank ++ rest := List.takeWhile_append_dropWhile.symm
  have hback : rest.reverse = rest.reverse.takeWhile blank ++ rest.reverse.dropWhile blank :=
    List.takeWhile_append_dropWhile.symm
  have hrest : rest = trim blank t ++ (rest.reverse.takeWhile blank).reverse := by
    have hreversed := congrArg List.reverse hback
    rwa [List.reverse_reverse, List.reverse_append] at hreversed
  refine ⟨_, _, allBlank_takeWhile t, (allBlank_takeWhile rest.reverse).reverse, ?_⟩
  rw [List.append_assoc, ← hrest]
  exact hfront

/-- **What neither begins nor ends with a blank is what is left of it between blanks.** -/
theorem trim_between {before after : Text} (hbefore : AllBlank blank before)
    (hafter : AllBlank blank after) (h : IsTrimmed blank t) :
    trim blank (before ++ t ++ after) = t := by
  cases t with
  | nil =>
    rw [List.append_nil]
    exact trim_allBlank (hbefore.append hafter)
  | cons first rest =>
    have hfront : (before ++ first :: rest ++ after).dropWhile blank = first :: rest ++ after := by
      rw [List.append_assoc, List.dropWhile_append_of_pos hbefore]
      exact dropWhile_of_head h.1
    have hback : (first :: rest ++ after).reverse.dropWhile blank = (first :: rest).reverse := by
      rw [List.reverse_append, List.dropWhile_append_of_pos hafter.reverse]
      refine dropWhile_of_head fun s hs => h.2 s ?_
      rwa [List.head?_reverse] at hs
    unfold trim
    rw [hfront, hback, List.reverse_reverse]

end Sluice.Text
