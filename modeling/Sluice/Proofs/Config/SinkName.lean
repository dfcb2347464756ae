import Sluice.Proofs.Config.Expressions
import Sluice.Proofs.Config.Positions

/-!
# The name of the sink in a configuration

The name that expressions of a configuration show is taken out of it before anything is rendered. So
an expression shows the text of the entry as it was read, and not what rendering makes of the entry.
The two are the same where the entry has no expressions of its own.

* `evaluate_sinkName`: what the expression stands for;
* `renderText_literal`: a text without expressions is rendered to itself;
* `render_sinkName`: **the name as it was read stands wherever a text asks for it**, and it is the
  name of the rendered configuration if and only if rendering leaves the name alone.
-/

namespace Sluice.Template

/-! ## 1. The expression -/

/-- The expression shows the name of the scope. -/
theorem evaluate_sinkName {scope : Scope} {name : Text} (h : scope.sinkName = .text name) :
    evaluate scope "sink.name" = .ok name := by
  have hleads : Leads scope ["sink", "name"] (.value (.text name)) := .name (h ▸ rfl)
  have hplain : ∀ part ∈ (["sink", "name"] : List Text), .char '.' ∉ part := by decide
  exact evaluate_eq_ok.mpr (.path hplain hleads rfl)

/-- The name of a configuration is in scope as it was read. -/
theorem sinkName_scopeOf {es : List (Value × Value)} {v : Value}
    (h : Value.lookup "name" es = some v) (environment given : List (Text × Text)) :
    (scopeOf (.mapping es) environment given).sinkName = v := by
  have hmember : (Value.mapping es).member? "name" = some v := h
  rw [scopeOf, hmember]
  rfl

/-! ## 2. Texts -/

/-- A text in which no expression is found consists of its symbols. -/
theorem Cut.eq_symbols {t : Text} {ps : List Piece} (h : Cut t ps)
    (hnone : ∀ e, .expression e ∉ ps) : ps = t.map .symbol := by
  induction h with
  | nil => rfl
  | expression => exact absurd List.mem_cons_self (hnone _)
  | symbol _ _ ih =>
    rw [List.map_cons, ← ih fun e he => hnone e (List.mem_cons_of_mem _ he)]

section Texts

variable {scope : Scope} {t u : Text}

/-- A text without expressions is rendered to itself. -/
theorem renderText_literal (hnone : ∀ e, .expression e ∉ pieces t) :
    renderText scope t = .ok t := by
  rw [renderText, (cut_pieces t).eq_symbols hnone, renderPieces_symbols]

/-- A rendered text has the value of an expression between what is before it and what is behind. -/
theorem renderText_around {before after : List Piece} {e value : Text}
    (hcut : Cut t (before ++ .expression e :: after)) (he : evaluate scope e = .ok value)
    (h : renderText scope t = .ok u) :
    ∃ a b, renderPieces scope before = .ok a ∧ renderPieces scope after = .ok b ∧
      u = a ++ value ++ b := by
  rw [renderText, cut_iff.mp hcut, renderPieces_append] at h
  obtain ⟨a, ha, h⟩ := bind_ok h
  obtain ⟨rest, hrest, h⟩ := bind_ok h
  rw [renderPieces, Piece.render, he] at hrest
  obtain ⟨v, hv, hrest⟩ := bind_ok hrest
  obtain ⟨b, hb, hrest⟩ := bind_ok hrest
  cases h
  cases hv
  cases hrest
  exact ⟨a, b, ha, hb, (List.append_assoc a value b).symm⟩

end Texts

/-! ## 3. Configurations -/

/-- **A configuration shows the name of its sink as it was read.** Wherever a text of the
configuration asks for the name of the sink, and whatever else stands in that text, the rendered
text has the name as the entry had it before rendering. That is the name in the rendered
configuration if and only if rendering leaves the name alone, as it does when the name holds no
expressions. -/
theorem render_sinkName {es : List (Value × Value)} {name : Text}
    {environment given : List (Text × Text)} {w : Value}
    (hname : Value.lookup "name" es = some (.text name))
    (h : render (scopeOf (.mapping es) environment given) (.mapping es) = .ok w) :
    ∃ rendered, w.member? "name" = some (.text rendered) ∧
      renderText (scopeOf (.mapping es) environment given) name = .ok rendered ∧
      ((∀ e, .expression e ∉ pieces name) → rendered = name) ∧
      ∀ position t before after, (Value.mapping es).at? position = some (.text t) →
        Cut t (before ++ .expression "sink.name" :: after) →
        ∃ a b, renderPieces (scopeOf (.mapping es) environment given) before = .ok a ∧
          renderPieces (scopeOf (.mapping es) environment given) after = .ok b ∧
          w.at? position = some (.text (a ++ name ++ b)) ∧
          (a ++ name ++ b = a ++ rendered ++ b ↔ rendered = name) := by
  obtain ⟨rendered, hmember, hrendered⟩ := text_member h hname
  refine ⟨rendered, hmember, hrendered, fun hnone => ?_, ?_⟩
  · rw [renderText_literal hnone] at hrendered
    exact (Except.ok.inj hrendered).symm
  · -- the scope has the name as read, whatever the entry is rendered to
    intro position t before after ht hcut
    obtain ⟨u, hu, hrender⟩ := text_at h ht
    have hvalue := evaluate_sinkName (sinkName_scopeOf hname environment given)
    obtain ⟨a, b, ha, hb, rfl⟩ := renderText_around hcut hvalue hrender
    refine ⟨a, b, ha, hb, hu, ?_, ?_⟩
    · intro heq
      exact (List.append_cancel_left (List.append_cancel_right heq)).symm
    · rintro rfl
      rfl

/-- A name that asks for a variable is shown without the value of the variable. -/
theorem render_sinkName_variable :
    let name : Text := "\x7b\x7b var('a') \x7d\x7d_sink"
    let table : Text := "to \x7b\x7b sink.name \x7d\x7d!"
    let es : List (Value × Value) := [(.text "name", .text name), (.text "table", .text table)]
    let scope : Scope := scopeOf (.mapping es) [] [("a", "A")]
    Value.lookup "name" es = some (.text name) ∧
      ∃ w, render scope (.mapping es) = .ok w ∧ w.member? "name" = some (.text "A_sink") ∧
        w.at? [1] = some (.text "to \x7b\x7b var('a') \x7d\x7d_sink!") := by
  intro name table es scope
  have hname : Cut name (.expression "var('a')" :: (Text.ofString "_sink").map .symbol) :=
    cut_iff.mpr (by decide +kernel)
  have htable : Cut table ((Text.ofString "to ").map .symbol ++
      .expression "sink.name" :: (Text.ofString "!").map .symbol) :=
    cut_iff.mpr (by decide +kernel)
  have hname' : renderText scope name = .ok "A_sink" := by
    unfold renderText
    rw [cut_iff.mp hname]
    rfl
  have htable' : renderText scope table = .ok ("to " ++ name ++ "!") := by
    unfold renderText
    rw [cut_iff.mp htable]
    rfl
  have hrender : render scope (.mapping es) = .ok (.mapping
      [(.text "name", .text "A_sink"), (.text "table", .text ("to " ++ name ++ "!"))]) := by
    simp only [es, render, render.renderEntries, hname', htable']
    rfl
  obtain ⟨rendered, hmember, -, -, hshown⟩ := render_sinkName (w := .mapping _) rfl hrender
  obtain ⟨a, b, ha, hb, hat, -⟩ := hshown [1] table _ _ rfl htable
  refine ⟨rfl, _, hrender, rfl, ?_⟩
  rw [hat]
  cases ha
  cases hb
  rfl

end Sluice.Template
