import Sluice.Config.Template
import Sluice.Proofs.Chain

/-!
# Where rendering stops

Rendering goes through the expressions of a configuration from left to right (`expressions`) and
stops at the first one that stands for nothing. So whether it succeeds, and how it fails, is known
from the expressions alone; keys are never touched.

* `fault?_renderEntries`: **rendering stops at the first expression that stands for nothing**, and
  nowhere else;
* `renderEntries_keys`: rendering leaves the keys of a mapping as they are;
* `evaluate_outside`: **the expressions that fail outside of what templates answer for**: one asks
  the environment for a name that cannot be written, or shows a number with too many digits.
-/

namespace Sluice.Template

/-! ## 1. Expressions -/

/-- The expression that a piece is. -/
def Piece.expression? : Piece → Option Text
  | .symbol _ => none
  | .expression t => some t

/-- The expressions in the texts of a value, in the order in which they are replaced. -/
def expressions : Value → List Text
  | .text t => (pieces t).filterMap Piece.expression?
  | .list xs => itemExpressions xs
  | .mapping es => entryExpressions es
  | _ => []
where
  /-- The expressions of items, in order. -/
  itemExpressions : List Value → List Text
    | [] => []
    | x :: rest => expressions x ++ itemExpressions rest
  /-- The expressions of entries, in order; keys have none. -/
  entryExpressions : List (Value × Value) → List Text
    | [] => []
    | (_, v) :: rest => expressions v ++ entryExpressions rest

/-- An expression stands for a text. -/
def Stands (scope : Scope) (t : Text) : Prop := ∃ s, evaluate scope t = .ok s

/-! ## 2. First faults -/

/-- The fault of a step, if it fails. -/
def fault? {α : Type} : Except Fault α → Option Fault
  | .ok _ => none
  | .error fault => some fault

/-- The fault of the first expression that stands for nothing. -/
def firstFault? (scope : Scope) (ts : List Text) : Option Fault :=
  ts.findSome? fun t => fault? (evaluate scope t)

section Faults

variable {α β γ : Type} {scope : Scope}

theorem fault?_map (f : α → β) (x : Except Fault α) : fault? (x.map f) = fault? x := by
  cases x <;> rfl

/-- Of two steps that are both taken, the first one that fails counts. -/
theorem fault?_both (f : α → β → γ) (x : Except Fault α) (y : Except Fault β) :
    fault? (x >>= fun a => y >>= fun b => pure (f a b)) = (fault? x).or (fault? y) := by
  cases x <;> cases y <;> rfl

theorem fault?_eq_none {x : Except Fault α} : fault? x = none ↔ ∃ a, x = .ok a := by
  cases x with
  | ok a => exact ⟨fun _ => ⟨a, rfl⟩, fun _ => rfl⟩
  | error fault => exact ⟨fun h => (by cases h), fun ⟨_, h⟩ => (by cases h)⟩

theorem fault?_eq_some {x : Except Fault α} {fault : Fault} :
    fault? x = some fault ↔ x = .error fault := by
  cases x with
  | ok a => exact ⟨fun h => (by cases h), fun h => (by cases h)⟩
  | error other => exact ⟨fun h => (by cases h; rfl), fun h => (by cases h; rfl)⟩

theorem firstFault?_singleton (t : Text) :
    firstFault? scope [t] = fault? (evaluate scope t) := by
  unfold firstFault?
  rw [List.findSome?_singleton]

theorem firstFault?_append (ts us : List Text) :
    firstFault? scope (ts ++ us) = (firstFault? scope ts).or (firstFault? scope us) :=
  List.findSome?_append

/-- No expression fails if and only if all stand for something. -/
theorem firstFault?_eq_none {ts : List Text} :
    firstFault? scope ts = none ↔ ∀ t ∈ ts, Stands scope t := by
  unfold firstFault? Stands
  simp only [List.findSome?_eq_none_iff, fault?_eq_none]

/-- An expression is the first to fail if and only if all before it stand for something. -/
theorem firstFault?_eq_some {ts : List Text} {fault : Fault} :
    firstFault? scope ts = some fault ↔
      ∃ before t after, ts = before ++ t :: after ∧ (∀ u ∈ before, Stands scope u) ∧
        evaluate scope t = .error fault := by
  unfold firstFault? Stands
  simp only [List.findSome?_eq_some_iff, fault?_eq_none, fault?_eq_some]
  constructor
  · rintro ⟨before, t, after, hts, ht, hbefore⟩
    exact ⟨before, t, after, hts, hbefore, ht⟩
  · rintro ⟨before, t, after, hts, hbefore, ht⟩
    exact ⟨before, t, after, hts, ht, hbefore⟩

end Faults

/-! ## 3. Rendering -/

section Rendering

variable {scope : Scope}

theorem fault?_renderPieces (ps : List Piece) :
    fault? (renderPieces scope ps) = firstFault? scope (ps.filterMap Piece.expression?) := by
  induction ps with
  | nil => rfl
  | cons p rest ih =>
    unfold renderPieces
    rw [fault?_both (· ++ ·), ih]
    cases p with
    | symbol s => rfl
    | expression t =>
      change _ = firstFault? scope ([t] ++ rest.filterMap Piece.expression?)
      rw [firstFault?_append, firstFault?_singleton]
      rfl

/-- Pieces are rendered part by part. -/
theorem renderPieces_append (ps qs : List Piece) : renderPieces scope (ps ++ qs) =
    (do return (← renderPieces scope ps) ++ (← renderPieces scope qs)) := by
  induction ps with
  | nil =>
    rw [List.nil_append]
    cases renderPieces scope qs <;> rfl
  | cons p ps ih =>
    rw [List.cons_append, renderPieces, renderPieces, ih]
    cases p.render scope with
    | error fault => rfl
    | ok t =>
      cases renderPieces scope ps with
      | error fault => rfl
      | ok u =>
        cases renderPieces scope qs with
        | error fault => rfl
        | ok v => exact congrArg Except.ok (List.append_assoc t u v).symm

/-- Symbols stand for themselves. -/
theorem renderPieces_symbols (t : Text) : renderPieces scope (t.map .symbol) = .ok t := by
  induction t with
  | nil => rfl
  | cons s t ih =>
    rw [List.map_cons, renderPieces, ih]
    rfl

mutual

/-- **Rendering stops at the first expression that stands for nothing.** -/
theorem fault?_render (v : Value) :
    fault? (render scope v) = firstFault? scope (expressions v) := by
  cases v with
  | text t =>
    unfold render expressions renderText
    rw [fault?_map, fault?_renderPieces]
  | list xs =>
    unfold render expressions
    rw [fault?_map, fault?_renderItems]
  | mapping es =>
    unfold render expressions
    rw [fault?_map, fault?_renderEntries]
  | _ => rfl

theorem fault?_renderItems (xs : List Value) : fault? (render.renderItems scope xs) =
    firstFault? scope (expressions.itemExpressions xs) := by
  cases xs with
  | nil => rfl
  | cons x rest =>
    unfold render.renderItems expressions.itemExpressions
    rw [fault?_both List.cons, fault?_render, fault?_renderItems, firstFault?_append]

/-- The entries of a mapping are rendered in order, up to the first expression that stands for
nothing. -/
theorem fault?_renderEntries (es : List (Value × Value)) : fault? (render.renderEntries scope es) =
    firstFault? scope (expressions.entryExpressions es) := by
  match es with
  | [] => rfl
  | (k, v) :: rest =>
    unfold render.renderEntries expressions.entryExpressions
    rw [fault?_both fun w others => (k, w) :: others, fault?_render, fault?_renderEntries,
      firstFault?_append]

end

/-- **Rendering leaves the keys of a mapping as they are.** -/
theorem renderEntries_keys {es rendered : List (Value × Value)}
    (h : render.renderEntries scope es = .ok rendered) :
    rendered.map (·.1) = es.map (·.1) := by
  induction es generalizing rendered with
  | nil =>
    cases h
    rfl
  | cons e rest ih =>
    obtain ⟨k, v⟩ := e
    unfold render.renderEntries at h
    obtain ⟨w, -, h⟩ := bind_ok h
    obtain ⟨others, hrest, h⟩ := bind_ok h
    cases h
    rw [List.map_cons, List.map_cons, ih hrest]

end Rendering

/-! ## 4. Faults from outside -/

/-- The value that a place shows, if it shows one. -/
def Place.value? (scope : Scope) : Place → Option Value
  | .sink => some (.ofPairs [("name", scope.sinkName)])
  | .value v => some v
  | _ => none

/-- **The expressions that fail outside of what templates answer for**, and how. -/
inductive FailsOutside (scope : Scope) : Text → Fault → Prop where
  | unwritable {t function key halves : Text} {start : Nat}
      (ht : Expression.ofText t = .call function key)
      (hfunction : Function.ofName? function = some .environment)
      (hkey : Text.Utf8.unwritable? key = some (start, halves)) :
      FailsOutside scope t (.unwritable start halves)
  | overlong {t : Text} {names : List Text} {p : Place} {v : Value}
      (ht : Expression.ofText t = .path names)
      (hp : Place.followAll scope names .root = .ok p) (hv : p.value? scope = some v)
      (hoverlong : v.holdsOverlong = true) :
      FailsOutside scope t .overlong

section Outside

variable {scope : Scope} {fault : Fault}

theorem apply_outside {f : Function} {key : Text} (hkind : fault.kind ≠ .configuration)
    (h : f.apply scope key = .error fault) : f = .environment ∧
      ∃ start halves, Text.Utf8.unwritable? key = some (start, halves) ∧
        fault = .unwritable start halves := by
  unfold Function.apply at h
  split at h
  · -- a variable of the environment
    split at h
    · next start halves hkey =>
      cases h
      exact ⟨rfl, start, halves, hkey, rfl⟩
    · split at h
      · cases h
      · cases h
        exact absurd rfl hkind
  · -- a variable given for the run
    split at h
    · cases h
    · cases h
      exact absurd rfl hkind

theorem shownText_eq_error {v : Value} :
    Place.text.shownText v = .error fault ↔ v.holdsOverlong = true ∧ fault = .overlong := by
  unfold Place.text.shownText
  by_cases hv : v.holdsOverlong = true
  · rw [if_pos hv]
    exact ⟨fun h => ⟨hv, (Except.error.inj h).symm⟩, fun h => h.2 ▸ rfl⟩
  · rw [if_neg hv]
    exact ⟨fun h => (by cases h), fun h => absurd h.1 hv⟩

theorem text_eq_error {p : Place} : p.text scope = .error fault ↔
    ∃ v, p.value? scope = some v ∧ v.holdsOverlong = true ∧ fault = .overlong := by
  cases p with
  | root => exact ⟨fun h => (by cases h), fun ⟨_, h, _⟩ => (by cases h)⟩
  | function name => exact ⟨fun h => (by cases h), fun ⟨_, h, _⟩ => (by cases h)⟩
  | sink =>
    refine shownText_eq_error.trans ⟨fun h => ⟨_, rfl, h⟩, ?_⟩
    rintro ⟨v, hv, h⟩
    cases hv
    exact h
  | value v =>
    refine shownText_eq_error.trans ⟨fun h => ⟨v, rfl, h⟩, ?_⟩
    rintro ⟨w, hw, h⟩
    cases hw
    exact h

/-- **An expression fails outside of what templates answer for** if and only if it asks the
environment for a name that cannot be written, or shows a number with too many digits. -/
theorem evaluate_outside {t : Text} :
    evaluate scope t = .error fault ∧ fault.kind ≠ .configuration ↔ FailsOutside scope t fault := by
  constructor
  · rintro ⟨h, hkind⟩
    unfold evaluate at h
    split at h
    · next function key ht =>
      split at h
      · next f hf =>
        obtain ⟨rfl, start, halves, hkey, rfl⟩ := apply_outside hkind h
        exact .unwritable ht hf hkey
      · cases h
        exact absurd rfl hkind
    · next names ht =>
      split at h
      · next p hp =>
        obtain ⟨v, hv, hoverlong, rfl⟩ := text_eq_error.mp h
        exact .overlong ht hp hv hoverlong
      · cases h
        exact absurd rfl hkind
  · intro h
    cases h with
    | unwritable ht hfunction hkey =>
      refine ⟨?_, fun hkind => by cases hkind⟩
      unfold evaluate Function.apply
      rw [ht]
      dsimp only
      rw [hfunction]
      dsimp only
      rw [hkey]
    | overlong ht hp hv hoverlong =>
      refine ⟨?_, fun hkind => by cases hkind⟩
      unfold evaluate
      rw [ht]
      dsimp only
      rw [hp]
      exact text_eq_error.mpr ⟨_, hv, hoverlong, rfl⟩

end Outside

end Sluice.Template
