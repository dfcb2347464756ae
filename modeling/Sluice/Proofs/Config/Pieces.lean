import Sluice.Config.Template
import Sluice.Proofs.Text.Trim

/-!
# Where a text is cut

An expression of a text stands between two opening and two closing braces, and there is no closing
brace in it. Such matches are looked for from left to right, and none overlaps another: what is
behind a match is looked through on its own, and a symbol at which no match begins is passed over.

* `body?_eq_some`: a body is taken off a text exactly where it stands in front of two closing
  braces;
* `Cut`: **the matches of a text**, read off the text alone;
* `cut_iff`: **a text is cut at its matches**, in one way only;
* `pieces_literal`, `pieces_braced`: what the parts are cut into that a text is put together of.
-/

namespace Sluice

/-- What is read up to the first symbol that is refused. -/
theorem Text.span_until {p : Symbol → Bool} {before : Text} {s : Symbol}
    (hbefore : ∀ x ∈ before, p x = true) (hs : p s = false) (rest : Text) :
    (before ++ s :: rest).takeWhile p = before ∧
      (before ++ s :: rest).dropWhile p = s :: rest := by
  constructor
  · rw [List.takeWhile_append_of_pos hbefore, List.takeWhile_cons_of_neg (by simp [hs]),
      List.append_nil]
  · rw [List.dropWhile_append_of_pos hbefore, List.dropWhile_cons_of_neg (by simp [hs])]

namespace Template

open Text

/-! ## 1. Bodies -/

/-- What may stand between two opening and two closing braces. -/
structure IsBody (body : Text) : Prop where
  ne_nil : body ≠ []
  inner : .char '}' ∉ body

/-- A body between its braces. -/
def braced (body : Text) : Text :=
  .char '{' :: .char '{' :: (body ++ [.char '}', .char '}'])

theorem braced_append (body rest : Text) : braced body ++ rest =
    .char '{' :: .char '{' :: (body ++ .char '}' :: .char '}' :: rest) := by
  simp [braced]

theorem isInner_eq_true {s : Symbol} : isInner s = true ↔ s ≠ .char '}' := bne_iff_ne

theorem isInner_of_mem {body : Text} (h : .char '}' ∉ body) {s : Symbol} (hs : s ∈ body) :
    isInner s = true :=
  isInner_eq_true.mpr fun heq => h (heq ▸ hs)

/-- **A body is taken off exactly where it stands in front of two closing braces.** -/
theorem body?_eq_some {t body rest : Text} :
    body? t = some (body, rest) ↔ IsBody body ∧ t = body ++ .char '}' :: .char '}' :: rest := by
  unfold body?
  constructor
  · intro h
    split at h
    · cases h
    · next hne =>
      split at h
      · next after hdrop =>
        cases h
        have hinner : .char '}' ∉ t.takeWhile isInner := fun hmem =>
          isInner_eq_true.mp (List.all_eq_true.mp List.all_takeWhile _ hmem) rfl
        refine ⟨⟨fun hnil => hne (by rw [hnil]; rfl), hinner⟩, ?_⟩
        rw [← hdrop, List.takeWhile_append_dropWhile]
      · cases h
  · rintro ⟨hbody, rfl⟩
    obtain ⟨htake, hdrop⟩ := span_until (fun _ hs => isInner_of_mem hbody.inner hs)
      (rfl : isInner (.char '}') = false) (.char '}' :: rest)
    rw [htake, hdrop, if_neg (by simpa using hbody.ne_nil)]
    rfl

/-! ## 2. Matches -/

/-- A match begins at the start of a text. -/
def Begins (t : Text) : Prop := ∃ body rest, IsBody body ∧ t = braced body ++ rest

/-- **The matches of a text**: from left to right, and none overlaps another. -/
inductive Cut : Text → List Piece → Prop where
  | nil : Cut [] []
  | expression {body rest : Text} {ps : List Piece} (hbody : IsBody body) (h : Cut rest ps) :
      Cut (braced body ++ rest) (.expression (strip body) :: ps)
  | symbol {s : Symbol} {rest : Text} {ps : List Piece} (hnone : ¬ Begins (s :: rest))
      (h : Cut rest ps) : Cut (s :: rest) (.symbol s :: ps)

/-- Behind two opening braces a body decides. -/
theorem pieces_opening (inner : Text) :
    pieces (.char '{' :: .char '{' :: inner) = match body? inner with
      | some (body, after) => .expression (strip body) :: pieces after
      | none => .symbol (.char '{') :: pieces (.char '{' :: inner) := by
  rw [pieces]
  split
  · next h => simp only [h]
  · next h => simp only [h]

theorem pieces_braced {body : Text} (hbody : IsBody body) (rest : Text) :
    pieces (braced body ++ rest) = .expression (strip body) :: pieces rest := by
  rw [braced_append, pieces_opening, body?_eq_some.mpr ⟨hbody, rfl⟩]

/-- A symbol at which no match begins is passed over. -/
theorem pieces_symbol {s : Symbol} {rest : Text} (hnone : ¬ Begins (s :: rest)) :
    pieces (s :: rest) = .symbol s :: pieces rest := by
  by_cases hopening : ∃ inner, s :: rest = .char '{' :: .char '{' :: inner
  · obtain ⟨inner, hinner⟩ := hopening
    obtain ⟨rfl, rfl⟩ := List.cons.inj hinner
    cases hbody : body? inner with
    | none => rw [pieces_opening, hbody]
    | some found =>
      obtain ⟨body, after⟩ := found
      obtain ⟨hbody, hinner⟩ := body?_eq_some.mp hbody
      refine absurd ⟨body, after, hbody, ?_⟩ hnone
      rw [braced_append, hinner]
  · rw [pieces]
    rintro inner rfl rfl
    exact hopening ⟨inner, rfl⟩

theorem Cut.pieces_eq {t : Text} {ps : List Piece} (h : Cut t ps) : pieces t = ps := by
  induction h with
  | nil => rw [pieces]
  | expression hbody _ ih => rw [pieces_braced hbody, ih]
  | symbol hnone _ ih => rw [pieces_symbol hnone, ih]

/-- A text is cut at its matches, each of which may be as long as it likes: what is left behind it
is shorter. -/
theorem cut_pieces : (t : Text) → Cut t (pieces t)
  | [] => by
    rw [pieces]
    exact .nil
  | s :: rest => by
    by_cases hbegins : Begins (s :: rest)
    · obtain ⟨body, after, hbody, heq⟩ := hbegins
      have hshorter : after.length < (s :: rest).length := by
        rw [heq, braced_append]
        simp only [List.length_cons, List.length_append]
        omega
      rw [heq, pieces_braced hbody]
      exact .expression hbody (cut_pieces after)
    · rw [pieces_symbol hbegins]
      exact .symbol hbegins (cut_pieces rest)
termination_by t => t.length
decreasing_by
  · exact hshorter
  · exact Nat.lt_succ_self rest.length

/-- **A text is cut at its matches**, and in no other way. -/
theorem cut_iff {t : Text} {ps : List Piece} : Cut t ps ↔ pieces t = ps :=
  ⟨Cut.pieces_eq, fun h => h ▸ cut_pieces t⟩

/-! ## 3. Parts -/

/-- **Symbols other than an opening brace stand for themselves**, whatever follows. -/
theorem pieces_literal {t : Text} (h : .char '{' ∉ t) (rest : Text) :
    pieces (t ++ rest) = t.map .symbol ++ pieces rest := by
  induction t with
  | nil => rfl
  | cons s t ih =>
    have hnone : ¬ Begins (s :: (t ++ rest)) := by
      rintro ⟨body, after, -, heq⟩
      rw [braced_append] at heq
      exact h (List.mem_cons.mpr (.inl (List.cons.inj heq).1.symm))
    rw [List.cons_append, pieces_symbol hnone, ih fun hmem => h (List.mem_cons_of_mem s hmem)]
    rfl

end Template

end Sluice
