import Sluice.Proofs.Config.Expressions
import Sluice.Proofs.Config.Positions

/-!
# Values in their places

A text may be put together of literal parts, in which no brace opens, and of slots, which ask for a
variable between double braces. Whatever the parts are, each slot is an expression of the whole text
and nothing else is one, so rendering puts the values of the variables into the places of the slots.
A value is not looked through again: it may hold braces, quotes or anything else.

Names of the environment can be written: a name that cannot be is never among them. To ask for such
a name is not answered by the refusal for a variable that is missing.

* `Slot.pieces_text`: **a slot is one expression**, whatever follows it;
* `renderText_parts`: **the values stand where the slots stood**, and literal parts between them;
* `renderText_missing`: **the first variable that is missing is the one refused**;
* `render_verbatim`: both of them, and what becomes of a whole configuration.
-/

namespace Sluice.Template

open Text

/-! ## 1. Slots -/

/-- A call of a function for a variable, between blanks and double braces. -/
structure Slot where
  function : Function
  key : Text
  quote : Symbol
  before : Text
  after : Text
  key_ne_nil : key ≠ []
  key_isPlain : ∀ s ∈ key, isQuote s = false
  key_isInner : .char '}' ∉ key
  quote_isQuote : isQuote quote = true
  before_isBlank : AllBlank isBlank before
  after_isBlank : AllBlank isBlank after

namespace Slot

variable (s : Slot)

/-- The call of a slot. -/
def call : Call where
  name := s.function.word
  key := s.key
  opening := s.quote
  closing := s.quote
  name_ne_nil := by cases s.function <;> decide
  name_isWord := by cases s.function <;> decide
  key_ne_nil := s.key_ne_nil
  key_isPlain := s.key_isPlain
  opening_isQuote := s.quote_isQuote
  closing_isQuote := s.quote_isQuote

/-- A slot as it is written. -/
def text : Text := braced (s.before ++ s.call.text ++ s.after)

/-- The value of the variable that a slot asks for. -/
def value? (scope : Scope) : Option Text :=
  match s.function with
  | .environment => scope.environment.lookup s.key
  | .variable => scope.given.lookup s.key

/-- The refusal for a variable that is missing. -/
def missing (scope : Scope) : Failure :=
  match s.function with
  | .environment =>
    { kind := .configuration
      message := "Environment variable '" ++ s.key ++ "' not found"
      context := [("key", .text s.key)] }
  | .variable =>
    { kind := .configuration
      message := "CLI variable '" ++ s.key ++ "' not provided"
      context :=
        [("key", .text s.key), ("available", .list (scope.given.map fun (k, _) => .text k))] }

theorem closing_notMem_blank {t : Text} (h : AllBlank isBlank t) : .char '}' ∉ t := fun hmem =>
  absurd (h _ hmem) (by decide)

theorem closing_ne_quote {q : Symbol} (h : isQuote q = true) : .char '}' ≠ q := by
  rintro rfl
  exact absurd h (by decide)

theorem call_text_isInner : .char '}' ∉ s.call.text := by
  have hword : .char '}' ∉ s.function.word := by cases s.function <;> decide
  have hquote := closing_ne_quote s.quote_isQuote
  intro h
  simp only [Call.text, call, List.mem_append, List.mem_cons, List.not_mem_nil, or_false] at h
  rcases h with h | h | h | h | h | h
  · exact hword h
  · cases h
  · exact hquote h
  · exact s.key_isInner h
  · exact hquote h
  · cases h

theorem isBody : IsBody (s.before ++ s.call.text ++ s.after) where
  ne_nil h := by
    simp only [List.append_eq_nil_iff] at h
    exact s.call.name_ne_nil (List.append_eq_nil_iff.mp h.1.2).1
  inner h := by
    rcases List.mem_append.mp h with h | h
    · rcases List.mem_append.mp h with h | h
      · exact closing_notMem_blank s.before_isBlank h
      · exact s.call_text_isInner h
    · exact closing_notMem_blank s.after_isBlank h

/-- A call begins with a word and ends with a parenthesis. -/
theorem call_isTrimmed : IsTrimmed isBlank s.call.text := by
  constructor
  · have hword : ∀ x ∈ s.function.word.head?, isBlank x = false := by
      cases s.function <;> decide
    have hhead : s.call.text.head? = s.function.word.head? := by
      simp only [Call.text, call]
      cases s.function <;> rfl
    rw [hhead]
    exact hword
  · have hlast : s.call.text.getLast? = some (.char ')') := by
      simp [Call.text, List.getLast?_append, List.getLast?_cons]
    rw [hlast]
    intro x hx
    cases hx
    decide

/-- **A slot is one expression**, whatever follows it. -/
theorem pieces_text (rest : Text) :
    pieces (s.text ++ rest) = .expression s.call.text :: pieces rest := by
  have hstrip : strip (s.before ++ s.call.text ++ s.after) = s.call.text :=
    trim_between s.before_isBlank s.after_isBlank s.call_isTrimmed
  rw [text, pieces_braced s.isBody, hstrip]

end Slot

/-! ## 2. Variables -/

section Variables

variable {scope : Scope}

theorem valueOf_eq_lookup (vars : List (Text × Text)) (key : Text) :
    valueOf vars key = vars.lookup key := by
  unfold valueOf
  induction vars with
  | nil => rfl
  | cons entry vars ih =>
    obtain ⟨k, v⟩ := entry
    by_cases hk : k = key
    · subst hk
      rw [List.find?_cons_of_pos (by exact beq_self_eq_true k), List.lookup_cons_self]
      rfl
    · rw [List.find?_cons_of_neg (by simpa using hk), ih, List.lookup_cons,
        beq_false_of_ne (Ne.symm hk)]

/-- The names of an environment: each of them can be written. -/
def IsEnvironment (vars : List (Text × Text)) : Prop :=
  ∀ entry ∈ vars, Utf8.unwritable? entry.1 = none

theorem IsEnvironment.of_lookup {vars : List (Text × Text)} (h : IsEnvironment vars)
    {key value : Text} (hkey : vars.lookup key = some value) : Utf8.unwritable? key = none := by
  obtain ⟨before, after, rfl, -⟩ := List.lookup_eq_some_iff.mp hkey
  exact h (key, value) (by simp)

/-- The call of a slot stands for what its function gives. -/
theorem Slot.evaluate_call (s : Slot) :
    evaluate scope s.call.text = s.function.apply scope s.key := by
  have happend : evaluate scope (s.call.text ++ []) = s.function.apply scope s.key :=
    Template.evaluate_call rfl []
  rwa [List.append_nil] at happend

/-- **A slot stands for the value of its variable.** -/
theorem Slot.evaluate_value (henvironment : IsEnvironment scope.environment) {s : Slot}
    {value : Text} (h : s.value? scope = some value) :
    evaluate scope s.call.text = .ok value := by
  rw [s.evaluate_call]
  unfold Slot.value? at h
  match hfunction : s.function with
  | .environment =>
    rw [hfunction] at h
    simp only [Function.apply, henvironment.of_lookup h, valueOf_eq_lookup, h]
  | .variable =>
    rw [hfunction] at h
    simp only [Function.apply, valueOf_eq_lookup, h]

/-- A slot whose variable is missing is refused. -/
theorem Slot.evaluate_missing {s : Slot} (h : s.value? scope = none)
    (hkey : s.function = .environment → Utf8.unwritable? s.key = none) :
    ∃ fault, evaluate scope s.call.text = .error fault ∧ fault.failure = s.missing scope := by
  rw [s.evaluate_call]
  unfold Slot.value? at h
  match hfunction : s.function with
  | .environment =>
    rw [hfunction] at h
    refine ⟨.noEnvironment s.key, ?_, ?_⟩
    · simp only [Function.apply, hkey hfunction, valueOf_eq_lookup, h]
    · unfold Slot.missing
      rw [hfunction]
      rfl
  | .variable =>
    rw [hfunction] at h
    refine ⟨.noVariable s.key (scope.given.map (·.1)), ?_, ?_⟩
    · simp only [Function.apply, valueOf_eq_lookup, h]
    · unfold Slot.missing
      rw [hfunction]
      simp only [Fault.failure, Fault.context, List.map_map]
      rfl

/-- The environment cannot be asked for a name that cannot be written. -/
theorem Slot.evaluate_unwritable {s : Slot} {start : Nat} {halves : Text}
    (hfunction : s.function = .environment)
    (hkey : Utf8.unwritable? s.key = some (start, halves)) :
    evaluate scope s.call.text = .error (.unwritable start halves) := by
  rw [s.evaluate_call, hfunction]
  simp only [Function.apply, hkey]

end Variables

/-! ## 3. Parts -/

/-- A part of a text: literal, or a slot. -/
inductive Part where
  | literal (t : Text) (h : .char '{' ∉ t)
  | slot (s : Slot)

/-- A part as it is written. -/
def Part.text : Part → Text
  | .literal t _ => t
  | .slot s => s.text

/-- What a part is replaced by: a literal part by itself, a slot by the value of its variable. -/
def Part.value? (scope : Scope) : Part → Option Text
  | .literal t _ => some t
  | .slot s => s.value? scope

/-- What a part is cut into. -/
def Part.pieces : Part → List Piece
  | .literal t _ => t.map .symbol
  | .slot s => [.expression s.call.text]

/-- A text is cut part by part. -/
theorem pieces_parts (parts : List Part) :
    pieces (parts.flatMap Part.text) = parts.flatMap Part.pieces := by
  induction parts with
  | nil =>
    rw [List.flatMap_nil, List.flatMap_nil, pieces]
  | cons p parts ih =>
    rw [List.flatMap_cons, List.flatMap_cons, ← ih]
    cases p with
    | literal t h => exact pieces_literal h _
    | slot s => exact s.pieces_text _

section Parts

variable {scope : Scope}

theorem renderPieces_part (henvironment : IsEnvironment scope.environment) {p : Part}
    {value : Text} (h : p.value? scope = some value) :
    renderPieces scope p.pieces = .ok value := by
  cases p with
  | literal t _ =>
    cases h
    exact renderPieces_symbols _
  | slot s =>
    rw [Part.pieces, renderPieces, Piece.render, s.evaluate_value henvironment h]
    exact congrArg Except.ok (List.append_nil value)

/-- **The values stand where the slots stood.** -/
theorem renderText_parts (henvironment : IsEnvironment scope.environment) {parts : List Part}
    {values : List Text}
    (h : List.Forall₂ (fun p value => Part.value? scope p = some value) parts values) :
    renderText scope (parts.flatMap Part.text) = .ok values.flatten := by
  unfold renderText
  rw [pieces_parts]
  induction h with
  | nil => rfl
  | cons hhead _ ih =>
    rw [List.flatMap_cons, renderPieces_append, renderPieces_part henvironment hhead, ih]
    rfl

/-- **The first slot that stands for nothing decides how rendering fails.** -/
theorem renderText_missing (henvironment : IsEnvironment scope.environment)
    {before after : List Part} {s : Slot} {fault : Fault}
    (hbefore : ∀ p ∈ before, p.value? scope ≠ none)
    (hs : evaluate scope s.call.text = .error fault) :
    renderText scope ((before ++ .slot s :: after).flatMap Part.text) = .error fault := by
  -- the expressions in front of the slot are the calls of earlier slots
  have hstands : ∀ e, .expression e ∈ before.flatMap Part.pieces → Stands scope e := by
    intro e he
    obtain ⟨p, hp, he⟩ := List.mem_flatMap.mp he
    cases p with
    | literal t h =>
      obtain ⟨x, -, hx⟩ := List.mem_map.mp he
      cases hx
    | slot s' =>
      cases List.mem_singleton.mp he
      obtain ⟨value, hvalue⟩ := Option.ne_none_iff_exists'.mp (hbefore _ hp)
      exact ⟨value, s'.evaluate_value henvironment hvalue⟩
  unfold renderText
  rw [pieces_parts, List.flatMap_append, List.flatMap_cons]
  exact renderPieces_error hstands hs

end Parts

/-! ## 4. Texts and configurations -/

/-- **Rendering is a single pass that puts values in verbatim.** A text of literal parts and slots
is rendered to the literal parts with the values of the variables in the places of the slots,
whatever the values hold. If a variable is missing the first one that is decides: it is refused by
its name, unless the environment is asked for a name that cannot be written, which fails outside of
what templates answer for. In a configuration the texts alone change: keys, lengths and all other
leaves stay, at every position. -/
theorem render_verbatim {scope : Scope} (henvironment : IsEnvironment scope.environment) :
    (∀ (parts : List Part) (values : List Text),
      List.Forall₂ (fun p value => Part.value? scope p = some value) parts values →
      renderText scope (parts.flatMap Part.text) = .ok values.flatten) ∧
    (∀ (before after : List Part) (s : Slot), (∀ p ∈ before, p.value? scope ≠ none) →
      s.value? scope = none →
      ∃ fault, renderText scope ((before ++ .slot s :: after).flatMap Part.text) = .error fault ∧
        ((s.function = .environment → Utf8.unwritable? s.key = none) →
          fault.failure = s.missing scope) ∧
        (s.function = .environment → Utf8.unwritable? s.key ≠ none →
          fault.failure.kind = .outside "UnicodeEncodeError")) ∧
    ∀ v w, render scope v = .ok w → ∀ position,
      Option.Rel (Renders scope) (v.at? position) (w.at? position) := by
  refine ⟨fun parts values h => renderText_parts henvironment h, ?_, fun v w h => render_at h⟩
  intro before after s hbefore hmissing
  by_cases hwritable : s.function = .environment → Utf8.unwritable? s.key = none
  · obtain ⟨fault, hfault, hfailure⟩ := s.evaluate_missing hmissing hwritable
    refine ⟨fault, renderText_missing henvironment hbefore hfault, fun _ => hfailure, ?_⟩
    exact fun hfunction hkey => absurd (hwritable hfunction) hkey
  · obtain ⟨hfunction, hkey⟩ := Classical.not_imp.mp hwritable
    obtain ⟨⟨start, halves⟩, hhalves⟩ := Option.ne_none_iff_exists'.mp hkey
    have hfault : evaluate scope s.call.text = .error (.unwritable start halves) :=
      s.evaluate_unwritable hfunction hhalves
    refine ⟨_, renderText_missing henvironment hbefore hfault, fun h => absurd h hwritable, ?_⟩
    exact fun _ _ => rfl

/-- A value that holds an expression itself is put in as it is. -/
theorem render_verbatim_braces :
    let scope : Scope := ⟨.text "orders", [("HOME", "h")], [("a", "\x7b\x7b var('b') \x7d\x7d")]⟩
    let config : Value := .mapping [(.int 1, .list [.int 3, .text "\x7b\x7bvar('a') \x7d\x7d"])]
    let rendered : Value := .mapping [(.int 1, .list [.int 3, .text "\x7b\x7b var('b') \x7d\x7d"])]
    IsEnvironment scope.environment ∧
      renderText scope "x-\x7b\x7bvar('a') \x7d\x7d\x7d/\x7b\x7benv_var(\"HOME\")\x7d\x7d" =
        .ok "x-\x7b\x7b var('b') \x7d\x7d\x7d/h" ∧
      (∃ fault,
        renderText scope "\x7b\x7bvar('a') \x7d\x7d\x7b\x7bvar('b') \x7d\x7d" = .error fault ∧
          fault.failure.message = "CLI variable 'b' not provided") ∧
      render scope config = .ok rendered ∧
      ∀ position, Option.Rel (Renders scope) (config.at? position) (rendered.at? position) := by
  intro scope config rendered
  have hblank : AllBlank isBlank [.char ' '] := fun x hx => List.mem_singleton.mp hx ▸ rfl
  let a : Slot := ⟨.variable, "a", .char '\'', [], [.char ' '], by decide, by decide, by decide,
    rfl, allBlank_nil, hblank⟩
  let b : Slot := ⟨.variable, "b", .char '\'', [], [.char ' '], by decide, by decide, by decide,
    rfl, allBlank_nil, hblank⟩
  let home : Slot := ⟨.environment, "HOME", .char '"', [], [], by decide, by decide, by decide, rfl,
    allBlank_nil, allBlank_nil⟩
  have henvironment : IsEnvironment scope.environment := fun entry hentry =>
    List.mem_singleton.mp hentry ▸ rfl
  obtain ⟨hvalues, hmissing, hkept⟩ := render_verbatim henvironment
  have hconfig : render scope config = .ok rendered := by
    have ha : renderText scope a.text = .ok "\x7b\x7b var('b') \x7d\x7d" :=
      hvalues [.slot a] ["\x7b\x7b var('b') \x7d\x7d"] (.cons rfl .nil)
    let es : List (Value × Value) := [(.int 1, .list [.int 3, .text a.text])]
    change (render.renderEntries scope es).map Value.mapping = _
    simp only [es, render, render.renderEntries, render.renderItems, ha]
    rfl
  refine ⟨henvironment, ?_, ?_, hconfig, hkept config rendered hconfig⟩
  · refine hvalues [.literal "x-" (by decide), .slot a, .literal "\x7d/" (by decide), .slot home]
      ["x-", "\x7b\x7b var('b') \x7d\x7d", "\x7d/", "h"] ?_
    exact .cons rfl (.cons rfl (.cons rfl (.cons rfl .nil)))
  · have ha : ∀ p ∈ [Part.slot a], p.value? scope ≠ none := fun p hp => by
      rw [List.mem_singleton.mp hp]
      exact Option.some_ne_none _
    obtain ⟨fault, hfault, hfailure, -⟩ := hmissing [.slot a] [] b ha rfl
    refine ⟨fault, hfault, ?_⟩
    rw [hfailure (fun h => by cases h)]
    rfl

end Sluice.Template
