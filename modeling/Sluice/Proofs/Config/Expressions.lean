import Sluice.Proofs.Config.Pieces
import Sluice.Proofs.Config.Rendered

/-!
# What expressions are accepted

An expression that stands for something is a path as a whole, or begins with a call. A path leads to
the name of the sink or into it, to what is known about the sink, or to a function. A call is looked
for at the front of the expression only: what follows its closing parenthesis is not looked at, and
either quote closes what either quote opened.

* `call?_eq_some`: **a call is found exactly where one stands at the front**;
* `Leads`, `followAll_root`: **the paths that lead somewhere**;
* `Accepts`, `evaluate_eq_ok`: **the expressions that stand for something**, and for what;
* `evaluate_call`: what follows a call has no say, and neither have its quotes;
* `renderText_accepts`: all of this for a text and its matches.
-/

namespace Sluice.Template

open Text

/-! ## 1. Calls -/

/-- A call of a function with one argument between quotes. -/
structure Call where
  name : Text
  key : Text
  opening : Symbol
  closing : Symbol
  name_ne_nil : name ≠ []
  name_isWord : ∀ s ∈ name, isWord s = true
  key_ne_nil : key ≠ []
  key_isPlain : ∀ s ∈ key, isQuote s = false
  opening_isQuote : isQuote opening = true
  closing_isQuote : isQuote closing = true

/-- A call as it is written. -/
def Call.text (c : Call) : Text :=
  c.name ++ .char '(' :: c.opening :: (c.key ++ [c.closing, .char ')'])

theorem Call.text_append (c : Call) (rest : Text) : c.text ++ rest =
    c.name ++ .char '(' :: c.opening :: (c.key ++ c.closing :: .char ')' :: rest) := by
  simp [Call.text]

theorem not_isQuote (s : Symbol) : (!isQuote s) = true ↔ isQuote s = false := by
  rw [Bool.not_eq_true']

/-- **An argument is found exactly where it stands between quotes**, of either kind, in front of a
closing parenthesis. -/
theorem argument?_eq_some {t key : Text} : argument? t = some key ↔
    ∃ opening closing rest, isQuote opening = true ∧ isQuote closing = true ∧ key ≠ [] ∧
      (∀ s ∈ key, isQuote s = false) ∧ t = opening :: (key ++ closing :: .char ')' :: rest) := by
  constructor
  · intro h
    cases t with
    | nil => cases h
    | cons opening t =>
      simp only [argument?] at h
      split at h
      · next hopening =>
        split at h
        · cases h
        · next closing rest hdrop hne =>
          cases h
          have hplain : ∀ s ∈ t.takeWhile (!isQuote ·), isQuote s = false := fun s hs =>
            (not_isQuote s).mp (List.all_eq_true.mp List.all_takeWhile s hs)
          have hclosing : isQuote closing = true := by
            have hhead := List.head?_dropWhile_not (!isQuote ·) t
            rw [hdrop] at hhead
            simpa using hhead
          refine ⟨opening, closing, rest, hopening, hclosing, hne, hplain, ?_⟩
          rw [← hdrop, List.takeWhile_append_dropWhile]
        · cases h
      · cases h
  · rintro ⟨opening, closing, rest, hopening, hclosing, hne, hplain, rfl⟩
    have hends : (!isQuote closing) = false := by rw [hclosing]; rfl
    obtain ⟨htake, hdrop⟩ := span_until (fun s hs => (not_isQuote s).mpr (hplain s hs)) hends
      (.char ')' :: rest)
    simp only [argument?]
    rw [if_pos hopening, htake, hdrop]
    cases key with
    | nil => exact absurd rfl hne
    | cons s key => rfl

/-- **A call is found exactly where one stands at the front.** -/
theorem call?_eq_some {t name key : Text} : call? t = some (name, key) ↔
    ∃ (c : Call) (rest : Text), c.name = name ∧ c.key = key ∧ t = c.text ++ rest := by
  constructor
  · intro h
    unfold call? at h
    split at h
    · cases h
    · next body hdrop hne =>
      obtain ⟨found, hfound, heq⟩ := Option.map_eq_some_iff.mp h
      cases heq
      obtain ⟨opening, closing, rest, hopening, hclosing, hkey, hplain, rfl⟩ :=
        argument?_eq_some.mp hfound
      have hword : ∀ s ∈ t.takeWhile isWord, isWord s = true :=
        List.all_eq_true.mp List.all_takeWhile
      refine ⟨⟨_, _, opening, closing, hne, hword, hkey, hplain, hopening,
        hclosing⟩, rest, rfl, rfl, ?_⟩
      rw [Call.text_append, ← hdrop, List.takeWhile_append_dropWhile]
    · cases h
  · rintro ⟨c, rest, rfl, rfl, rfl⟩
    have hargument : argument? (c.opening :: (c.key ++ c.closing :: .char ')' :: rest)) =
        some c.key :=
      argument?_eq_some.mpr ⟨_, _, rest, c.opening_isQuote, c.closing_isQuote, c.key_ne_nil,
        c.key_isPlain, rfl⟩
    obtain ⟨htake, hdrop⟩ := span_until c.name_isWord (rfl : isWord (.char '(') = false)
      (c.opening :: (c.key ++ c.closing :: .char ')' :: rest))
    unfold call?
    rw [Call.text_append, htake, hdrop]
    cases hname : c.name with
    | nil => exact absurd hname c.name_ne_nil
    | cons s name =>
      simp only [hargument]
      rfl

/-- A word is no call unless a parenthesis follows it. -/
theorem call?_word {word : Text} (hword : ∀ s ∈ word, isWord s = true) (rest : Text)
    (hrest : ∀ s ∈ rest.head?, isWord s = false ∧ s ≠ .char '(') : call? (word ++ rest) = none := by
  refine Option.eq_none_iff_forall_ne_some.mpr fun found hfound => ?_
  obtain ⟨c, after, -, -, htext⟩ := call?_eq_some.mp hfound
  rw [Call.text_append] at htext
  have hdrop : (word ++ rest).dropWhile isWord = rest := by
    rw [List.dropWhile_append_of_pos hword]
    cases rest with
    | nil => rfl
    | cons s rest => rw [List.dropWhile_cons_of_neg (by simp [(hrest s rfl).1])]
  rw [htext, (span_until c.name_isWord (rfl : isWord (.char '(') = false) _).2] at hdrop
  rw [← hdrop] at hrest
  exact (hrest _ rfl).2 rfl

/-! ## 2. Paths -/

/-- The name that a function is called by. -/
def Function.word : Function → Text
  | .environment => "env_var"
  | .variable => "var"

theorem ofName?_eq_some {name : Text} {f : Function} :
    Function.ofName? name = some f ↔ name = f.word := by
  have henvironment : Function.ofName? (Function.word .environment) = some .environment := by decide
  have hvariable : Function.ofName? (Function.word .variable) = some .variable := by decide
  constructor
  · intro h
    unfold Function.ofName? at h
    split at h
    · next hname =>
      cases h
      exact hname
    · split at h
      · next hname =>
        cases h
        exact hname
      · cases h
  · rintro rfl
    exact match f with
      | .environment => henvironment
      | .variable => hvariable

theorem splitAll_eq_splitOn (separator : Symbol) (t : Text) :
    t.splitAll separator = t.splitOn separator := by
  rw [List.splitOn_eq_splitOnP]
  induction t with
  | nil => rfl
  | cons s t ih =>
    rw [splitAll, List.splitOnP_cons_eq_if_modifyHead, ih]
    by_cases hs : s = separator
    · rw [if_pos hs, if_pos (beq_iff_eq.mpr hs)]
    · rw [if_neg hs, if_neg (by simpa using hs)]
      cases hparts : List.splitOnP (· == separator) t with
      | nil => exact absurd hparts (List.splitOnP_ne_nil _ t)
      | cons part parts => rfl

/-- What a text is cut into holds no separator. -/
theorem notMem_of_mem_splitAll {separator : Symbol} {t : Text} :
    ∀ part ∈ t.splitAll separator, separator ∉ part := by
  induction t with
  | nil =>
    intro part hpart
    rw [List.mem_singleton.mp hpart]
    exact List.not_mem_nil
  | cons s t ih =>
    rw [splitAll]
    by_cases hs : s = separator
    · rw [if_pos hs]
      exact List.forall_mem_cons.mpr ⟨List.not_mem_nil, ih⟩
    · rw [if_neg hs]
      cases hparts : splitAll separator t with
      | nil => exact List.forall_mem_singleton.mpr fun h => hs (List.mem_singleton.mp h).symm
      | cons part parts =>
        rw [hparts] at ih
        obtain ⟨hpart, hrest⟩ := List.forall_mem_cons.mp ih
        refine List.forall_mem_cons.mpr ⟨fun h => ?_, hrest⟩
        rcases List.mem_cons.mp h with heq | hmem
        · exact hs heq.symm
        · exact hpart hmem

/-- The value that names lead to from a value, from mapping to mapping. -/
def memberAt (v : Value) (names : List Text) : Option Value :=
  names.foldlM (fun w name => w.member? name) v

/-- **The paths that lead somewhere.** -/
inductive Leads (scope : Scope) : List Text → Place → Prop where
  | sink : Leads scope ["sink"] .sink
  | name {names : List Text} {v : Value} (h : memberAt scope.sinkName names = some v) :
      Leads scope ("sink" :: "name" :: names) (.value v)
  | function (f : Function) : Leads scope [f.word] (.function f.word)

section Paths

variable {scope : Scope} {names : List Text} {p : Place}

theorem follow_value {name : Text} {v : Value} :
    (Place.value v).follow scope name = .ok p ↔ ∃ w, v.member? name = some w ∧ p = .value w := by
  simp only [Place.follow, Value.member?]
  cases v.entries? with
  | none => simp
  | some es =>
    simp only [Option.bind_some]
    cases Value.lookup name es with
    | none => simp
    | some w => simp [eq_comm]

theorem followAll_cons {name : Text} {q : Place} :
    Place.followAll scope (name :: names) q = .ok p ↔
      ∃ next, q.follow scope name = .ok next ∧ Place.followAll scope names next = .ok p := by
  rw [Place.followAll]
  cases q.follow scope name with
  | error reason => simp [Except.bind]
  | ok next => simp [Except.bind]

theorem followAll_value {v : Value} : Place.followAll scope names (.value v) = .ok p ↔
    ∃ w, memberAt v names = some w ∧ p = .value w := by
  induction names generalizing v with
  | nil => simp [Place.followAll, memberAt, eq_comm]
  | cons name names ih =>
    rw [followAll_cons]
    constructor
    · rintro ⟨next, hnext, hrest⟩
      obtain ⟨u, hu, rfl⟩ := follow_value.mp hnext
      obtain ⟨w, hw, rfl⟩ := ih.mp hrest
      refine ⟨w, ?_, rfl⟩
      rw [memberAt, List.foldlM_cons, hu]
      exact hw
    · rintro ⟨w, hw, rfl⟩
      obtain ⟨u, hu, hrest⟩ := Option.bind_eq_some_iff.mp hw
      exact ⟨.value u, follow_value.mpr ⟨u, hu, rfl⟩, ih.mpr ⟨w, hrest, rfl⟩⟩

/-- No path leads on from a function. -/
theorem followAll_function {name : Text} :
    Place.followAll scope names (.function name) = .ok p ↔ names = [] ∧ p = .function name := by
  cases names with
  | nil => simp [Place.followAll, eq_comm]
  | cons other names =>
    rw [followAll_cons]
    simp [Place.follow]

/-- From what is known about the sink a path leads to its name, or into it. -/
theorem followAll_sink : Place.followAll scope names .sink = .ok p ↔
    (names = [] ∧ p = .sink) ∨
      ∃ (rest : List Text) (w : Value), names = ("name" : Text) :: rest ∧
        memberAt scope.sinkName rest = some w ∧ p = .value w := by
  cases names with
  | nil =>
    constructor
    · intro h
      cases h
      exact .inl ⟨rfl, rfl⟩
    · rintro (⟨-, rfl⟩ | ⟨_, _, hnames, -⟩)
      · rfl
      · cases hnames
  | cons name names =>
    rw [followAll_cons]
    constructor
    · rintro ⟨next, hnext, hrest⟩
      simp only [Place.follow] at hnext
      split at hnext
      · next hname =>
        cases hnext
        obtain ⟨w, hw, rfl⟩ := followAll_value.mp hrest
        exact .inr ⟨names, w, by rw [hname], hw, rfl⟩
      · cases hnext
    · rintro (⟨hnil, -⟩ | ⟨rest, w, hnames, hw, rfl⟩)
      · cases hnil
      · cases hnames
        exact ⟨.value scope.sinkName, rfl, followAll_value.mpr ⟨w, hw, rfl⟩⟩

/-- **The paths that lead somewhere.** -/
theorem followAll_root (hnames : names ≠ []) :
    Place.followAll scope names .root = .ok p ↔ Leads scope names p := by
  cases names with
  | nil => exact absurd rfl hnames
  | cons name names =>
    rw [followAll_cons]
    constructor
    · rintro ⟨next, hnext, hrest⟩
      simp only [Place.follow] at hnext
      split at hnext
      · next hname =>
        cases hnext
        subst hname
        rcases followAll_sink.mp hrest with ⟨rfl, rfl⟩ | ⟨rest, w, rfl, hw, rfl⟩
        · exact .sink
        · exact .name hw
      · split at hnext
        · next f hf =>
          cases hnext
          obtain ⟨rfl, rfl⟩ := followAll_function.mp hrest
          rw [ofName?_eq_some.mp hf]
          exact .function f
        · cases hnext
    · intro h
      cases h with
      | sink => exact ⟨.sink, rfl, rfl⟩
      | name h =>
        exact ⟨.sink, rfl, followAll_sink.mpr (.inr ⟨_, _, rfl, h, rfl⟩)⟩
      | function f =>
        have hfollow : Place.root.follow scope f.word = .ok (.function f.word) :=
          match f with
          | .environment => rfl
          | .variable => rfl
        exact ⟨.function f.word, hfollow, rfl⟩

end Paths

/-! ## 3. Expressions -/

/-- The text of a path. -/
def pathText (names : List Text) : Text := [.char '.'].intercalate names

/-- **The expressions that stand for something**, and for what. -/
inductive Accepts (scope : Scope) : Text → Text → Prop where
  | call {c : Call} {f : Function} {rest value : Text} (hname : c.name = f.word)
      (h : f.apply scope c.key = .ok value) : Accepts scope (c.text ++ rest) value
  | path {names : List Text} {p : Place} {value : Text}
      (hnames : ∀ name ∈ names, .char '.' ∉ name) (hp : Leads scope names p)
      (h : p.text scope = .ok value) : Accepts scope (pathText names) value

section Values

variable {scope : Scope} {t value : Text}

/-- Where a call stands at the front, the function and the argument decide. -/
theorem evaluate_call_text (c : Call) (rest : Text) :
    evaluate scope (c.text ++ rest) = match Function.ofName? c.name with
      | some f => f.apply scope c.key
      | none => .error (.noFunction c.name (c.text ++ rest)) := by
  have hcall : call? (c.text ++ rest) = some (c.name, c.key) :=
    call?_eq_some.mpr ⟨c, rest, rfl, rfl, rfl⟩
  cases hname : Function.ofName? c.name with
  | none => simp only [evaluate, Expression.ofText, hcall, hname]
  | some f => simp only [evaluate, Expression.ofText, hcall, hname]

/-- Any other expression is a path. -/
theorem evaluate_path_text (h : call? t = none) :
    evaluate scope t = match Place.followAll scope (t.splitOn (.char '.')) .root with
      | .ok p => p.text scope
      | .error reason => .error (.noPath t reason) := by
  cases hp : Place.followAll scope (t.splitOn (.char '.')) .root with
  | ok p => simp only [evaluate, Expression.ofText, h, splitAll_eq_splitOn, hp]
  | error reason => simp only [evaluate, Expression.ofText, h, splitAll_eq_splitOn, hp]

/-- **What follows a call has no say.** -/
theorem evaluate_call {c : Call} {f : Function} (hname : c.name = f.word) (rest : Text) :
    evaluate scope (c.text ++ rest) = f.apply scope c.key := by
  rw [evaluate_call_text, ofName?_eq_some.mpr hname]

/-- What the names between the points lead to, a path leads to. -/
theorem exists_path {p : Place}
    (h : Place.followAll scope (t.splitOn (.char '.')) .root = .ok p) :
    ∃ names, (∀ name ∈ names, .char '.' ∉ name) ∧ Leads scope names p ∧ t = pathText names := by
  have hplain : ∀ name ∈ t.splitOn (.char '.'), .char '.' ∉ name := by
    rw [← splitAll_eq_splitOn]
    exact notMem_of_mem_splitAll
  exact ⟨_, hplain, (followAll_root (List.splitOn_ne_nil _ t)).mp h,
    (List.intercalate_splitOn _).symm⟩

/-- What a path leads to, the names between its points lead to. -/
theorem Leads.followAll {names : List Text} {p : Place} (h : Leads scope names p)
    (hnames : ∀ name ∈ names, .char '.' ∉ name) :
    Place.followAll scope ((pathText names).splitOn (.char '.')) .root = .ok p := by
  have hne : names ≠ [] := by cases h <;> exact List.cons_ne_nil _ _
  rw [pathText, List.splitOn_intercalate _ hnames hne]
  exact (followAll_root hne).mpr h

/-- A path that leads somewhere does not begin with a call. -/
theorem Leads.call?_eq_none {names : List Text} {p : Place} (h : Leads scope names p) :
    call? (pathText names) = none := by
  have hsink : ∀ s ∈ ("sink" : Text), isWord s = true := by decide
  cases h with
  | sink => exact call?_word hsink [] fun s hs => by cases hs
  | @name names v h =>
    have htext : pathText ("sink" :: "name" :: names) =
        "sink" ++ .char '.' :: pathText ("name" :: names) := by
      simp [pathText, List.intercalate]
    rw [htext]
    refine call?_word hsink _ fun s hs => ?_
    cases hs
    exact ⟨rfl, by decide⟩
  | function f =>
    have hword : ∀ s ∈ f.word, isWord s = true := by cases f <;> decide
    have htext : pathText [f.word] = f.word ++ [] := by simp [pathText, List.intercalate]
    rw [htext]
    exact call?_word hword [] fun s hs => by cases hs

/-- **The expressions that stand for something.** -/
theorem evaluate_eq_ok : evaluate scope t = .ok value ↔ Accepts scope t value := by
  constructor
  · intro h
    cases hcall : call? t with
    | some found =>
      obtain ⟨name, key⟩ := found
      obtain ⟨c, rest, rfl, rfl, rfl⟩ := call?_eq_some.mp hcall
      rw [evaluate_call_text] at h
      split at h
      · next f hf => exact .call (ofName?_eq_some.mp hf) h
      · cases h
    | none =>
      rw [evaluate_path_text hcall] at h
      split at h
      · next p hp =>
        obtain ⟨names, hnames, hleads, rfl⟩ := exists_path hp
        exact .path hnames hleads h
      · cases h
  · intro h
    cases h with
    | call hname h => rw [evaluate_call hname, h]
    | path hnames hp h =>
      rw [evaluate_path_text hp.call?_eq_none, hp.followAll hnames]
      exact h

end Values

/-! ## 4. Texts -/

/-- An expression begins with a call of one of the functions. -/
def BeginsWithCall (e : Text) : Prop :=
  ∃ (c : Call) (f : Function) (rest : Text), c.name = f.word ∧ e = c.text ++ rest

/-- An expression is, as a whole, a path that leads somewhere. -/
def IsPath (scope : Scope) (e : Text) : Prop :=
  ∃ (names : List Text) (p : Place), (∀ name ∈ names, .char '.' ∉ name) ∧ Leads scope names p ∧
    e = pathText names

section Texts

variable {scope : Scope}

theorem mem_expressions {ps : List Piece} {e : Text} :
    e ∈ ps.filterMap Piece.expression? ↔ .expression e ∈ ps := by
  rw [List.mem_filterMap]
  constructor
  · rintro ⟨p, hp, he⟩
    cases p with
    | symbol s => cases he
    | expression t =>
      cases he
      exact hp
  · intro h
    exact ⟨_, h, rfl⟩

/-- Where a text is rendered, all of its expressions stand for something. -/
theorem stands_of_renderPieces {ps : List Piece} {u e : Text}
    (h : renderPieces scope ps = .ok u) (he : .expression e ∈ ps) : Stands scope e := by
  have hnone := (fault?_renderPieces ps).symm.trans (fault?_eq_none.mpr ⟨u, h⟩)
  exact firstFault?_eq_none.mp hnone e (mem_expressions.mpr he)

/-- The first expression that stands for nothing decides how rendering fails. -/
theorem renderPieces_error {before after : List Piece} {e : Text} {fault : Fault}
    (hbefore : ∀ e', .expression e' ∈ before → Stands scope e')
    (he : evaluate scope e = .error fault) :
    renderPieces scope (before ++ .expression e :: after) = .error fault := by
  rw [← fault?_eq_some, fault?_renderPieces, List.filterMap_append, firstFault?_eq_some]
  exact ⟨_, e, after.filterMap Piece.expression?, rfl,
    fun u hu => hbefore u (mem_expressions.mp hu), he⟩

/-- What neither begins with a call nor is a path is refused. -/
theorem evaluate_refuses {e : Text} (hcall : ¬ BeginsWithCall e) (hpath : ¬ IsPath scope e) :
    ∃ fault, evaluate scope e = .error fault ∧ fault.failure.kind = .configuration := by
  cases hfound : call? e with
  | some found =>
    obtain ⟨name, key⟩ := found
    obtain ⟨c, rest, rfl, rfl, rfl⟩ := call?_eq_some.mp hfound
    cases hf : Function.ofName? c.name with
    | some f => exact absurd ⟨c, f, rest, ofName?_eq_some.mp hf, rfl⟩ hcall
    | none =>
      refine ⟨.noFunction c.name (c.text ++ rest), ?_, rfl⟩
      rw [evaluate_call_text, hf]
  | none =>
    cases hp : Place.followAll scope (e.splitOn (.char '.')) .root with
    | ok p =>
      obtain ⟨names, hnames, hleads, he⟩ := exists_path hp
      exact absurd ⟨names, p, hnames, hleads, he⟩ hpath
    | error reason =>
      refine ⟨.noPath e reason, ?_, rfl⟩
      rw [evaluate_path_text hfound, hp]

end Texts

/-- **What the expressions of a text may be.** Where a text is rendered, each of its expressions
begins with a call of a function that has a value for its argument, or is a path as a whole. An
expression that is neither is refused, and rendering fails if all expressions before it stand for
something. But of a call only the function and the argument count: it stands for the same with any
text behind it, and between quotes of either kind. -/
theorem renderText_accepts {t : Text} {ps : List Piece} (scope : Scope) (hcut : Cut t ps) :
    (∀ u, renderText scope t = .ok u → ∀ e, .expression e ∈ ps →
      ∃ value, Accepts scope e value) ∧
    (∀ before e after, ps = before ++ .expression e :: after →
      (∀ e', .expression e' ∈ before → Stands scope e') → ¬ BeginsWithCall e → ¬ IsPath scope e →
      ∃ fault, renderText scope t = .error fault ∧ fault.failure.kind = .configuration) ∧
    ∀ (c c' : Call) (f : Function) (rest rest' : Text), c.name = f.word → c'.name = f.word →
      c'.key = c.key → evaluate scope (c'.text ++ rest') = evaluate scope (c.text ++ rest) := by
  have hrender : renderText scope t = renderPieces scope ps := by
    unfold renderText
    rw [cut_iff.mp hcut]
  refine ⟨fun u hu e he => ?_, ?_, ?_⟩
  · obtain ⟨value, hvalue⟩ := stands_of_renderPieces (hrender ▸ hu) he
    exact ⟨value, evaluate_eq_ok.mp hvalue⟩
  · rintro before e after rfl hbefore hcall hpath
    obtain ⟨fault, hfault, hkind⟩ := evaluate_refuses hcall hpath
    exact ⟨fault, hrender.trans (renderPieces_error hbefore hfault), hkind⟩
  · intro c c' f rest rest' hname hname' hkey
    rw [evaluate_call hname, evaluate_call hname', hkey]

/-- A filter behind a call is rendered as if it was not there; behind a path it is refused. -/
theorem renderText_accepts_filter :
    let scope : Scope := ⟨.text "orders", [], [("a", "A")]⟩
    let t : Text := "\x7b\x7b var('a') | upper \x7d\x7d"
    let t' : Text := "\x7b\x7b sink.name | upper \x7d\x7d"
    (Cut t [.expression "var('a') | upper"] ∧ renderText scope t = .ok "A" ∧
      ∃ value, Accepts scope "var('a') | upper" value) ∧
    Cut t' [.expression "sink.name | upper"] ∧
      ∃ fault, renderText scope t' = .error fault ∧ fault.failure.kind = .configuration := by
  intro scope t t'
  have hcut : Cut t [.expression "var('a') | upper"] := cut_iff.mpr (by decide +kernel)
  have hcut' : Cut t' [.expression "sink.name | upper"] := cut_iff.mpr (by decide +kernel)
  have hrender : renderText scope t = .ok "A" := by
    unfold renderText
    rw [cut_iff.mp hcut]
    rfl
  refine ⟨⟨hcut, hrender, ?_⟩, hcut', ?_⟩
  · exact (renderText_accepts scope hcut).1 _ hrender _ (List.mem_singleton_self _)
  · refine (renderText_accepts scope hcut').2.1 [] "sink.name | upper" []
      rfl (fun _ h => absurd h List.not_mem_nil) ?_ ?_
    · rintro ⟨c, f, rest, -, he⟩
      have hnone : call? "sink.name | upper" = none := by decide +kernel
      rw [he, call?_eq_some.mpr ⟨c, rest, rfl, rfl, rfl⟩] at hnone
      cases hnone
    · rintro ⟨names, p, hnames, hp, he⟩
      have hnone : Place.followAll scope (Text.splitAll (.char '.') "sink.name | upper") .root =
        .error "'name | upper'" := rfl
      rw [splitAll_eq_splitOn, he, hp.followAll hnames] at hnone
      cases hnone

end Sluice.Template
