import Sluice.Failure
import Sluice.Text.Blank
import Sluice.Text.Utf8
import Sluice.Text.Word

/-!
# Templates

Texts of a configuration may hold expressions between double braces. An expression is a call of a
function with one quoted argument, which looks a variable up, or a path of names that leads to the
name of the sink. A text is cut into its pieces once (`Template.pieces`) and each piece is replaced
by itself: what an expression stands for is not cut again. `Template.render` goes through a whole
configuration and changes its texts only.
-/

namespace Sluice.Template

/-! ## 1. Pieces -/

/-- A piece of a text: a symbol that stands for itself, or an expression without the blanks at its
ends. -/
inductive Piece where
  | symbol (s : Symbol)
  | expression (t : Text)
  deriving DecidableEq, Repr

/-- Whether a symbol does not close anything. -/
def isInner (s : Symbol) : Bool := s != .char '}'

/-- The body behind two opening braces, and what follows its two closing ones. The body holds no
closing brace and is not empty. -/
def body? (t : Text) : Option (Text × Text) :=
  if (t.takeWhile isInner).isEmpty then none
  else match t.dropWhile isInner with
    | .char '}' :: .char '}' :: rest => some (t.takeWhile isInner, rest)
    | _ => none

theorem length_body?_lt {t body rest : Text} (h : body? t = some (body, rest)) :
    rest.length < t.length := by
  have hle := (List.dropWhile_suffix isInner (l := t)).length_le
  unfold body? at h
  split at h
  · simp at h
  · split at h
    · next hd =>
      simp only [Option.some.injEq, Prod.mk.injEq] at h
      rw [hd, h.2] at hle
      simp only [List.length_cons] at hle
      omega
    · simp at h

/-- The pieces of a text, from left to right. -/
def pieces : Text → List Piece
  | [] => []
  | .char '{' :: .char '{' :: inner =>
    match h : body? inner with
    | some (body, after) =>
      have := length_body?_lt h
      .expression (Text.strip body) :: pieces after
    | none => .symbol (.char '{') :: pieces (.char '{' :: inner)
  | s :: rest => .symbol s :: pieces rest
termination_by t => t.length
decreasing_by all_goals simp only [List.length_cons]; omega

/-! ## 2. Expressions -/

/-- An expression: a call of a function with one argument, or a path of names. -/
inductive Expression where
  | call (function argument : Text)
  | path (names : List Text)
  deriving DecidableEq, Repr

/-- Whether a symbol is one of the two quotes. -/
def isQuote (s : Symbol) : Bool := s == .char '\'' || s == .char '"'

/-- The argument between quotes at the start of a text, when a closing parenthesis follows. -/
def argument? : Text → Option Text
  | [] => none
  | q :: rest =>
    if isQuote q then
      match rest.takeWhile (!isQuote ·), rest.dropWhile (!isQuote ·) with
      | [], _ => none
      | argument, _ :: .char ')' :: _ => some argument
      | _, _ => none
    else none

/-- The call at the start of a text. -/
def call? (t : Text) : Option (Text × Text) :=
  match t.takeWhile Text.isWord, t.dropWhile Text.isWord with
  | [], _ => none
  | function, .char '(' :: rest => (argument? rest).map fun argument => (function, argument)
  | _, _ => none

/-- The expression that a text is. -/
def Expression.ofText (t : Text) : Expression :=
  match call? t with
  | some (function, argument) => .call function argument
  | none => .path (t.splitAll (.char '.'))

/-! ## 3. What expressions stand for -/

/-- What can be looked up: the name of the sink, the variables of the environment, and those given
for the run. -/
structure Scope where
  sinkName : Value
  environment : List (Text × Text)
  given : List (Text × Text)
  deriving Repr

/-- A function of templates. -/
inductive Function where
  | environment
  | variable
  deriving DecidableEq, Repr

/-- The names that a path or a call may begin with. -/
def rootNames : List Text := ["sink", "env_var", "var"]

/-- The function with a name. -/
def Function.ofName? (name : Text) : Option Function :=
  if name = Text.ofString "env_var" then some .environment
  else if name = Text.ofString "var" then some .variable
  else none

/-- Why an expression stands for nothing. The last two lie outside of what templates answer for: the
environment cannot be asked for a name, or a number cannot be shown. -/
inductive Fault where
  | noEnvironment (key : Text)
  | noVariable (key : Text) (known : List Text)
  | noFunction (function expression : Text)
  | noPath (expression reason : Text)
  | unwritable (start : Nat) (halves : Text)
  | overlong
  deriving DecidableEq, Repr

/-- The value of a variable. -/
def valueOf (vars : List (Text × Text)) (key : Text) : Option Text :=
  (vars.find? fun (k, _) => k == key).map (·.2)

/-- What a call stands for. -/
def Function.apply (scope : Scope) (key : Text) : Function → Except Fault Text
  | .environment =>
    match Text.Utf8.unwritable? key with
    | some (start, halves) => .error (.unwritable start halves)
    | none =>
      match valueOf scope.environment key with
      | some t => .ok t
      | none => .error (.noEnvironment key)
  | .variable =>
    match valueOf scope.given key with
    | some t => .ok t
    | none => .error (.noVariable key (scope.given.map (·.1)))

/-- A place that a path leads to. -/
inductive Place where
  | root
  | sink
  | function (name : Text)
  | value (v : Value)

/-- Why a value has no members. -/
def noMembers : Value → Text
  | .text _ => "string indices must be integers, not 'str'"
  | .list _ => "list indices must be integers or slices, not str"
  | .tuple _ => "tuple indices must be integers or slices, not str"
  | .bytes _ => "byte indices must be integers or slices, not str"
  | .date _ => "'datetime.date' object is not subscriptable"
  | .dateTime _ => "'datetime.datetime' object is not subscriptable"
  | v => "'" ++ v.kindName ++ "' object is not subscriptable"

/-- One step of a path, or the reason why it leads nowhere. -/
def Place.follow (scope : Scope) (name : Text) : Place → Except Text Place
  | .root =>
    if name = Text.ofString "sink" then .ok .sink
    else match Function.ofName? name with
      | some _ => .ok (.function name)
      | none => .error name.quoted
  | .sink => if name = Text.ofString "name" then .ok (.value scope.sinkName) else .error name.quoted
  | .function _ => .error "'function' object is not subscriptable"
  | .value v =>
    match v.entries? with
    | some es =>
      match Value.lookup name es with
      | some w => .ok (.value w)
      | none => .error name.quoted
    | none => .error (noMembers v)

/-- The text of a place, if it can be shown. A function has no text of its own: whatever names it in
memory differs from run to run, and so it is told by the name alone that the path ends in. -/
def Place.text (scope : Scope) : Place → Except Fault Text
  | .root => .ok []
  | .sink => shownText (Value.ofPairs [("name", scope.sinkName)])
  | .function name => .ok ("<function " ++ name ++ ">")
  | .value v => shownText v
where
  /-- The text of a value, if it can be shown. -/
  shownText (v : Value) : Except Fault Text :=
    if v.holdsOverlong then .error .overlong else .ok v.shown

/-- The place that a path leads to from another one. -/
def Place.followAll (scope : Scope) : List Text → Place → Except Text Place
  | [], p => .ok p
  | name :: rest, p => (p.follow scope name).bind (followAll scope rest)

/-- What an expression stands for. -/
def evaluate (scope : Scope) (t : Text) : Except Fault Text :=
  match Expression.ofText t with
  | .call name argument =>
    match Function.ofName? name with
    | some f => f.apply scope argument
    | none => .error (.noFunction name t)
  | .path names =>
    match Place.followAll scope names .root with
    | .ok p => p.text scope
    | .error reason => .error (.noPath t reason)

/-! ## 4. Rendering -/

/-- What a piece is replaced by. -/
def Piece.render (scope : Scope) : Piece → Except Fault Text
  | .symbol s => .ok [s]
  | .expression t => evaluate scope t

/-- What pieces are replaced by, up to the first fault. -/
def renderPieces (scope : Scope) : List Piece → Except Fault Text
  | [] => .ok []
  | p :: rest => do
    let t ← p.render scope
    return t ++ (← renderPieces scope rest)

/-- A text with its expressions replaced. -/
def renderText (scope : Scope) (t : Text) : Except Fault Text := renderPieces scope (pieces t)

/-- A value with the expressions in its texts replaced; keys stay as they are. -/
def render (scope : Scope) : Value → Except Fault Value
  | .text t => (renderText scope t).map .text
  | .list xs => (renderItems scope xs).map .list
  | .mapping es => (renderEntries scope es).map .mapping
  | v => .ok v
where
  /-- Items in order, up to the first fault. -/
  renderItems (scope : Scope) : List Value → Except Fault (List Value)
    | [] => .ok []
    | x :: rest => do
      let y ← render scope x
      return y :: (← renderItems scope rest)
  /-- Entries in order, up to the first fault. -/
  renderEntries (scope : Scope) : List (Value × Value) → Except Fault (List (Value × Value))
    | [] => .ok []
    | (k, v) :: rest => do
      let w ← render scope v
      return (k, w) :: (← renderEntries scope rest)

/-- The scope of a configuration, whose sink is named as its entry says before rendering. -/
def scopeOf (config : Value) (environment vars : List (Text × Text)) : Scope :=
  ⟨(config.member? "name").getD (.text []), environment, vars⟩

/-- The variable of the environment that a piece asks for. -/
def Piece.environmentName? : Piece → Option Text
  | .symbol _ => none
  | .expression t =>
    match Expression.ofText t with
    | .call function argument =>
      if Function.ofName? function = some .environment then some argument else none
    | .path _ => none

/-- The variables of the environment that the texts of a value ask for. -/
def environmentNames : Value → List Text
  | .text t => (pieces t).filterMap Piece.environmentName?
  | .list xs => itemNames xs
  | .mapping es => entryNames es
  | _ => []
where
  /-- What items ask for. -/
  itemNames : List Value → List Text
    | [] => []
    | x :: rest => environmentNames x ++ itemNames rest
  /-- What entries ask for. -/
  entryNames : List (Value × Value) → List Text
    | [] => []
    | (_, v) :: rest => environmentNames v ++ entryNames rest

/-- The kind of a fault. -/
def Fault.kind : Fault → Kind
  | .unwritable .. => .outside "UnicodeEncodeError"
  | .overlong => .outside "ValueError"
  | _ => .configuration

/-- The wording of a fault. -/
def Fault.message : Fault → Text
  | .noEnvironment key => "Environment variable '" ++ key ++ "' not found"
  | .noVariable key _ => "CLI variable '" ++ key ++ "' not provided"
  | .noFunction function _ => "Unknown function: " ++ function
  | .noPath expression _ => "Template rendering failed: " ++ expression
  | .unwritable start halves => Text.Utf8.unwritableMessage start halves
  | .overlong => Value.digitsExceeded ++ Value.digitsAdvice

/-- What a fault is about. -/
def Fault.context : Fault → List (Text × Value)
  | .noEnvironment key => [("key", .text key)]
  | .noVariable key known => [("key", .text key), ("available", .list (known.map .text))]
  | .noFunction _ expression =>
    [("expression", .text expression), ("available", .list (rootNames.map .text))]
  | .noPath expression reason => [("expression", .text expression), ("error", .text reason)]
  | .unwritable .. => []
  | .overlong => []

/-- The fault as a failure. -/
def Fault.failure (f : Fault) : Failure :=
  { kind := f.kind, message := f.message, context := f.context }

end Sluice.Template
