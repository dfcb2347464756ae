import Sluice.Text.Quoted

/-!
# Checking what comes from outside

A configuration or a schema is read from values of any kind. What is wrong with it is a list of
issues, each with the place where it lies and its cause; nothing is said about the rest. `Checked`
collects the issues of independent parts (`both`, `all`) instead of stopping at the first one, and
`under` moves them below a member or an item. The wording of every cause is in one place
(`Cause.message`).
-/

namespace Sluice

/-- One step on the way to a place inside a value. -/
inductive Step where
  | member (name : Text)
  | item (index : Nat)
  deriving DecidableEq, Repr

/-- Why a value is refused. -/
inductive Cause where
  | missing
  | notText
  | brokenText
  | notBool
  | unreadableBool
  | notInteger
  | unreadableInteger
  | overlongInteger
  | fractionalInteger
  | notFinite
  | notNumber
  | unreadableNumber
  | notList
  | notTuple
  | notRecord (name : Text)
  | emptyList
  | notChoice (choices : List Text)
  | notWord (words : List Text)
  | notAbove (bound : Int)
  | below (bound : Int)
  | unsupportedType (name : Text) (supported : List Text)
  | noElement (field : Text)
  | noMembers (field : Text)
  | repeatedMember (name field : Text)
  | repeatedColumn (name : Text)
  | noColumns
  | repeatedKey
  | unknownKeys (names : List Text)
  | storeLacks (kind : Text) (members : List Text)
  deriving DecidableEq, Repr

namespace Cause

/-- Alternatives between quotes, the last after `or`. -/
def alternatives : List Text → Text
  | [] => []
  | [a] => "'" ++ a ++ "'"
  | [a, b] => "'" ++ a ++ "' or '" ++ b ++ "'"
  | a :: rest => "'" ++ a ++ "', " ++ alternatives rest

/-- A list of names in brackets, each between quotes. -/
def quotedNames (names : List Text) : Text := "[" ++ Text.join ", " (names.map Text.quoted) ++ "]"

/-- The rules that the reader itself sets, as opposed to the shapes that values must have. -/
def ruleText? : Cause → Option Text
  | .unsupportedType name supported =>
    some ("Unsupported type name: " ++ name ++ ". Supported types: " ++ quotedNames supported)
  | .noElement field => some ("ARRAY field '" ++ field ++ "' requires an element definition")
  | .noMembers field => some ("RECORD field '" ++ field ++ "' requires nested fields")
  | .repeatedMember name field =>
    some ("duplicate field name '" ++ name ++ "' in RECORD field '" ++ field ++ "'")
  | .repeatedColumn name => some ("duplicate field name '" ++ name ++ "' in schema")
  | .noColumns => some "schema must define at least one field"
  | .repeatedKey => some "key_columns must not contain duplicates"
  | .unknownKeys names => some ("key_columns not found in schema: " ++ Text.join ", " names)
  | .storeLacks kind members =>
    some ("Store type '" ++ kind ++ "' requires fields: " ++ Text.join ", " members)
  | _ => none

/-- The short name of a cause. -/
def kind : Cause → Text
  | .missing => "missing"
  | .notText => "string_type"
  | .brokenText => "string_unicode"
  | .notBool => "bool_type"
  | .unreadableBool => "bool_parsing"
  | .notInteger => "int_type"
  | .unreadableInteger => "int_parsing"
  | .overlongInteger => "int_parsing_size"
  | .fractionalInteger => "int_from_float"
  | .notFinite => "finite_number"
  | .notNumber => "float_type"
  | .unreadableNumber => "float_parsing"
  | .notList => "list_type"
  | .notTuple => "tuple_type"
  | .notRecord _ => "model_type"
  | .emptyList => "too_short"
  | .notChoice _ => "enum"
  | .notWord _ => "literal_error"
  | .notAbove _ => "greater_than"
  | .below _ => "greater_than_equal"
  | _ => "value_error"

/-- The wording of a cause. -/
def message : Cause → Text
  | .missing => "Field required"
  | .notText => "Input should be a valid string"
  | .brokenText =>
    "Input should be a valid string, unable to parse raw data as a unicode string"
  | .notBool => "Input should be a valid boolean"
  | .unreadableBool => "Input should be a valid boolean, unable to interpret input"
  | .notInteger => "Input should be a valid integer"
  | .unreadableInteger => "Input should be a valid integer, unable to parse string as an integer"
  | .overlongInteger => "Unable to parse input string as an integer, exceeded maximum size"
  | .fractionalInteger =>
    "Input should be a valid integer, got a number with a fractional part"
  | .notFinite => "Input should be a finite number"
  | .notNumber => "Input should be a valid number"
  | .unreadableNumber => "Input should be a valid number, unable to parse string as a number"
  | .notList => "Input should be a valid list"
  | .notTuple => "Input should be a valid tuple"
  | .notRecord name => "Input should be a valid dictionary or instance of " ++ name
  | .emptyList => "List should have at least 1 item after validation, not 0"
  | .notChoice choices => "Input should be " ++ alternatives choices
  | .notWord words => "Input should be " ++ alternatives words
  | .notAbove bound => "Input should be greater than " ++ Text.ofInt bound
  | .below bound => "Input should be greater than or equal to " ++ Text.ofInt bound
  | c => "Value error, " ++ (c.ruleText?).getD []

end Cause

/-- A cause and the place where it lies. -/
structure Issue where
  place : List Step
  cause : Cause
  deriving DecidableEq, Repr

/-- A result, or everything that is wrong. -/
abbrev Checked (α : Type) := Except (List Issue) α

namespace Checked

/-- Refuses the value at hand. -/
def refuse {α : Type} (cause : Cause) : Checked α := .error [⟨[], cause⟩]

/-- The same check one step further in. -/
def under {α : Type} (step : Step) : Checked α → Checked α
  | .ok a => .ok a
  | .error issues => .error (issues.map fun i => { i with place := step :: i.place })

/-- Two checks together: the issues of both. -/
def both {α β : Type} : Checked α → Checked β → Checked (α × β)
  | .ok a, .ok b => .ok (a, b)
  | .ok _, .error issues => .error issues
  | .error issues, .ok _ => .error issues
  | .error issues, .error more => .error (issues ++ more)

/-- A checked function fed with a checked argument: the issues of both, the function's first. -/
def feed {α β : Type} (argument : Checked α) (function : Checked (α → β)) : Checked β :=
  (both function argument).map fun (f, a) => f a

/-- All checks together: the issues of each. -/
def all {α : Type} : List (Checked α) → Checked (List α)
  | [] => .ok []
  | c :: rest => (both c (all rest)).map fun (a, as) => a :: as

/-- The items of a list checked one by one, the first having the given index. -/
def items {α β : Type} (check : α → Checked β) : Nat → List α → Checked (List β)
  | _, [] => .ok []
  | i, a :: rest => (both (under (.item i) (check a)) (items check (i + 1) rest)).map
      fun (b, bs) => b :: bs

/-- A condition on the result. -/
def ensure {α : Type} (condition : α → Option Cause) (c : Checked α) : Checked α :=
  c.bind fun a => match condition a with
    | none => .ok a
    | some cause => refuse cause

end Checked

end Sluice
