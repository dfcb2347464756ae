import Sluice.Failure

/-!
# The registry of stores

Kinds of stores are known by name. A registry holds one way to make a store for every name; a name
is registered once.
-/

namespace Sluice

/-- Ways to make stores, of type `φ`, under their names. -/
abbrev Registry (φ : Type) := List (Text × φ)

namespace Registry

variable {φ : Type}

/-- What is registered under a name. -/
def find? (r : Registry φ) (name : Text) : Option φ :=
  (List.find? (fun (n, _) => n == name) r).map (·.2)

/-- The registered names in order. -/
def names (r : Registry φ) : List Text := (r.map (·.1)).mergeSort fun a b => !Text.lt b a

/-- Registers a name that is free. -/
def register (r : Registry φ) (name : Text) (f : φ) : Except Failure (Registry φ) :=
  match r.find? name with
  | some _ =>
    .error { kind := .store, message := "Store '" ++ name ++ "' is already registered"
             context := [("store_type", .text name)] }
  | none => .ok (r ++ [(name, f)])

/-- Adds what a second registry has under names that are free. -/
def fill (r defaults : Registry φ) : Registry φ :=
  r ++ defaults.filter fun (n, _) => (r.find? n).isNone

/-- What is registered under a name that has to be known. -/
def get (r : Registry φ) (name : Text) : Except Failure φ :=
  match r.find? name with
  | some f => .ok f
  | none =>
    let known : Text := if r.isEmpty then "(none)" else Text.join ", " r.names
    .error { kind := .store, message := "Unknown store type: '" ++ name ++ "'"
             context := [("store_type", .text name), ("available_types", .text known)] }

end Registry

end Sluice
