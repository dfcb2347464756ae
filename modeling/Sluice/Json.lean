import Sluice.Text

/-!
# JSON

The tree of a JSON text. Numbers keep the characters they are written with, so that a reader decides
itself what `1`, `1.0` and `1e2` are; members keep their order and may repeat. The parser takes one
value and returns the characters behind it; `parse?` wants nothing but blanks there.

The parser counts its steps down from the length of the text, which no parse can use up: every step
takes at least one character.
-/

namespace Sluice

/-- The tree of a JSON text. -/
inductive Json where
  | null
  | bool (b : Bool)
  | number (lexeme : List Char)
  | string (t : Text)
  | array (items : List Json)
  | object (members : List (Text × Json))
  deriving Repr, Inhabited

namespace Json

/-! ## 1. Lexemes -/

def isBlank (c : Char) : Bool := c == ' ' || c == '\t' || c == '\n' || c == '\r'

/-- The characters after the blanks in front. -/
def skipBlanks (cs : List Char) : List Char := cs.dropWhile isBlank

private def hexValue? (c : Char) : Option Nat :=
  if c.isDigit then some (c.toNat - 48)
  else if 'a' ≤ c ∧ c ≤ 'f' then some (c.toNat - 87)
  else if 'A' ≤ c ∧ c ≤ 'F' then some (c.toNat - 55)
  else none

private def hex4? (a b c d : Char) : Option Nat := do
  return ((← hexValue? a) * 16 + (← hexValue? b)) * 256 + (← hexValue? c) * 16 + (← hexValue? d)

private def escape? (c : Char) : Option Char :=
  match c with
  | '"' => some '"'
  | '\\' => some '\\'
  | '/' => some '/'
  | 'b' => some '\x08'
  | 'f' => some '\x0c'
  | 'n' => some '\n'
  | 'r' => some '\r'
  | 't' => some '\t'
  | _ => none

/-- The code points of a string up to its closing quote, and the characters behind it. -/
def stringBody? : List Char → Option (List Nat × List Char)
  | [] => none
  | '"' :: rest => some ([], rest)
  | '\\' :: 'u' :: a :: b :: c :: d :: rest =>
    match hex4? a b c d, stringBody? rest with
    | some code, some (codes, after) => some (code :: codes, after)
    | _, _ => none
  | '\\' :: c :: rest =>
    match escape? c, stringBody? rest with
    | some e, some (codes, after) => some (e.toNat :: codes, after)
    | _, _ => none
  | c :: rest =>
    if c.toNat < 0x20 then none
    else (stringBody? rest).map fun (codes, after) => (c.toNat :: codes, after)

/-- Code points as a text; a high half and a low half behind it are one character. -/
def pairHalves : List Nat → Text
  | [] => []
  | [a] => (Symbol.ofCode? a).toList
  | a :: b :: rest =>
    if 0xD800 ≤ a ∧ a < 0xDC00 ∧ 0xDC00 ≤ b ∧ b < 0xE000 then
      .char (Char.ofNat (0x10000 + (a - 0xD800) * 0x400 + (b - 0xDC00))) :: pairHalves rest
    else (Symbol.ofCode? a).toList ++ pairHalves (b :: rest)

/-- A number's characters: a minus sign, digits without a useless zero, a fraction, an exponent. -/
def numberBody? (cs : List Char) : Option (List Char × List Char) :=
  let (sign, body) := match cs with
    | '-' :: rest => (['-'], rest)
    | _ => ([], cs)
  let whole := body.takeWhile Char.isDigit
  let afterWhole := body.drop whole.length
  if whole.isEmpty ∨ (whole.length ≥ 2 ∧ whole.head? = some '0') then none
  else
    let fraction? : Option (List Char) := match afterWhole with
      | '.' :: rest =>
        let ds := rest.takeWhile Char.isDigit
        if ds.isEmpty then none else some ('.' :: ds)
      | _ => some []
    fraction?.bind fun fraction =>
      let afterFraction := afterWhole.drop fraction.length
      let exponent? : Option (List Char) := match afterFraction with
        | e :: rest =>
          if e = 'e' ∨ e = 'E' then
            let (s, ds) := match rest with
              | '-' :: r => (['-'], r.takeWhile Char.isDigit)
              | '+' :: r => (['+'], r.takeWhile Char.isDigit)
              | r => ([], r.takeWhile Char.isDigit)
            if ds.isEmpty then none else some (e :: s ++ ds)
          else some []
        | [] => some []
      exponent?.map fun exponent =>
        (sign ++ whole ++ fraction ++ exponent, afterFraction.drop exponent.length)

/-! ## 2. Values -/

mutual

/-- One value and the characters behind it. -/
def value? : Nat → List Char → Option (Json × List Char)
  | 0, _ => none
  | fuel + 1, cs =>
    match skipBlanks cs with
    | 'n' :: 'u' :: 'l' :: 'l' :: rest => some (.null, rest)
    | 't' :: 'r' :: 'u' :: 'e' :: rest => some (.bool true, rest)
    | 'f' :: 'a' :: 'l' :: 's' :: 'e' :: rest => some (.bool false, rest)
    | '"' :: rest =>
      (stringBody? rest).map fun (codes, after) => (.string (pairHalves codes), after)
    | '[' :: rest =>
      match skipBlanks rest with
      | ']' :: after => some (.array [], after)
      | _ => (items? fuel rest).map fun (items, after) => (.array items, after)
    | '{' :: rest =>
      match skipBlanks rest with
      | '}' :: after => some (.object [], after)
      | _ => (members? fuel rest).map fun (members, after) => (.object members, after)
    | other => (numberBody? other).map fun (lexeme, after) => (.number lexeme, after)

/-- The items of an array up to its closing bracket. -/
def items? : Nat → List Char → Option (List Json × List Char)
  | 0, _ => none
  | fuel + 1, cs =>
    match value? fuel cs with
    | none => none
    | some (item, after) =>
      match skipBlanks after with
      | ']' :: rest => some ([item], rest)
      | ',' :: rest => (items? fuel rest).map fun (items, end') => (item :: items, end')
      | _ => none

/-- The members of an object up to its closing brace. -/
def members? : Nat → List Char → Option (List (Text × Json) × List Char)
  | 0, _ => none
  | fuel + 1, cs =>
    match skipBlanks cs with
    | '"' :: body =>
      match stringBody? body with
      | none => none
      | some (codes, afterName) =>
        match skipBlanks afterName with
        | ':' :: afterColon =>
          match value? fuel afterColon with
          | none => none
          | some (v, after) =>
            let member := (pairHalves codes, v)
            match skipBlanks after with
            | '}' :: rest => some ([member], rest)
            | ',' :: rest => (members? fuel rest).map fun (ms, end') => (member :: ms, end')
            | _ => none
        | _ => none
    | _ => none

end

/-- One value at the start of a text, and the characters behind it. -/
def valueAt? (cs : List Char) : Option (Json × List Char) := value? (2 * cs.length + 2) cs

/-- The value of a text that holds nothing else. -/
def parse? (cs : List Char) : Option Json :=
  match valueAt? cs with
  | some (v, rest) => if (skipBlanks rest).isEmpty then some v else none
  | none => none

/-- The member of an object with a name; of equal names the last one counts. -/
def member? (v : Json) (name : Text) : Option Json :=
  match v with
  | .object ms => (ms.reverse.find? fun (k, _) => k == name).map (·.2)
  | _ => none

/-- The value of a number written without fraction and exponent. -/
def integer? (lexeme : List Char) : Option Int :=
  match lexeme with
  | '-' :: ds => if !ds.isEmpty && ds.all Char.isDigit then some (-(digits ds : Int)) else none
  | ds => if !ds.isEmpty && ds.all Char.isDigit then some (digits ds) else none
where
  /-- The value of decimal digits. -/
  digits (ds : List Char) : Nat := ds.foldl (fun n c => n * 10 + (c.toNat - 48)) 0

end Json

end Sluice
