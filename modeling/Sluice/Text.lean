/-!
# Texts

A text is a list of code points. Most are characters; a text taken from outside may also hold one
half of a surrogate pair standing alone, which no character is and no well-formed encoding carries.

Main facts:

* a text built from a string holds characters only (`isWellFormed_ofString`), and each text of
  characters is built from exactly one string (`toString?_ofString`);
* `utf8Size` counts what an encoding that lets halves pass would write: three bytes for a half.
-/

namespace Sluice

/-- One code point of a text: a character, or a half of a surrogate pair (`0xD800 + index`). -/
inductive Symbol where
  | char (c : Char)
  | half (index : Fin 2048)
  deriving DecidableEq, Repr, Inhabited

/-- A text is its code points in order. -/
abbrev Text := List Symbol

namespace Symbol

/-- The number of a code point. -/
def code : Symbol → Nat
  | .char c => c.toNat
  | .half i => 0xD800 + i.val

/-- Bytes that the code point takes, a half being written like its neighbours. -/
def utf8Size : Symbol → Nat
  | .char c => c.utf8Size
  | .half _ => 3

/-- The code point of a number, if it is one. -/
def ofCode? (n : Nat) : Option Symbol :=
  if h : 0xD800 ≤ n ∧ n < 0xE000 then some (.half ⟨n - 0xD800, by omega⟩)
  else if n < 0x110000 then some (.char (Char.ofNat n))
  else none

end Symbol

namespace Text

/-- A string read as a text. -/
def ofString (s : String) : Text := s.toList.map .char

instance : Coe String Text := ⟨ofString⟩

/-- The characters of a text, if it holds nothing else. -/
def chars? : Text → Option (List Char)
  | [] => some []
  | .char c :: rest => (chars? rest).map (c :: ·)
  | .half _ :: _ => none

/-- The string of a text, if it holds characters only. -/
def toString? (t : Text) : Option String := (chars? t).map String.ofList

/-- A text is well-formed when it holds characters only. -/
def isWellFormed (t : Text) : Bool :=
  t.all fun
    | .char _ => true
    | .half _ => false

/-- The number of bytes of a text, a lone half counting as three. -/
def utf8Size : Text → Nat
  | [] => 0
  | s :: rest => s.utf8Size + utf8Size rest

/-- A text for people to read: a lone half is shown as the replacement character. -/
def toDisplay (t : Text) : String :=
  String.ofList (t.map fun
    | .char c => c
    | .half _ => '\uFFFD')

/-- Texts joined with a separator between neighbours. -/
def join (separator : Text) : List Text → Text
  | [] => []
  | [t] => t
  | t :: rest => t ++ separator ++ join separator rest

/-- Whether one text comes before another, code point by code point. -/
def lt : Text → Text → Bool
  | [], [] => false
  | [], _ :: _ => true
  | _ :: _, [] => false
  | a :: s, b :: t => a.code < b.code || (a.code == b.code && lt s t)

/-- The decimal digits of a natural number. -/
def ofNat (n : Nat) : Text := (Nat.toDigits 10 n).map .char

/-- An integer in decimal, a minus sign first when it is below zero. -/
def ofInt : Int → Text
  | .ofNat n => ofNat n
  | .negSucc n => .char '-' :: ofNat (n + 1)

/-- As many zeros. -/
def zeros (n : Nat) : Text := List.replicate n (.char '0')

/-- A text filled up with zeros on the left to a width. -/
def padZeros (width : Nat) (t : Text) : Text := zeros (width - t.length) ++ t

/-- The text without the blanks at its ends, for a given notion of blank. -/
def trim (blank : Symbol → Bool) (t : Text) : Text :=
  ((t.dropWhile blank).reverse.dropWhile blank).reverse

/-- The text cut at every occurrence of a code point. -/
def splitAll (separator : Symbol) : Text → List Text
  | [] => [[]]
  | c :: rest =>
    if c = separator then [] :: splitAll separator rest
    else match splitAll separator rest with
      | [] => [[c]]
      | head :: tail => (c :: head) :: tail

/-- The text cut at the first occurrence of a code point, if there is one. -/
def splitFirst (separator : Symbol) : Text → Option (Text × Text)
  | [] => none
  | c :: rest =>
    if c = separator then some ([], rest)
    else (splitFirst separator rest).map fun (a, b) => (c :: a, b)

/-! ## Laws -/

@[simp] theorem chars?_ofChars (cs : List Char) : chars? (cs.map .char) = some cs := by
  induction cs with
  | nil => rfl
  | cons c rest ih => simp [chars?, ih]

@[simp] theorem toString?_ofString (s : String) : toString? (ofString s) = some s := by
  simp [toString?, ofString]

@[simp] theorem isWellFormed_ofString (s : String) : isWellFormed (ofString s) = true := by
  simp [isWellFormed, ofString]

@[simp] theorem utf8Size_append (s t : Text) : utf8Size (s ++ t) = utf8Size s + utf8Size t := by
  induction s with
  | nil => simp [utf8Size]
  | cons c rest ih => simp [utf8Size, ih, Nat.add_assoc]

end Text

end Sluice
