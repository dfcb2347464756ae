import Sluice.Schema
import Sluice.Text.Blank
import Sluice.Text.Upper

/-!
# Names of types

A type is written as the name of a scalar type (or `ARRAY` or `RECORD`, or another accepted word
for one of these), in letters of either case and with blanks around it, or as `ARRAY<…>` around the
type of the elements. `TypeName.ofText?` reads the former, `arrayBody?` takes the latter apart; the
body that it returns is shorter than the text (`length_arrayBody?_lt`), so types nest to any depth.
-/

namespace Sluice

/-- What the name of a type may stand for. -/
inductive TypeName where
  | scalar (type : Scalar)
  | array
  | record
  deriving DecidableEq, Repr

namespace TypeName

/-- The word for the type. -/
def word : TypeName → Text
  | .scalar type => type.name
  | .array => "ARRAY"
  | .record => "RECORD"

/-- Every accepted name in alphabetical order, and what it stands for. -/
def names : List (Text × TypeName) :=
  [ ("ARRAY", .array), ("BIGINT", .scalar .int64), ("BOOL", .scalar .bool),
    ("BOOLEAN", .scalar .bool), ("BYTES", .scalar .bytes), ("DATE", .scalar .date),
    ("DATETIME", .scalar .timestamp), ("DECIMAL", .scalar .numeric), ("DOUBLE", .scalar .double),
    ("FLOAT", .scalar .float), ("FLOAT32", .scalar .float), ("FLOAT64", .scalar .double),
    ("INT", .scalar .int32), ("INT32", .scalar .int32), ("INT64", .scalar .int64),
    ("INTEGER", .scalar .int32), ("LONG", .scalar .int64), ("NUMERIC", .scalar .numeric),
    ("RECORD", .record), ("STR", .scalar .string), ("STRING", .scalar .string),
    ("STRUCT", .record), ("TIMESTAMP", .scalar .timestamp) ]

/-- The accepted names. -/
def supported : List Text := names.map (·.1)

/-- Reads the name of a type, whatever the case of its letters and the blanks around it. -/
def ofText? (t : Text) : Option TypeName :=
  (names.find? fun (name, _) => name == Text.upper (Text.strip t)).map (·.2)

/-! ## Arrays -/

/-- The rest of a text behind a word in letters of either case. -/
def afterWord? : List Char → Text → Option Text
  | [], t => some t
  | w :: ws, .char c :: rest => if c.toUpper = w then afterWord? ws rest else none
  | _ :: _, _ => none

/-- A text without the closing bracket at its end. -/
def beforeClosing? (t : Text) : Option Text :=
  if t.getLast? = some (.char '>') then some t.dropLast else none

/-- The type of the elements in `ARRAY<…>`; it stands on one line, and may be missing when there is
a blank in its place. -/
def arrayBody? (t : Text) : Option Text :=
  (afterWord? ['A', 'R', 'R', 'A', 'Y'] (Text.strip t)).bind fun afterName =>
    match afterName.dropWhile Text.isBlank with
    | .char '<' :: rest =>
      (beforeClosing? rest).bind fun body =>
        let inner := Text.strip body
        if inner.isEmpty then
          if body.any (· ≠ .char '\n') then some [] else none
        else if inner.contains (.char '\n') then none
        else some inner
    | _ => none

end TypeName

/-! ## Lengths -/

namespace Text

theorem length_dropWhile_le (p : Symbol → Bool) (t : Text) :
    (t.dropWhile p).length ≤ t.length := (List.dropWhile_suffix p).length_le

theorem length_trim_le (p : Symbol → Bool) (t : Text) : (trim p t).length ≤ t.length := by
  simp only [trim, List.length_reverse]
  have h1 := length_dropWhile_le p (t.dropWhile p).reverse
  have h2 := length_dropWhile_le p t
  simp only [List.length_reverse] at h1
  omega

theorem length_strip_le (t : Text) : (strip t).length ≤ t.length := length_trim_le _ t

end Text

namespace TypeName

theorem length_afterWord?_le {ws : List Char} {t r : Text} (h : afterWord? ws t = some r) :
    r.length ≤ t.length := by
  fun_induction afterWord? ws t with
  | case1 => simp_all
  | case2 =>
    rename_i ih
    have := ih h
    simp only [List.length_cons]
    omega
  | case3 => simp at h
  | case4 => simp at h

theorem length_beforeClosing?_le {t r : Text} (h : beforeClosing? t = some r) :
    r.length ≤ t.length := by
  simp only [beforeClosing?] at h
  split at h
  · simp only [Option.some.injEq] at h
    rw [← h, List.length_dropLast]
    omega
  · simp at h

/-- The type of the elements is shorter than the type of the array. -/
theorem length_arrayBody?_lt {t inner : Text} (h : arrayBody? t = some inner) :
    inner.length < t.length := by
  simp only [arrayBody?, Option.bind_eq_some_iff] at h
  obtain ⟨afterName, hname, h⟩ := h
  have h0 := Text.length_strip_le t
  have h1 := length_afterWord?_le hname
  have h2 := Text.length_dropWhile_le Text.isBlank afterName
  split at h
  · next rest hrest =>
    simp only [Option.bind_eq_some_iff] at h
    obtain ⟨body, hbody, h⟩ := h
    have h3 := length_beforeClosing?_le hbody
    have h4 := Text.length_strip_le body
    rw [hrest, List.length_cons] at h2
    split at h
    · split at h
      · simp only [Option.some.injEq] at h
        rw [← h, List.length_nil]; omega
      · simp at h
    · split at h
      · simp at h
      · simp only [Option.some.injEq] at h
        rw [← h]; omega
  · simp at h

end TypeName

end Sluice
