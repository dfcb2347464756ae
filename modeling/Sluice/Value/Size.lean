import Sluice.Value.Display

/-!
# Estimated sizes

The number of bytes that a value is expected to take when it is sent: texts by their encoding,
numbers and times by fixed sizes, decimals by their text, containers by their parts and 8 more.
Values of other kinds count as long as their quoted text.
-/

namespace Sluice.Value

/-- The estimated size of a value in bytes. -/
def size : Value → Nat
  | .null => 1
  | .text t => t.utf8Size
  | .bytes bs => bs.length
  | .decimal d => d.toText.length
  | .list xs => 8 + sizeItems xs
  | .tuple xs => 8 + sizeItems xs
  | .mapping es => 8 + sizeEntries es
  | .frozen es => 8 + sizeEntries es
  | .bool _ => 1
  | .int _ => 8
  | .float _ => 8
  | .dateTime _ => 12
  | .date _ => 4
  | v => v.quoted.utf8Size
where
  /-- The sizes of items together. -/
  sizeItems : List Value → Nat
    | [] => 0
    | x :: rest => size x + sizeItems rest
  /-- The sizes of entries together. -/
  sizeEntries : List (Value × Value) → Nat
    | [] => 0
    | (k, v) :: rest => k.shown.utf8Size + size v + sizeEntries rest

end Sluice.Value
