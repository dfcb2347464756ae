import Sluice.Text

/-!
# Similar texts

How alike two texts are: the longest run of code points that both have is taken out, the same is
done to the left and to the right of it, and the code points taken out are counted on both sides
(`common`). The texts count as close when they make up at least three fifths of all (`isClose`).
-/

namespace Sluice.Text

/-- The length of the common beginning of two texts. -/
def sharedLength : Text → Text → Nat
  | a :: s, b :: t => if a = b then sharedLength s t + 1 else 0
  | _, _ => 0

/-- A run that two texts share: where it begins in each of them, and its length. -/
structure SharedRun where
  left : Nat
  right : Nat
  length : Nat
  deriving DecidableEq, Repr

/-- The longer of two runs, the first one if they are equally long. -/
def SharedRun.longer (r s : SharedRun) : SharedRun := if r.length < s.length then s else r

/-- The longest run that begins at the beginning of the first text, first places in the second text
counting more. -/
def longestAt (left : Nat) (s : Text) : Nat → Text → SharedRun
  | _, [] => ⟨left, 0, 0⟩
  | right, b :: t =>
    SharedRun.longer ⟨left, right, sharedLength s (b :: t)⟩ (longestAt left s (right + 1) t)

/-- The longest run that two texts share, first places in the first text counting more. -/
def longestFrom (left : Nat) : Text → Text → SharedRun
  | [], _ => ⟨left, 0, 0⟩
  | a :: s, t => SharedRun.longer (longestAt left (a :: s) 0 t) (longestFrom (left + 1) s t)

/-- How many code points are taken out of each of two texts; `fuel` bounds the number of runs. -/
def common : Nat → Text → Text → Nat
  | 0, _, _ => 0
  | fuel + 1, s, t =>
    let r := longestFrom 0 s t
    if r.length = 0 then 0
    else
      r.length + common fuel (s.take r.left) (t.take r.right) +
        common fuel (s.drop (r.left + r.length)) (t.drop (r.right + r.length))

/-- How alike two texts are, as a part of all their code points. -/
def likeness (s t : Text) : Nat × Nat := (2 * common (s.length + 1) s t, s.length + t.length)

/-- Whether two texts are close. -/
def isClose (s t : Text) : Bool :=
  let (n, all) := likeness s t
  3 * all ≤ 5 * n

/-- Whether a text is more like the word than another, the later one in order when they are equally
like it. -/
def isCloser (word s t : Text) : Bool :=
  let (n, all) := likeness s word
  let (m, others) := likeness t word
  m * all < n * others || (m * all == n * others && lt t s)

/-- At most three of the texts that are close to a word, the closest one first. -/
def closeTo (word : Text) (texts : List Text) : List Text :=
  ((texts.filter fun t => isClose t word).mergeSort (isCloser word)).take 3

end Sluice.Text
