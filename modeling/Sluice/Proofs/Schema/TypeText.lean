import Sluice.Proofs.Schema.Read
import Sluice.Proofs.Text.Trim
import Mathlib.Data.List.Nodup

/-!
# What the text of a type says

The text of a type is the name of a scalar type, or `ARRAY<…>` around the text of another type, with
blanks wherever they do not part a word. That is a grammar, and types are read by it: the text of a
field's type is accepted if and only if it can be derived, and the field has the type that has been
derived.

* `TypeTree`, `Derives`: types, and **how their texts may be written**;
* `upper_eq_array`: in which letters the word before the bracket may be written;
* `arrayBody?_inv`, `arrayBody?_of`: the text between the brackets is taken out, and found again;
* `derives_of_array`, `derives_of_name`: **how a text is read is how it is derived**, one level at a
  time;
* `ofTypeText_iff`: **a text is read as the type that is derived**, by induction on its length, so
  that no text can be derived in two ways (`Derives.unique`);
* `derives_typeName`: the name of a type is one of its texts;
* `Field.read_iff_derives`: all of this for the description of a field.
-/

namespace Sluice

open Text

/-! ## 1. The grammar -/

/-- A type without names: a scalar, or an array of items of one type. -/
inductive TypeTree where
  | scalar (type : Scalar)
  | array (item : TypeTree)
  deriving DecidableEq, Repr

/-- **The field of a type.** Elements of arrays are nullable and are called `element`. -/
def TypeTree.field : TypeTree → Text → Bool → Field
  | .scalar type, name, nullable => .ofScalar name nullable type
  | .array item, name, nullable => .array name nullable (item.field "element" true) none

/-- A field has one type. -/
theorem TypeTree.field_inj : ∀ {tree tree' : TypeTree} {name : Text} {nullable : Bool},
    tree.field name nullable = tree'.field name nullable → tree = tree'
  | .scalar _, .scalar _, _, _, h => by
    cases h
    rfl
  | .scalar _, .array _, _, _, h => by cases h
  | .array _, .scalar _, _, _, h => by cases h
  | .array item, .array item', _, _, h => by
    rw [field, field, Field.array.injEq] at h
    obtain ⟨-, -, hitem, -⟩ := h
    rw [field_inj hitem]

/-- The text of an array's type without blanks at its ends: the word, and behind it, between
brackets, the text of the items' type. -/
def arrayText (word between body : Text) : Text :=
  word ++ between ++ .char '<' :: (body ++ [.char '>'])

/-- **The texts of a type.** A scalar type has several names, and letters of either case may be used.
There may be blanks at the ends, and between the word `ARRAY` and its bracket. -/
inductive Derives : Text → TypeTree → Prop where
  | name {before word after : Text} {type : Scalar} (hbefore : AllBlank isBlank before)
      (hafter : AllBlank isBlank after)
      (hword : (upper word, TypeName.scalar type) ∈ TypeName.names) :
      Derives (before ++ word ++ after) (.scalar type)
  | array {before word between body after : Text} {item : TypeTree}
      (hbefore : AllBlank isBlank before) (hbetween : AllBlank isBlank between)
      (hafter : AllBlank isBlank after) (hword : upper word = "ARRAY") (h : Derives body item) :
      Derives (before ++ arrayText word between body ++ after) (.array item)

/-! ## 2. Capital letters -/

namespace Text

theorem toUpper_of_notLower {c : Char} (h : ¬ (97 ≤ c.toNat ∧ c.toNat ≤ 122)) : c.toUpper = c := by
  unfold Char.toUpper
  split
  · next hlower =>
    obtain ⟨hlow, hhigh⟩ := hlower
    exact absurd ⟨UInt32.le_iff_toNat_le.mp hlow, UInt32.le_iff_toNat_le.mp hhigh⟩ h
  · rfl

/-- The code points beyond ASCII whose capital form consists of letters of ASCII. -/
def foreignLetters : List Nat :=
  [0xDF, 0x131, 0x17F, 0xFB00, 0xFB01, 0xFB02, 0xFB03, 0xFB04, 0xFB05, 0xFB06]

/-- A character has one capital letter, unless it is a letter beyond ASCII that comes down to one or
several of it; the first of these is then an S, an I or an F. -/
theorem capital_char (c : Char) : capital (.char c) = [.char c.toUpper] ∨
    c.toNat ∈ foreignLetters ∧ ∃ x ∈ capital (.char c), x ∈ ("SIF" : Text) := by
  unfold capital
  dsimp only
  split
  · exact .inl rfl
  · next hascii =>
    split
    all_goals first
      | exact .inr ⟨by simp_all [foreignLetters], _, List.mem_cons_self, by decide⟩
      | exact .inl (by rw [toUpper_of_notLower (by omega)])

theorem capital_of_isBlank {s : Symbol} (h : isBlank s = true) : capital s = [s] := by
  cases s with
  | half i => rfl
  | char c =>
    have hcode : isBlankCode c.toNat = true := h
    rcases capital_char c with hupper | ⟨hforeign, -⟩
    · rw [hupper, toUpper_of_notLower]
      rintro ⟨hlow, hhigh⟩
      simp [isBlankCode, isSpaceCode] at hcode
      omega
    · have hnone : ∀ n ∈ foreignLetters, isBlankCode n = false := by decide
      exact absurd hcode (by simp [hnone _ hforeign])

/-- What has a capital form in the word `ARRAY` is a letter of it, in either case. -/
theorem capital_array {s : Symbol} (h : ∀ x ∈ capital s, x ∈ ("ARRAY" : Text)) :
    ∃ c : Char, s = .char c ∧ capital s = [.char c.toUpper] := by
  cases s with
  | half i => exact absurd (h _ List.mem_cons_self) (by simp [ofString])
  | char c =>
    rcases capital_char c with hupper | ⟨-, x, hx, hfirst⟩
    · exact ⟨c, rfl, hupper⟩
    · have hapart : ∀ y ∈ ("SIF" : Text), y ∉ ("ARRAY" : Text) := by decide
      exact absurd (h x hx) (hapart x hfirst)

theorem capital_sub_upper {word : Text} {s x : Symbol} (hs : s ∈ word) (hx : x ∈ capital s) :
    x ∈ upper word := List.mem_flatMap.mpr ⟨s, hs, hx⟩

/-- A text has no blanks if its capital letters are none. -/
theorem notBlank_of_upper {word : Text} (h : ∀ x ∈ upper word, isBlank x = false) {s : Symbol}
    (hs : s ∈ word) : isBlank s = false := by
  cases hblank : isBlank s with
  | false => rfl
  | true =>
    have hself : s ∈ upper word := by
      refine capital_sub_upper hs ?_
      rw [capital_of_isBlank hblank]
      exact List.mem_singleton_self s
    exact hblank.symm.trans (h s hself)

theorem isTrimmed_of_upper {word : Text} (h : ∀ x ∈ upper word, isBlank x = false) :
    IsTrimmed isBlank word :=
  ⟨fun _ hs => notBlank_of_upper h (List.mem_of_mem_head? hs),
    fun _ hs => notBlank_of_upper h (List.mem_of_mem_getLast? hs)⟩

theorem upper_cons (s : Symbol) (word : Text) : upper (s :: word) = capital s ++ upper word :=
  List.flatMap_cons

/-- Letters that have one capital letter each. -/
theorem upper_ofChars : ∀ {cs : List Char}, (∀ c ∈ cs, capital (.char c) = [.char c.toUpper]) →
    upper (cs.map .char) = (cs.map Char.toUpper).map .char
  | [], _ => rfl
  | c :: cs, h => by
    have hrest := upper_ofChars fun c' hc' => h c' (List.mem_cons_of_mem c hc')
    rw [List.map_cons, upper_cons, h c List.mem_cons_self, hrest]
    rfl

/-- A text of nothing but such letters. -/
theorem exists_chars : ∀ {word : Text},
    (∀ s ∈ word, ∃ c : Char, s = .char c ∧ capital s = [.char c.toUpper]) →
      ∃ cs : List Char, word = cs.map .char ∧ upper word = (cs.map Char.toUpper).map .char
  | [], _ => ⟨[], rfl, rfl⟩
  | s :: word, h => by
    obtain ⟨c, rfl, hupper⟩ := h s List.mem_cons_self
    obtain ⟨cs, rfl, hrest⟩ := exists_chars fun s' hs' => h s' (List.mem_cons_of_mem _ hs')
    refine ⟨c :: cs, rfl, ?_⟩
    rw [upper_cons, hupper, hrest]
    rfl

/-- **The word before a bracket is written in letters of either case**, and in no others. -/
theorem upper_eq_array {word : Text} : upper word = "ARRAY" ↔
    ∃ cs : List Char, cs.map Char.toUpper = ['A', 'R', 'R', 'A', 'Y'] ∧ word = cs.map .char := by
  have hinjective : Function.Injective Symbol.char := fun _ _ h => Symbol.char.inj h
  constructor
  · intro h
    have hletters : ∀ s ∈ word, ∃ c : Char, s = .char c ∧ capital s = [.char c.toUpper] :=
      fun s hs => capital_array fun x hx => h ▸ capital_sub_upper hs hx
    obtain ⟨cs, rfl, hupper⟩ := exists_chars hletters
    refine ⟨cs, List.map_injective_iff.mpr hinjective ?_, rfl⟩
    exact hupper.symm.trans h
  · rintro ⟨cs, hcs, rfl⟩
    rw [upper_ofChars, hcs]
    · rfl
    · intro c hc
      rcases capital_char c with hupper | ⟨hforeign, -⟩
      · exact hupper
      · exfalso
        have hfar : ∀ n ∈ foreignLetters, 0x80 ≤ n := by decide
        have hcode := hfar _ hforeign
        have hletter : c.toUpper ∈ ['A', 'R', 'R', 'A', 'Y'] := hcs ▸ List.mem_map_of_mem hc
        rw [toUpper_of_notLower (by omega)] at hletter
        have hnear : c.toNat < 0x80 := by
          simp only [List.mem_cons, List.not_mem_nil, or_false] at hletter
          rcases hletter with rfl | rfl | rfl | rfl | rfl <;> decide
        omega

end Text

/-! ## 3. Reading one level -/

namespace TypeName

theorem names_nodup : (names.map (·.1)).Nodup := by decide

/-- A name is found by its capital letters, if they are one. -/
theorem ofText?_eq_some {t : Text} {n : TypeName} :
    ofText? t = some n ↔ (upper (strip t), n) ∈ names := by
  unfold ofText?
  constructor
  · intro h
    obtain ⟨⟨word, n'⟩, hfound, rfl⟩ := Option.map_eq_some_iff.mp h
    have hword : word = upper (strip t) := by simpa using List.find?_some hfound
    exact hword ▸ List.mem_of_find?_eq_some hfound
  · intro h
    cases hfound : names.find? fun e => e.1 == upper (strip t) with
    | none =>
      have hnone := List.find?_eq_none.mp hfound _ h
      exact absurd (beq_self_eq_true _) hnone
    | some e =>
      have hword : e.1 = upper (strip t) := by simpa using List.find?_some hfound
      have hmem := List.mem_of_find?_eq_some hfound
      have hsame : e = (upper (strip t), n) := List.inj_on_of_nodup_map names_nodup hmem h hword
      rw [hsame]
      rfl

/-- There is neither a blank nor a bracket in a name. -/
theorem names_plain : ∀ e ∈ names, ∀ x ∈ e.1, isBlank x = false ∧ x ≠ .char '>' := by decide

/-- What stands behind a word in letters of either case. -/
theorem afterWord?_eq_some : ∀ {ws : List Char} {t rest : Text}, afterWord? ws t = some rest ↔
    ∃ cs : List Char, cs.map Char.toUpper = ws ∧ t = cs.map .char ++ rest
  | [], t, rest => by simp [afterWord?]
  | w :: ws, [], rest => by simp [afterWord?]
  | w :: ws, .half i :: t, rest => by
    simp only [afterWord?, reduceCtorEq, List.map_eq_cons_iff, false_iff]
    rintro ⟨cs, ⟨c, cs', rfl, -⟩, ht⟩
    cases ht
  | w :: ws, .char c :: t, rest => by
    unfold afterWord?
    constructor
    · intro h
      split at h
      · next hc =>
        obtain ⟨cs, hcs, rfl⟩ := afterWord?_eq_some.mp h
        exact ⟨c :: cs, by rw [List.map_cons, hc, hcs], rfl⟩
      · cases h
    · rintro ⟨cs, hcs, ht⟩
      obtain ⟨c', cs', rfl, hc, hcs'⟩ := List.map_eq_cons_iff.mp hcs
      cases ht
      rw [if_pos hc]
      exact afterWord?_eq_some.mpr ⟨cs', hcs', rfl⟩

theorem afterWord?_array {t rest : Text} :
    afterWord? ['A', 'R', 'R', 'A', 'Y'] t = some rest ↔
      ∃ word, upper word = "ARRAY" ∧ t = word ++ rest := by
  rw [afterWord?_eq_some]
  constructor
  · rintro ⟨cs, hcs, rfl⟩
    exact ⟨_, upper_eq_array.mpr ⟨cs, hcs, rfl⟩, rfl⟩
  · rintro ⟨word, hword, rfl⟩
    obtain ⟨cs, hcs, rfl⟩ := upper_eq_array.mp hword
    exact ⟨cs, hcs, rfl⟩

theorem beforeClosing?_eq_some {t body : Text} :
    beforeClosing? t = some body ↔ t = body ++ [.char '>'] := by
  unfold beforeClosing?
  constructor
  · intro h
    split at h
    · next hlast =>
      cases h
      exact (List.dropLast_append_getLast? _ hlast).symm
    · cases h
  · rintro rfl
    simp

end TypeName

open Sluice.TypeName

theorem arrayText_eq (word between body : Text) :
    arrayText word between body = (word ++ between ++ .char '<' :: body) ++ [.char '>'] := by
  simp [arrayText]

/-- Nothing can be stripped off the text of an array's type. -/
theorem arrayText_isTrimmed {word : Text} (hword : upper word = "ARRAY") (between body : Text) :
    IsTrimmed isBlank (arrayText word between body) := by
  have hplain : ∀ x ∈ upper word, isBlank x = false := by
    rw [hword]
    decide
  obtain ⟨cs, hcs, rfl⟩ := upper_eq_array.mp hword
  obtain ⟨c, cs', rfl, -⟩ := List.map_eq_cons_iff.mp hcs
  constructor
  · intro s hs
    cases hs
    exact notBlank_of_upper hplain List.mem_cons_self
  · intro s hs
    rw [arrayText_eq, List.getLast?_concat] at hs
    cases hs
    decide

/-- **What is taken out of brackets** stands between them. -/
theorem arrayBody?_inv {t inner : Text} (h : arrayBody? t = some inner) :
    ∃ before word between body after, AllBlank isBlank before ∧ AllBlank isBlank between ∧
      AllBlank isBlank after ∧ upper word = "ARRAY" ∧ inner = strip body ∧
      t = before ++ arrayText word between body ++ after := by
  obtain ⟨before, after, hbefore, hafter, ht⟩ := exists_trim isBlank t
  obtain ⟨afterName, hname, h⟩ := Option.bind_eq_some_iff.mp h
  obtain ⟨word, hword, hstrip⟩ := afterWord?_array.mp hname
  split at h
  · next rest hrest =>
    obtain ⟨body, hbody, h⟩ := Option.bind_eq_some_iff.mp h
    have hclosed := beforeClosing?_eq_some.mp hbody
    have hbetween : afterName = afterName.takeWhile isBlank ++ .char '<' :: rest := by
      rw [← hrest, List.takeWhile_append_dropWhile]
    have hinner : inner = strip body := by
      dsimp only at h
      split at h
      · next hempty =>
        split at h
        · cases h
          exact (List.isEmpty_iff.mp hempty).symm
        · cases h
      · split at h
        · cases h
        · cases h
          rfl
    refine ⟨before, word, afterName.takeWhile isBlank, body, after, hbefore,
      allBlank_takeWhile afterName, hafter, hword, hinner, ?_⟩
    unfold arrayText
    rw [← hclosed, List.append_assoc word, ← hbetween, ← hstrip]
    exact ht
  · cases h

/-- **What stands between brackets is taken out of them**, if it is more than blanks. -/
theorem arrayBody?_of {before word between body after : Text} (hbefore : AllBlank isBlank before)
    (hbetween : AllBlank isBlank between) (hafter : AllBlank isBlank after)
    (hword : upper word = "ARRAY") (hbody : strip body ≠ []) (hline : .char '\n' ∉ strip body) :
    arrayBody? (before ++ arrayText word between body ++ after) = some (strip body) := by
  have hstrip : strip (before ++ arrayText word between body ++ after) =
      word ++ (between ++ .char '<' :: (body ++ [.char '>'])) := by
    have htrimmed := arrayText_isTrimmed hword between body
    exact (trim_between hbefore hafter htrimmed).trans (List.append_assoc ..)
  have hname := afterWord?_array.mpr ⟨word, hword, hstrip⟩
  have hopen : (between ++ Symbol.char '<' :: (body ++ [.char '>'])).dropWhile isBlank =
      .char '<' :: (body ++ [.char '>']) := by
    rw [List.dropWhile_append_of_pos hbetween, List.dropWhile_cons_of_neg (by decide)]
  have hclose := beforeClosing?_eq_some.mpr (Eq.refl (body ++ [Symbol.char '>']))
  simp only [TypeName.arrayBody?, hname, Option.bind_some, hopen, hclose]
  rw [if_neg (by simpa using hbody), if_neg (by simpa using hline)]

/-! ## 4. Derivations -/

namespace Derives

variable {t : Text} {tree : TypeTree}

theorem ne_nil (h : Derives t tree) : t ≠ [] := by
  have hnone : ∀ e ∈ names, e.1 ≠ [] := by decide
  cases h with
  | name _ _ hword =>
    intro hnil
    obtain ⟨hfront, -⟩ := List.append_eq_nil_iff.mp hnil
    obtain ⟨-, rfl⟩ := List.append_eq_nil_iff.mp hfront
    exact hnone _ hword rfl
  | array => simp [arrayText]

/-- Blanks may be put around a text. -/
theorem pad {before after : Text} (hbefore : AllBlank isBlank before)
    (hafter : AllBlank isBlank after) (h : Derives t tree) :
    Derives (before ++ t ++ after) tree := by
  cases h with
  | @name b word a _ hb ha hword =>
    have hmore := Derives.name (hbefore.append hb) (ha.append hafter) hword
    simpa only [List.append_assoc] using hmore
  | @array b word between body a _ hb hbetween ha hword h =>
    have hmore := Derives.array (hbefore.append hb) hbetween (ha.append hafter) hword h
    simpa only [List.append_assoc] using hmore

/-- Blanks at the ends may be left out. -/
theorem strip (h : Derives t tree) : Derives (strip t) tree := by
  cases h with
  | name hb ha hword =>
    have htrimmed := isTrimmed_of_upper fun x hx => (names_plain _ hword x hx).1
    have hmore := Derives.name allBlank_nil allBlank_nil hword
    rw [Text.strip, trim_between hb ha htrimmed]
    simpa using hmore
  | @array b word between body a _ hb hbetween ha hword h =>
    have hmore := Derives.array allBlank_nil hbetween allBlank_nil hword h
    rw [Text.strip, trim_between hb ha (arrayText_isTrimmed hword between body)]
    simpa using hmore

end Derives

theorem line_notMem_strip {t : Text} (h : .char '\n' ∉ t) : .char '\n' ∉ strip t := by
  obtain ⟨before, after, -, -, ht⟩ := exists_trim isBlank t
  intro hmem
  exact h (ht ▸ List.mem_append_left _ (List.mem_append_right _ hmem))

theorem line_notMem_arrayBody? {t inner : Text} (h : TypeName.arrayBody? t = some inner)
    (hline : .char '\n' ∉ t) : .char '\n' ∉ inner := by
  obtain ⟨_, _, _, body, _, -, -, -, -, rfl, rfl⟩ := arrayBody?_inv h
  refine line_notMem_strip fun hmem => hline ?_
  exact List.mem_append_left _ (List.mem_append_right _ (by simp [arrayText, hmem]))

section Levels

variable {t inner : Text} {tree : TypeTree}

/-- No name is written like the type of an array. -/
theorem arrayBody?_name {before word after : Text} {type : Scalar}
    (hbefore : AllBlank isBlank before) (hafter : AllBlank isBlank after)
    (hword : (upper word, TypeName.scalar type) ∈ names) :
    arrayBody? (before ++ word ++ after) = none := by
  cases hbody : arrayBody? (before ++ word ++ after) with
  | none => rfl
  | some inner =>
    obtain ⟨b, w, between, body, a, hb, -, ha, hw, -, heq⟩ := arrayBody?_inv hbody
    have htrimmed := isTrimmed_of_upper fun x hx => (names_plain _ hword x hx).1
    have hsame : word = arrayText w between body := by
      rw [← trim_between hbefore hafter htrimmed, heq]
      exact trim_between hb ha (arrayText_isTrimmed hw between body)
    have hclosing : Symbol.char '>' ∈ word := by
      rw [hsame]
      simp [arrayText]
    have hupper : Symbol.char '>' ∈ upper word := capital_sub_upper hclosing (by decide)
    exact absurd rfl (names_plain _ hword _ hupper).2

theorem Derives.arrayBody? {before word between body after : Text} {item : TypeTree}
    (hbefore : AllBlank isBlank before) (hbetween : AllBlank isBlank between)
    (hafter : AllBlank isBlank after) (hword : upper word = "ARRAY") (h : Derives body item)
    (hline : .char '\n' ∉ before ++ arrayText word between body ++ after) :
    arrayBody? (before ++ arrayText word between body ++ after) = some (Text.strip body) := by
  refine arrayBody?_of hbefore hbetween hafter hword h.strip.ne_nil (line_notMem_strip ?_)
  intro hmem
  refine hline (List.mem_append_left _ (List.mem_append_right _ ?_))
  simp [arrayText, hmem]

/-- **A text with brackets is that of an array's type**, and what stands in them is the text of its
items' type. -/
theorem derives_of_array (h : TypeName.arrayBody? t = some inner) (hline : .char '\n' ∉ t) :
    Derives t tree ↔ ∃ item, tree = .array item ∧ Derives inner item := by
  constructor
  · intro hderives
    cases hderives with
    | name hb ha hword => cases h.symm.trans (arrayBody?_name hb ha hword)
    | @array _ _ _ _ _ item hb hbetween ha hword hbody =>
      cases h.symm.trans (hbody.arrayBody? hb hbetween ha hword hline)
      exact ⟨item, rfl, hbody.strip⟩
  · rintro ⟨item, rfl, hinner⟩
    obtain ⟨b, word, between, body, a, hb, hbetween, ha, hword, rfl, rfl⟩ := arrayBody?_inv h
    obtain ⟨front, back, hfront, hback, heq⟩ := exists_trim isBlank body
    have hbody : Derives body item := by
      rw [heq]
      exact hinner.pad hfront hback
    exact .array hb hbetween ha hword hbody

/-- **A text without brackets is a name.** -/
theorem derives_of_name (h : TypeName.arrayBody? t = none) (hline : .char '\n' ∉ t) :
    Derives t tree ↔ ∃ type, tree = .scalar type ∧ ofText? t = some (.scalar type) := by
  constructor
  · intro hderives
    cases hderives with
    | @name b word a type hb ha hword =>
      have htrimmed := isTrimmed_of_upper fun x hx => (names_plain _ hword x hx).1
      refine ⟨type, rfl, ofText?_eq_some.mpr ?_⟩
      rw [strip, trim_between hb ha htrimmed]
      exact hword
    | array hb hbetween ha hword hbody =>
      cases h.symm.trans (hbody.arrayBody? hb hbetween ha hword hline)
  · rintro ⟨type, rfl, htype⟩
    obtain ⟨before, after, hbefore, hafter, ht⟩ := exists_trim isBlank t
    rw [ht]
    exact .name hbefore hafter (ofText?_eq_some.mp htype)

end Levels

/-! ## 5. Reading all levels -/

namespace Field

variable {name : Text} {nullable : Bool} {t inner : Text} {f : Field}

theorem ofTypeText_array (h : TypeName.arrayBody? t = some inner) :
    ofTypeText name nullable t = .ok f ↔ ∃ element,
      ofTypeText "element" true inner = .ok element ∧ f = .array name nullable element none := by
  rw [ofTypeText]
  split
  · next inner' hinner =>
    cases h.symm.trans hinner
    constructor
    · intro hok
      obtain ⟨element, helement, hf⟩ := bind_ok hok
      exact ⟨element, Checked.under_ok.mp helement, (Except.ok.inj hf).symm⟩
    · rintro ⟨element, helement, rfl⟩
      rw [helement]
      rfl
  · next hnone => cases h.symm.trans hnone

theorem ofTypeText_name (h : TypeName.arrayBody? t = none) :
    ofTypeText name nullable t = .ok f ↔ ∃ type,
      ofText? t = some (.scalar type) ∧ f = .ofScalar name nullable type := by
  rw [ofTypeText]
  split
  · next inner hinner => cases h.symm.trans hinner
  · cases htype : ofText? t with
    | none =>
      constructor
      · intro hok
        cases hok
      · rintro ⟨type, hsome, -⟩
        cases hsome
    | some word =>
      constructor
      · intro hok
        cases word with
        | scalar type => exact ⟨type, rfl, (Except.ok.inj hok).symm⟩
        | array => cases hok
        | record => cases hok
      · rintro ⟨type, hsome, rfl⟩
        cases hsome
        rfl

/-- **A text is read as the type that is derived**, and is not read if there is none. -/
theorem ofTypeText_iff {name : Text} {nullable : Bool} {t : Text} {f : Field}
    (hline : .char '\n' ∉ t) : ofTypeText name nullable t = .ok f ↔
      ∃ tree : TypeTree, Derives t tree ∧ f = tree.field name nullable := by
  cases hbody : TypeName.arrayBody? t with
  | none =>
    rw [ofTypeText_name hbody]
    constructor
    · rintro ⟨type, htype, rfl⟩
      exact ⟨.scalar type, (derives_of_name hbody hline).mpr ⟨type, rfl, htype⟩, rfl⟩
    · rintro ⟨tree, hderives, rfl⟩
      obtain ⟨type, rfl, htype⟩ := (derives_of_name hbody hline).mp hderives
      exact ⟨type, htype, rfl⟩
  | some inner =>
    have hshorter := TypeName.length_arrayBody?_lt hbody
    have hinner : .char '\n' ∉ inner := line_notMem_arrayBody? hbody hline
    rw [ofTypeText_array hbody]
    constructor
    · rintro ⟨element, helement, rfl⟩
      obtain ⟨item, hitem, rfl⟩ := (ofTypeText_iff hinner).mp helement
      exact ⟨.array item, (derives_of_array hbody hline).mpr ⟨item, rfl, hitem⟩, rfl⟩
    · rintro ⟨tree, hderives, rfl⟩
      obtain ⟨item, rfl, hitem⟩ := (derives_of_array hbody hline).mp hderives
      exact ⟨_, (ofTypeText_iff hinner).mpr ⟨item, hitem, rfl⟩, rfl⟩
termination_by t.length

end Field

/-- **No text can be derived in two ways** that make different types of it. -/
theorem Derives.unique {t : Text} {tree tree' : TypeTree} (hline : .char '\n' ∉ t)
    (h : Derives t tree) (h' : Derives t tree') : tree = tree' := by
  have hread : ∀ tree, Derives t tree → Field.ofTypeText [] true t = .ok (tree.field [] true) :=
    fun tree h => (Field.ofTypeText_iff hline).mpr ⟨tree, h, rfl⟩
  exact TypeTree.field_inj (Except.ok.inj ((hread tree h).symm.trans (hread tree' h')))

/-! ## 6. The name of a type -/

/-- **The name of a type is one of its texts.** -/
theorem derives_typeName (tree : TypeTree) (name : Text) (nullable : Bool) :
    Derives (tree.field name nullable).typeName tree := by
  induction tree generalizing name nullable with
  | scalar type =>
    have hword : (upper type.name, TypeName.scalar type) ∈ names := by cases type <;> decide
    have hname := Derives.name allBlank_nil allBlank_nil hword
    rw [List.nil_append, List.append_nil] at hname
    exact hname
  | array item ih =>
    have hcapital : upper "ARRAY" = "ARRAY" := by decide
    have htext := Derives.array allBlank_nil allBlank_nil allBlank_nil hcapital (ih "element" true)
    rw [List.nil_append, List.append_nil] at htext
    exact htext

/-- The name of a type stands on one line. -/
theorem line_notMem_typeName (tree : TypeTree) (name : Text) (nullable : Bool) :
    .char '\n' ∉ (tree.field name nullable).typeName := by
  induction tree generalizing name nullable with
  | scalar type =>
    have hname : ∀ type : Scalar, .char '\n' ∉ type.name := by
      intro type
      cases type <;> decide
    exact hname type
  | array item ih =>
    have hopen : Symbol.char '\n' ∉ ofString "ARRAY<" := by decide
    have hclose : Symbol.char '\n' ∉ ofString ">" := by decide
    rw [TypeTree.field, Field.typeName, List.mem_append, List.mem_append]
    rintro ((hmem | hmem) | hmem)
    · exact hopen hmem
    · exact ih "element" true hmem
    · exact hclose hmem

/-! ## 7. Descriptions -/

namespace Field

/-- **A field is described by the text of its type**, and by nothing more: it has a name and may be
nullable, and an element or members are not given. -/
structure Described (es : List (Value × Value)) (name : Text) (nullable : Bool) (type : Text) :
    Prop where
  name : Check.required "name" Check.text es = .ok name
  nullable : Check.optional "nullable" true Check.switch es = .ok nullable
  type : Value.lookup "type" es = some (.text type)
  element : Value.lookup "element" es = none ∨ Value.lookup "element" es = some .null
  members : Value.lookup "fields" es = none ∨ Value.lookup "fields" es = some .null

variable {es : List (Value × Value)} {name : Text} {nullable : Bool} {t inner : Text} {f : Field}

theorem combine_implied :
    combine (.ok name) (.ok .array) (.ok nullable) (implied inner) (.ok none) = .ok f ↔
      ∃ element, ofTypeText "element" true inner = .ok element ∧
        f = .array name nullable element none := by
  unfold implied
  cases ofTypeText "element" true inner with
  | ok element =>
    constructor
    · intro h
      exact ⟨element, rfl, (Except.ok.inj h).symm⟩
    · rintro ⟨_, helement, rfl⟩
      cases helement
      rfl
  | error issues =>
    constructor
    · intro h
      cases h
    · rintro ⟨_, helement, -⟩
      cases helement

theorem combine_named (type : TypeName) :
    combine (.ok name) (.ok type) (.ok nullable) (.ok none) (.ok none) = .ok f ↔
      ∃ s, type = .scalar s ∧ f = .ofScalar name nullable s := by
  cases type with
  | scalar s =>
    constructor
    · intro h
      exact ⟨s, rfl, (Except.ok.inj h).symm⟩
    · rintro ⟨_, hs, rfl⟩
      cases hs
      rfl
  | array =>
    constructor
    · intro h
      cases h
    · rintro ⟨_, hs, -⟩
      cases hs
  | record =>
    constructor
    · intro h
      cases h
    · rintro ⟨_, hs, -⟩
      cases hs

theorem typeText?_of_body (h : TypeName.arrayBody? t = some inner) :
    typeText? t = some (.arrayOf inner) := by
  simp only [typeText?, h]

theorem typeText?_of_name (h : TypeName.arrayBody? t = none) :
    typeText? t = (ofText? t).map .named := by
  simp only [typeText?, h]

/-- Such a description is read as the text of its type is. -/
theorem read_described (h : Described es name nullable t) :
    read (.mapping es) = .ok f ↔ ofTypeText name nullable t = .ok f := by
  obtain ⟨hname, hnullable, htype, helement, hmembers⟩ := h
  rw [read]
  unfold readEntries
  extract_lets given nullability members element
  have hgiven : given = .ok name := hname
  have hnullability : nullability = .ok nullable := hnullable
  have hnoMembers : members = .ok none := by
    unfold members
    split <;> simp_all
  have hnoElement : element = .ok none := by
    unfold element
    split <;> simp_all
  rw [htype, hgiven, hnullability, hnoMembers, hnoElement]
  cases hbody : TypeName.arrayBody? t with
  | none =>
    simp only [typeText?_of_name hbody]
    rw [ofTypeText_name hbody]
    cases ofText? t with
    | none => simp [Checked.refuse]
    | some type => simp [combine_named]
  | some inner =>
    simp only [typeText?_of_body hbody]
    rw [ofTypeText_array hbody, ← combine_implied]
    rcases helement with helement | helement
    · simp only [helement]
    · simp only [helement]

/-- **The text of a type is read by its grammar.** A field that is described by the text of its type
is accepted if and only if the text can be derived, and has the type that is derived. Under the name
of that type the same type is read again. -/
theorem read_iff_derives (h : Described es name nullable t) (hline : .char '\n' ∉ t) :
    (∀ f, read (.mapping es) = .ok f ↔
      ∃ tree : TypeTree, Derives t tree ∧ f = tree.field name nullable) ∧
    ∀ f, read (.mapping es) = .ok f → ∃ tree : TypeTree, f = tree.field name nullable ∧
      ∀ es' name' nullable', Described es' name' nullable' f.typeName →
        read (.mapping es') = .ok (tree.field name' nullable') := by
  have hread : ∀ f, read (.mapping es) = .ok f ↔
      ∃ tree : TypeTree, Derives t tree ∧ f = tree.field name nullable := by
    intro f
    rw [read_described h]
    exact ofTypeText_iff hline
  refine ⟨hread, fun f hf => ?_⟩
  obtain ⟨tree, -, rfl⟩ := (hread f).mp hf
  refine ⟨tree, rfl, fun es' name' nullable' h' => ?_⟩
  have hname := derives_typeName tree name nullable
  exact (read_described h').mpr
    ((ofTypeText_iff (line_notMem_typeName tree name nullable)).mpr ⟨tree, hname, rfl⟩)

/-- An array of arrays of texts, with blanks and letters of either case, and under its own name. -/
theorem read_iff_derives_nested :
    let es : List (Value × Value) := [(.text "name", .text "x"),
      (.text "type", .text " array < Array<str >> ")]
    let es' : List (Value × Value) := [(.text "name", .text "y"),
      (.text "type", .text "ARRAY<ARRAY<STRING>>")]
    let tree : TypeTree := .array (.array (.scalar .string))
    Described es "x" true " array < Array<str >> " ∧
      read (.mapping es) = .ok (tree.field "x" true) ∧
      Described es' "y" true "ARRAY<ARRAY<STRING>>" ∧
      read (.mapping es') = .ok (tree.field "y" true) := by
  intro es es' tree
  have hes : Described es "x" true " array < Array<str >> " :=
    ⟨by rfl, by rfl, by rfl, .inl rfl, .inl rfl⟩
  have hes' : Described es' "y" true "ARRAY<ARRAY<STRING>>" :=
    ⟨by rfl, by rfl, by rfl, .inl rfl, .inl rfl⟩
  obtain ⟨hread, hagain⟩ := read_iff_derives hes (by decide)
  have hblank : AllBlank isBlank " " := fun s hs => List.mem_singleton.mp hs ▸ rfl
  have hinner : Derives (("" : Text) ++ ("str" : Text) ++ (" " : Text)) (.scalar .string) :=
    .name allBlank_nil hblank (by decide)
  have hmiddle : Derives (" " ++ arrayText "Array" "" "str " ++ "") (.array (.scalar .string)) :=
    .array hblank allBlank_nil allBlank_nil (by decide) hinner
  have houter : Derives (" " ++ arrayText "array" " " " Array<str >" ++ " ") tree :=
    .array hblank hblank hblank (by decide) hmiddle
  have hfield : read (.mapping es) = .ok (tree.field "x" true) := (hread _).mpr ⟨tree, houter, rfl⟩
  obtain ⟨tree', htree', hrest⟩ := hagain _ hfield
  have hsame : tree' = tree := (TypeTree.field_inj htree').symm
  rw [hsame] at hrest
  exact ⟨hes, hfield, hes', hrest es' "y" true hes'⟩

end Field

end Sluice
