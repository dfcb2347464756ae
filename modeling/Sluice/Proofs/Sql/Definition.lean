import Sluice.Proofs.Schema.Columns
import Sluice.Proofs.Sql.Binding

/-!
# What the definition of a table tells

The statement that creates a table names the table, its columns with their types, those that take no
null, and the key columns. All of that can be read off its text: two tables whose definitions have
the same text are the same, at every depth of their types and whatever the table and its columns are
called. Members of records are the exception. A double quote in the name of a member is not doubled,
so that the name can end early and make other members of what is left of it.

* `Shape`, `Field.shape`: **types as a definition tells them**;
* `Definition`, `definition`: what there is to be told of a table, and how it is written;
* `Shape.tokens_inj`: **a type is known by its tokens**, up to what may follow it, by induction on
  the type;
* `Definition.tokens_inj`: **a table is known by its tokens**;
* `Field.hasPlainMembers`, `reads_columnType`: if no member has a quote in its name, the text of a
  type is the type's tokens;
* `createTable_determines`: **the text of a definition tells the table**, and the definition is what
  is executed to make the table ready (`Database.prepare_creates`);
* `createTable_merged`: with a quote in its name one member is written like two, so that **every
  table with two members in a record has another one's definition**.
-/

namespace Sluice

/-! ## 1. Types -/

namespace Sql

/-- A type as a definition tells it: a scalar type or members with their names, in so many lists. -/
inductive Shape where
  | scalar (type : Scalar) (depth : Nat)
  | struct (members : List (Text × Shape)) (depth : Nat)

namespace Shape

/-- The type of lists of a type. -/
def inList : Shape → Shape
  | .scalar type depth => .scalar type (depth + 1)
  | .struct members depth => .struct members (depth + 1)

/-- **What holds of a type if it holds of its members' types holds of every type.** -/
@[elab_as_elim]
theorem induct {P : Shape → Prop} (scalar : ∀ type depth, P (.scalar type depth))
    (struct : ∀ members depth, (∀ m ∈ members, P m.2) → P (.struct members depth)) : ∀ s, P s
  | .scalar type depth => scalar type depth
  | .struct members depth =>
    struct members depth fun m hm =>
      have hmember := List.sizeOf_lt_of_mem hm
      have : sizeOf m.2 < sizeOf m := by
        cases m
        simp
      induct scalar struct m.2
termination_by s => sizeOf s

end Shape

end Sql

open Sql

namespace Field

/-- **The type of a field as a definition tells it.** -/
def shape : Field → Shape
  | .scalar _ _ type _ _ => .scalar type 0
  | .array _ _ element _ => element.shape.inList
  | .record _ _ members _ => .struct (memberShapes members) 0
where
  /-- The members' names and types. -/
  memberShapes : List Field → List (Text × Shape)
    | [] => []
    | f :: rest => (f.name, f.shape) :: memberShapes rest

/-- No member has a double quote in its name, at no depth. -/
def hasPlainMembers : Field → Bool
  | .scalar .. => true
  | .array _ _ element _ => element.hasPlainMembers
  | .record _ _ members _ => allPlain members
where
  /-- Fields without a quote in their names, or in those of their members. -/
  allPlain : List Field → Bool
    | [] => true
    | f :: rest => !f.name.contains quoteSign && f.hasPlainMembers && allPlain rest

theorem memberShapes_eq : ∀ members : List Field,
    shape.memberShapes members = members.map fun m => (m.name, m.shape)
  | [] => rfl
  | m :: rest => by rw [shape.memberShapes, memberShapes_eq rest, List.map_cons]

theorem allPlain_iff : ∀ {members : List Field}, hasPlainMembers.allPlain members = true ↔
    ∀ m ∈ members, quoteSign ∉ m.name ∧ m.hasPlainMembers = true
  | [] => by simp [hasPlainMembers.allPlain]
  | m :: rest => by
    rw [hasPlainMembers.allPlain, Bool.and_eq_true, Bool.and_eq_true, allPlain_iff,
      List.forall_mem_cons]
    simp

end Field

/-- No member of a record has a double quote in its name. -/
def Schema.hasPlainMembers (s : Schema) : Bool := s.fields.all Field.hasPlainMembers

namespace Sql

open Token

/-! ## 2. Definitions -/

/-- A column of a table. -/
structure Column where
  name : Text
  shape : Shape
  notNull : Bool

/-- **What the definition of a table tells.** -/
structure Definition where
  table : Text
  columns : List Column
  keys : List Text

/-- The column of a field; key columns take no null. -/
def column (keys : List Text) (f : Field) : Column :=
  ⟨f.name, f.shape, !(f.nullable && !keys.contains f.name)⟩

/-- The definition of a table. -/
def definition (table : Text) (schema : Schema) (keys : List Text) : Definition :=
  ⟨table, schema.fields.map (column keys), keys⟩

/-- The tokens of a scalar type. -/
def scalarTokens (type : Scalar) : List Token := (tokens? (scalarType type)).getD []

/-- So many pairs of brackets. -/
def brackets : Nat → List Token
  | 0 => []
  | depth + 1 => .sign (.char '[') :: .sign (.char ']') :: brackets depth

/-- **How a type is written.** -/
def Shape.tokens : Shape → List Token
  | .scalar type depth => scalarTokens type ++ brackets depth
  | .struct members depth =>
    .word "STRUCT" :: opening :: (listed comma (memberTokens members) ++
      closing :: brackets depth)
where
  /-- The members, each with its name. -/
  memberTokens : List (Text × Shape) → List (List Token)
    | [] => []
    | (n, s) :: rest => (.name n :: s.tokens) :: memberTokens rest

/-- The sign for a column without nulls. -/
def nullTokens (notNull : Bool) : List Token :=
  if notNull then [.word "NOT", .word "NULL"] else []

/-- How a column is written. -/
def Column.tokens (c : Column) : List Token :=
  .name c.name :: (c.shape.tokens ++ nullTokens c.notNull)

/-- How the key columns are written. -/
def keyTokens (keys : List Text) : List Token :=
  .word "PRIMARY" :: .word "KEY" :: opening :: (identifiers keys ++ [closing])

/-- **How the definition of a table is written.** -/
def Definition.tokens (d : Definition) : List Token :=
  [.word "CREATE", .word "TABLE", .word "IF", .word "NOT", .word "EXISTS", .name d.table,
    opening] ++ (listed comma (d.columns.map Column.tokens ++ [keyTokens d.keys]) ++ [closing])

/-! ## 3. Definitions by their tokens -/

/-- What may follow a type: anything but a bracket, with which the type would go on. -/
def EndsType (ts : List Token) : Prop := ts.head? ≠ some (.sign (.char '['))

section Types

variable {x y : List Token}

theorem brackets_inj (hx : EndsType x) (hy : EndsType y) : ∀ {depth depth' : Nat},
    brackets depth ++ x = brackets depth' ++ y → depth = depth' ∧ x = y
  | 0, 0, h => ⟨rfl, h⟩
  | 0, depth' + 1, h => absurd (congrArg List.head? h) hx
  | depth + 1, 0, h => absurd (congrArg List.head? h).symm hy
  | depth + 1, depth' + 1, h => by
    simp only [brackets, List.cons_append, List.cons.injEq, true_and] at h
    obtain ⟨rfl, hxy⟩ := brackets_inj hx hy h
    exact ⟨rfl, hxy⟩

/-- The first word of a scalar type. -/
def scalarWord (type : Scalar) : Option Token := (scalarTokens type).head?

theorem scalarWord_inj {type type' : Scalar} (h : scalarWord type = scalarWord type') :
    type = type' := by
  have hall : ∀ s : Scalar, s ∈ ([.bool, .int32, .int64, .float, .double, .numeric, .string, .bytes,
      .timestamp, .date] : List Scalar) := by
    intro s
    cases s <;> decide
  have hnodup : (([.bool, .int32, .int64, .float, .double, .numeric, .string, .bytes, .timestamp,
      .date] : List Scalar).map scalarWord).Nodup := by decide
  exact List.inj_on_of_nodup_map hnodup (hall type) (hall type') h

theorem head_scalarTokens (type : Scalar) (x : List Token) :
    (scalarTokens type ++ x).head? = scalarWord type ∧ scalarWord type ≠ some (.word "STRUCT") := by
  cases type <;> exact ⟨rfl, by decide⟩

theorem scalarTokens_inj {type type' : Scalar}
    (h : scalarTokens type ++ x = scalarTokens type' ++ y) : type = type' ∧ x = y := by
  have hword := congrArg List.head? h
  rw [(head_scalarTokens type x).1, (head_scalarTokens type' y).1] at hword
  have hsame := scalarWord_inj hword
  subst hsame
  exact ⟨rfl, List.append_cancel_left h⟩

theorem memberTokens_eq : ∀ members : List (Text × Shape),
    Shape.tokens.memberTokens members = members.map fun m => .name m.1 :: m.2.tokens
  | [] => rfl
  | (n, s) :: rest => by rw [Shape.tokens.memberTokens, memberTokens_eq rest, List.map_cons]

/-- **A type is known by its tokens**, up to what may follow it. -/
theorem Shape.tokens_inj {s s' : Shape} (hx : EndsType x) (hy : EndsType y)
    (h : s.tokens ++ x = s'.tokens ++ y) : s = s' ∧ x = y := by
  induction s using Shape.induct generalizing s' x y with
  | scalar type depth =>
    cases s' with
    | scalar type' depth' =>
      rw [tokens, tokens, List.append_assoc, List.append_assoc] at h
      obtain ⟨rfl, hrest⟩ := scalarTokens_inj h
      obtain ⟨rfl, hxy⟩ := brackets_inj hx hy hrest
      exact ⟨rfl, hxy⟩
    | struct members' depth' =>
      rw [tokens, tokens, List.append_assoc] at h
      obtain ⟨hword, hstruct⟩ := head_scalarTokens type (brackets depth ++ x)
      exact absurd (hword.symm.trans (congrArg List.head? h)) hstruct
  | struct members depth ih =>
    cases s' with
    | scalar type' depth' =>
      rw [tokens, tokens, List.append_assoc (scalarTokens type')] at h
      obtain ⟨hword, hstruct⟩ := head_scalarTokens type' (brackets depth' ++ y)
      exact absurd (hword.symm.trans (congrArg List.head? h).symm) hstruct
    | struct members' depth' =>
      simp only [tokens, memberTokens_eq, List.cons_append, List.append_assoc, List.cons.injEq,
        true_and] at h
      have hmember : ∀ m ∈ members, ∀ (m' : Text × Shape) z w, EndsType z → EndsType w →
          .name m.1 :: m.2.tokens ++ z = .name m'.1 :: m'.2.tokens ++ w → m = m' ∧ z = w := by
        intro m hm m' z w hz hw heq
        obtain ⟨hname, hshape⟩ := List.cons.inj heq
        obtain ⟨htype, hzw⟩ := ih m hm hz hw hshape
        exact ⟨Prod.ext (Token.name.inj hname) htype, hzw⟩
      have hcomma : ∀ z, EndsType (comma :: z) := fun z => by simp [EndsType]
      have hclosing : ∀ z, EndsType (closing :: z) := fun z => by simp [EndsType]
      obtain ⟨rfl, hrest⟩ := listed_inj_of (by decide) (by simp) hcomma hclosing
        (fun m : Text × Shape => ⟨m.1, m.2.tokens, rfl⟩) hmember h
      obtain ⟨rfl, hxy⟩ := brackets_inj hx hy hrest
      exact ⟨rfl, hxy⟩

end Types

/-- A column is known by its tokens, up to the comma behind it. -/
theorem Column.tokens_inj {c c' : Column} {x y : List Token}
    (h : c.tokens ++ comma :: x = c'.tokens ++ comma :: y) : c = c' ∧ x = y := by
  obtain ⟨n, s, notNull⟩ := c
  obtain ⟨n', s', notNull'⟩ := c'
  have hends : ∀ (notNull : Bool) z, EndsType (nullTokens notNull ++ comma :: z) := by
    intro notNull z
    cases notNull <;> simp [EndsType, nullTokens]
  simp only [tokens, List.cons_append, List.append_assoc, List.cons.injEq, Token.name.injEq] at h
  obtain ⟨rfl, htypes⟩ := h
  obtain ⟨rfl, hrest⟩ := Shape.tokens_inj (hends notNull x) (hends notNull' y) htypes
  cases notNull <;> cases notNull' <;> simp_all [nullTokens]

/-- Columns are known by their tokens, up to the word that ends them. -/
theorem columns_inj {cs cs' : List Column} {w : Text} {x y : List Token}
    (h : cs.flatMap (fun c => c.tokens ++ [comma]) ++ .word w :: x =
      cs'.flatMap (fun c => c.tokens ++ [comma]) ++ .word w :: y) : cs = cs' ∧ x = y := by
  induction cs generalizing cs' with
  | nil =>
    cases cs' with
    | nil => exact ⟨rfl, (List.cons.inj h).2⟩
    | cons c' cs' => cases (List.cons.inj h).1
  | cons c cs ih =>
    cases cs' with
    | nil => cases (List.cons.inj h).1
    | cons c' cs' =>
      simp only [List.flatMap_cons, List.append_assoc, List.singleton_append] at h
      obtain ⟨rfl, hrest⟩ := Column.tokens_inj h
      obtain ⟨rfl, hxy⟩ := ih hrest
      exact ⟨rfl, hxy⟩

/-- **A table is known by its tokens.** -/
theorem Definition.tokens_inj {d d' : Definition} (h : d.tokens = d'.tokens) : d = d' := by
  obtain ⟨table, columns, keys⟩ := d
  obtain ⟨table', columns', keys'⟩ := d'
  simp only [tokens, listed_concat, keyTokens, List.flatMap_map, List.cons_append,
    List.nil_append, List.append_assoc, List.cons.injEq, true_and, Token.name.injEq] at h
  obtain ⟨rfl, hcolumns⟩ := h
  obtain ⟨rfl, hkeys⟩ := columns_inj hcolumns
  simp only [List.cons.injEq, true_and] at hkeys
  obtain ⟨rfl, -⟩ := identifiers_inj hkeys
  rfl

/-! ## 4. Reading definitions -/

section Reading

variable {f : Field} {keys : List Text}

/-- A name without quotes is an identifier between quotes. -/
theorem quote_of_plain {name : Text} (h : quoteSign ∉ name) :
    quote name = .char '"' :: name ++ [.char '"'] := by
  have hsame : name.flatMap (fun s => if s = .char '"' then [.char '"', .char '"'] else [s]) =
      name.flatMap fun s => [s] := by
    refine List.flatMap_congr fun s hs => ?_
    rw [if_neg]
    rintro rfl
    exact h hs
  rw [quote, hsame, List.flatMap_singleton']

theorem reads_scalarType (type : Scalar) : Reads (scalarType type) (scalarTokens type) := by
  cases type <;> rfl

theorem memberTypes_eq : ∀ members : List Field,
    columnType.memberTypes members = Text.join ", " (members.map columnType.memberType)
  | [] => by rw [columnType.memberTypes, List.map_nil, Text.join]
  | [m] => by rw [columnType.memberTypes, List.map_singleton, Text.join]
  | m :: m' :: rest => by
    have hrest := memberTypes_eq (m' :: rest)
    rw [columnType.memberTypes, hrest]
    · rfl
    · simp

theorem brackets_succ : ∀ depth : Nat,
    brackets (depth + 1) = brackets depth ++ [.sign (.char '['), .sign (.char ']')]
  | 0 => rfl
  | depth + 1 => by
    have hrest := brackets_succ depth
    change _ :: _ :: brackets (depth + 1) = _ :: _ :: (brackets depth ++ _)
    rw [hrest]

/-- A list is written with one more pair of brackets. -/
theorem Shape.tokens_inList (s : Shape) :
    s.inList.tokens = s.tokens ++ [.sign (.char '['), .sign (.char ']')] := by
  cases s with
  | scalar type depth =>
    rw [Shape.inList, tokens, tokens, brackets_succ, List.append_assoc]
  | struct members depth =>
    rw [Shape.inList, tokens, tokens, brackets_succ]
    simp

/-- A name, a blank and a type. -/
theorem reads_typed (name : Text) {t : Text} {ts : List Token} (h : Reads t ts) :
    Reads (quote name ++ .char ' ' :: t) (.name name :: ts) := by
  have hblank : Closes [.char ' '] [] := by decide
  have hname := (reads_quote name).closes hblank (by decide)
  have hall := hname.reads h
  simpa using hall

/-- **The text of a type is the type's tokens**, if no member has a quote in its name. -/
theorem reads_columnType (h : f.hasPlainMembers = true) : Reads (columnType f) f.shape.tokens := by
  induction f using Field.induct with
  | scalar name nullable type =>
    have htype := reads_scalarType type
    rw [columnType, Field.shape, Shape.tokens, brackets, List.append_nil]
    exact htype
  | array name nullable element _ ih =>
    have hbrackets : Reads "[]" [.sign (.char '['), .sign (.char ']')] := by decide
    rw [columnType, Field.shape, Shape.tokens_inList]
    exact (ih h).append hbrackets (by decide)
  | record name nullable members _ ih =>
    have hplain := Field.allPlain_iff.mp h
    have hmembers : Reads (columnType.memberTypes members)
        (listed comma (Shape.tokens.memberTokens (Field.shape.memberShapes members))) := by
      rw [memberTypes_eq, Field.memberShapes_eq, memberTokens_eq, List.map_map]
      refine reads_joined closes_comma (by decide) ?_
      rw [List.forall₂_map_left_iff, List.forall₂_map_right_iff]
      refine List.forall₂_same.mpr fun m hm => ?_
      obtain ⟨hname, hmember⟩ := hplain m hm
      have htyped := reads_typed m.name (ih m hm hmember)
      rw [quote_of_plain hname] at htyped
      have htext : columnType.memberType m =
          .char '"' :: m.name ++ [.char '"'] ++ .char ' ' :: columnType m := by
        rw [columnType.memberType, List.append_assoc, List.append_assoc]
        rfl
      rw [htext]
      exact htyped
    have hopen : Closes "STRUCT(" [.word "STRUCT", opening] := by decide
    have hclose : Reads ")" [closing] := by decide
    have hall := hopen.reads (hmembers.append hclose (by decide))
    rw [columnType, Field.shape, Shape.tokens, brackets, List.append_assoc]
    exact hall

theorem reads_columnDefinition (h : f.hasPlainMembers = true) :
    Reads (columnDefinition keys f) (column keys f).tokens := by
  have htyped := reads_typed f.name (reads_columnType h)
  unfold columnDefinition Column.tokens column
  dsimp only
  cases f.nullable && !keys.contains f.name with
  | true => simpa [nullTokens] using htyped
  | false =>
    have hnull : Reads " NOT NULL" [.word "NOT", .word "NULL"] := by decide
    have hall := htyped.append hnull (by decide)
    simpa [nullTokens] using hall

/-- **The text of a definition is its tokens**, if no member has a quote in its name. -/
theorem reads_createTable (table : Text) {s : Schema} (keys : List Text)
    (h : ∀ f ∈ s.fields, f.hasPlainMembers = true) :
    Reads (createTable table s keys).text (definition table s keys).tokens := by
  have hword : Closes "CREATE TABLE IF NOT EXISTS "
      [.word "CREATE", .word "TABLE", .word "IF", .word "NOT", .word "EXISTS"] := by decide
  have hopen : Closes " (" [opening] := by decide
  have hclose : Reads ")" [closing] := by decide
  have hcolumns : List.Forall₂ Reads (s.fields.map (columnDefinition keys))
      ((s.fields.map (column keys)).map Column.tokens) := by
    rw [List.map_map, List.forall₂_map_left_iff, List.forall₂_map_right_iff]
    exact List.forall₂_same.mpr fun f hf => reads_columnDefinition (h f hf)
  have hkey : Reads ("PRIMARY KEY (" ++ Text.join ", " (keys.map quote) ++ ")")
      (keyTokens keys) := by
    have hword : Closes "PRIMARY KEY (" [.word "PRIMARY", .word "KEY", opening] := by decide
    have hkeys := hword.reads ((reads_identifiers keys).append hclose (by decide))
    rw [List.append_assoc]
    exact hkeys
  have hlist := reads_joined closes_comma (by decide)
    (List.rel_append hcolumns (.cons hkey .nil))
  have htable := (hword.reads (reads_quote table)).closes hopen (by decide)
  have hall := htable.reads (hlist.append hclose (by decide))
  unfold createTable
  dsimp only
  rw [List.append_assoc _ (Text.join _ _)]
  exact hall

end Reading

/-- What is executed to make a table ready is its definition. -/
theorem Database.prepare_creates {δ : Type} {c : Client δ} {d d' : Database δ} {table : Text}
    {keys : List Text} (s : Schema) (hcreate : d.createTables = true)
    (hopen : (d.noteKeys table keys).openUp c = (.ok (), d')) :
    (d.prepare c table s keys).2 = (d'.execute c (createTable table s keys)).2 := by
  have hcreate' : (d.noteKeys table keys).createTables = true := hcreate
  cases hexecute : d'.execute c (createTable table s keys) with | mk outcome d'' =>
  unfold prepare
  dsimp only
  rw [if_neg (by simp [hcreate']), hopen]
  dsimp only
  rw [hexecute]
  cases outcome with
  | ok row? => rfl
  | error f =>
    dsimp only
    cases trouble f <;> rfl

/-- **The text of a definition tells the table**: its name, its columns in order with their names,
their types at every depth and those that take no null, and its key columns. No name of the table or
of a column gets in the way; names of members must have no quotes in them. -/
theorem createTable_determines {table table' : Text} {s s' : Schema} {keys keys' : List Text}
    (h : s.hasPlainMembers = true) (h' : s'.hasPlainMembers = true)
    (htext : (createTable table s keys).text = (createTable table' s' keys').text) :
    definition table s keys = definition table' s' keys' := by
  have hreads := reads_createTable table keys (List.all_eq_true.mp h)
  have hreads' := reads_createTable table' keys' (List.all_eq_true.mp h')
  rw [← htext] at hreads'
  exact Definition.tokens_inj (Option.some.inj (hreads.symm.trans hreads'))

/-- Quotes in the names of a table and of a column, which is the key, beside a record with a list:
under another name for its elements the text is the same, and the table is. -/
theorem createTable_determines_quotes :
    let points (item : Text) : Field :=
      .record "p" true [.array "xs" true (.ofScalar item false .double) none] none
    let s : Schema := ⟨[.ofScalar "a\" BIGINT, \"b" true .int64, points "item"]⟩
    let s' : Schema := ⟨[.ofScalar "a\" BIGINT, \"b" true .int64, points "element"]⟩
    let keys : List Text := ["a\" BIGINT, \"b"]
    s.hasPlainMembers = true ∧ s'.hasPlainMembers = true ∧
      (createTable "t\"" s keys).text = (createTable "t\"" s' keys).text ∧
      definition "t\"" s keys = definition "t\"" s' keys := by
  intro points s s' keys
  have hs : s.hasPlainMembers = true := by decide
  have hs' : s'.hasPlainMembers = true := by decide
  have hpoints : columnType (points "item") = columnType (points "element") := by
    simp only [points, columnType, columnType.memberTypes, columnType.memberType, Field.ofScalar,
      Field.name]
  have htext : (createTable "t\"" s keys).text = (createTable "t\"" s' keys).text := by
    simp only [createTable, s, s', List.map_cons, columnDefinition, hpoints]
    rfl
  exact ⟨hs, hs', htext, createTable_determines hs hs' htext⟩

/-! ## 5. Members with quotes in their names -/

/-- **Two members in one**: the second one with a name that holds a quote, and behind it all that is
written of the first. -/
def merged (f g : Field) : Field :=
  g.rename (f.name ++ "\" " ++ columnType f ++ ", \"" ++ g.name)

theorem columnType_rename (name : Text) (f : Field) :
    columnType (f.rename name) = columnType f := by
  cases f <;> rw [Field.rename, columnType, columnType]

/-- **Two members are written like one.** -/
theorem memberTypes_merged (f g : Field) (rest : List Field) :
    columnType.memberTypes (f :: g :: rest) = columnType.memberTypes (merged f g :: rest) := by
  have hmember : columnType.memberType f ++ ", " ++ columnType.memberType g =
      columnType.memberType (merged f g) := by
    have hopen : Text.ofString ", \"" = Text.ofString ", " ++ [.char '"'] := rfl
    simp only [columnType.memberType, merged, Field.name_rename, columnType_rename, hopen]
    simp
  simp only [memberTypes_eq, List.map_cons, ← hmember]
  cases rest with
  | nil => simp [Text.join]
  | cons m rest => simp [Text.join]

theorem columnDefinition_merged (keys : List Text) (name : Text) (nullable : Bool) (f g : Field)
    (rest : List Field) (element? : Option Field) :
    columnDefinition keys (.record name nullable (f :: g :: rest) element?) =
      columnDefinition keys (.record name nullable (merged f g :: rest) element?) := by
  have htype : columnType (.record name nullable (f :: g :: rest) element?) =
      columnType (.record name nullable (merged f g :: rest) element?) := by
    rw [columnType, columnType, memberTypes_merged]
  unfold columnDefinition
  rw [htype]
  rfl

/-- **There is another table with the same definition**, whenever a record has two members. -/
theorem createTable_merged (before after rest : List Field) (name : Text) (nullable : Bool)
    (f g : Field) (element? : Option Field) (table : Text) (keys : List Text) :
    let s : Schema := ⟨before ++ .record name nullable (f :: g :: rest) element? :: after⟩
    let s' : Schema := ⟨before ++ .record name nullable (merged f g :: rest) element? :: after⟩
    (createTable table s keys).text = (createTable table s' keys).text ∧
      definition table s keys ≠ definition table s' keys := by
  intro s s'
  refine ⟨?_, fun heq => ?_⟩
  · simp only [createTable, s, s', List.map_append, List.map_cons, columnDefinition_merged]
  · have hcolumns := congrArg Definition.columns heq
    simp [definition, s, s', column, Field.shape, Field.memberShapes_eq] at hcolumns

/-- A record of two members, and one of one member that is written like it. -/
theorem createTable_merged_pair :
    let s : Schema := ⟨[.ofScalar "id" false .int64,
      .record "x" true [.ofScalar "a" true .int64, .ofScalar "b" true .int64] none]⟩
    let s' : Schema := ⟨[.ofScalar "id" false .int64,
      .record "x" true [.ofScalar "a\" BIGINT, \"b" true .int64] none]⟩
    s.isWellFormed = true ∧ s'.isWellFormed = true ∧
      (createTable "t" s ["id"]).text = (createTable "t" s' ["id"]).text ∧
      definition "t" s ["id"] ≠ definition "t" s' ["id"] := by
  intro s s'
  have hname : merged (.ofScalar "a" true .int64) (.ofScalar "b" true .int64) =
      .ofScalar "a\" BIGINT, \"b" true .int64 := by
    simp only [merged, columnType, Field.ofScalar]
    rfl
  have htwo : (createTable "t" s ["id"]).text = (createTable "t" s' ["id"]).text ∧
      definition "t" s ["id"] ≠ definition "t" s' ["id"] := by
    have hmerged := createTable_merged [.ofScalar "id" false .int64] [] [] "x" true
      (.ofScalar "a" true .int64) (.ofScalar "b" true .int64) none "t" ["id"]
    rw [hname] at hmerged
    exact hmerged
  exact ⟨by decide, by decide, htwo⟩

end Sql

end Sluice
