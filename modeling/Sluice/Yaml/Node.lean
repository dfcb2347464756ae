import Sluice.Yaml.Lexer

/-!
# Nodes of YAML

The tree of a document: scalars, sequences and mappings, each with the tag that it carries, if any.
An alias is replaced by the node that its anchor stands at, which must come before it and be
complete; no anchor may stand twice.
-/

namespace Sluice.Yaml

/-- A node with its tag. Of a scalar it is known whether it stands without quotes. -/
inductive Node where
  | scalar (tag? : Option (List Char)) (text : Text) (plain : Bool)
  | sequence (tag? : Option (List Char)) (items : List Node)
  | mapping (tag? : Option (List Char)) (pairs : List (Node × Node))
  deriving Repr, Inhabited

/-- What is left to be read, what handles of tags stand for, and the nodes at the anchors so far. -/
structure Parser where
  tokens : List Token
  handles : List (List Char × List Char)
  anchors : List (List Char × Option Node) := []
  deriving Repr

namespace Parser

/-- The handles that are known from the start. -/
def standardHandles : List (List Char × List Char) :=
  [(['!'], ['!']), (['!', '!'], "tag:yaml.org,2002:".toList)]

def peek? (p : Parser) : Option Token := p.tokens.head?

def skip (p : Parser) : Parser := { p with tokens := p.tokens.tail }

/-- Whether the next token is one of some. -/
def nextIn (p : Parser) (ts : List Token) : Bool :=
  match p.peek? with
  | some t => ts.contains t
  | none => true

/-- A scalar without text. -/
def emptyNode : Node := .scalar none [] true

/-- The tag that a written tag stands for; a lone exclamation mark stands for none. -/
def tagOf? (p : Parser) (t : RawTag) : Option (Option (List Char)) :=
  match t.handle? with
  | none => some (if t.suffix = ['!'] then none else some t.suffix)
  | some handle => (p.handles.lookup handle).map fun start => some (start ++ t.suffix)

/-- What stands in front of a node: an anchor, a tag, or a lone exclamation mark. -/
structure Properties where
  anchor? : Option (List Char) := none
  tag? : Option (List Char) := none
  lone : Bool := false

/-- Whether anything stands in front of a node. -/
def Properties.marked (props : Properties) : Bool :=
  props.anchor?.isSome || props.tag?.isSome || props.lone

/-- A scalar with its properties; a lone exclamation mark makes it plain, a tag takes that away. -/
def Properties.scalar (props : Properties) (text : Text) (plain : Bool) : Node :=
  .scalar props.tag? text (props.lone || (props.tag?.isNone && plain))

/-- Takes an anchor. -/
def takeAnchor (p : Parser) : Option (List Char) × Parser :=
  match p.peek? with
  | some (.anchor name) => (some name, p.skip)
  | _ => (none, p)

/-- Takes a tag. -/
def takeTag? (p : Parser) : Option (Option RawTag × Parser) :=
  match p.peek? with
  | some (.tag t) => if (p.tagOf? t).isSome then some (some t, p.skip) else none
  | _ => some (none, p)

/-- Takes the anchor and the tag in front of a node, in either order. -/
def takeProperties? (p : Parser) : Option (Properties × Parser) := do
  let (first?, p) := p.takeAnchor
  let (tag?, p) ← p.takeTag?
  let (anchor?, p) := match first?, tag? with
    | none, some _ => p.takeAnchor
    | _, _ => (first?, p)
  let resolved := (tag?.bind p.tagOf?).join
  return ({ anchor?, tag? := resolved, lone := tag?.isSome && resolved.isNone }, p)

/-- Puts a node at its anchor; an anchor stands once. -/
def bind? (p : Parser) (anchor? : Option (List Char)) (n? : Option Node) : Option Parser :=
  match anchor?, n? with
  | none, _ => some p
  | some name, none =>
    if (p.anchors.lookup name).isSome then none
    else some { p with anchors := (name, none) :: p.anchors }
  | some name, some n => some { p with anchors := (name, some n) :: p.anchors }

/-- Puts a node at its anchor and returns it. -/
def finish? (props : Properties) (n : Node) (p : Parser) : Option (Node × Parser) :=
  (p.bind? props.anchor? (some n)).map fun p => (n, p)

mutual

/-- A node; `inBlock` says whether it may be a block, `bareItems` whether the items of a sequence
may stand without a block of their own. -/
def node? (inBlock bareItems : Bool) : Nat → Parser → Option (Node × Parser)
  | 0, _ => none
  | fuel + 1, p =>
    match p.peek? with
    | some (.alias name) => ((p.anchors.lookup name).join).map fun n => (n, p.skip)
    | _ =>
      p.takeProperties?.bind fun (props, p) =>
      (p.bind? props.anchor? none).bind fun p =>
        let items := fun (r : Option (List Node × Parser)) =>
          r.bind fun (ns, p) => finish? props (.sequence props.tag? ns) p
        let pairs := fun (r : Option (List (Node × Node) × Parser)) =>
          r.bind fun (ns, p) => finish? props (.mapping props.tag? ns) p
        let empty := if props.marked then finish? props (props.scalar [] true) p else none
        match p.peek? with
        | some (.scalar text isPlain) => finish? props (props.scalar text isPlain) p.skip
        | some .flowSequenceStart => items (flowItems? true fuel p.skip)
        | some .flowMappingStart => pairs (flowPairs? true fuel p.skip)
        | some .blockSequenceStart => if inBlock then items (blockItems? fuel p.skip) else empty
        | some .blockMappingStart => if inBlock then pairs (blockPairs? fuel p.skip) else empty
        | some .blockEntry => if bareItems then items (bareItems? fuel p) else empty
        | _ => empty

/-- A node, or an empty one before certain tokens. -/
def nodeUnless? (inBlock bareItems : Bool) (ends : List Token) : Nat → Parser →
    Option (Node × Parser)
  | 0, _ => none
  | fuel + 1, p => if p.nextIn ends then some (emptyNode, p) else node? inBlock bareItems fuel p

/-- The items of a block up to its end. -/
def blockItems? : Nat → Parser → Option (List Node × Parser)
  | 0, _ => none
  | fuel + 1, p =>
    match p.peek? with
    | some .blockEntry =>
      (nodeUnless? true false [.blockEntry, .blockEnd] fuel p.skip).bind fun (n, p) =>
        (blockItems? fuel p).map fun (ns, p) => (n :: ns, p)
    | some .blockEnd => some ([], p.skip)
    | _ => none

/-- The items of a sequence without a block of its own. -/
def bareItems? : Nat → Parser → Option (List Node × Parser)
  | 0, _ => none
  | fuel + 1, p =>
    match p.peek? with
    | some .blockEntry =>
      (nodeUnless? true false [.blockEntry, .key, .value, .blockEnd] fuel p.skip).bind fun (n, p) =>
        (bareItems? fuel p).map fun (ns, p) => (n :: ns, p)
    | _ => some ([], p)

/-- The value behind a key: a colon and a node, or nothing. -/
def valueOf? (inBlock : Bool) (ends : List Token) : Nat → Parser → Option (Node × Parser)
  | 0, _ => none
  | fuel + 1, p =>
    match p.peek? with
    | some .value => nodeUnless? inBlock inBlock ends fuel p.skip
    | _ => some (emptyNode, p)

/-- The pairs of a block up to its end. -/
def blockPairs? : Nat → Parser → Option (List (Node × Node) × Parser)
  | 0, _ => none
  | fuel + 1, p =>
    match p.peek? with
    | some .key =>
      (nodeUnless? true true [.key, .value, .blockEnd] fuel p.skip).bind fun (k, p) =>
        (valueOf? true [.key, .value, .blockEnd] fuel p).bind fun (v, p) =>
          (blockPairs? fuel p).map fun (ns, p) => ((k, v) :: ns, p)
    | some .blockEnd => some ([], p.skip)
    | _ => none

/-- The items between brackets up to the closing one; commas stand between them. -/
def flowItems? (first : Bool) : Nat → Parser → Option (List Node × Parser)
  | 0, _ => none
  | fuel + 1, p =>
    match p.peek?, first with
    | some .flowSequenceEnd, _ => some ([], p.skip)
    | some .flowEntry, false => flowItem? fuel p.skip
    | _, true => flowItem? fuel p
    | _, false => none

/-- One item between brackets and those behind it; an item may be a single pair. -/
def flowItem? : Nat → Parser → Option (List Node × Parser)
  | 0, _ => none
  | fuel + 1, p =>
    let more := fun (n : Node) (p : Parser) =>
      (flowItems? false fuel p).map fun (ns, p) => (n :: ns, p)
    match p.peek? with
    | some .flowSequenceEnd => some ([], p.skip)
    | some .key =>
      (nodeUnless? false false [.value, .flowEntry, .flowSequenceEnd] fuel p.skip).bind
        fun (k, p) => (valueOf? false [.flowEntry, .flowSequenceEnd] fuel p).bind
          fun (v, p) => more (.mapping none [(k, v)]) p
    | _ => (node? false false fuel p).bind fun (n, p) => more n p

/-- The pairs between braces up to the closing one; commas stand between them. -/
def flowPairs? (first : Bool) : Nat → Parser → Option (List (Node × Node) × Parser)
  | 0, _ => none
  | fuel + 1, p =>
    match p.peek?, first with
    | some .flowMappingEnd, _ => some ([], p.skip)
    | some .flowEntry, false => flowPair? fuel p.skip
    | _, true => flowPair? fuel p
    | _, false => none

/-- One pair between braces and those behind it; a value may be missing. -/
def flowPair? : Nat → Parser → Option (List (Node × Node) × Parser)
  | 0, _ => none
  | fuel + 1, p =>
    let more := fun (k v : Node) (p : Parser) =>
      (flowPairs? false fuel p).map fun (ns, p) => ((k, v) :: ns, p)
    match p.peek? with
    | some .flowMappingEnd => some ([], p.skip)
    | some .key =>
      (nodeUnless? false false [.value, .flowEntry, .flowMappingEnd] fuel p.skip).bind
        fun (k, p) => (valueOf? false [.flowEntry, .flowMappingEnd] fuel p).bind
          fun (v, p) => more k v p
    | _ => (node? false false fuel p).bind fun (k, p) => more k emptyNode p

end

/-- Takes directives: the version is 1 and stands once, a handle is defined once. -/
def directives? (versioned : Bool) (defined : List (List Char × List Char)) :
    List Token → Option (List (List Char × List Char) × List Token)
  | .version major :: rest =>
    if versioned || major != 1 then none else directives? true defined rest
  | .handle name address :: rest =>
    if (defined.lookup name).isSome then none
    else directives? versioned ((name, address) :: defined) rest
  | .directive :: rest => directives? versioned defined rest
  | rest => some (defined, rest)

/-- Past the marks that end documents. -/
def skipEnds : List Token → List Token
  | .documentEnd :: rest => skipEnds rest
  | rest => rest

/-- The document that begins with a mark or directives. -/
def explicitDocument? (ts : List Token) : Option (Node × List Token) :=
  match directives? false [] ts with
  | some (defined, .documentStart :: rest) =>
    let p : Parser := { tokens := rest, handles := defined ++ standardHandles }
    (nodeUnless? true false [.version 1, .directive, .documentStart, .documentEnd]
      (8 * rest.length + 8) p).map fun (n, p) => (n, p.tokens)
  | _ => none

/-- Whether a document begins with a mark or directives. -/
def isExplicit : Option Token → Bool
  | some .documentStart => true
  | some .directive => true
  | some (.version _) => true
  | some (.handle ..) => true
  | _ => false

/-- The first document of tokens, and the tokens behind it. -/
def firstDocument? (ts : List Token) : Option (Node × List Token) :=
  if isExplicit ts.head? then explicitDocument? ts
  else
    (node? true false (8 * ts.length + 8) { tokens := ts, handles := standardHandles }).map
      fun (n, p) => (n, p.tokens)

/-- The only document of tokens; `some none` when there is none at all. -/
def document? (ts : List Token) : Option (Option Node) :=
  if ts.isEmpty then some none
  else
    match firstDocument? ts with
    | none => none
    | some (n, rest) => if (skipEnds rest).isEmpty then some (some n) else none

end Parser

/-- The only document of a text; `some none` when the text holds none. -/
def document? (cs : List Char) : Option (Option Node) := (tokens? cs).bind Parser.document?

end Sluice.Yaml
