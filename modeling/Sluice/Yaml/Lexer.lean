import Sluice.Yaml.Scalar

/-!
# From text to tokens

The tokens of a YAML text. Two things are found out only later than where they belong. A node on one
line may turn out to be the key of a mapping, when a colon follows: its place in the list of tokens
is kept (`Candidate`), one for every level of brackets, and the tokens for a key are put there. And
a line that is indented less than a block ends it. A text that is no YAML has no tokens.
-/

namespace Sluice.Yaml

/-- A node that may turn out to be a key: the number of tokens before it, where it begins, and
whether it has to be a key. -/
structure Candidate where
  position : Nat
  required : Bool
  index : Nat
  line : Nat
  column : Nat
  deriving Repr

/-- Where the lexer is: the place in the text, the tokens so far, the levels of brackets, the
indentation of the block and of those around it, whether a key may begin here, and the candidates
for keys, the one of the innermost level first. -/
structure Lexer where
  cursor : Cursor
  tokens : Array Token := #[]
  depth : Nat := 0
  indent : Int := -1
  outer : List Int := []
  keyAllowed : Bool := true
  candidates : List (Option Candidate) := [none]
  deriving Repr

namespace Lexer

def inFlow (l : Lexer) : Bool := l.depth != 0

def column (l : Lexer) : Nat := l.cursor.column

def add (l : Lexer) (t : Token) : Lexer := { l with tokens := l.tokens.push t }

/-- Moves on by some characters. -/
def advance (l : Lexer) (n : Nat) : Lexer := { l with cursor := l.cursor.skip n }

def allowKey (l : Lexer) (allowed : Bool) : Lexer := { l with keyAllowed := allowed }

/-! ## 1. Candidates for keys -/

/-- The candidate of the innermost level. -/
def candidate? (l : Lexer) : Option Candidate := l.candidates.head?.join

def setCandidate (l : Lexer) (k? : Option Candidate) : Lexer :=
  { l with candidates := k? :: l.candidates.tail }

/-- Gives the candidate of the innermost level up; one that has to be a key cannot be given up. -/
def dropCandidate? (l : Lexer) : Option Lexer :=
  match l.candidate? with
  | some k => if k.required then none else some (l.setCandidate none)
  | none => some l

/-- Makes what begins here a candidate, if a key may begin here. -/
def noteCandidate? (l : Lexer) : Option Lexer :=
  if l.keyAllowed then
    l.dropCandidate?.map fun l => l.setCandidate (some
      ⟨l.tokens.size, !l.inFlow && l.indent == l.column, l.cursor.index, l.cursor.line, l.column⟩)
  else some l

/-- Whether a candidate lies too far back. -/
def isStale (l : Lexer) (k : Candidate) : Bool :=
  k.line != l.cursor.line || 1024 < l.cursor.index - k.index

/-- Gives up the candidates that lie too far back. -/
def dropStale? (l : Lexer) : Option Lexer :=
  if l.candidates.any fun k? => k?.any fun k => l.isStale k && k.required then none
  else some { l with candidates := l.candidates.map (·.filter fun k => !l.isStale k) }

/-! ## 2. Indentation -/

/-- Ends the blocks that are indented further than a column. -/
def unwind (column : Int) : List Int → Lexer → Lexer
  | [], l => l
  | o :: outer, l =>
    if column < l.indent then unwind column outer { l.add .blockEnd with indent := o, outer } else l

def unwindTo (l : Lexer) (column : Int) : Lexer :=
  if l.inFlow then l else unwind column l.outer l

/-- Begins a block at a column if that is further in; the tokens for it go to a position. -/
def openBlock (l : Lexer) (column : Nat) (start : Token) (position : Nat) : Lexer :=
  if l.indent < column then
    { l with
      indent := column, outer := l.indent :: l.outer
      tokens := l.tokens.insertIdxIfInBounds position start }
  else l

/-- Begins a block at the place of the lexer. -/
def openHere (l : Lexer) (start : Token) : Lexer := l.openBlock l.column start l.tokens.size

/-! ## 3. Tokens -/

/-- Over blanks, comments and line ends to the next token; behind a line end outside brackets a key
may begin. -/
def toNext : Nat → Lexer → Lexer
  | 0, l => l
  | fuel + 1, l =>
    let c := if l.cursor.index = 0 && l.cursor.nextIs '\uFEFF' then l.cursor.step else l.cursor
    let c := c.skipBlanks.skipComment
    match c.lineBreak? with
    | some (_, c) => toNext fuel { l with cursor := c, keyAllowed := l.keyAllowed || !l.inFlow }
    | none => { l with cursor := c }

/-- Ends all blocks and gives the candidate up, as it is done around documents. -/
def leaveBlocks? (l : Lexer) : Option Lexer :=
  (l.unwindTo (-1)).dropCandidate?.map fun l => l.allowKey false

/-- A mark between documents. -/
def mark? (l : Lexer) (t : Token) : Option Lexer := l.leaveBlocks?.map fun l => (l.advance 3).add t

def openFlow? (l : Lexer) (t : Token) : Option Lexer :=
  l.noteCandidate?.map fun l =>
    { (l.advance 1).add t with
      depth := l.depth + 1, keyAllowed := true, candidates := none :: l.candidates }

def closeFlow? (l : Lexer) (t : Token) : Option Lexer :=
  if l.depth = 0 then none
  else l.dropCandidate?.map fun l =>
    { (l.advance 1).add t with
      depth := l.depth - 1, keyAllowed := false, candidates := l.candidates.tail }

def flowEntry? (l : Lexer) : Option Lexer :=
  l.dropCandidate?.map fun l => ((l.advance 1).allowKey true).add .flowEntry

def blockEntry? (l : Lexer) : Option Lexer :=
  let opened? := if l.inFlow then some l
    else if l.keyAllowed then some (l.openHere .blockSequenceStart)
    else none
  opened?.bind fun l => l.dropCandidate?.map fun l => ((l.advance 1).allowKey true).add .blockEntry

/-- Begins a mapping here for a question mark or a colon of its own. -/
def openMapping? (l : Lexer) : Option Lexer :=
  if l.inFlow then some l
  else if l.keyAllowed then some (l.openHere .blockMappingStart)
  else none

def key? (l : Lexer) : Option Lexer :=
  l.openMapping?.bind fun l =>
    l.dropCandidate?.map fun l => ((l.advance 1).allowKey (!l.inFlow)).add .key

def value? (l : Lexer) : Option Lexer :=
  match l.candidate? with
  | some k =>
    let l := { l.setCandidate none with tokens := l.tokens.insertIdxIfInBounds k.position .key }
    let l := if l.inFlow then l else l.openBlock k.column .blockMappingStart k.position
    some (((l.advance 1).allowKey false).add .value)
  | none =>
    l.openMapping?.bind fun l =>
      l.dropCandidate?.map fun l => ((l.advance 1).allowKey (!l.inFlow)).add .value

/-- The name of an anchor or an alias. -/
def name? (c : Cursor) : Option (List Char × Cursor) :=
  let (name, c) := c.step.span isNameChar
  if !name.isEmpty && c.endOr (fun x => isGap x || "?:,]\x7d%@`".toList.contains x) 0 then
    some (name, c)
  else none

def named? (l : Lexer) (t : List Char → Token) : Option Lexer :=
  l.noteCandidate?.bind fun l => (name? l.cursor).map fun (name, cursor) =>
    { l.add (t name) with cursor, keyAllowed := false }

/-- The characters of addresses. -/
def isAddressChar (c : Char) : Bool :=
  c.isAlphanum || "-;/?:@&=+$,_.!~*'()[]%".toList.contains c

/-- A tag: an address between angle brackets, or a handle and what follows it. -/
def rawTag? (c : Cursor) : Option (RawTag × Cursor) :=
  if c.peekAt? 1 == some '<' then
    let (address, c) := (c.skip 2).span isAddressChar
    if !address.isEmpty && c.nextIs '>' then some (⟨none, address⟩, c.step) else none
  else if c.atGap 1 then some (⟨none, ['!']⟩, c.step)
  else
    let word := c.rest.tail.takeWhile fun x => x != '!' && !isBlankOrBreak x
    if ((c.skip (word.length + 1)).nextIs '!') then
      if word.all isNameChar then
        let (suffix, c) := (c.skip (word.length + 2)).span isAddressChar
        if suffix.isEmpty then none else some (⟨some ('!' :: word ++ ['!']), suffix⟩, c)
      else none
    else
      let (suffix, c) := c.step.span isAddressChar
      if suffix.isEmpty then none else some (⟨some ['!'], suffix⟩, c)

def tag? (l : Lexer) : Option Lexer :=
  l.noteCandidate?.bind fun l => (rawTag? l.cursor).bind fun (t, cursor) =>
    if cursor.endOr isBlankOrBreak 0 then some { l.add (.tag t) with cursor, keyAllowed := false }
    else none

def block? (fuel : Nat) (l : Lexer) (fold : Bool) : Option Lexer :=
  (l.allowKey true).dropCandidate?.bind fun l =>
    (block fold (max (l.indent + 1) 1).toNat fuel l.cursor.step).map fun (cs, cursor) =>
      { l.add (.scalar (cs.map .char) false) with cursor }

def quoted? (fuel : Nat) (l : Lexer) (double : Bool) : Option Lexer :=
  l.noteCandidate?.bind fun l => (quoted double fuel l.cursor.step).map fun (text, cursor) =>
    { l.add (.scalar text false) with cursor, keyAllowed := false }

def plain? (fuel : Nat) (l : Lexer) : Option Lexer :=
  l.noteCandidate?.map fun l =>
    let (cs, cursor, broken) := plain l.inFlow (l.indent + 1) fuel [] false l.cursor
    { l.add (.scalar (cs.map .char) true) with cursor, keyAllowed := broken }

/-! ## 4. Directives -/

private def digits? (cs : List Char) : Option Nat :=
  if cs.isEmpty then none else some (cs.foldl (fun n c => n * 10 + (c.toNat - 48)) 0)

/-- The version in a directive. -/
def version? (c : Cursor) : Option (Token × Cursor) :=
  let (major, c) := c.skipBlanks.span Char.isDigit
  let (minor, after) := c.step.span Char.isDigit
  match digits? major, c.nextIs '.', digits? minor with
  | some n, true, some _ => if after.endOr isBlankOrBreak 0 then some (.version n, after) else none
  | _, _, _ => none

/-- The handle and the address in a directive. -/
def handle? (c : Cursor) : Option (Token × Cursor) :=
  let c := c.skipBlanks
  if c.nextIs '!' then
    let (word, after) := c.step.span isNameChar
    let (name, c) : List Char × Cursor :=
      if after.nextIs '!' then ('!' :: word ++ ['!'], after.step) else (['!'], c.step)
    if c.nextIs ' ' then
      let (address, c) := c.skipBlanks.span isAddressChar
      if !address.isEmpty && c.endOr isBlankOrBreak 0 then some (.handle name address, c) else none
    else none
  else none

def directive? (l : Lexer) : Option Lexer :=
  l.leaveBlocks?.bind fun l =>
    let (name, c) := l.cursor.step.span isNameChar
    if name.isEmpty || !c.endOr isBlankOrBreak 0 then none
    else
      let found? := if name = "YAML".toList then version? c
        else if name = "TAG".toList then handle? c
        else some (.directive, c.skipWhile (!isBreak ·))
      found?.bind fun (t, c) =>
        let c := c.skipBlanks.skipComment
        if c.atLineEnd then some { l.add t with cursor := c.skipBreak } else none

/-! ## 5. All tokens -/

/-- One more token, which begins here. -/
def token? (fuel : Nat) (l : Lexer) : Option Lexer :=
  let c := l.cursor
  let atStart := c.column == 0
  match c.peek? with
  | none => none
  | some x =>
    if x == '%' && atStart then l.directive?
    else if atStart && c.atMark '-' then l.mark? .documentStart
    else if atStart && c.atMark '.' then l.mark? .documentEnd
    else if x == '[' then l.openFlow? .flowSequenceStart
    else if x == '{' then l.openFlow? .flowMappingStart
    else if x == ']' then l.closeFlow? .flowSequenceEnd
    else if x == '}' then l.closeFlow? .flowMappingEnd
    else if x == ',' then l.flowEntry?
    else if x == '-' && c.atGap 1 then l.blockEntry?
    else if x == '?' && (l.inFlow || c.atGap 1) then l.key?
    else if x == ':' && (l.inFlow || c.atGap 1) then l.value?
    else if x == '*' then l.named? .alias
    else if x == '&' then l.named? .anchor
    else if x == '!' then l.tag?
    else if x == '|' && !l.inFlow then l.block? fuel false
    else if x == '>' && !l.inFlow then l.block? fuel true
    else if x == '\'' then l.quoted? fuel false
    else if x == '"' then l.quoted? fuel true
    else if startsPlain l.inFlow c then l.plain? fuel
    else none

/-- The tokens up to the end of the text. -/
def run (length : Nat) : Nat → Lexer → Option (List Token)
  | 0, _ => none
  | fuel + 1, l =>
    ((l.toNext (length + 1)).dropStale?).bind fun l =>
      let l := l.unwindTo l.column
      if l.cursor.rest.isEmpty then l.leaveBlocks?.map fun l => l.tokens.toList
      else (l.token? (length + 1)).bind (run length fuel)

end Lexer

/-- The tokens of a text, if it is one. -/
def tokens? (cs : List Char) : Option (List Token) :=
  if cs.all isPrintable then
    Lexer.run cs.length (cs.length + 1) { cursor := { rest := cs } }
  else none

end Sluice.Yaml
