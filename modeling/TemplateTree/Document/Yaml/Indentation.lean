import TemplateTree.Document.Yaml.Scalar

/-!
# From indentation to tokens

The reader of tokens keeps the columns of the open blocks, the depth of flow
collections, and for each flow level the place where a mapping key may have
begun.  When it fails, the tokens from the first undecided key on are withheld,
since what they are is not known.
-/

namespace TemplateTree.Yaml

/-- A place where a mapping key may have begun. -/
structure PossibleKey where
  required : Bool
  /-- The position of the key among the tokens. -/
  number : Nat
  line : Nat
  column : Nat
  index : Nat

/-- The state of the reader of tokens. -/
structure Scanner where
  place : Cursor
  /-- The tokens so far, the last one first. -/
  tokens : List Token
  /-- The column of the innermost block, and of those around it. -/
  indent : Int
  outer : List Int
  /-- The depth of flow collections. -/
  flow : Nat
  keyAllowed : Bool
  /-- The possible key of each flow level, innermost first. -/
  keys : List (Option PossibleKey)

namespace Scanner

def emit (s : Scanner) (t : Token) : Scanner :=
  { s with tokens := t :: s.tokens }

/-- Put a token before the one with the given number. -/
def emitAt (s : Scanner) (number : Nat) (t : Token) : Scanner :=
  let after := s.tokens.length - number
  { s with tokens := s.tokens.take after ++ t :: s.tokens.drop after }

/-- Forget the possible key of the innermost level; a required key may not be
forgotten. -/
def dropKey? (s : Scanner) : Option Scanner :=
  match s.keys with
  | some k :: rest => if k.required then none else some { s with keys := none :: rest }
  | _ => some s

/-- Note that a mapping key may begin here. -/
def noteKey? (s : Scanner) : Option Scanner :=
  if !s.keyAllowed then some s
  else
    let key : PossibleKey :=
      ⟨s.flow == 0 && s.indent == s.place.column, s.tokens.length, s.place.line,
        s.place.column, s.place.index⟩
    (s.dropKey?).map fun s' => { s' with keys := some key :: s'.keys.drop 1 }

def maxKeyLength : Nat := 1024

/-- Forget possible keys that began on an earlier line or too far back. -/
def dropStale? (s : Scanner) : Option Scanner :=
  let stale (k : PossibleKey) : Bool :=
    k.line < s.place.line || k.index + maxKeyLength < s.place.index
  if s.keys.any (fun k => k.any (fun k => stale k && k.required)) then none
  else some { s with keys := s.keys.map (fun k => k.filter (fun k => !stale k)) }

/-- Close the blocks that stand to the right of a column. -/
def closeBlocks (column : Int) : List Int → Scanner → Scanner
  | [], s => s
  | o :: os, s =>
    if s.indent > column then
      closeBlocks column os { s.emit .blockEnd with indent := o, outer := os }
    else s

/-- Close blocks unless a flow collection is open. -/
def unroll (s : Scanner) (column : Int) : Scanner :=
  if s.flow > 0 then s else closeBlocks column s.outer s

/-- Open a block at a column, before the token with the given number. -/
def roll (s : Scanner) (column : Int) (number : Nat) (t : Token) : Scanner :=
  if s.flow > 0 || s.indent ≥ column then s
  else { s.emitAt number t with indent := column, outer := s.indent :: s.outer }

def skipToToken : Nat → Scanner → Scanner
  | 0, s => s
  | fuel + 1, s =>
    match s.place.rest with
    | [] => s
    | c :: _ =>
      if c = ' ' || (c = '\t' && (s.flow > 0 || !s.keyAllowed)) then
        skipToToken fuel { s with place := s.place.skip 1 }
      else if c = '#' then skipToToken fuel { s with place := s.place.skipLine }
      else if isBreak c then
        skipToToken fuel
          { s with place := s.place.skipBreak.2, keyAllowed := s.keyAllowed || s.flow == 0 }
      else s

def take (s : Scanner) (k : Nat) (t : Token) : Scanner :=
  { s.emit t with place := s.place.skip k }

def atMargin? (s : Scanner) : Option Scanner :=
  ((s.unroll (-1)).dropKey?).map fun s' => { s' with keyAllowed := false }

def openFlow? (s : Scanner) (t : Token) : Option Scanner :=
  (s.noteKey?).map fun s' =>
    { s'.take 1 t with flow := s'.flow + 1, keys := none :: s'.keys, keyAllowed := true }

def closeFlow? (s : Scanner) (t : Token) : Option Scanner :=
  (s.dropKey?).map fun s' =>
    { s'.take 1 t with
      flow := s'.flow - 1
      keys := if s'.flow > 0 then s'.keys.drop 1 else s'.keys
      keyAllowed := false }

def blockEntry? (s : Scanner) : Option Scanner :=
  if s.flow == 0 && !s.keyAllowed then none
  else
    ((s.roll s.place.column s.tokens.length .blockSequence).dropKey?).map fun s' =>
      { s'.take 1 .blockEntry with keyAllowed := true }

def explicitKey? (s : Scanner) : Option Scanner :=
  if s.flow == 0 && !s.keyAllowed then none
  else
    ((s.roll s.place.column s.tokens.length .blockMapping).dropKey?).map fun s' =>
      { s'.take 1 .key with keyAllowed := s'.flow == 0 }

/-- The colon before a value, which decides that a possible key is a key. -/
def value? (s : Scanner) : Option Scanner :=
  match s.keys with
  | some k :: rest =>
    let s' := (s.emitAt k.number .key).roll k.column k.number .blockMapping
    some { s'.take 1 .value with keys := none :: rest, keyAllowed := false }
  | _ =>
    if s.flow == 0 && !s.keyAllowed then none
    else
      let s' := s.roll s.place.column s.tokens.length .blockMapping
      some { s'.take 1 .value with keyAllowed := s'.flow == 0 }

def keyLike? (s : Scanner) (read : Cursor → Option (Token × Cursor)) : Option Scanner :=
  match s.noteKey? with
  | none => none
  | some s' =>
    (read s'.place).map fun (t, p) => { s'.emit t with place := p, keyAllowed := false }

def bareScalar? (s : Scanner) : Option Scanner :=
  match s.noteKey? with
  | none => none
  | some s' =>
    (readBare? (s'.flow > 0) (s'.indent + 1) (s'.place.rest.length + 1) ⟨[], false, [], []⟩ []
      s'.place).map fun (t, broke, p) =>
        { s'.emit (.scalar .bare t) with place := p, keyAllowed := broke }

def blockScalar? (s : Scanner) (folding : Bool) : Option Scanner :=
  match s.dropKey? with
  | none => none
  | some s' =>
    (readBlock? folding s'.indent (s'.place.skip 1)).map fun (t, p) =>
      { s'.emit (.scalar (if folding then .quoted else .block) t) with
        place := p, keyAllowed := true }

/-- Whether a bare scalar may begin with a character, given the next one. -/
def beginsBare (flow : Bool) (c : Char) (next : Option Char) : Bool :=
  let indicators : List Char :=
    ['-', '?', ':', ',', '[', ']', '\x7b', '\x7d', '#', '&', '*', '!', '|', '>', '\'', '"', '%',
      '@', Char.ofNat 0x60]
  !(isGap (some c) || indicators.contains c)
    || (c = '-' && !(next.any Text.isIndent))
    || (!flow && (c = '?' || c = ':') && !isGap next)

def token? (s : Scanner) (c : Char) : Option Scanner :=
  let next := s.place.peek 1
  let flow := s.flow > 0
  if s.place.column = 0 && c = '%' then
    match s.atMargin? with
    | none => none
    | some s' =>
      (readDirective? (s'.place.skip 1)).map fun (t, p) => { s'.emit t with place := p }
  else if s.place.atMarker '-' then (s.atMargin?).map (·.take 3 .documentStart)
  else if s.place.atMarker '.' then (s.atMargin?).map (·.take 3 .documentEnd)
  else if c = '[' then s.openFlow? .flowSequence
  else if c = '\x7b' then s.openFlow? .flowMapping
  else if c = ']' then s.closeFlow? .flowSequenceEnd
  else if c = '\x7d' then s.closeFlow? .flowMappingEnd
  else if c = ',' then
    (s.dropKey?).map fun s' => { s'.take 1 .flowEntry with keyAllowed := true }
  else if c = '-' && isGap next then s.blockEntry?
  else if c = '?' && (flow || isGap next) then s.explicitKey?
  else if c = ':' && (flow || isGap next) then s.value?
  else if c = '*' then
    s.keyLike? fun p => (readName? (p.skip 1)).map fun (n, p') => (.alias n, p')
  else if c = '&' then
    s.keyLike? fun p => (readName? (p.skip 1)).map fun (n, p') => (.anchor n, p')
  else if c = '!' then
    s.keyLike? fun p => (readTag? flow (p.skip 1)).map fun (h, t, p') => (.tag h t, p')
  else if c = '|' && !flow then s.blockScalar? false
  else if c = '>' && !flow then s.blockScalar? true
  else if c = '\'' || c = '"' then
    s.keyLike? fun p =>
      (readQuoted? c (p.rest.length + 1) [] (p.skip 1)).map fun (t, p') =>
        (.scalar .quoted t, p')
  else if beginsBare flow c next then s.bareScalar?
  else none

def settled (s : Scanner) : List Token :=
  let pending := s.keys.filterMap fun k => k.map PossibleKey.number
  s.tokens.reverse.take (pending.foldl min s.tokens.length)

/-- Read tokens to the end of the document.  Without a stream end in last place
the syntax fails after them. -/
def run : Nat → Scanner → List Token
  | 0, s => s.settled
  | fuel + 1, s =>
    let s := skipToToken (s.place.rest.length + 1) s
    match s.dropStale? with
    | none => s.settled
    | some s =>
      let s := s.unroll s.place.column
      match s.place.rest with
      | [] =>
        let closed := s.unroll (-1)
        match closed.dropKey? with
        | some s' => (s'.emit .streamEnd).tokens.reverse
        | none => closed.settled
      | c :: _ =>
        match s.token? c with
        | some s' => run fuel s'
        | none => s.settled

end Scanner

/-- A character that documents may hold. -/
def isAllowed (c : Char) : Bool :=
  let n := c.toNat
  n = 9 || n = 10 || n = 13 || (32 ≤ n && n ≤ 126) || n = 0x85
    || (0xA0 ≤ n && n ≤ 0xFFFD && n ≠ 0xFEFF) || 0x10000 ≤ n

/-- The tokens of a document; none at all if it holds a character that is not
allowed. -/
def tokens (t : Text) : List Token :=
  let body := if t.head? = some (Char.ofNat 0xFEFF) then t.drop 1 else t
  if body.all isAllowed then
    Scanner.run (body.length + 2)
      ⟨⟨body, 0, 0, 0⟩, [], -1, [], 0, true, [none]⟩
  else []

end TemplateTree.Yaml
