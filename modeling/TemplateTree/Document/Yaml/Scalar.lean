import TemplateTree.Document.Yaml.Token

/-!
# Scalars of indented documents

Bare, quoted and block scalars with their folding of line breaks, and the small
tokens that stand before a node: anchors, tags and directives.
-/

namespace TemplateTree.Yaml

/-- Blanks and line breaks inside a scalar. -/
structure Gap where
  /-- The blanks before the first line break. -/
  spaces : Text
  broke : Bool
  /-- The first line break. -/
  first : Text
  /-- The line breaks after the first. -/
  further : Text

/-- What a gap contributes to a scalar: a single line break folds to a space,
and of several the first is dropped. -/
def Gap.folded (g : Gap) : Text :=
  if !g.broke then g.spaces
  else if g.first.head? = some '\n' then (if g.further = [] then [' '] else g.further)
  else g.first ++ g.further

/-- Read a gap; in a bare scalar a tab may not stand in the indentation. -/
def readGap? (bare : Bool) (indent : Int) : Nat → Gap → Cursor → Option (Gap × Cursor)
  | 0, g, p => some (g, p)
  | fuel + 1, g, p =>
    match p.rest with
    | [] => some (g, p)
    | c :: _ =>
      if Text.isIndent c then
        if bare && g.broke && (p.column : Int) < indent && c = '\t' then none
        else if g.broke then readGap? bare indent fuel g (p.skip 1)
        else readGap? bare indent fuel { g with spaces := g.spaces ++ [c] } (p.skip 1)
      else if isBreak c then
        let (b, p') := p.skipBreak
        if g.broke then readGap? bare indent fuel { g with further := g.further ++ b } p'
        else readGap? bare indent fuel { g with broke := true, first := b } p'
      else some (g, p)

/-- The characters of a bare scalar up to the next gap or indicator. -/
def bareWord? (flow : Bool) : Text → Option Text
  | [] => some []
  | c :: r =>
    if isGap (some c) then some []
    else if flow && c = ':' && r.head?.any (· ∈ [',', '?', '[', ']', '\x7b', '\x7d']) then none
    else if (c = ':' && isGap r.head?)
        || (flow && (c ∈ [',', '[', ']', '\x7b', '\x7d'] : Bool)) then some []
    else (bareWord? flow r).map (c :: ·)

/-- A bare scalar: its text, whether a line break follows its last word, and
the place after it. -/
def readBare? (flow : Bool) (indent : Int) :
    Nat → Gap → Text → Cursor → Option (Text × Bool × Cursor)
  | 0, _, _, _ => none
  | fuel + 1, gap, text, p =>
    if p.atBoundary || p.peek 0 = some '#' then some (text, gap.broke, p)
    else
      match bareWord? flow p.rest with
      | none => none
      | some word =>
        let text' := if word = [] then text else text ++ gap.folded ++ word
        let p' := p.skip word.length
        let broke := if word = [] then gap.broke else false
        if p'.rest = [] || !isGap (p'.peek 0) then some (text', broke, p')
        else
          match readGap? true indent (p'.rest.length + 1) ⟨[], false, [], []⟩ p' with
          | none => none
          | some (gap', p'') =>
            if !flow && (p''.column : Int) < indent then some (text', gap'.broke, p'')
            else readBare? flow indent fuel gap' text' p''

def escapeValue? : Char → Option Nat
  | '0' => some 0
  | 'a' => some 7
  | 'b' => some 8
  | 't' => some 9
  | '\t' => some 9
  | 'n' => some 10
  | 'v' => some 11
  | 'f' => some 12
  | 'r' => some 13
  | 'e' => some 27
  | ' ' => some 32
  | '"' => some 34
  | '/' => some 47
  | '\\' => some 92
  | 'N' => some 0x85
  | '_' => some 0xA0
  | 'L' => some 0x2028
  | 'P' => some 0x2029
  | _ => none

def escapeWidth? : Char → Option Nat
  | 'x' => some 2
  | 'u' => some 4
  | 'U' => some 8
  | _ => none

/-- The characters of a quoted scalar up to a gap or the closing quote, whether
an escaped line break ends them, and the place after them. -/
def readQuotedWord? (quote : Char) : Nat → Cursor → Option (Text × Bool × Cursor)
  | 0, _ => none
  | fuel + 1, p =>
    match p.rest with
    | [] => some ([], false, p)
    | c :: r =>
      if isGap (some c) then some ([], false, p)
      else if quote = '\'' && c = '\'' && r.head? = some '\'' then
        (readQuotedWord? quote fuel (p.skip 2)).map fun (t, b, p') => ('\'' :: t, b, p')
      else if c = quote then some ([], false, p)
      else if quote = '"' && c = '\\' then
        match r with
        | [] => none
        | e :: _ =>
          if isBreak e then some ([], true, ((p.skip 1).skipBreak).2)
          else
            match escapeValue? e, escapeWidth? e with
            | some n, _ =>
              (readQuotedWord? quote fuel (p.skip 2)).map fun (t, b, p') =>
                (Char.ofNat n :: t, b, p')
            | none, some width =>
              let digits := (r.drop 1).take width
              match Text.readBase? 16 digits with
              | none => none
              | some n =>
                if digits.length < width || (0xD800 ≤ n && n ≤ 0xDFFF) || n > 0x10FFFF then none
                else
                  (readQuotedWord? quote fuel (p.skip (2 + width))).map fun (t, b, p') =>
                    (Char.ofNat n :: t, b, p')
            | none, none => none
      else
        (readQuotedWord? quote fuel (p.skip 1)).map fun (t, b, p') => (c :: t, b, p')

/-- A quoted scalar; its opening quote is already passed. -/
def readQuoted? (quote : Char) : Nat → Text → Cursor → Option (Text × Cursor)
  | 0, _, _ => none
  | fuel + 1, text, p =>
    if p.atBoundary || p.rest = [] then none
    else
      match readQuotedWord? quote (p.rest.length + 1) p with
      | none => none
      | some (word, escaped, p') =>
        if p'.peek 0 = some quote then some (text ++ word, p'.skip 1)
        else
          match readGap? false 0 (p'.rest.length + 1) ⟨[], escaped, [], []⟩ p' with
          | none => none
          | some (gap, p'') => readQuoted? quote fuel (text ++ word ++ gap.folded) p''

inductive Chomping where
  | strip | clip | keep
  deriving DecidableEq, Repr

/-- The indentation and the line breaks before the next line of a block scalar.
An indentation of zero is not known yet; `least` is the least it may be. -/
def readBlockBreaks? (least : Nat) : Nat → Nat → Nat → Text → Cursor →
    Option (Nat × Text × Cursor)
  | 0, _, _, _, _ => none
  | fuel + 1, indent, widest, breaks, p =>
    let spaces := (p.rest.takeWhile (· = ' ')).length
    let steps := if indent = 0 then spaces else min spaces (indent - p.column)
    let p' := p.skip steps
    let widest' := max widest p'.column
    if (indent = 0 || p'.column < indent) && p'.peek 0 = some '\t' then none
    else if p'.rest ≠ [] && p'.atLineEnd then
      let (b, p'') := p'.skipBreak
      readBlockBreaks? least fuel indent widest' (breaks ++ b) p''
    else
      let found := if indent = 0 then max (max widest' least) 1 else indent
      some (found, breaks, p')

/-- The lines of a block scalar: the text, the last line break and the breaks
after it. -/
def readBlockLines? (folding : Bool) (indent : Nat) :
    Nat → Bool → Text → Text → Text → Cursor → Option (Text × Text × Text × Cursor)
  | 0, _, _, _, _, _ => none
  | fuel + 1, blankBefore, text, last, breaks, p =>
    if p.column ≠ indent || p.rest = [] then some (text, last, breaks, p)
    else
      let blankHere := p.rest.head?.any Text.isIndent
      let joint :=
        if folding && last.head? = some '\n' && !blankBefore && !blankHere then
          (if breaks = [] then [' '] else [])
        else last
      let line := p.rest.takeWhile (fun c => !isBreak c)
      let (b, p') := (p.skip line.length).skipBreak
      match readBlockBreaks? 1 (p'.rest.length + 1) indent 0 [] p' with
      | none => none
      | some (_, breaks', p'') =>
        readBlockLines? folding indent fuel blankHere (text ++ joint ++ breaks ++ line) b
          breaks' p''

/-- The chomping and indentation indicators of a block scalar, in either
order. -/
def readBlockHeader? (p : Cursor) : Option (Chomping × Nat × Cursor) :=
  let chomp? : Option Char → Option Chomping
    | some '+' => some .keep
    | some '-' => some .strip
    | _ => none
  let width? : Option Char → Option Nat
    | some c => if c.isDigit then some (Text.digitValue c) else none
    | none => none
  match chomp? (p.peek 0) with
  | some ch =>
    match width? (p.peek 1) with
    | some 0 => none
    | some n => some (ch, n, p.skip 2)
    | none => some (ch, 0, p.skip 1)
  | none =>
    match width? (p.peek 0) with
    | some 0 => none
    | some n =>
      match chomp? (p.peek 1) with
      | some ch => some (ch, n, p.skip 2)
      | none => some (.clip, n, p.skip 1)
    | none => some (.clip, 0, p)

/-- A block scalar; its indicator is already passed, and `parent` is the
indentation around it. -/
def readBlock? (folding : Bool) (parent : Int) (p : Cursor) : Option (Text × Cursor) :=
  match readBlockHeader? p with
  | none => none
  | some (chomping, width, p') =>
    let p' := p'.skipIndent
    let p' := if p'.peek 0 = some '#' then p'.skipLine else p'
    if !p'.atLineEnd then none
    else
      let p' := p'.skipBreak.2
      let indent := if width = 0 then 0 else (if parent ≥ 0 then parent.toNat else 0) + width
      match readBlockBreaks? (parent + 1).toNat (p'.rest.length + 1) indent 0 [] p' with
      | none => none
      | some (indent, breaks, p') =>
        match readBlockLines? folding indent (p'.rest.length + 1) false [] [] breaks p' with
        | none => none
        | some (text, last, breaks, p') =>
          match chomping with
          | .strip => some (text, p')
          | .clip => some (text ++ last, p')
          | .keep => some (text ++ last ++ breaks, p')

def isNameChar (c : Char) : Bool :=
  c.isAlphanum || c = '_' || c = '-'

def readName? (p : Cursor) : Option (Text × Cursor) :=
  let name := p.rest.takeWhile isNameChar
  let p' := p.skip name.length
  let ends := isGap (p'.peek 0)
    || (p'.peek 0).any (· ∈ ['?', ':', ',', ']', '\x7d', '%', '@', Char.ofNat 0x60])
  if name = [] || !ends then none else some (name, p')

def isTagChar (verbatim : Bool) (c : Char) : Bool :=
  isNameChar c || c ∈ [';', '/', '?', ':', '@', '&', '=', '+', '$', '.', '!', '~', '*', '\'', '(',
    ')', '%'] || (verbatim && c ∈ [',', '[', ']'])

/-- A tag; its exclamation mark is already passed. -/
def readTag? (flow : Bool) (p : Cursor) : Option (Text × Text × Cursor) :=
  let ended (p' : Cursor) := isGap (p'.peek 0) || (flow && p'.peek 0 = some ',')
  match p.rest with
  | '<' :: r =>
    let uri := r.takeWhile (isTagChar true)
    let p' := p.skip (1 + uri.length)
    if uri ≠ [] && p'.peek 0 = some '>' && ended (p'.skip 1) then some ([], uri, p'.skip 1)
    else none
  | _ =>
    let word := p.rest.takeWhile isNameChar
    let p' := p.skip word.length
    if p'.peek 0 = some '!' then
      let p' := p'.skip 1
      let suffix := p'.rest.takeWhile (isTagChar false)
      let p'' := p'.skip suffix.length
      if suffix ≠ [] && ended p'' then some ('!' :: word ++ ['!'], suffix, p'') else none
    else
      let suffix := p.rest.takeWhile (isTagChar false)
      let p'' := p.skip suffix.length
      if ended p'' then
        some (if suffix = [] then ([], ['!'], p'') else (['!'], suffix, p''))
      else none

/-- A directive; its percent sign is already passed. -/
def readDirective? (p : Cursor) : Option (Token × Cursor) :=
  let name := p.rest.takeWhile isNameChar
  let p' := (p.skip name.length).skipIndent
  let finish (token : Token) (q : Cursor) : Option (Token × Cursor) :=
    let q := q.skipIndent
    let q := if q.peek 0 = some '#' then q.skipLine else q
    if q.atLineEnd then some (token, q.skipBreak.2) else none
  if !isGap (p.peek name.length) then none
  else if name = "YAML" then
    let major := p'.rest.takeWhile Char.isDigit
    let p'' := p'.skip major.length
    let minor := (p''.rest.drop 1).takeWhile Char.isDigit
    if p''.peek 0 = some '.' && major ≠ [] && minor ≠ [] && major.length < 10
        && minor.length < 10 then
      finish (.versionDirective (Text.valueFrom 10 0 major) (Text.valueFrom 10 0 minor))
        (p''.skip (1 + minor.length))
    else none
  else if name = "TAG" then
    let word := (p'.rest.drop 1).takeWhile isNameChar
    let closed := p'.peek (1 + word.length) = some '!'
    let handle := if closed then '!' :: word ++ ['!'] else '!' :: word
    let p'' := p'.skip handle.length
    let p3 := p''.skipIndent
    let lead := p3.rest.takeWhile (isTagChar true)
    let p4 := p3.skip lead.length
    if p'.peek 0 = some '!' && (closed || word = []) && p3.column > p''.column && lead ≠ []
        && isGap (p4.peek 0) then
      finish (.tagDirective handle lead) p4
    else none
  else none

end TemplateTree.Yaml
