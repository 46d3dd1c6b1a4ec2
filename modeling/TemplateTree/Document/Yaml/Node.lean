import TemplateTree.Document.Yaml.Indentation

/-!
# From tokens to outlines

A recursive reader of nodes.  When a token does not fit, the reader gives up
the tokens that are left, and every construct still open then ends in a broken
node, because it finds no token to close it.
-/

namespace TemplateTree.Yaml

/-- What is left to read, and the nodes that anchors name. -/
structure Feed where
  tokens : List Token
  anchors : List (Text × Outline)
  /-- The tag handles that the document declares, with what they stand for. -/
  handles : List (Text × Text)

namespace Feed

def advance (f : Feed) : Feed :=
  { f with tokens := f.tokens.drop 1 }

def spent (f : Feed) : Feed :=
  { f with tokens := [] }

def name (f : Feed) (anchor : Option Text) (node : Outline) : Feed :=
  match anchor with
  | some a => { f with anchors := (a, node) :: f.anchors }
  | none => f

end Feed

def emptyNode : Outline :=
  .scalar .bare .untagged []

structure Properties where
  anchor : Option Text
  tag : Option (Text × Text)

/-- Read the anchor and the tag before a node, in either order. -/
def readProperties (f : Feed) : Properties × Feed :=
  match f.tokens with
  | .anchor a :: .tag h s :: rest => (⟨some a, some (h, s)⟩, { f with tokens := rest })
  | .tag h s :: .anchor a :: rest => (⟨some a, some (h, s)⟩, { f with tokens := rest })
  | .anchor a :: rest => (⟨some a, none⟩, { f with tokens := rest })
  | .tag h s :: rest => (⟨none, some (h, s)⟩, { f with tokens := rest })
  | _ => (⟨none, none⟩, f)

/-- What the handle `!!` stands for. -/
def coreLead : Text := "tag:yaml.org,2002:"

/-- The full name of a tag, `none` if its handle is not declared. -/
def tagName? (f : Feed) : Option (Text × Text) → Option (Option Text)
  | none => some none
  | some ([], suffix) => some (some suffix)
  | some (handle, suffix) =>
    match f.handles.lookup handle with
    | some lead => some (some (lead ++ suffix))
    | none =>
      if handle = ['!'] then some (some ('!' :: suffix))
      else if handle = ['!', '!'] then some (some (coreLead ++ suffix))
      else none

def scalarTag : Option Text → ScalarTag
  | none => .untagged
  | some name =>
    if name = ['!'] then .untagged
    else if name.head? = some '!' then .own
    else if name = coreLead ++ "bool" then .bool
    else if name = coreLead ++ "int" then .int
    else if name = coreLead ++ "float" then .float
    else if name = coreLead ++ "null" then .null
    else .other

def underTag (tag : Option Text) (node : Outline) : Outline :=
  match tag with
  | some ('!' :: _) => .tagged node
  | _ => node

mutual

/-- A node.  In `block` context it may be a block; with `indentless` a sequence
may stand at the column of the mapping around it. -/
def readNode (fuel : Nat) (block indentless : Bool) (f : Feed) : Outline × Feed :=
  match fuel with
  | 0 => (.broken, f.spent)
  | fuel + 1 =>
    match f.tokens with
    | .alias a :: rest =>
      match f.anchors.lookup a with
      | some node => (node, { f with tokens := rest })
      | none => (.broken, f.spent)
    | _ =>
      let (props, f) := readProperties f
      match tagName? f props.tag with
      | none => (.broken, f.spent)
      | some tag =>
        let opened := f.name props.anchor .broken
        let close (items : List Outline × Feed) : Outline × Feed :=
          let node := underTag tag (.list items.1)
          (node, items.2.name props.anchor node)
        let closeTable (entries : List (Outline × Outline) × Feed) : Outline × Feed :=
          let node := underTag tag (.table entries.1)
          (node, entries.2.name props.anchor node)
        let atEntry := f.tokens.head? = some .blockEntry
        if indentless && atEntry then close (readIndentless fuel opened)
        else
          match f.tokens with
          | .scalar style t :: rest =>
            let node := Outline.scalar style (scalarTag tag) t
            (node, { f with tokens := rest }.name props.anchor node)
          | .flowSequence :: _ => close (readFlowItems fuel true opened.advance)
          | .flowMapping :: _ => closeTable (readFlowEntries fuel true opened.advance)
          | .blockSequence :: _ =>
            if block then close (readBlockItems fuel opened.advance) else (.broken, f.spent)
          | .blockMapping :: _ =>
            if block then closeTable (readBlockEntries fuel opened.advance) else (.broken, f.spent)
          | [] => (.broken, f.spent)
          | _ =>
            if props.anchor.isSome || props.tag.isSome then
              let node := Outline.scalar .bare (scalarTag tag) []
              (node, f.name props.anchor node)
            else (.broken, f.spent)

def readBlockItems (fuel : Nat) (f : Feed) : List Outline × Feed :=
  match fuel with
  | 0 => ([.broken], f.spent)
  | fuel + 1 =>
    match f.tokens with
    | .blockEnd :: _ => ([], f.advance)
    | .blockEntry :: rest =>
      let (node, f) :=
        match rest with
        | .blockEntry :: _ => (emptyNode, f.advance)
        | .blockEnd :: _ => (emptyNode, f.advance)
        | _ => readNode fuel true false f.advance
      let (nodes, f) := readBlockItems fuel f
      (node :: nodes, f)
    | _ => ([.broken], f.spent)

/-- The items of a sequence at the column of the mapping around it. -/
def readIndentless (fuel : Nat) (f : Feed) : List Outline × Feed :=
  match fuel with
  | 0 => ([.broken], f.spent)
  | fuel + 1 =>
    match f.tokens with
    | .blockEntry :: rest =>
      let (node, f) :=
        match rest with
        | .blockEntry :: _ => (emptyNode, f.advance)
        | .key :: _ => (emptyNode, f.advance)
        | .value :: _ => (emptyNode, f.advance)
        | .blockEnd :: _ => (emptyNode, f.advance)
        | _ => readNode fuel true false f.advance
      let (nodes, f) := readIndentless fuel f
      (node :: nodes, f)
    | [] => ([.broken], f.spent)
    | _ => ([], f)

def readBlockEntries (fuel : Nat) (f : Feed) : List (Outline × Outline) × Feed :=
  match fuel with
  | 0 => ([(.broken, .broken)], f.spent)
  | fuel + 1 =>
    let ends (rest : List Token) : Bool :=
      match rest with
      | .key :: _ | .value :: _ | .blockEnd :: _ => true
      | _ => false
    let value (f : Feed) : Outline × Feed :=
      match f.tokens with
      | .value :: rest =>
        if ends rest then (emptyNode, f.advance) else readNode fuel true true f.advance
      | [] => (.broken, f)
      | _ => (emptyNode, f)
    match f.tokens with
    | .blockEnd :: _ => ([], f.advance)
    | .key :: rest =>
      let (key, f) :=
        if ends rest then (emptyNode, f.advance) else readNode fuel true true f.advance
      let (node, f) := value f
      let (entries, f) := readBlockEntries fuel f
      ((key, node) :: entries, f)
    | .value :: _ =>
      let (node, f) := value f
      let (entries, f) := readBlockEntries fuel f
      ((emptyNode, node) :: entries, f)
    | _ => ([(.broken, .broken)], f.spent)

/-- The items of a flow sequence, to its end; an item may be a single pair. -/
def readFlowItems (fuel : Nat) (first : Bool) (f : Feed) : List Outline × Feed :=
  match fuel with
  | 0 => ([.broken], f.spent)
  | fuel + 1 =>
    let item (f : Feed) : List Outline × Feed :=
      match f.tokens with
      | .flowSequenceEnd :: _ => ([], f.advance)
      | .key :: rest =>
        let (key, f) :=
          match rest with
          | .value :: _ | .flowEntry :: _ | .flowSequenceEnd :: _ => (emptyNode, f.advance.advance)
          | _ => readNode fuel false false f.advance
        let (node, f) :=
          match f.tokens with
          | .value :: .flowEntry :: _ | .value :: .flowSequenceEnd :: _ => (emptyNode, f.advance)
          | .value :: _ => readNode fuel false false f.advance
          | [] => (.broken, f)
          | _ => (emptyNode, f)
        let (nodes, f) := readFlowItems fuel false f
        (.table [(key, node)] :: nodes, f)
      | _ =>
        let (node, f) := readNode fuel false false f
        let (nodes, f) := readFlowItems fuel false f
        (node :: nodes, f)
    if first then item f
    else
      match f.tokens with
      | .flowSequenceEnd :: _ => ([], f.advance)
      | .flowEntry :: _ => item f.advance
      | _ => ([.broken], f.spent)

def readFlowEntries (fuel : Nat) (first : Bool) (f : Feed) : List (Outline × Outline) × Feed :=
  match fuel with
  | 0 => ([(.broken, .broken)], f.spent)
  | fuel + 1 =>
    let value (f : Feed) : Outline × Feed :=
      match f.tokens with
      | .value :: .flowEntry :: _ | .value :: .flowMappingEnd :: _ => (emptyNode, f.advance)
      | .value :: _ => readNode fuel false false f.advance
      | [] => (.broken, f)
      | _ => (emptyNode, f)
    let entry (f : Feed) : List (Outline × Outline) × Feed :=
      match f.tokens with
      | .flowMappingEnd :: _ => ([], f.advance)
      | .key :: rest =>
        let (key, f) :=
          match rest with
          | .value :: _ | .flowEntry :: _ | .flowMappingEnd :: _ => (emptyNode, f.advance)
          | _ => readNode fuel false false f.advance
        let (node, f) := value f
        let (entries, f) := readFlowEntries fuel false f
        ((key, node) :: entries, f)
      | _ =>
        let (key, f) := readNode fuel false false f
        let (entries, f) := readFlowEntries fuel false f
        ((key, emptyNode) :: entries, f)
    if first then entry f
    else
      match f.tokens with
      | .flowMappingEnd :: _ => ([], f.advance)
      | .flowEntry :: _ => entry f.advance
      | _ => ([(.broken, .broken)], f.spent)

end

/-- Read directives before a document; `none` if they contradict each other. -/
def readDirectives? : List Token → Option Nat → List (Text × Text) →
    Option (List (Text × Text) × List Token)
  | .versionDirective major minor :: rest, seen, handles =>
    if seen.isSome || major ≠ 1 || (minor ≠ 1 && minor ≠ 2) then none
    else readDirectives? rest (some minor) handles
  | .tagDirective handle lead :: rest, seen, handles =>
    if (handles.lookup handle).isSome then none
    else readDirectives? rest seen ((handle, lead) :: handles)
  | tokens, _, handles => some (handles, tokens)

def beginsDirective : List Token → Bool
  | .versionDirective .. :: _ => true
  | .tagDirective .. :: _ => true
  | _ => false

def readContent (fuel : Nat) (f : Feed) : Outline × Feed :=
  match f.tokens with
  | .documentStart :: _ | .documentEnd :: _ | .streamEnd :: _ => (emptyNode, f)
  | _ => if beginsDirective f.tokens then (emptyNode, f) else readNode fuel true false f

def skipDocumentEnds : List Token → List Token
  | .documentEnd :: rest => skipDocumentEnds rest
  | tokens => tokens

def hasTrailing (f : Feed) : Bool :=
  match skipDocumentEnds f.tokens with
  | [.streamEnd] => false
  | _ => true

def maxDepth : Nat := 128

mutual

def limitDepth (depth : Nat) : Outline → Outline
  | .list items =>
    match depth with
    | 0 => .broken
    | d + 1 => .list (limitItems d items)
  | .table entries =>
    match depth with
    | 0 => .broken
    | d + 1 => .table (limitEntries d entries)
  | .tagged body => .tagged (limitDepth depth body)
  | node => node

def limitItems (depth : Nat) : List Outline → List Outline
  | [] => []
  | n :: ns => limitDepth depth n :: limitItems depth ns

def limitEntries (depth : Nat) : List (Outline × Outline) → List (Outline × Outline)
  | [] => []
  | (k, v) :: es => (limitDepth depth k, limitDepth depth v) :: limitEntries depth es

end

def read (t : Text) : Reading :=
  let all := tokens t
  let fuel := 4 * all.length + 8
  let finish (r : Outline × Feed) : Reading := ⟨limitDepth maxDepth r.1, hasTrailing r.2⟩
  match all with
  | [] => ⟨.broken, true⟩
  | .streamEnd :: _ => ⟨.missing, false⟩
  | .documentStart :: rest => finish (readContent fuel ⟨rest, [], []⟩)
  | _ =>
    if beginsDirective all then
      match readDirectives? all none [] with
      | some (handles, .documentStart :: rest) => finish (readContent fuel ⟨rest, [], handles⟩)
      | _ => ⟨.broken, true⟩
    else finish (readNode fuel true false ⟨all, [], []⟩)

end TemplateTree.Yaml
