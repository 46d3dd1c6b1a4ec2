import TemplateTree.Template.Spelling
import TemplateTree.Template.Surroundings

/-!
# Rendering

Templates turned into text.  Macros and included templates may call each other,
so rendering has a limit on the depth of calls, and a template that exceeds it
fails.
-/

namespace TemplateTree

def Value.isTruthy : Value → Bool
  | .null => false
  | .bool b => b
  | .number (.int n) => n ≠ 0
  | .number (.float x) => x != 0.0 && !x.isNaN
  | .string t => t ≠ []
  | .array items => !items.isEmpty
  | .object entries => !entries.isEmpty

/-- The macros that a template can call: the files they are defined in, by the
name of the file in the template.  What an imported file or a parent can call,
the template can call as well, unless it has that name for something else. -/
def Library.scopes (l : Library) : Nat → Template → List (Text × Text)
  | 0, _ => []
  | fuel + 1, t =>
    let addNew (known more : List (Text × Text)) : List (Text × Text) :=
      more.foldl (fun m p => if (m.lookup p.1).isSome then m else m ++ [p]) known
    let own : List (Text × Text) := if t.macros.isEmpty then [] else [("self", t.name)]
    let imported := t.imports.foldl (fun m (file, scope) =>
      let here := (scope, file) :: m.filter (fun p => p.1 ≠ scope)
      match l.find? file with
      | some u => addNew here (l.scopes fuel u)
      | none => here) own
    (l.parents t).foldl (fun m p =>
      match l.find? p with
      | some u => addNew m (l.scopes fuel u)
      | none => m) imported

namespace Template

/-- How deep calls may go. -/
def depthLimit : Nat := 3000

def tooDeep : Text :=
  "Calls are nested too deep"

/-- Whether no value is needed for a variable, as its first filter gives one. -/
def Expr.hasDefault (e : Expr) : Bool :=
  (e.filters.head?).any fun f => f.name = "default".toList

/-- Whether the last filter says that a text is not to be escaped. -/
def Expr.isSafe (e : Expr) : Bool :=
  (e.filters.getLast?).any fun f => f.name = "safe".toList

/-- A filter that the evaluation of the expression itself takes care of. -/
def Call.isDirective (c : Call) : Bool :=
  c.name = "safe".toList || c.name = "default".toList

/-- The name that messages give to what a loop iterates on. -/
def containerName? (e : Expr) : Option Text :=
  match e.term with
  | .path p => some p
  | .call c => some c.name
  | .array _ => some "an array literal"
  | _ => none

def loopItems (name : Text) (key : Option Text) (v : Value) : Except Text (List (Text × Value)) :=
  let unlabelled (items : List Value) : Except Text (List (Text × Value)) :=
    if key.isSome then
      .error ("Tried to iterate using key value on variable `" ++ name
        ++ "`, but it isn't an object/map")
    else .ok (items.map fun v => ([], v))
  match v with
  | .array items => unlabelled items
  | .string t => unlabelled ((Text.clusters t).map Value.string)
  | .object entries =>
    if key.isSome then .ok entries
    else
      .error ("Tried to iterate using key value on variable `" ++ name
        ++ "`, but it is missing a key")
  | _ =>
    .error ("Tried to iterate on a container (`" ++ name ++ "`) that has a unsupported type")

def occursIn (v : Value) : Value → Except Text Bool
  | .array items => .ok (items.any fun w => w.same v)
  | .string t =>
    match v with
    | .string part => .ok (Text.includes t part)
    | _ =>
      .error ("Tried to check if " ++ v.spelled ++ " is in a string, but it isn't a string")
  | .object entries =>
    match v with
    | .string k => .ok (Namespace.contains entries k)
    | _ =>
      .error ("Tried to check if " ++ v.spelled ++ " is in a object, but it isn't a string")
  | _ => .error "The `in` operator only supports strings, arrays and objects."

/-- Whether two values are equal, where a number is equal to numbers only, and
`negated` asks for the contrary. -/
def areEqual (negated : Bool) (v w : Value) : Option Bool :=
  match v, w with
  | .number a, .number b => some ((a.toFloat == b.toFloat) != negated)
  | .number _, _ => none
  | _, .number _ => none
  | a, b => some (a.same b != negated)

def isNonzero (n : Option Number) : Bool :=
  n.any fun n => n.toFloat != 0.0

def concatText (source : Text) (v : Value) : Except Text Text :=
  match v with
  | .string t => .ok t
  | .number n => .ok n.toJson
  | _ =>
    .error ("Tried to concat a value that is not a string or a number from " ++ source)

/-- The version of a block that is rendered, looked for from a level upwards: the
levels are the template whose text is rendered and those above it. -/
def blockFrom? (l : Library) (name : Text) (level : Nat) (templates : List Template) :
    Option (OpenBlock × List Piece) :=
  match templates with
  | [] => none
  | t :: rest =>
    match t.block? name with
    | some body => some (⟨name, t.name, level⟩, body)
    | none => blockFrom? l name (level + 1) rest

def templatesOf (l : Library) (names : List Text) : List Template :=
  names.filterMap l.find?

mutual

def evalExpr : Nat → Surroundings → Expr → Rendering Value
  | 0, _, _ => .fail tooDeep
  | fuel + 1, s, e => do
    match ← evalTerm fuel s e with
    | none => return .bool true
    | some (v, markup) =>
      let (v, markup) ← e.filters.foldlM (fun (v, markup) f => do
        -- What a filter gives may hold markup, whatever it was applied to.
        if f.isDirective then return (v, markup)
        else return (← applyFilter fuel s f v, true)) (v, markup)
      if e.negated then return .bool (!v.isTruthy)
      else
        match v with
        | .string t =>
          return .string (if s.escape && markup && !e.isSafe then escapeMarkup t else t)
        | _ => return v

/-- The value of the term of an expression, and whether its text may hold
markup; a negated variable that is not there has none. -/
def evalTerm : Nat → Surroundings → Expr → Rendering (Option (Value × Bool))
  | 0, _, _ => .fail tooDeep
  | fuel + 1, s, e => do
    match e.term with
    | .array items => return some (.array (← items.mapM (evalExpr fuel s)), false)
    | .member l r negated => return some (.bool ((← isMember fuel s l r) != negated), false)
    | .string t => return some (.string t, true)
    | .concat parts =>
      let texts ← parts.mapM (evalPart fuel s)
      return some (.string texts.flatten, parts.any fun p => match p with
        | .call _ => true
        | _ => false)
    | .int n => return some (.ofInt n, false)
    | .float x => return some (.number (.float x), false)
    | .bool b => return some (.bool b, false)
    | .path p =>
      let found : Option Value ← tryCatch (some <$> Rendering.valueNamed s p) fun err =>
        if e.hasDefault || e.negated then pure none else throw err
      let markup := p ≠ contextName
      match found with
      | some .null =>
        if e.hasDefault then return some (← evalDefault fuel s e, markup)
        else return some (.null, markup)
      | some v => return some (v, markup)
      | none =>
        if e.hasDefault then return some (← evalDefault fuel s e, markup) else return none
    | .call c => return some (← evalCall fuel s c, true)
    | .macroCall scope name args =>
      return some (.string (← callMacro fuel s scope name args), false)
    | .test path name negated args =>
      return some (.bool ((← evalTest fuel s path name args) != negated), false)
    | .logic _ _ _ => return some (.bool (← truthOf fuel s e), false)
    | .math _ _ _ =>
      -- Of a failure in arithmetic the message is kept, and its causes are not.
      let n ← tryCatch (numberOf fuel s e.term) fun err => Rendering.fail err.message
      match n with
      | some n => return some (.number n, false)
      | none => return some (.string "NaN", false)

def evalPart : Nat → Surroundings → Term → Rendering Text
  | 0, _, _ => .fail tooDeep
  | fuel + 1, s, t => do
    match t with
    | .string t => return t
    | .int n => return Text.signedDecimal n
    | .float x => return showFloat .plain x
    | .path p => .ofExcept (concatText ("ident " ++ p) (← Rendering.valueNamed s p))
    | .call c =>
      .ofExcept (concatText ("function call " ++ c.name) (← evalCall fuel s c))
    | _ => return []

/-- The value that the filter `default` gives. -/
def evalDefault : Nat → Surroundings → Expr → Rendering Value
  | 0, _, _ => .fail tooDeep
  | fuel + 1, s, e =>
    match (e.filters.head?).bind fun f => Arg.find? f.args "value" with
    | some d => evalExpr fuel s d
    | none => .fail "The `default` filter requires a `value` argument."

def evalArgs : Nat → Surroundings → List Arg → Rendering Namespace
  | 0, _, _ => .fail tooDeep
  | fuel + 1, s, args =>
    args.foldlM (fun ns a => do
      return Namespace.insert a.name (← evalExpr fuel s.unescaped a.value) ns) []

def evalCall : Nat → Surroundings → Call → Rendering Value
  | 0, _, _ => .fail tooDeep
  | fuel + 1, s, c =>
    let failed := "Function call '" ++ c.name ++ "' failed"
    match s.registry.function? c.name with
    | some f => .within failed do .ofExcept (f (← evalArgs fuel s c.args))
    | none =>
      if Registry.isAsked Registry.askedFunctions c.name then
        .within failed do .ask s ⟨c.name, none, ← evalArgs fuel s c.args⟩
      else .fail ("Function '" ++ c.name ++ "' not found")

def applyFilter : Nat → Surroundings → Call → Value → Rendering Value
  | 0, _, _, _ => .fail tooDeep
  | fuel + 1, s, c, v =>
    let failed := "Filter call '" ++ c.name ++ "' failed"
    match s.registry.filter? c.name with
    | some f => .within failed do .ofExcept (f v (← evalArgs fuel s c.args))
    | none =>
      if Registry.isAsked Registry.askedFilters c.name then
        .within failed do .ask s ⟨c.name, some v, ← evalArgs fuel s c.args⟩
      else .fail ("Filter '" ++ c.name ++ "' not found")

/-- Whether a variable, which need not be there, passes a test. -/
def evalTest : Nat → Surroundings → Text → Text → List Expr → Rendering Bool
  | 0, _, _, _, _ => .fail tooDeep
  | fuel + 1, s, path, name, args =>
    match s.registry.test? name with
    | none => .fail ("Test '" ++ name ++ "' not found")
    | some f =>
      .within ("Test call '" ++ name ++ "' failed") do
        let values ← args.mapM (evalExpr fuel s.unescaped)
        let v ← tryCatch (some <$> Rendering.valueNamed s path) fun _ => pure none
        .ofExcept (f v values)

def isMember : Nat → Surroundings → Expr → Expr → Rendering Bool
  | 0, _, _, _ => .fail tooDeep
  | fuel + 1, s, l, r => do
    let v ← evalExpr fuel s l
    let w ← evalExpr fuel s.unescaped r
    .ofExcept (occursIn v w)

def truthOf : Nat → Surroundings → Expr → Rendering Bool
  | 0, _, _ => .fail tooDeep
  | fuel + 1, s, e => do
    let signed (b : Bool) : Bool := b != e.negated
    match e.term with
    | .logic op l r =>
      match op with
      | .or =>
        if ← truthOf fuel s l then return signed true
        else return signed (← truthOf fuel s r)
      | .and =>
        if ← truthOf fuel s l then return signed (← truthOf fuel s r)
        else return signed false
      | .eq =>
        let v ← evalExpr fuel s l
        return ((areEqual false v (← evalExpr fuel s r)).map signed).getD false
      | .ne =>
        let v ← evalExpr fuel s l
        return ((areEqual true v (← evalExpr fuel s r)).map signed).getD false
      | _ =>
        let a ← numberOfExpr fuel s l
        let b ← numberOfExpr fuel s r
        match a, b with
        | some a, some b => return signed (op.compares a.toFloat b.toFloat)
        | _, _ => .fail "Comparison to NaN"
    | .path _ =>
      tryCatch (Value.isTruthy <$> evalExpr fuel s e) fun _ => pure false
    | .math _ _ _ => return signed (isNonzero (← numberOf fuel s e.term))
    | .int n => return signed (n ≠ 0)
    | .float x => return signed (x != 0.0)
    | .member l r negated => return signed ((← isMember fuel s l r) != negated)
    | .test path name negated args => return signed ((← evalTest fuel s path name args) != negated)
    | .bool b => return signed b
    | .string t => return signed (t ≠ [])
    | .call c =>
      match ← evalCall fuel s c with
      | .bool b => return signed b
      | _ =>
        .fail ("Function `" ++ c.name
          ++ "` was used in a logic operation but is not returning a bool")
    | .concat _ => return signed (← evalExpr fuel s e).isTruthy
    | .macroCall scope name args => return signed ((← callMacro fuel s scope name args) ≠ [])
    | .array items => return signed (!items.isEmpty)

/-- The number that an expression gives; what is no number but came of
arithmetic gives none. -/
def numberOfExpr : Nat → Surroundings → Expr → Rendering (Option Number)
  | 0, _, _ => .fail tooDeep
  | fuel + 1, s, e =>
    if e.filters.isEmpty then numberOf fuel s e.term
    else do
      match ← evalExpr fuel s e with
      | .number n => return some n
      | _ => .fail "Tried to do math with an expression not resulting in a number"

def numberOf : Nat → Surroundings → Term → Rendering (Option Number)
  | 0, _, _ => .fail tooDeep
  | fuel + 1, s, t => do
    match t with
    | .path p =>
      match ← Rendering.valueNamed s p with
      | .number n => return some n
      | _ => .fail ("Variable `" ++ p ++ "` was used in a math operation but is not a number")
    | .int n => return some (.int n)
    | .float x => return some (.float x)
    | .math op l r =>
      let a ← numberOfExpr fuel s l
      let b ← numberOfExpr fuel s r
      match a, b with
      | some a, some b =>
        let complaint :=
          "Tried to do a modulo by zero: " ++ l.spelled ++ "/" ++ r.spelled
        .ofExcept (op.apply complaint a b)
      | _, _ => return none
    | .string t => .fail ("Tried to do math with a string: `" ++ t ++ "`")
    | .bool b => .fail ("Tried to do math with a boolean: `" ++ Value.boolText b ++ "`")
    | .concat parts =>
      .fail ("Tried to do math with a string concatenation: " ++ writtenConcat parts)
    | .test _ name _ _ => .fail ("Tried to do math with a test: " ++ name)
    | .call c =>
      match ← evalCall fuel s c with
      | .number n => return some n
      | _ =>
        .fail ("Function `" ++ c.name
          ++ "` was used in a math operation but is not returning a number")
    | _ => .fail "Tried to do math with an expression not resulting in a number"

def callMacro : Nat → Surroundings → Text → Text → List Arg → Rendering Text
  | 0, _, _, _, _ => .fail tooDeep
  | fuel + 1, s, scope, name, args => do
    let st ← get
    -- The template whose imports count: the one with the version of the block
    -- under way, else the topmost one, else that of the frame.
    let caller : Text :=
      match st.blocks with
      | b :: _ => b.template
      | [] => if s.template.name ≠ s.root.name then s.root.name else st.frames.template
    let scopes := ((s.library.find? caller).map (s.library.scopes depthLimit)).getD []
    match scopes.lookup scope with
    | none =>
      .fail ("Macro namespace `" ++ scope ++ "` was not found in template `" ++ caller
        ++ "`. Have you maybe forgotten to import it, or misspelled it?")
    | some file =>
      match (s.library.find? file).bind fun t => t.macro? name with
      | none =>
        .fail ("Macro `" ++ scope ++ "::" ++ name ++ "` not found in template `" ++ caller ++ "`")
      | some m =>
        let vars ← m.params.foldlM (fun (ns : Namespace) p => do
          match (Arg.find? args p.name).orElse fun _ => p.default.map Expr.plain with
          | some e => return Namespace.insert p.name (← evalExpr fuel s.unescaped e) ns
          | none =>
            .fail ("Macro `" ++ name ++ "` is missing the argument `" ++ p.name ++ "`")) []
        .inFrame ⟨.called scope name, file, vars⟩ (renderPieces fuel s m.body)

/-- The text of pieces, up to one that interrupts the loop around them. -/
def renderPieces : Nat → Surroundings → List Piece → Rendering Text
  | 0, _, _ => .fail tooDeep
  | fuel + 1, s, pieces => do
    let (parts, _) ← pieces.foldlM (fun (parts, interrupted) p => do
      if interrupted then return (parts, interrupted)
      else
        let t ← renderPiece fuel s p
        return (t :: parts, (← get).frames.isInterrupted)) (([] : List Text), false)
    return parts.reverse.flatten

def renderPiece : Nat → Surroundings → Piece → Rendering Text
  | 0, _, _ => .fail tooDeep
  | fuel + 1, s, p => do
    match p with
    | .text t => return t
    | .raw _ t _ => return t
    | .output _ e => return (← evalExpr fuel s e).display
    | .assign _ name e global =>
      let v ← evalExpr fuel s.unescaped e
      if global then Rendering.changeFrames (·.assignOutside name v)
      else Rendering.changeFrames (·.assign name v)
      return []
    | .filtered _ filter body _ =>
      let t ← renderPieces fuel s body
      if filter.name = "safe".toList then return t
      else return (← applyFilter fuel s filter (.string t)).display
    | .branch cases _ => renderCases fuel s cases
    | .loop _ key item container body alternative _ =>
      renderLoop fuel s key item container body alternative
    | .leave _ =>
      Rendering.interrupt .leave "break"
      return []
    | .next _ =>
      Rendering.interrupt .next "continue"
      return []
    | .include _ names optional =>
      match names.findSome? s.library.find? with
      | some t =>
        .inFrame ⟨.included, t.name, []⟩ (renderPieces fuel s t.pieces)
      | none =>
        if optional then return []
        else .fail ("Template '[" ++ Text.joinWith ", " names ++ "]' not found")
    | .block _ name body _ =>
      let active := (← get).frames.template
      let levels := match s.library.find? active with
        | some t => t :: templatesOf s.library (s.library.parents t)
        | none => []
      match blockFrom? s.library name 0 levels with
      | some (b, own) =>
        -- The block stays open when its text is done; only `super` closes blocks.
        Rendering.openBlock b
        renderPieces fuel s own
      | none => renderPieces fuel s body
    | .overridden => renderOverridden fuel s
    | .extends _ parent =>
      .fail ("Inheritance in included templates is currently not supported: extended `"
        ++ parent ++ "`")
    | .importMacros _ _ _ => return []
    | .macroDef _ _ _ _ _ => return []
    | .comment _ => return []

def renderCases : Nat → Surroundings → List Case → Rendering Text
  | 0, _, _ => .fail tooDeep
  | _ + 1, _, [] => return []
  | fuel + 1, s, c :: rest => do
    let holds ← match c.condition with
      | some e => truthOf fuel s e
      | none => pure true
    if holds then renderPieces fuel s c.body else renderCases fuel s rest

def renderLoop : Nat → Surroundings → Option Text → Text → Expr → List Piece → List Piece →
    Rendering Text
  | 0, _, _, _, _, _, _ => .fail tooDeep
  | fuel + 1, s, key, item, container, body, alternative =>
    match containerName? container with
    | none =>
      .fail ("Forloop containers have to be an ident or a function call (tried to iterate on '"
        ++ container.term.spelled ++ "')")
    | some name => do
      let v ← evalExpr fuel s.unescaped container
      let items ← Rendering.ofExcept (loopItems name key v)
      if items.isEmpty then renderPieces fuel s alternative
      else
        let template := (← get).frames.template
        let frameAt (i : Nat) (k : Text) (v : Value) : Frame :=
          ⟨.loop ⟨key, item, k, v, i, items.length, .none⟩, template, []⟩
        .inFrame (frameAt 0 [] .null) do
          let (parts, _) ← items.zipIdx.foldlM (fun (parts, left) ((k, v), i) => do
            if left then return (parts, left)
            else
              Rendering.changeFrames fun fs => frameAt i k v :: fs.drop 1
              let t ← renderPieces fuel s body
              let left := ((← get).frames.head?.bind Frame.loop?).any (·.signal = .leave)
              return (t :: parts, left)) (([] : List Text), false)
          return parts.reverse.flatten

def renderOverridden : Nat → Surroundings → Rendering Text
  | 0, _ => .fail tooDeep
  | fuel + 1, s => do
    match (← get).blocks with
    | [] => .fail "Tried to use super() in the top level block"
    | b :: _ =>
      let above := (templatesOf s.library s.parents).drop b.level
      match blockFrom? s.library b.name (b.level + 1) above with
      | none => .fail "Tried to use super() in the top level block"
      | some (overridden, body) =>
        Rendering.openBlock overridden
        let t ← renderPieces fuel s body
        -- Where nothing is above the overridden version, the one that asked for it is
        -- closed as well.
        let closed := if s.parents.length ≤ overridden.level then 2 else 1
        modify fun st => { st with blocks := st.blocks.drop closed }
        return t

end

def failurePlace (s : Surroundings) (st : RenderState) : Text :=
  let template := s.template
  let inCall : Text := match st.frames.head?.map Frame.kind with
    | some (.called scope name) =>
      ": error while rendering macro `" ++ scope ++ "::" ++ name ++ "`"
    | _ => []
  let inFile (file : Text) : Text := " (error happened in '" ++ file ++ "')."
  let inBlock : Text := match st.blocks with
    | b :: _ =>
      let holders := if (template.block? b.name).isSome then
          (template :: templatesOf s.library s.parents).filter fun t => (t.block? b.name).isSome
        else []
      match holders[b.level]? with
      | some t => if t.name = template.name then [] else inFile t.name
      | none => " (error happened in a parent template)"
    | [] => (s.parents.getLast?.map inFile).getD []
  "Failed to render '" ++ template.name ++ "'" ++ inCall ++ inBlock

/-- The state in which a rendering begins. -/
def RenderState.start (name : Text) : RenderState :=
  ⟨[⟨.origin, name, []⟩], [], []⟩

def renderFrom (s : Surroundings) : Except TemplateError Text :=
  match (renderPieces depthLimit s s.root.pieces).run (.start s.template.name) with
  | .ok t _ => .ok t
  | .error e st => .error (.causedBy (failurePlace s st) e)

end Template

/-- The text of a template of a library, with variables that are there from the
start. -/
def Library.render (l : Library) (registry : Registry) (escape : Bool) (globals : Namespace)
    (outlook : Template.Outlook) (name : Text) : Except TemplateError Text :=
  match l.find? name with
  | none => .error (.plain ("Template '" ++ name ++ "' not found"))
  | some t => Template.renderFrom ⟨l, registry, globals, t, escape, outlook⟩

end TemplateTree
