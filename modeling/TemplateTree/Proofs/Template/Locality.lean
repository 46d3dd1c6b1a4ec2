import TemplateTree.Proofs.Template.Agreement

/-!
# Rendering looks only where references lead

A rendering asks a library for the names that the template refers to, those that these
refer to, and so on.  So it gives the same in a library that is the same for these.
-/

namespace TemplateTree.Template

open Rendering

variable {D : Text → Prop} {l l' : Library} {o o' : Outlook} {fuel : Nat} {s : Surroundings}

/-- Evaluation with so much fuel is the same in two libraries. -/
structure AgreesAt (D : Text → Prop) (l l' : Library) (o o' : Outlook) (fuel : Nat) :
    Prop where
  expr : ∀ s : Surroundings, s.In D l o → ∀ e,
    Agrees D o o' (evalExpr fuel s e) (evalExpr fuel (s.upon l' o') e)
  term : ∀ s : Surroundings, s.In D l o → ∀ e,
    Agrees D o o' (evalTerm fuel s e) (evalTerm fuel (s.upon l' o') e)
  part : ∀ s : Surroundings, s.In D l o → ∀ t,
    Agrees D o o' (evalPart fuel s t) (evalPart fuel (s.upon l' o') t)
  default : ∀ s : Surroundings, s.In D l o → ∀ e,
    Agrees D o o' (evalDefault fuel s e) (evalDefault fuel (s.upon l' o') e)
  args : ∀ s : Surroundings, s.In D l o → ∀ as,
    Agrees D o o' (evalArgs fuel s as) (evalArgs fuel (s.upon l' o') as)
  call : ∀ s : Surroundings, s.In D l o → ∀ c,
    Agrees D o o' (evalCall fuel s c) (evalCall fuel (s.upon l' o') c)
  filter : ∀ s : Surroundings, s.In D l o → ∀ c v,
    Agrees D o o' (applyFilter fuel s c v) (applyFilter fuel (s.upon l' o') c v)
  test : ∀ s : Surroundings, s.In D l o → ∀ path name as,
    Agrees D o o' (evalTest fuel s path name as) (evalTest fuel (s.upon l' o') path name as)
  member : ∀ s : Surroundings, s.In D l o → ∀ e e',
    Agrees D o o' (isMember fuel s e e') (isMember fuel (s.upon l' o') e e')
  truth : ∀ s : Surroundings, s.In D l o → ∀ e,
    Agrees D o o' (truthOf fuel s e) (truthOf fuel (s.upon l' o') e)
  numberExpr : ∀ s : Surroundings, s.In D l o → ∀ e,
    Agrees D o o' (numberOfExpr fuel s e) (numberOfExpr fuel (s.upon l' o') e)
  number : ∀ s : Surroundings, s.In D l o → ∀ t,
    Agrees D o o' (numberOf fuel s t) (numberOf fuel (s.upon l' o') t)
  macroCall : ∀ s : Surroundings, s.In D l o → ∀ scope name as,
    Agrees D o o' (callMacro fuel s scope name as) (callMacro fuel (s.upon l' o') scope name as)
  pieces : ∀ s : Surroundings, s.In D l o → ∀ ps, (∀ n ∈ namesIn ps, D n) →
    Agrees D o o' (renderPieces fuel s ps) (renderPieces fuel (s.upon l' o') ps)
  piece : ∀ s : Surroundings, s.In D l o → ∀ p : Piece, (∀ n ∈ p.names, D n) →
    Agrees D o o' (renderPiece fuel s p) (renderPiece fuel (s.upon l' o') p)
  cases : ∀ s : Surroundings, s.In D l o → ∀ cs, (∀ n ∈ namesInCases cs, D n) →
    Agrees D o o' (renderCases fuel s cs) (renderCases fuel (s.upon l' o') cs)
  loop : ∀ s : Surroundings, s.In D l o → ∀ key item container body alternative,
    (∀ n ∈ namesIn body ++ namesIn alternative, D n) →
      Agrees D o o' (renderLoop fuel s key item container body alternative)
        (renderLoop fuel (s.upon l' o') key item container body alternative)
  overridden : ∀ s : Surroundings, s.In D l o →
    Agrees D o o' (renderOverridden fuel s) (renderOverridden fuel (s.upon l' o'))

/-! ## Expressions -/

section

variable (ih : AgreesAt D l l' o o' fuel) (hs : s.In D l o)
include ih hs

theorem agrees_evalExpr (e : Expr) :
    Agrees D o o' (evalExpr (fuel + 1) s e) (evalExpr (fuel + 1) (s.upon l' o') e) := by
  simp only [evalExpr]
  refine (ih.term s hs e).bind fun r => ?_
  cases r with
  | none => exact .pure _
  | some r =>
      obtain ⟨v, markup⟩ := r
      refine .bind (.foldlM fun vm f _ => ?_) fun vm => ?_
      · obtain ⟨v, markup⟩ := vm
        dsimp only
        split
        · exact .pure _
        · exact (ih.filter s hs f v).bind fun v => .pure _
      · obtain ⟨v, markup⟩ := vm
        dsimp only
        split
        · exact .pure _
        · cases v <;> exact .pure _

theorem agrees_evalTerm (e : Expr) :
    Agrees D o o' (evalTerm (fuel + 1) s e) (evalTerm (fuel + 1) (s.upon l' o') e) := by
  simp only [evalTerm]
  cases e.term with
  | array items => exact (Agrees.mapM fun e _ => ih.expr s hs e).bind fun _ => .pure _
  | member left right negated => exact (ih.member s hs left right).bind fun _ => .pure _
  | string t => exact .pure _
  | concat parts => exact (Agrees.mapM fun t _ => ih.part s hs t).bind fun _ => .pure _
  | int n => exact .pure _
  | float x => exact .pure _
  | bool b => exact .pure _
  | path p =>
      refine .bind (.tryCatch (.map _ (.valueNamed s l' p)) fun e => ?_) fun found => ?_
      · split
        · exact .pure _
        · exact .throw _
      · split
        · split
          · exact (ih.default s hs e).bind fun _ => .pure _
          · exact .pure _
        · exact .pure _
        · split
          · exact (ih.default s hs e).bind fun _ => .pure _
          · exact .pure _
  | call c => exact (ih.call s hs c).bind fun _ => .pure _
  | macroCall scope name args => exact (ih.macroCall s hs scope name args).bind fun _ => .pure _
  | test path name negated args => exact (ih.test s hs path name args).bind fun _ => .pure _
  | logic op left right => exact (ih.truth s hs e).bind fun _ => .pure _
  | math op left right =>
      refine .bind (.tryCatch (ih.number s hs _) fun e => .fail _) fun n => ?_
      cases n <;> exact .pure _

theorem agrees_evalPart (t : Term) :
    Agrees D o o' (evalPart (fuel + 1) s t) (evalPart (fuel + 1) (s.upon l' o') t) := by
  simp only [evalPart]
  cases t with
  | path p => exact (Agrees.valueNamed s l' p).bind fun _ => .ofExcept _
  | call c => exact (ih.call s hs c).bind fun _ => .ofExcept _
  | _ => exact .pure _

theorem agrees_evalDefault (e : Expr) :
    Agrees D o o' (evalDefault (fuel + 1) s e) (evalDefault (fuel + 1) (s.upon l' o') e) := by
  simp only [evalDefault]
  split
  · exact ih.expr s hs _
  · exact .fail _

theorem agrees_evalArgs (as : List Arg) :
    Agrees D o o' (evalArgs (fuel + 1) s as) (evalArgs (fuel + 1) (s.upon l' o') as) := by
  simp only [evalArgs]
  exact .foldlM fun ns a _ => (ih.expr s.unescaped hs.unescaped a.value).bind fun _ => .pure _

theorem agrees_evalCall (c : Call) :
    Agrees D o o' (evalCall (fuel + 1) s c) (evalCall (fuel + 1) (s.upon l' o') c) := by
  simp only [evalCall, Surroundings.upon_registry]
  cases s.registry.function? c.name with
  | none =>
      dsimp only
      split
      · exact .within _ ((ih.args s hs c.args).bind fun _ =>
          .ask hs.outlook (s.upon_outlook l' o') _)
      · exact .fail _
  | some f => exact .within _ ((ih.args s hs c.args).bind fun _ => .ofExcept _)

theorem agrees_applyFilter (c : Call) (v : Value) :
    Agrees D o o' (applyFilter (fuel + 1) s c v) (applyFilter (fuel + 1) (s.upon l' o') c v) := by
  simp only [applyFilter, Surroundings.upon_registry]
  cases s.registry.filter? c.name with
  | none =>
      dsimp only
      split
      · exact .within _ ((ih.args s hs c.args).bind fun _ =>
          .ask hs.outlook (s.upon_outlook l' o') _)
      · exact .fail _
  | some f => exact .within _ ((ih.args s hs c.args).bind fun _ => .ofExcept _)

theorem agrees_evalTest (path name : Text) (as : List Expr) :
    Agrees D o o' (evalTest (fuel + 1) s path name as)
      (evalTest (fuel + 1) (s.upon l' o') path name as) := by
  simp only [evalTest, Surroundings.upon_registry]
  cases s.registry.test? name with
  | none => exact .fail _
  | some f =>
      refine .within _ (.bind (.mapM fun e _ => ih.expr s.unescaped hs.unescaped e) fun _ => ?_)
      exact .bind (.tryCatch (.map _ (.valueNamed s l' path)) fun _ => .pure _) fun _ => .ofExcept _

theorem agrees_isMember (e e' : Expr) :
    Agrees D o o' (isMember (fuel + 1) s e e') (isMember (fuel + 1) (s.upon l' o') e e') := by
  simp only [isMember]
  exact (ih.expr s hs e).bind fun v =>
    (ih.expr s.unescaped hs.unescaped e').bind fun w => .ofExcept _

theorem agrees_numberOfExpr (e : Expr) :
    Agrees D o o' (numberOfExpr (fuel + 1) s e) (numberOfExpr (fuel + 1) (s.upon l' o') e) := by
  simp only [numberOfExpr]
  split
  · exact ih.number s hs e.term
  · refine (ih.expr s hs e).bind fun v => ?_
    cases v with
    | number n => exact .pure _
    | _ => exact .fail _

theorem agrees_numberOf (t : Term) :
    Agrees D o o' (numberOf (fuel + 1) s t) (numberOf (fuel + 1) (s.upon l' o') t) := by
  simp only [numberOf]
  cases t with
  | path p =>
      refine (Agrees.valueNamed s l' p).bind fun v => ?_
      cases v with
      | number n => exact .pure _
      | _ => exact .fail _
  | int n => exact .pure _
  | float x => exact .pure _
  | math op left right =>
      refine (ih.numberExpr s hs left).bind fun a => (ih.numberExpr s hs right).bind fun b => ?_
      cases a with
      | none => exact .pure _
      | some a =>
          cases b with
          | none => exact .pure _
          | some b => exact .ofExcept _
  | call c =>
      refine (ih.call s hs c).bind fun v => ?_
      cases v with
      | number n => exact .pure _
      | _ => exact .fail _
  | _ => exact .fail _

theorem agrees_truthOf (e : Expr) :
    Agrees D o o' (truthOf (fuel + 1) s e) (truthOf (fuel + 1) (s.upon l' o') e) := by
  simp only [truthOf]
  cases e.term with
  | logic op left right =>
      cases op with
      | or =>
          refine (ih.truth s hs left).bind fun b => ?_
          cases b with
          | true => exact .pure _
          | false => exact (ih.truth s hs right).bind fun _ => .pure _
      | and =>
          refine (ih.truth s hs left).bind fun b => ?_
          cases b with
          | true => exact (ih.truth s hs right).bind fun _ => .pure _
          | false => exact .pure _
      | eq =>
          exact (ih.expr s hs left).bind fun v => (ih.expr s hs right).bind fun w => .pure _
      | ne =>
          exact (ih.expr s hs left).bind fun v => (ih.expr s hs right).bind fun w => .pure _
      | _ =>
          -- the other operators compare numbers
          refine (ih.numberExpr s hs left).bind fun a => (ih.numberExpr s hs right).bind fun b => ?_
          cases a with
          | none => exact .fail _
          | some a =>
              cases b with
              | none => exact .fail _
              | some b => exact .pure _
  | path p => exact .tryCatch (.map _ (ih.expr s hs e)) fun _ => .pure _
  | math op left right => exact (ih.number s hs _).bind fun _ => .pure _
  | int n => exact .pure _
  | float x => exact .pure _
  | member left right negated => exact (ih.member s hs left right).bind fun _ => .pure _
  | test path name negated args => exact (ih.test s hs path name args).bind fun _ => .pure _
  | bool b => exact .pure _
  | string t => exact .pure _
  | call c =>
      refine (ih.call s hs c).bind fun v => ?_
      cases v with
      | bool b => exact .pure _
      | _ => exact .fail _
  | concat parts => exact (ih.expr s hs e).bind fun _ => .pure _
  | macroCall scope name args => exact (ih.macroCall s hs scope name args).bind fun _ => .pure _
  | array items => exact .pure _

end

/-! ## Templates -/

section

variable (hl : Library.Agree D l l') (hempty : D [])

include hl in
theorem Surroundings.In.parents_eq (hs : s.In D l o) : (s.upon l' o').parents = s.parents := by
  obtain rfl := hs.library
  exact hl.parents_eq hs.name hs.find

include hl in
theorem Surroundings.In.mem_of_parents (hs : s.In D l o) : ∀ n ∈ s.parents, D n := by
  obtain rfl := hs.library
  exact hl.mem_of_parents hs.name hs.find

include hl in
/-- The topmost template is the same one. -/
theorem Surroundings.In.root_eq (hs : s.In D l o) :
    (s.upon l' o').root = s.root ∧ D s.root.name ∧ l.find? s.root.name = some s.root := by
  obtain ⟨rfl, -, hname, hfind⟩ := id hs
  have hparents := hs.mem_of_parents hl
  unfold Surroundings.root
  rw [hs.parents_eq hl]
  change ((s.parents.getLast?).bind l'.find?).getD s.template = _ ∧ _
  cases hlast : s.parents.getLast? with
  | none => exact ⟨rfl, hname, hfind⟩
  | some top =>
      have htop : D top := hparents top (List.mem_of_getLast? hlast)
      rw [Option.bind_some, Option.bind_some, hl.find top htop]
      cases htopFind : s.library.find? top with
      | none => exact ⟨rfl, hname, hfind⟩
      | some t =>
          have htopName : t.name = top := Library.name_of_find? htopFind
          exact ⟨rfl, by simpa [htopName] using htop, by simpa [htopName] using htopFind⟩

include hempty in
theorem RenderState.Inside.template {st : RenderState} (h : st.Inside D) :
    D st.frames.template := by
  unfold Frames.template
  cases hframes : st.frames with
  | nil => simpa using hempty
  | cons f rest => simpa using h.frames f (by simp [hframes])

include hl in
theorem templatesOf_eq {names : List Text} (h : ∀ n ∈ names, D n) :
    templatesOf l' names = templatesOf l names := by
  refine List.filterMap_congr fun n hn => hl.find n (h n hn)

include hl in
theorem regular_of_templatesOf {names : List Text} (h : ∀ n ∈ names, D n) {t : Template}
    (ht : t ∈ templatesOf l names) : D t.name ∧ t.Regular ∧ ∀ m ∈ t.names, D m := by
  obtain ⟨n, hn, hfind⟩ := List.mem_filterMap.mp ht
  obtain rfl := Library.name_of_find? hfind
  exact ⟨h _ hn, hl.closed _ _ (h _ hn) hfind⟩

include hl in
theorem findSome?_eq {names : List Text} (h : ∀ n ∈ names, D n) :
    names.findSome? l'.find? = names.findSome? l.find? := by
  induction names with
  | nil => rfl
  | cons n names ih =>
      rw [List.findSome?_cons, List.findSome?_cons, hl.find n (h n List.mem_cons_self),
        ih fun m hm => h m (List.mem_cons_of_mem _ hm)]

/-- The version of a block that is found does not depend on the library, and refers to
names that its template refers to. -/
theorem blockFrom?_eq (l l' : Library) {name : Text} {level : Nat} {ts : List Template} :
    blockFrom? l' name level ts = blockFrom? l name level ts := by
  induction ts generalizing level with
  | nil => rfl
  | cons t rest ih =>
      rw [blockFrom?, blockFrom?, ih]

theorem inside_of_blockFrom? {name : Text} {level : Nat} {ts : List Template} {b : OpenBlock}
    {body : List Piece} (hts : ∀ t ∈ ts, D t.name ∧ t.Regular ∧ ∀ m ∈ t.names, D m)
    (h : blockFrom? l name level ts = some (b, body)) :
    D b.template ∧ ∀ n ∈ namesIn body, D n := by
  induction ts generalizing level with
  | nil => cases h
  | cons t rest ih =>
      rw [blockFrom?] at h
      split at h
      case h_1 own hown =>
        obtain ⟨rfl, rfl⟩ : ⟨name, t.name, level⟩ = b ∧ own = body := by simpa using h
        obtain ⟨hname, hregular, hnames⟩ := hts t List.mem_cons_self
        exact ⟨hname, fun n hn => hnames n (hregular.mem_of_block hown hn)⟩
      case h_2 => exact ih (fun t ht => hts t (List.mem_cons_of_mem _ ht)) h

/-- The template whose macros can be called. -/
def caller (s : Surroundings) (st : RenderState) : Text :=
  match st.blocks with
  | b :: _ => b.template
  | [] => if s.template.name ≠ s.root.name then s.root.name else st.frames.template

/-- The scopes of a template. -/
def scopesOf (l : Library) (n : Text) : List (Text × Text) :=
  ((l.find? n).map (l.scopes depthLimit)).getD []

/-- The text of a macro that a template calls. -/
def callFrom (fuel : Nat) (s : Surroundings) (caller scope name : Text) (as : List Arg) :
    Rendering Text :=
  match (scopesOf s.library caller).lookup scope with
  | none =>
    .fail ("Macro namespace `" ++ scope ++ "` was not found in template `" ++ caller
      ++ "`. Have you maybe forgotten to import it, or misspelled it?")
  | some file =>
    match (s.library.find? file).bind fun t => t.macro? name with
    | none =>
      .fail ("Macro `" ++ scope ++ "::" ++ name ++ "` not found in template `" ++ caller ++ "`")
    | some m => do
      let vars ← m.params.foldlM (fun (ns : Namespace) p => do
        match (Arg.find? as p.name).orElse fun _ => p.default.map Expr.plain with
        | some e => return Namespace.insert p.name (← evalExpr fuel s.unescaped e) ns
        | none => .fail ("Macro `" ++ name ++ "` is missing the argument `" ++ p.name ++ "`")) []
      .inFrame ⟨.called scope name, file, vars⟩ (renderPieces fuel s m.body)

theorem callMacro_succ (scope name : Text) (as : List Arg) :
    callMacro (fuel + 1) s scope name as = get >>= fun st =>
      callFrom fuel s (caller s st) scope name as := by
  simp only [callMacro]
  rfl

/-- A template and those above it. -/
def levels (l : Library) (n : Text) : List Template :=
  match l.find? n with
  | some t => t :: templatesOf l (l.parents t)
  | none => []

include hl in
theorem levels_eq {n : Text} (hn : D n) : levels l' n = levels l n ∧
    ∀ t ∈ levels l n, D t.name ∧ t.Regular ∧ ∀ m ∈ t.names, D m := by
  unfold levels
  rw [hl.find n hn]
  cases hfind : l.find? n with
  | none => exact ⟨rfl, by simp⟩
  | some t =>
      have hmem := hl.mem_of_parents hn hfind
      dsimp only
      rw [hl.parents_eq hn hfind, templatesOf_eq hl hmem]
      refine ⟨rfl, fun u hu => ?_⟩
      obtain rfl | hu := List.mem_cons.mp hu
      · obtain rfl := Library.name_of_find? hfind
        exact ⟨hn, hl.closed _ _ hn hfind⟩
      · exact regular_of_templatesOf hl hmem hu

/-- The text of a block, as the templates from one on upwards override it. -/
def renderBlock (fuel : Nat) (s : Surroundings) (name : Text) (body : List Piece) (n : Text) :
    Rendering Text :=
  match blockFrom? s.library name 0 (levels s.library n) with
  | some (b, own) => do
    openBlock b
    renderPieces fuel s own
  | none => renderPieces fuel s body

variable (ih : AgreesAt D l l' o o' fuel) (hs : s.In D l o)
include ih hs

theorem agrees_renderPieces (ps : List Piece) (hps : ∀ n ∈ namesIn ps, D n) :
    Agrees D o o' (renderPieces (fuel + 1) s ps) (renderPieces (fuel + 1) (s.upon l' o') ps) := by
  simp only [renderPieces]
  refine .bind (.foldlM fun parts p hp => ?_) fun _ => .pure _
  obtain ⟨parts, interrupted⟩ := parts
  dsimp only
  split
  · exact .pure _
  · refine (ih.piece s hs p fun n hn => hps n (mem_namesIn hp hn)).bind fun t => ?_
    exact .get_bind fun st _ => .pure _

theorem agrees_renderCases (cs : List Case) (hcs : ∀ n ∈ namesInCases cs, D n) :
    Agrees D o o' (renderCases (fuel + 1) s cs) (renderCases (fuel + 1) (s.upon l' o') cs) := by
  cases cs with
  | nil => exact .pure _
  | cons c rest =>
      have hbody : ∀ n ∈ namesIn c.body, D n := fun n hn =>
        hcs n (mem_namesInCases List.mem_cons_self hn)
      have hrest : ∀ n ∈ namesInCases rest, D n := fun n hn => hcs n (by
        cases c
        rw [namesInCases]
        exact List.mem_append_right _ hn)
      simp only [renderCases]
      have hcase : ∀ holds : Bool, Agrees D o o'
          (if holds then renderPieces fuel s c.body else renderCases fuel s rest)
          (if holds then renderPieces fuel (s.upon l' o') c.body
            else renderCases fuel (s.upon l' o') rest) := by
        intro holds
        cases holds with
        | true => exact ih.pieces s hs c.body hbody
        | false => exact ih.cases s hs rest hrest
      cases c.condition with
      | none => exact (Agrees.pure _).bind hcase
      | some e => exact (ih.truth s hs e).bind hcase

include hl in
theorem agrees_callFrom {caller : Text} (hcaller : D caller) (scope name : Text)
    (as : List Arg) : Agrees D o o' (callFrom fuel s caller scope name as)
      (callFrom fuel (s.upon l' o') caller scope name as) := by
  obtain rfl := hs.library
  have hscopes : scopesOf l' caller = scopesOf s.library caller ∧
      Library.ScopesIn D (scopesOf s.library caller) := by
    unfold scopesOf
    rw [hl.find caller hcaller]
    cases hfind : s.library.find? caller with
    | none => simp [Library.ScopesIn]
    | some t =>
        rw [Option.map_some, Option.map_some, Option.getD_some, Option.getD_some]
        exact hl.scopes_eq depthLimit hcaller hfind
  have hlibrary : (s.upon l' o').library = l' := rfl
  unfold callFrom
  rw [hlibrary, hscopes.1]
  cases hlookup : (scopesOf s.library caller).lookup scope with
  | none => exact .fail _
  | some file =>
      have hfile : D file := hscopes.2 _ (ByName.mem_of_lookup hlookup)
      dsimp only
      rw [hl.find file hfile]
      cases hmacro : (s.library.find? file).bind fun t => t.macro? name with
      | none => exact .fail _
      | some m =>
          obtain ⟨t, hfind, ht⟩ := Option.bind_eq_some_iff.mp hmacro
          obtain ⟨hregular, hnames⟩ := hl.closed file t hfile hfind
          refine .bind (.foldlM fun ns p _ => ?_) fun vars => ?_
          · split
            · exact (ih.expr s.unescaped hs.unescaped _).bind fun _ => .pure _
            · exact .fail _
          · exact .inFrame hfile (ih.pieces s hs m.body fun n hn =>
              hnames n (hregular.mem_of_macro ht hn))

include hl hempty in
theorem agrees_callMacro (scope name : Text) (as : List Arg) :
    Agrees D o o' (callMacro (fuel + 1) s scope name as)
      (callMacro (fuel + 1) (s.upon l' o') scope name as) := by
  rw [callMacro_succ, callMacro_succ]
  refine .get_bind fun st hst => ?_
  obtain ⟨hroot, hrootName, -⟩ := hs.root_eq hl
  have hsame : caller (s.upon l' o') st = caller s st := by
    unfold caller
    rw [hroot]
    rfl
  rw [hsame]
  refine agrees_callFrom hl ih hs ?_ scope name as
  unfold caller
  split
  case h_1 b _ hblocks => exact hst.blocks b (by simp [hblocks])
  case h_2 =>
    split
    · exact hrootName
    · exact hst.template hempty

include hl in
theorem agrees_renderOverridden :
    Agrees D o o' (renderOverridden (fuel + 1) s) (renderOverridden (fuel + 1) (s.upon l' o')) := by
  simp only [renderOverridden]
  refine .get_bind fun st hst => ?_
  cases hblocks : st.blocks with
  | nil => exact .fail _
  | cons b rest =>
      have hmem := hs.mem_of_parents hl
      have habove : (templatesOf (s.upon l' o').library (s.upon l' o').parents).drop b.level =
          (templatesOf s.library s.parents).drop b.level := by
        obtain rfl := hs.library
        rw [hs.parents_eq hl]
        exact congrArg (List.drop b.level) (templatesOf_eq hl hmem)
      have hinside : ∀ t ∈ (templatesOf s.library s.parents).drop b.level,
          D t.name ∧ t.Regular ∧ ∀ m ∈ t.names, D m := by
        obtain rfl := hs.library
        exact fun t ht => regular_of_templatesOf hl hmem (List.mem_of_mem_drop ht)
      dsimp only
      rw [habove, hs.parents_eq hl, blockFrom?_eq s.library (s.upon l' o').library]
      cases hfind : blockFrom? s.library b.name (b.level + 1)
          ((templatesOf s.library s.parents).drop b.level) with
      | none => exact .fail _
      | some found =>
          obtain ⟨overridden, body⟩ := found
          obtain ⟨hname, hbody⟩ := inside_of_blockFrom? hinside hfind
          refine (Agrees.openBlock hname).bind fun _ => (ih.pieces s hs body hbody).bind fun t => ?_
          refine .bind (.modify (fun _ => rfl) fun st hst => ⟨hst.frames, fun c hc => ?_⟩)
            fun _ => .pure _
          exact hst.blocks c (List.mem_of_mem_drop hc)

include hl in
theorem agrees_renderBlock (name : Text) (body : List Piece) (hbody : ∀ n ∈ namesIn body, D n)
    {n : Text} (hn : D n) :
    Agrees D o o' (renderBlock fuel s name body n)
      (renderBlock fuel (s.upon l' o') name body n) := by
  obtain rfl := hs.library
  obtain ⟨hlevels, hinside⟩ := levels_eq hl hn
  unfold renderBlock
  rw [Surroundings.upon_library, hlevels, blockFrom?_eq s.library l']
  cases hfind : blockFrom? s.library name 0 (levels s.library n) with
  | none => exact ih.pieces s hs body hbody
  | some found =>
      obtain ⟨b, own⟩ := found
      obtain ⟨hname, hown⟩ := inside_of_blockFrom? hinside hfind
      exact (Agrees.openBlock hname).bind fun _ => ih.pieces s hs own hown

include hl hempty in
theorem agrees_renderPiece (p : Piece) (hp : ∀ n ∈ p.names, D n) :
    Agrees D o o' (renderPiece (fuel + 1) s p) (renderPiece (fuel + 1) (s.upon l' o') p) := by
  simp only [renderPiece]
  cases p with
  | text t => exact .pure _
  | raw first t last => exact .pure _
  | output trim e => exact (ih.expr s hs e).bind fun _ => .pure _
  | assign trim name e isGlobal =>
      refine (ih.expr s.unescaped hs.unescaped e).bind fun v => ?_
      cases isGlobal with
      | true => exact .bind (.changeFrames fun _ => Frames.mem_assignOutside) fun _ => .pure _
      | false => exact .bind (.changeFrames fun _ => Frames.mem_assign) fun _ => .pure _
  | filtered first filter body last =>
      refine (ih.pieces s hs body hp).bind fun t => ?_
      split
      · exact .pure _
      · exact (ih.filter s hs filter _).bind fun _ => .pure _
  | branch cs last => exact ih.cases s hs cs hp
  | loop first key item container body alternative last =>
      exact ih.loop s hs key item container body alternative hp
  | leave trim => exact (Agrees.interrupt _ _).bind fun _ => .pure _
  | next trim => exact (Agrees.interrupt _ _).bind fun _ => .pure _
  | «include» trim names optional =>
      have hnames : ∀ n ∈ names, D n := by simpa [Piece.names] using hp
      have hfind : names.findSome? (s.upon l' o').library.find? =
          names.findSome? s.library.find? := by
        obtain rfl := hs.library
        exact findSome?_eq hl hnames
      dsimp only
      rw [hfind]
      cases ht : names.findSome? s.library.find? with
      | none =>
          dsimp only
          split
          · exact .pure _
          · exact .fail _
      | some t =>
          -- the pieces of the included template are rendered in the same surroundings, and
          -- what they refer to are again names on which the libraries agree
          obtain rfl := hs.library
          obtain ⟨n, hn, hnt⟩ := List.exists_of_findSome?_eq_some ht
          obtain rfl := Library.name_of_find? hnt
          obtain ⟨-, hclosed⟩ := hl.closed _ t (hnames _ hn) hnt
          exact .inFrame (hnames _ hn) (ih.pieces s hs t.pieces hclosed)
  | block first name body last =>
      change Agrees D o o' (get >>= fun st => renderBlock fuel s name body st.frames.template)
        (get >>= fun st => renderBlock fuel (s.upon l' o') name body st.frames.template)
      exact .get_bind fun st hst => agrees_renderBlock hl ih hs name body hp (hst.template hempty)
  | overridden => exact ih.overridden s hs
  | «extends» trim parent => exact .fail _
  | importMacros trim file scope => exact .pure _
  | macroDef first name params body last => exact .pure _
  | comment trim => exact .pure _

include hempty in
theorem agrees_renderLoop (key : Option Text) (item : Text) (container : Expr)
    (body alternative : List Piece) (hbody : ∀ n ∈ namesIn body ++ namesIn alternative, D n) :
    Agrees D o o' (renderLoop (fuel + 1) s key item container body alternative)
      (renderLoop (fuel + 1) (s.upon l' o') key item container body alternative) := by
  simp only [renderLoop]
  cases containerName? container with
  | none => exact .fail _
  | some name =>
      refine (ih.expr s.unescaped hs.unescaped container).bind fun v => ?_
      refine (Agrees.ofExcept _).bind fun items => ?_
      split
      · exact ih.pieces s hs alternative fun n hn => hbody n (List.mem_append_right _ hn)
      · refine .get_bind fun st hst => ?_
        have htemplate := hst.template hempty
        refine .inFrame htemplate (.bind (.foldlM fun state item _ => ?_) fun _ => .pure _)
        obtain ⟨parts, left⟩ := state
        obtain ⟨⟨k, v⟩, i⟩ := item
        dsimp only
        split
        · exact .pure _
        · refine .bind (.changeFrames fun fs hfs f hf => ?_) fun _ => ?_
          · obtain rfl | hf := List.mem_cons.mp hf
            · exact htemplate
            · exact hfs f (List.mem_of_mem_drop hf)
          · refine (ih.pieces s hs body fun n hn => hbody n (List.mem_append_left _ hn)).bind
              fun t => .get_bind fun st _ => .pure _

omit ih hs in
include hl hempty in
/-- Evaluation is the same in libraries that agree. -/
theorem agreesAt (fuel : Nat) : AgreesAt D l l' o o' fuel := by
  -- every function calls the others with less fuel, so all of them go by one induction
  induction fuel with
  | zero =>
      constructor
      all_goals intros
      all_goals exact .fail _
  | succ fuel ih =>
      exact {
        expr := fun _ hs => agrees_evalExpr ih hs
        term := fun _ hs => agrees_evalTerm ih hs
        part := fun _ hs => agrees_evalPart ih hs
        default := fun _ hs => agrees_evalDefault ih hs
        args := fun _ hs => agrees_evalArgs ih hs
        call := fun _ hs => agrees_evalCall ih hs
        filter := fun _ hs => agrees_applyFilter ih hs
        test := fun _ hs => agrees_evalTest ih hs
        member := fun _ hs => agrees_isMember ih hs
        truth := fun _ hs => agrees_truthOf ih hs
        numberExpr := fun _ hs => agrees_numberOfExpr ih hs
        number := fun _ hs => agrees_numberOf ih hs
        macroCall := fun _ hs => agrees_callMacro hl hempty ih hs
        pieces := fun _ hs => agrees_renderPieces ih hs
        piece := fun _ hs => agrees_renderPiece hl hempty ih hs
        cases := fun _ hs => agrees_renderCases ih hs
        loop := fun _ hs => agrees_renderLoop hempty ih hs
        overridden := fun _ hs => agrees_renderOverridden hl ih hs }

end

end TemplateTree.Template

namespace TemplateTree.Library

open Template

variable {D : Text → Prop} {l l' : Library} {o o' : Outlook}

theorem toOption_renderFrom (s : Surroundings) : (renderFrom s).toOption =
    match renderPieces depthLimit s s.root.pieces (.start s.template.name) with
    | .ok text _ => some text
    | .error _ _ => none := by
  unfold renderFrom EStateM.run
  cases renderPieces depthLimit s s.root.pieces (.start s.template.name) <;> rfl

/-- The questions that the rendering of a template asks, one after the other. -/
def questions (l : Library) (registry : Registry) (escape : Bool) (globals : Namespace)
    (o : Outlook) (name : Text) : List Question :=
  match l.find? name with
  | none => []
  | some t =>
    let s : Surroundings := ⟨l, registry, globals, t, escape, o⟩
    ((renderPieces depthLimit s s.root.pieces).after (.start name)).asked.reverse

/-- A template renders alike in libraries that agree on all that it refers to, and on machines
that give the same answers to what it asks. -/
theorem Agree.toOption_render_eq (hl : Agree D l l') (hempty : D []) (registry : Registry)
    (escape : Bool) (globals : Namespace) {name : Text} (hname : D name)
    (ho : o.Alike o' (l.questions registry escape globals o name)) :
    (l'.render registry escape globals o' name).toOption =
      (l.render registry escape globals o name).toOption := by
  unfold questions at ho
  unfold render
  rw [hl.find name hname]
  cases hfind : l.find? name with
  | none => rfl
  | some t =>
      rw [hfind] at ho
      obtain rfl := name_of_find? hfind
      have hs : Surroundings.In D l o ⟨l, registry, globals, t, escape, o⟩ :=
        ⟨rfl, rfl, hname, hfind⟩
      obtain ⟨hroot, hrootName, hrootFind⟩ := hs.root_eq hl
      obtain ⟨-, hnames⟩ := hl.closed _ _ hrootName hrootFind
      have hinside : RenderState.Inside D (.start t.name) :=
        ⟨by simpa [RenderState.start] using hname, by simp [RenderState.start]⟩
      obtain ⟨-, -, hsame⟩ := (agreesAt hl hempty depthLimit).pieces _ hs _ hnames _ hinside
      have hrun := hsame ho
      rw [← hroot] at hrun
      dsimp only
      rw [toOption_renderFrom, toOption_renderFrom]
      exact congrArg (fun r => match r with
        | .ok text _ => some text
        | .error _ _ => none) (hrun.trans (by rw [hroot]))

end TemplateTree.Library
