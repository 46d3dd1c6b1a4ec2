import TemplateTree.Proofs.Environment.Binding
import TemplateTree.Proofs.Source.LineMap

/-!
# The lines that failing renderings report

A rendering that fails is laid to a line in one of two ways.  If the message has an arrow with
a line and column, that line is taken, wherever the arrow comes from; such a line need not be
there.  Else the line is looked for in the loaded texts, and is there.
-/

namespace TemplateTree

namespace Environment

open Text

variable {t : FileTree} {settings : Settings} {env env' : Environment} {file name : Text}
  {source : Source} {e : TemplateError} {n : Nat}

/-- A template or stencil is loaded, and its text has a line with a number. -/
def HasLine (env : Environment) (file : Text) (n : Nat) : Prop :=
  ∃ source, env.sources.lookup file = some source ∧ source.HasLine n

/-- Every source that is loaded was made from a text. -/
def Processed (env : Environment) : Prop :=
  ∀ file source, env.sources.lookup file = some source → ∃ o text, source = .ofText o text

theorem processed_of_create (h : create t settings = .ok env) : env.Processed := by
  intro file source hsource
  obtain ⟨set, -, hload, -⟩ := create_spec h
  obtain ⟨f, -, -, hread⟩ := (Sources.load_spec hload).2 file source hsource
  obtain ⟨text, -, htext⟩ := Sources.read_eq_ok hread
  exact ⟨_, text, htext⟩

/-! ## Calls leave the texts -/

theorem sameTexts_of_made? {c : Call} (h : c.made? env = some env') : SameTexts env env' := by
  cases c with
  | filter | function | test =>
      obtain rfl := Option.some.inj h
      exact ⟨rfl, rfl, rfl, rfl, rfl⟩
  | global name v => exact Extension.sameTexts_of_withGlobal (toOption_eq_some_iff.mp h)
  | extension e settings s =>
      dsimp only [Call.made?] at h
      split at h
      case h_2 => cases h
      case h_1 s' happly =>
        obtain rfl := Option.some.inj h
        have hadded := (Extension.settles_apply e settings env).eq_ok happly
        cases hresult : e.added settings env with
        | error refusal =>
            rw [hresult] at hadded
            cases hadded
        | ok added =>
            rw [hresult] at hadded
            obtain rfl := Except.ok.inj hadded
            exact Extension.sameTexts_of_added hresult

theorem sameTexts_building (env : Environment) (calls : List Call) :
    SameTexts env (building env calls).env := by
  suffices h : ∀ b : Building, SameTexts b.env (calls.foldl Building.next b).env from h ⟨env, []⟩
  induction calls with
  | nil => exact fun b => .refl b.env
  | cons c rest ih =>
      intro b
      refine SameTexts.trans ?_ (ih (b.next c))
      unfold Building.next
      split
      case h_1 env' hmade => exact sameTexts_of_made? hmade
      case h_2 => exact .refl b.env

theorem processed_building (h : create t settings = .ok env) (calls : List Call) :
    (building env calls).env.Processed := by
  intro file source hsource
  rw [(sameTexts_building env calls).sources] at hsource
  exact processed_of_create h file source hsource

/-! ## Lines of loaded texts -/

theorem hasLine_sourceLine_iff (h : env.Processed) (file : Text) (n : Nat) :
    env.HasLine file (env.sources.sourceLine file n) ↔ env.HasLine file n := by
  refine exists_congr fun source => and_congr_right fun hsource => ?_
  obtain ⟨o, text, rfl⟩ := h file source hsource
  obtain ⟨groups, rest, hgrouping⟩ := Source.exists_grouping o text
  rw [Sources.sourceLine, hsource]
  exact hgrouping.hasLine_sourceLine_iff

/-- Where an identifier is found, there is a line. -/
theorem hasLine_of_placeOf? {identifier : Text}
    (h : env.placeOf? name identifier = some (file, n)) :
    env.HasLine file n := by
  obtain ⟨file', -, hfound⟩ := List.exists_of_findSome?_eq_some h
  obtain ⟨line, hline, hplace⟩ := Option.map_eq_some_iff.mp hfound
  obtain ⟨rfl, rfl⟩ := Prod.mk.inj hplace
  obtain ⟨source, hsource, hfind⟩ := Option.bind_eq_some_iff.mp hline
  exact ⟨source, hsource, Source.hasLine_of_findLine hfind⟩

/-- An arrow in the message decides the line, which is then a line of the template just if the
arrow's own line is; without an arrow the line is there. -/
theorem renderFailure_reports (h : env.Processed) (name : Text) (e : TemplateError) :
    ∃ file line, env.renderFailure name e = .template file line e.chain ∧
      (Location.line? e.chain = none → ∀ n, line = some n → env.HasLine file n) ∧
      ∀ k, Location.line? e.chain = some k → file = name ∧
        ∃ n, line = some n ∧ (env.HasLine file n ↔ env.HasLine name k) := by
  unfold renderFailure
  dsimp only
  cases hplace : Location.line? e.chain with
  | some k =>
      refine ⟨name, _, rfl, fun hnone => (by cases hnone), fun k' hk => ?_⟩
      obtain rfl := Option.some.inj hk
      exact ⟨rfl, _, rfl, hasLine_sourceLine_iff h name k⟩
  | none =>
      cases hfound : (Location.identifier? e.chain).bind (env.placeOf? name) with
      | none => exact ⟨name, none, rfl, fun _ n hn => (by cases hn), fun k hk => (by cases hk)⟩
      | some place =>
          obtain ⟨file, line⟩ := place
          obtain ⟨identifier, -, hplaceOf⟩ := Option.bind_eq_some_iff.mp hfound
          refine ⟨file, some line, rfl, fun _ n hn => ?_, fun k hk => (by cases hk)⟩
          obtain rfl := Option.some.inj hn
          exact hasLine_of_placeOf? hplaceOf

end Environment

namespace Sketch

def arrowed : FileTree :=
  ⟨.dir [(['t'], .dir [(['a'], file ("\x7b\x7b throw(message=\"see --> 99:1\") ".toList ++
    "\x7d\x7d\n".toList))])], []⟩

def strays : Bool :=
  match Environment.create arrowed (settings false [] "/last".toList) with
  | .error _ => false
  | .ok env =>
    match env.library.render env.registry env.escape (env.context []) .none ['a'] with
    | .ok _ => false
    | .error e => Location.line? e.chain = some 99 &&
        ((env.sources.lookup ['a']).map fun source => Text.feeds source.text) = some 1

theorem exists_strays : ∃ env e,
    Environment.create arrowed (settings false [] "/last".toList) = .ok env ∧
    env.library.render env.registry env.escape (env.context []) .none ['a'] = .error e ∧
    Location.line? e.chain = some 99 ∧ ¬ env.HasLine ['a'] 99 := by
  have hcheck : strays = true := by decide +kernel
  unfold strays at hcheck
  split at hcheck
  case h_1 => cases hcheck
  case h_2 env henv =>
    split at hcheck
    case h_1 => cases hcheck
    case h_2 e he =>
      simp only [Bool.and_eq_true, decide_eq_true_eq] at hcheck
      obtain ⟨hplace, hfeeds⟩ := hcheck
      refine ⟨env, e, henv, he, hplace, ?_⟩
      rintro ⟨source, hsource, -, hline⟩
      rw [hsource] at hfeeds
      have hone : Text.feeds source.text = 1 := Option.some.inj hfeeds
      rw [hone] at hline
      exact absurd hline (by decide)

end Sketch

namespace Environment

/-- Whatever calls built an environment up, a rendering that fails is laid to a template with
the whole message of the error, whatever the machine says.  Without an arrow in that message, a
line that is reported is there: the file is loaded, and its text is that long.  With an arrow
the file is the template that is rendered and a line is reported; it is there if and only if
that template is loaded and has the line of the arrow. -/
theorem render_reports (hcreate : create t settings = .ok env) (calls : List Call) (name : Text)
    (ns : Namespace) (o : Template.Outlook) :
    let built := (building env calls).env
    ∀ f, built.render name ns o = .error f → ∃ e file line,
      built.library.render built.registry built.escape (built.context ns) o name = .error e ∧
      f = .template file line e.chain ∧
      (Location.line? e.chain = none → ∀ n, line = some n → built.HasLine file n) ∧
      ∀ k, Location.line? e.chain = some k → file = name ∧
        ∃ n, line = some n ∧ (built.HasLine file n ↔ built.HasLine name k) := by
  intro built f h
  unfold render at h
  split at h
  case h_1 => cases h
  case h_2 e he =>
    cases h
    obtain ⟨file, line, hfailure, hreports⟩ :=
      renderFailure_reports (processed_building hcreate calls) name e
    exact ⟨e, file, line, he, hfailure, hreports⟩

/-- A message that is thrown leads to a line that is not there. -/
theorem render_reports_strays : ∃ env file n message,
    create Sketch.arrowed (Sketch.settings false [] "/last".toList) = .ok env ∧
    env.render ['a'] [] .none = .error (.template file (some n) message) ∧
      ¬ env.HasLine file n := by
  obtain ⟨env, e, hcreate, herror, hplace, hbeyond⟩ := Sketch.exists_strays
  have hrender : env.render ['a'] [] .none = .error (env.renderFailure ['a'] e) := by
    rw [render, herror]
  obtain ⟨e', file, line, herror', hfailure, -, hplaced⟩ :=
    render_reports hcreate [] ['a'] [] .none _ hrender
  obtain rfl : e = e' := Except.error.inj (herror.symm.trans herror')
  obtain ⟨-, n, rfl, hline⟩ := hplaced 99 hplace
  exact ⟨env, file, n, e.chain, hcreate, hfailure ▸ hrender, fun h => hbeyond (hline.mp h)⟩

end Environment

end TemplateTree
