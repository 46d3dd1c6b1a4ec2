import TemplateTree.Proofs.Environment.Corresponding
import TemplateTree.Proofs.Source.Comments
import TemplateTree.Proofs.Text.Encoding

/-!
# What is in a comment

The text of a comment can be replaced by another one.  Neither processing nor parsing lets
through what it is, so that an environment is made as before and renders as before, unless the
scan for references finds other stencils in the new text than in the old one.
-/

namespace TemplateTree

open FileTree Template

/-- A comment in a template text, and another text for it. -/
structure CommentEdit where
  before : Text
  old : Text
  new : Text
  after : Text

namespace CommentEdit

def text (e : CommentEdit) : Text :=
  e.before ++ commentThen e.old e.after

def edited (e : CommentEdit) : Text :=
  e.before ++ commentThen e.new e.after

/-- What comes before the comment in the processed texts. -/
def prior (o : EngineOptions) (e : CommentEdit) : Text :=
  let processed := (Source.ofText o (e.before ++ commentOpen)).processed
  processed.take (processed.length - commentOpen.length)

/-- The parser finds the comment in the text as it was, or, where it does not parse that, nothing
before the comment is left open; and both comments leave the marks alone. -/
structure Valid (o : EngineOptions) (e : CommentEdit) : Prop where
  old : Inert e.old
  new : Inert e.new
  place : CommentAt (e.prior o).length (Source.ofText o e.text).processed ∨ Plain (e.prior o)

/-- The scan for references finds the same stencils before and after. -/
def KeepsNames (o : EngineOptions) (stencils : List TemplateFile) (e : CommentEdit) : Prop :=
  ∀ g ∈ stencils, g.name ∈ Source.references (Source.ofText o e.text).processed ↔
    g.name ∈ Source.references (Source.ofText o e.edited).processed

/-- No tag opens in the comment, and whatever looks like the beginning of a tag that refers to
templates ends before the comment. -/
structure Unscanned (o : EngineOptions) (e : CommentEdit) : Prop where
  prior : Source.Ended (e.prior o)
  old : ¬ tagOpen <:+: e.old
  new : ¬ tagOpen <:+: e.new

/-- Trees that are the same but for the comment in one file. -/
structure Edits (e : CommentEdit) (q : Place) (t u : FileTree) : Prop where
  alike : AlikeOff (· = q) t u
  text : t.HasBytes q (Text.toBytes e.text)
  edited : u.HasBytes q (Text.toBytes e.edited)

variable {e : CommentEdit} {o : EngineOptions} {stencils : List TemplateFile} {t u : FileTree}
  {q : Place} {s : Settings} {set : TemplateSet}

/-- The texts are processed alike but for the comment. -/
theorem exists_processed (o : EngineOptions) (e : CommentEdit) : ∃ old new after,
    Source.Drops false e.old old ∧ Source.Drops false e.new new ∧
    (Source.ofText o e.text).processed = e.prior o ++ commentThen old after ∧
    (Source.ofText o e.edited).processed = e.prior o ++ commentThen new after := by
  obtain ⟨before, after, hopen, hcomment⟩ :=
    Source.exists_process_commentThen o e.before e.after
  have hprior : e.prior o = before := by
    unfold prior
    rw [Source.processed_ofText, hopen]
    simp
  obtain ⟨old, hold, htext⟩ := hcomment e.old
  obtain ⟨new, hnew, hedited⟩ := hcomment e.new
  rw [Source.processed_ofText, Source.processed_ofText, hprior]
  exact ⟨old, new, after, hold, hnew, htext, hedited⟩

/-- The two texts make the same template, or none. -/
theorem Valid.toOption_parse (h : e.Valid o) (name : Text) :
    (Template.parse name (Source.ofText o e.text).processed).toOption =
      (Template.parse name (Source.ofText o e.edited).processed).toOption := by
  obtain ⟨old, new, after, hold, hnew, htext, hedited⟩ := exists_processed o e
  have hplain : Plain (e.prior o) := by
    refine h.place.elim (fun hplace => ?_) id
    rw [htext] at hplace
    exact plain_of_commentAt hplace
  rw [htext, hedited]
  exact toOption_parse_of_plain (hold.inert h.old) (hnew.inert h.new) hplain after name

/-- A comment that the scan passes over does not matter for the names that it finds. -/
theorem Unscanned.references_eq (h : e.Unscanned o) :
    Source.references (Source.ofText o e.text).processed =
      Source.references (Source.ofText o e.edited).processed := by
  obtain ⟨old, new, after, hold, hnew, htext, hedited⟩ := exists_processed o e
  have hout : ∀ {m m' : Text}, Source.Drops false m m' → ¬ tagOpen <:+: m → ¬ tagOpen <:+: m' :=
    fun hdrops hm hin => hm (hdrops.pair_isInfix (by decide) (by decide) hin)
  rw [htext, hedited, Source.references_commentThen h.prior (hout hold h.old),
    Source.references_commentThen h.prior (hout hnew h.new)]

theorem Unscanned.keepsNames (h : e.Unscanned o) (stencils : List TemplateFile) :
    e.KeepsNames o stencils := by
  intro g _
  rw [h.references_eq]

theorem Valid.interchangeable (h : e.Valid o) (hnames : e.KeepsNames o stencils) :
    (Source.ofText o e.text).Interchangeable stencils (Source.ofText o e.edited) :=
  ⟨hnames, h.toOption_parse⟩

/-- The file with the comment is read to interchangeable sources, and every other file as it
was. -/
theorem Edits.readAlike (h : e.Edits q t u) (ht : t.Sound) (hu : u.Sound)
    (hvalid : e.Valid s.engineOptions) (hset : s.discover t = .ok set)
    (hnames : e.KeepsNames s.engineOptions set.stencils) :
    Sources.ReadAlike s.engineOptions set t u := by
  intro f hf
  obtain ⟨root, hplace⟩ := s.place_of_discover hset
  have hplace' : u.place s.templateDir = .ok root := h.alike.shape.place_eq.trans hplace
  obtain ⟨names, bytes, hne, rfl, hbytes⟩ :=
    Settings.exists_hasBytes_of_discover ht hplace hset hf
  rw [Sources.read, Sources.read]
  by_cases hq : root ++ names = q
  · subst hq
    cases hcheck : checkPath (s.templateAt names).path with
    | error e =>
        rw [readText_of_checkPath hcheck, readText_of_checkPath hcheck]
        exact .none
    | ok _ =>
        have hread := Settings.readBytes_templateAt ht hplace hne h.text hcheck
        have hread' := Settings.readBytes_templateAt hu hplace' hne h.edited hcheck
        rw [readText_of_readBytes hread, readText_of_readBytes hread', Text.ofBytes?_toBytes,
          Text.ofBytes?_toBytes]
        exact .some (hvalid.interchangeable hnames)
  · have hbytes' := (h.alike.content _ hq bytes).mpr hbytes
    rw [Settings.readText_templateAt ht hu hplace hplace' hne hbytes hbytes']
    cases t.readText (s.templateAt names).path with
    | error e => exact .none
    | ok text => exact .some (.refl _ _)

end CommentEdit

/-! ## A comment before a tag -/

namespace Sketch

/-- A comment before a tag that includes a stencil, and another text for it. -/
def noted : CommentEdit :=
  ⟨['A'], " one ".toList, "two\n".toList, including "s/x".toList⟩

/-- A project with a template and the stencil that it includes. -/
def withIncluding (text : Text) : FileTree :=
  ⟨.dir [(['t'], .dir [(['a'], file text), (['s'], .dir [(['x'], file ['X'])])])], []⟩

theorem sound_withIncluding (text : Text) : (withIncluding text).Sound := by
  refine ⟨Node.Sound.of_names [['t']] rfl (by decide) (by decide) ?_, rfl⟩
  refine List.forall_mem_singleton.mpr
    (Node.Sound.of_names [['a'], ['s']] rfl (by decide) (by decide) ?_)
  refine List.forall_mem_cons.mpr ⟨.file, List.forall_mem_singleton.mpr ?_⟩
  exact Node.Sound.of_names [['x']] rfl (by decide) (by decide)
    (List.forall_mem_singleton.mpr .file)

theorem valid_noted : noted.Valid withStencils.engineOptions where
  old := ⟨by decide, by decide, by decide⟩
  new := ⟨by decide, by decide, by decide⟩
  place := .inl (by decide +kernel)

theorem unscanned_noted : noted.Unscanned withStencils.engineOptions where
  prior := by
    have hprior : noted.prior withStencils.engineOptions = ['A'] := by decide
    rw [hprior]
    intro x hx arguments hopening
    have hx : x = ['A'] ∨ x = [] := by simpa [List.suffix_cons_iff] using hx
    rcases hx with rfl | rfl <;> cases hopening
  old := by decide
  new := by decide

theorem item?_withIncluding (text text' : Text) (p : Place) :
    (withIncluding text').root.item? p = if p = [['t'], ['a']] then
      some (.file (Text.toBytes text') FileTree.defaultMode 0)
      else (withIncluding text).root.item? p := by
  have hslot : (withIncluding text).root.HasSlot [['t'], ['a']] := ⟨by simp, rfl⟩
  have hfile : (withIncluding text).root.item? [['t'], ['a']] ≠ some .dir :=
    fun h => Item.noConfusion (Option.some.inj h)
  exact Node.item?_put_leaf hslot hfile fun _ => Node.item?_file_of_ne_nil

theorem edits_noted :
    noted.Edits [['t'], ['a']] (withIncluding noted.text) (withIncluding noted.edited) where
  alike := by
    have hself := item?_withIncluding noted.text noted.text
    have hother := item?_withIncluding noted.text noted.edited
    refine ⟨(SameShape.refl _).update rfl rfl hself hother rfl, fun p hp bytes => ?_⟩
    rw [hasBytes_of_update hother]
    exact iff_of_eq (if_neg hp)
  text := ⟨_, _, rfl⟩
  edited := ⟨_, _, rfl⟩

theorem exists_noted :
    ∃ env, Environment.create (withIncluding noted.text) withStencils = .ok env := by
  have hmade : (Environment.create (withIncluding noted.text) withStencils).toOption.isSome =
      true := by decide +kernel
  obtain ⟨env, hsome⟩ := Option.isSome_iff_exists.mp hmade
  exact ⟨env, toOption_eq_some_iff.mp hsome⟩

end Sketch

namespace Environment

variable {s : Settings} {t u : FileTree} {q : Place} {e : CommentEdit}

/-- The text of a comment does not matter, unless the scan for references finds other stencils
because of it; and it does not if no tag opens in the comment and whatever looks like the
beginning of a tag that refers to templates ends before it. -/
theorem create_of_commentEdit (ht : t.Sound) (hu : u.Sound) (h : e.Edits q t u)
    (hvalid : e.Valid s.engineOptions) :
    (e.Unscanned s.engineOptions → ∀ stencils, e.KeepsNames s.engineOptions stencils) ∧
    ((∀ set, s.discover t = .ok set → e.KeepsNames s.engineOptions set.stencils) →
      ((∃ env, create t s = .ok env) ↔ ∃ env', create u s = .ok env') ∧
      ∀ env env', create t s = .ok env → create u s = .ok env' →
        env' = { env with sources := env'.sources } ∧
        (∀ name, env'.isLoaded name = env.isLoaded name) ∧
        ∀ name ns o, (env'.render name ns o).toOption = (env.render name ns o).toOption) := by
  refine ⟨fun hscan => hscan.keepsNames, fun hnames => ?_⟩
  have hdiscover : s.discover u = s.discover t := s.discover_of_sameShape ht hu h.alike.shape
  have hread := fun {set} hset => h.readAlike ht hu hvalid hset (hnames set hset)
  have hforth : ∀ {env}, create t s = .ok env → ∃ sources,
      create u s = .ok { env with sources := sources } ∧
      ∀ name, sources.has name = env.sources.has name := by
    intro env henv
    obtain ⟨set, hset, -⟩ := create_spec henv
    obtain ⟨sources, hmade, hsources⟩ :=
      exists_create (hread hset) ht hset (hdiscover.trans hset) henv
    exact ⟨sources, hmade, ByName.has_eq_of_forall₂ hsources⟩
  refine ⟨⟨fun ⟨env, henv⟩ => ?_, fun ⟨env', henv'⟩ => ?_⟩, fun env env' henv henv' => ?_⟩
  · obtain ⟨sources, hmade, -⟩ := hforth henv
    exact ⟨_, hmade⟩
  · obtain ⟨set, hset, -⟩ := create_spec henv'
    have hset' := hdiscover.symm.trans hset
    obtain ⟨sources, hmade, -⟩ := exists_create (hread hset').symm hu hset hset' henv'
    exact ⟨_, hmade⟩
  · obtain ⟨sources, hmade, hsame⟩ := hforth henv
    obtain rfl : { env with sources := sources } = env' := Except.ok.inj (hmade.symm.trans henv')
    refine ⟨rfl, hsame, fun name ns o => ?_⟩
    rw [toOption_render, toOption_render]
    rfl

/-- A comment before a tag is replaced. -/
theorem create_of_commentEdit_noted :
    (Sketch.withIncluding Sketch.noted.text).Sound ∧
    (Sketch.withIncluding Sketch.noted.edited).Sound ∧
    Sketch.noted.Edits [['t'], ['a']] (Sketch.withIncluding Sketch.noted.text)
      (Sketch.withIncluding Sketch.noted.edited) ∧
    Sketch.noted.Valid Sketch.withStencils.engineOptions ∧
    Sketch.noted.Unscanned Sketch.withStencils.engineOptions ∧
    ∃ env env',
      create (Sketch.withIncluding Sketch.noted.text) Sketch.withStencils = .ok env ∧
      create (Sketch.withIncluding Sketch.noted.edited) Sketch.withStencils = .ok env' ∧
      ∀ name ns o, (env'.render name ns o).toOption = (env.render name ns o).toOption := by
  have ht := Sketch.sound_withIncluding Sketch.noted.text
  have hu := Sketch.sound_withIncluding Sketch.noted.edited
  have hedits := Sketch.edits_noted
  have hscan := Sketch.unscanned_noted
  obtain ⟨hnames, hsame⟩ := create_of_commentEdit ht hu hedits Sketch.valid_noted
  obtain ⟨env, henv⟩ := Sketch.exists_noted
  obtain ⟨hboth, hrender⟩ := hsame fun set _ => hnames hscan set.stencils
  obtain ⟨env', henv'⟩ := hboth.mp ⟨env, henv⟩
  exact ⟨ht, hu, hedits, Sketch.valid_noted, hscan, env, env', henv, henv',
    (hrender env env' henv henv').2.2⟩

end Environment

end TemplateTree
