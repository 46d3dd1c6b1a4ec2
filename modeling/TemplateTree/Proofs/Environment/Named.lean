import TemplateTree.Proofs.Environment.Rendering
import TemplateTree.Proofs.Environment.Unreached
import TemplateTree.Proofs.Template.Quoted

/-!
# Stencils that are named

The names to which a loaded template refers are those in the tags of its tree.  A stencil
that such a tag names is loaded if the scan of the text comes to the name.
-/

namespace TemplateTree

open FileTree ParseTree Source Template

/-! ## A tag after a comment -/

namespace Sketch

def comment : Text :=
  "\x7b# \x7b% include 'o' #\x7d".toList

def commented : FileTree :=
  ⟨.dir [(['t'], .dir [(['a'], file (comment ++ including "s/x".toList)),
    (['s'], .dir [(['x'], file ['X'])])])], []⟩

/-- Whether a text after another one is a tag that quotes a name. -/
def hasTagAfter (before text name : Text) : Bool :=
  match Peg.parse grammar .template (before ++ text) with
  | .error _ => false
  | .ok tree => tree.nodes.any fun u => u.start = before.length && quoted u = [name]

theorem exists_of_hasTagAfter {before text name : Text}
    (h : hasTagAfter before text name = true) :
    ∃ tree, Peg.parse grammar .template (before ++ text) = .ok tree ∧
      ∃ u ∈ tree.nodes, u.start = before.length ∧ quoted u = [name] := by
  unfold hasTagAfter at h
  split at h
  case h_1 => cases h
  case h_2 tree htree =>
    obtain ⟨u, hu, hcheck⟩ := List.any_eq_true.mp h
    simp only [Bool.and_eq_true, decide_eq_true_eq] at hcheck
    exact ⟨tree, htree, u, hu, hcheck⟩

/-- Whether the template is read as it is, and the stencil is known. -/
def readsCommented : Bool :=
  match Environment.create commented withStencils with
  | .error _ => false
  | .ok env =>
    (env.sources.lookup ['a']).map Source.processed = some (comment ++ including "s/x".toList) &&
      withStencils.templateAt [['s'], ['x']] ∈ env.stencils

theorem exists_commented : ∃ env source, Environment.create commented withStencils = .ok env ∧
    env.sources.lookup ['a'] = some source ∧
    source.processed = comment ++ including "s/x".toList ∧
    withStencils.templateAt [['s'], ['x']] ∈ env.stencils := by
  have hcheck : readsCommented = true := by decide +kernel
  unfold readsCommented at hcheck
  split at hcheck
  case h_1 => cases hcheck
  case h_2 env henv =>
    simp only [Bool.and_eq_true, decide_eq_true_eq] at hcheck
    obtain ⟨source, hsource, hprocessed⟩ := Option.map_eq_some_iff.mp hcheck.1
    exact ⟨env, source, henv, hsource, hprocessed, hcheck.2⟩

theorem inSight_of_comment {u : Tree} {name : Text} (hstart : u.start = comment.length)
    (hquoted : quoted u = [name]) (hname : ¬ tagClose <:+: name)
    (hbegins : ∀ x ∈ comment.tails, (opening? (x ++ including name)).isSome = true →
      x = [] ∨ x = "\x7b% include ".toList ++ "'o' #\x7d".toList) :
    InSight (comment ++ including name) u name := by
  refine ⟨⟨[], [], hquoted, by simpa using hname⟩, fun x hx hopening => .inr ?_⟩
  rw [hstart, List.take_left] at hx
  rw [hstart, List.drop_left] at hopening
  rcases hbegins x ((List.mem_tails x comment).mpr hx) hopening with rfl | rfl
  · exact .nil
  · refine (closed_of_not_any rfl).append ?_
    exact Closed.quote (q := '\'') (n := ['o']) rfl (by decide) (closed_of_not_any rfl)

end Sketch

namespace Environment

variable {s : Settings} {t : FileTree} {env : Environment} {name n : Text} {source : Source}
  {f g : TemplateFile}

theorem find?_of_create (h : create t s = .ok env)
    (hsource : env.sources.lookup name = some source) :
    ∃ template, Template.parse name source.processed = .ok template ∧
      env.library.find? name = some template := by
  obtain ⟨_, _, _, hlibrary, _⟩ := create_spec h
  refine Library.exists_of_ofTexts hlibrary ?_
  rw [lookup_processed, hsource]
  rfl

theorem source_of_find? {template : Template} (h : create t s = .ok env)
    (hfind : env.library.find? name = some template) :
    ∃ source, env.sources.lookup name = some source ∧
      Template.parse name source.processed = .ok template := by
  obtain ⟨_, _, _, hlibrary, _⟩ := create_spec h
  rw [(Library.ofTexts_spec hlibrary).1, lookup_processed, Option.bind_map] at hfind
  obtain ⟨source, hsource, hparse⟩ := Option.bind_eq_some_iff.mp hfind
  exact ⟨source, hsource, toOption_eq_some_iff.mp hparse⟩

theorem isLoaded_of_mem_references (h : create t s = .ok env)
    (hsource : env.sources.lookup name = some source) (hf : f ∈ env.stencils)
    (hname : f.name ∈ Source.references source.processed) : env.isLoaded f.name = true := by
  obtain ⟨set, _, hload, _, _, hstencils, _⟩ := create_spec h
  obtain ⟨l, hturns, hdone, hsources⟩ := Sources.Loading.turns_of_load hload
  have hconsistent := (Sources.Loading.consistent_start t s.engineOptions set).turns hturns
  rw [← hsources] at hsource
  rw [hstencils] at hf
  rw [isLoaded, ← hsources]
  exact hconsistent.has_of_mem_references hdone hsource hf hname

theorem isLoaded_of_mem_names {template : Template} (h : create t s = .ok env)
    (hfind : env.library.find? name = some template)
    (hovert : ∀ source, env.sources.lookup name = some source → Overt source.processed)
    (hn : g.name ∈ template.names) (hg : g ∈ env.stencils) : env.isLoaded g.name = true := by
  obtain ⟨source, hsource, hparse⟩ := source_of_find? h hfind
  obtain ⟨tree, htree, hnames⟩ := names_subset_of_parse hparse
  obtain ⟨u, hu, hquoted⟩ := List.mem_flatMap.mp (hnames hn)
  rw [nodesIn_singleton] at hu
  have hsight := hovert source hsource tree htree u hu g.name hquoted
  exact isLoaded_of_mem_references h hsource hg (mem_references_of_inSight htree hu hsight)

/-- A stencil is loaded if a loaded text names it in sight in a tag, as the grammar reads the
text.  Rendering a template lacks no stencil to which references lead through texts whose names
are all in sight. -/
theorem loads_stencils_in_sight (h : create t s = .ok env) :
    (∀ name source, env.sources.lookup name = some source →
      ∃ tree, Peg.parse grammar .template source.processed = .ok tree ∧
        ∀ u ∈ tree.nodes, ∀ f ∈ env.stencils, InSight source.processed u f.name →
          env.isLoaded f.name = true) ∧
    ∀ f ∈ env.templates,
      (∀ m source, env.library.Reaches f.name m → env.sources.lookup m = some source →
        Overt source.processed) →
      ∀ g ∈ env.stencils, env.library.Reaches f.name g.name →
        ∃ template, env.library.find? g.name = some template := by
  refine ⟨fun name source hsource => ?_, fun f hf hovert g hg hreaches => ?_⟩
  · obtain ⟨template, hparse, -⟩ := find?_of_create h hsource
    obtain ⟨tree, htree, -⟩ := names_subset_of_parse hparse
    refine ⟨tree, htree, fun u hu f hf hsight => ?_⟩
    exact isLoaded_of_mem_references h hsource hf (mem_references_of_inSight htree hu hsight)
  · have hloaded : env.isLoaded g.name = true := by
      generalize hname : g.name = m at hreaches
      -- the last reference on the way decides, and its text is in the library
      cases hreaches with
      | start =>
          obtain ⟨source, hsource⟩ := exists_source_of_create h hf
          exact ByName.has_iff.mpr ⟨source, hsource⟩
      | step hbefore hfind hm =>
          subst hname
          exact isLoaded_of_mem_names h hfind (fun source => hovert _ source hbefore) hm hg
    obtain ⟨source, hsource⟩ := ByName.has_iff.mp hloaded
    obtain ⟨template, -, hfind⟩ := find?_of_create h hsource
    exact ⟨template, hfind⟩

/-- The stencil that is named after the comment is loaded. -/
theorem loads_stencils_in_sight_after_comment :
    ∃ env source tree, create Sketch.commented Sketch.withStencils = .ok env ∧
      env.sources.lookup ['a'] = some source ∧
      Peg.parse grammar .template source.processed = .ok tree ∧
      (∃ u ∈ tree.nodes, InSight source.processed u "s/x".toList) ∧
      env.isLoaded "s/x".toList = true := by
  obtain ⟨env, source, henv, hsource, hprocessed, hmem⟩ := Sketch.exists_commented
  have htag : Sketch.hasTagAfter Sketch.comment (Sketch.including "s/x".toList)
      "s/x".toList = true := by
    decide +kernel
  obtain ⟨tree, htree, u, hu, hstart, hquoted⟩ := Sketch.exists_of_hasTagAfter htag
  have hsight : InSight source.processed u "s/x".toList := by
    rw [hprocessed]
    exact Sketch.inSight_of_comment hstart hquoted (by decide) (by decide +kernel)
  obtain ⟨tree', htree', hloads⟩ := (loads_stencils_in_sight henv).1 ['a'] source hsource
  rw [hprocessed] at htree'
  obtain rfl : tree = tree' := Except.ok.inj (htree.symm.trans htree')
  have hname : (Sketch.withStencils.templateAt [['s'], ['x']]).name = "s/x".toList := by
    decide +kernel
  rw [← hprocessed] at htree
  exact ⟨env, source, tree, henv, hsource, htree, ⟨u, hu, hsight⟩,
    hname ▸ hloads u hu _ hmem (hname.symm ▸ hsight)⟩

/-- After an open quote the scan does not come to a name. -/
example : "s/x".toList ∉
    references ("\x7b\x7b \"\x7b% include\" \x7d\x7d".toList ++ Sketch.including "s/x".toList) := by
  decide +kernel

end Environment

end TemplateTree
