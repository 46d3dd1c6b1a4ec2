import TemplateTree.Proofs.Build.Effects
import TemplateTree.Proofs.Environment.Unreached
import TemplateTree.Proofs.Extension.Applying

/-!
# Making a generator once more

A generator is made of the settings and of what is below the template directory.  As long
as that stays, the same generator is made, whatever else is in the tree or the session.
-/

namespace TemplateTree

open FileTree Job

variable {settings : Settings} {t u : FileTree} {root : Place} {s s' v : Session} {g : Generator}
  {set : TemplateSet} {f : TemplateFile}

/-- Trees with the same items below one place, to which the template directory leads. -/
structure Settings.SameBelow (settings : Settings) (root : Place) (t u : FileTree) : Prop where
  place : t.place settings.templateDir = .ok root
  place' : u.place settings.templateDir = .ok root
  item : ∀ names, u.root.item? (root ++ names) = t.root.item? (root ++ names)

namespace Settings.SameBelow

theorem candidates_eq (h : settings.SameBelow root t u) (ht : t.Sound) (hu : u.Sound)
    (cutoff : Option Nat) : settings.candidates u cutoff = settings.candidates t cutoff :=
  candidates_of_sameListing ht hu h.place h.place'
    (fun names => congrArg (Option.map Item.listed) (h.item names)) cutoff

theorem discover_eq (h : settings.SameBelow root t u) (ht : t.Sound) (hu : u.Sound) :
    settings.discover u = settings.discover t := by
  have hstencils : settings.filesBelow u (.matching [⟨['*'], [.anySequence]⟩]) =
      settings.filesBelow t (.matching [⟨['*'], [.anySequence]⟩]) := by
    rw [filesBelow, filesBelow, walk_of_sameListing ht.root.wellNamed hu.root.wellNamed h.place
      h.place' rfl fun names => congrArg (Option.map Item.listed) (h.item names)]
  unfold discover
  rw [h.candidates_eq ht hu, hstencils]

/-- What is discovered is read as it was. -/
theorem read_eq (h : settings.SameBelow root t u) (ht : t.Sound) (hu : u.Sound)
    (hset : settings.discover t = .ok set) (hf : f ∈ set.templates ++ set.stencils) :
    Sources.read u settings.engineOptions f = Sources.read t settings.engineOptions f := by
  obtain ⟨names, bytes, hne, rfl, time, mode, hfile⟩ :=
    exists_hasBytes_of_discover ht h.place hset hf
  have hfile' := (h.item names).trans hfile
  have htext := readText_templateAt ht hu h.place h.place' hne ⟨time, mode, hfile⟩
    ⟨time, mode, hfile'⟩
  rw [Sources.read, Sources.read, htext]

end Settings.SameBelow

/-- An environment is made in the same way, or refused for the same reason. -/
theorem Environment.create_of_sameBelow (h : settings.SameBelow root t u) (ht : t.Sound)
    (hu : u.Sound) : create u settings = create t settings := by
  have hdiscover := h.discover_eq ht hu
  unfold create
  rw [hdiscover]
  cases hset : settings.discover t with
  | error e => rfl
  | ok set =>
      have hload : Sources.load u settings.engineOptions set =
          Sources.load t settings.engineOptions set :=
        Sources.load_congr fun f hf => h.read_eq ht hu hset hf.mem
      simp only [bind, Except.bind, hload]

namespace Generator

def made (settings : Settings) (t : FileTree) : Except Failure Generator :=
  Environment.create t settings >>= fun env =>
    Extension.outcome settings env >>= fun env => .ok ⟨settings, env⟩

/-- Making a generator of certain files; of those of the session, it is `new`. -/
def ofFiles (settings : Settings) (t : FileTree) : Job Generator := do
  let env ← Job.ofExcept (Environment.create t settings)
  Job.debug ("loaded " ++ Text.decimal env.templates.length ++ " templates and "
    ++ Text.decimal env.loadedStencils.length ++ " of " ++ Text.decimal env.stencils.length
    ++ " stencils")
  return ⟨settings, ← Extension.applyAll settings env⟩

theorem settles_ofFiles (settings : Settings) (t : FileTree) :
    Settles (made settings t) (ofFiles settings t) := by
  apply settles_ofExcept.bind
  intro env _
  apply Settles.after_talk settles_modify
  exact (Extension.settles_applyAll settings env).bind fun _ _ => settles_pure

/-- The same generator is made once more. -/
theorem exists_new_again (h : settings.SameBelow root s.files v.files) (hs : s.files.Sound)
    (hv : v.files.Sound) (hnew : new settings s = .ok g s') :
    ∃ v', new settings v = .ok g v' ∧ Session.Unchanged v v' := by
  have hmade : made settings v.files = .ok g := by
    rw [made, Environment.create_of_sameBelow h hs hv]
    exact (settles_ofFiles settings s.files).eq_ok hnew
  have hsettles := settles_ofFiles settings v.files
  rw [hmade] at hsettles
  obtain ⟨v', hagain⟩ := hsettles.exists_ok v
  have hrun : new settings v = .ok g v' := hagain
  exact ⟨v', hrun, (unchanged_new settings).of_ok hrun⟩

end Generator

end TemplateTree
