import TemplateTree.Proofs.Build.Effects
import TemplateTree.Proofs.Environment.Extending
import TemplateTree.Proofs.Files.Alike
import TemplateTree.Proofs.Text.Encoding
import TemplateTree.Proofs.Text.Numerals
import Mathlib.Algebra.Group.Nat.Defs

/-!
# What a run selects and leaves

A run selects templates by the watermark that it finds, and one that renders some
templates and ends well leaves the second in which it started.
-/

namespace TemplateTree

theorem Instant.floorSeconds_mono {a b : Instant} (h : a ≤ b) :
    floorSeconds a ≤ floorSeconds b := by
  have hdiv : a / second ≤ b / second := Int.ediv_le_ediv (by decide) h
  exact Int.toNat_le_toNat hdiv

/-- A time is not of an earlier second than one before it, if it is rounded up. -/
theorem Instant.floorSeconds_le_ceilSeconds {a b : Instant} (h : a ≤ b) :
    floorSeconds a ≤ ceilSeconds b := by
  have hfloor := floorSeconds_mono h
  unfold ceilSeconds
  unfold floorSeconds at hfloor ⊢
  split
  case isTrue hneg =>
    have hdiv := Int.ediv_neg_of_neg_of_pos (Int.lt_of_le_of_lt h hneg) (show 0 < second by decide)
    exact Nat.le_of_eq (Int.toNat_eq_zero.mpr (Int.le_of_lt hdiv))
  case isFalse => omega

namespace Watermark

variable {w : Watermark} {t t' : FileTree} {now : Instant} {seconds : Nat} {bytes : Bytes}
  {q : Place}

def ofBytes? (bytes : Bytes) : Option Nat :=
  (Text.ofBytes? bytes).bind parse?

theorem read_of_readBytes (h : t.readBytes w.path = .ok bytes) : w.read t = ofBytes? bytes := by
  rw [read, FileTree.readText_of_readBytes h, ofBytes?]
  cases Text.ofBytes? bytes <;> rfl

theorem exists_of_read (h : w.read t = some seconds) : ∃ q bytes,
    t.spot w.path = .ok (.found q) ∧ t.HasBytes q bytes ∧ ofBytes? bytes = some seconds := by
  obtain ⟨text, htext, -⟩ := Option.bind_eq_some_iff.mp h
  cases hread : t.readText w.path with
  | error e => simp [hread, Except.toOption] at htext
  | ok text' =>
      obtain ⟨bytes, hbytes, -⟩ := FileTree.exists_of_readText hread
      obtain ⟨q, mode, time, hspot, hitem⟩ := FileTree.exists_of_readBytes hbytes
      exact ⟨q, bytes, hspot, ⟨time, mode, hitem⟩, read_of_readBytes hbytes ▸ h⟩

def toBytes (seconds : Nat) : Bytes :=
  Text.toBytes (Text.decimal seconds)

theorem ofBytes?_toBytes (seconds : Nat) :
    ofBytes? (toBytes seconds) = if seconds < 2 ^ 64 then some seconds else none := by
  rw [ofBytes?, toBytes, Text.ofBytes?_toBytes, Option.bind_some, parse?,
    Text.trim_decimal, Text.readBelow?_decimal]
  rfl

theorem write_apply {s : Session} : w.write seconds s =
    match s.files.write s.now w.path (toBytes seconds) with
    | .ok files => .ok () { s with files := files }
    | .error e => .error (.io w.path ("Failed to write watermark: " ++ e.message)) s :=
  Job.changeFiles_apply

/-- A watermark that was stored is read back. -/
theorem read_of_write (ht : t.Sound) (hlimit : seconds < 2 ^ 64)
    (h : t.write now w.path (toBytes seconds) = .ok t') : w.read t' = some seconds := by
  rw [read_of_readBytes (FileTree.readBytes_of_write ht h), ofBytes?_toBytes, if_pos hlimit]

end Watermark

namespace Generator

variable {g : Generator} {onlyModified : Bool} {overrides : Option Namespace} {s s' : Session}
  {stats : RunStats} {templates : List TemplateFile}

def selected (g : Generator) (files : FileTree) (onlyModified : Bool) :
    Except Failure (List TemplateFile) :=
  g.settings.candidates files (if onlyModified then g.watermark.read files else none)

theorem cutoff_apply (g : Generator) (onlyModified : Bool) (s : Session) : ∃ s',
    g.cutoff onlyModified s =
      .ok (if onlyModified then g.watermark.read s.files else none) s' ∧
    Session.Talked s s' := by
  cases onlyModified with
  | false => exact ⟨s, rfl, .refl s⟩
  | true =>
      rw [cutoff, if_neg (by decide), bind_of_ok Job.get_apply]
      cases g.watermark.read s.files with
      | none => exact ⟨_, rfl, _, rfl⟩
      | some seconds => exact ⟨s, rfl, .refl s⟩

theorem cutoff_eq_ok {c : Option Nat} (h : g.cutoff onlyModified s = .ok c s') :
    c = (if onlyModified then g.watermark.read s.files else none) ∧ Session.Unchanged s s' := by
  obtain ⟨s₁, hcutoff, hs₁⟩ := cutoff_apply g onlyModified s
  obtain ⟨rfl, rfl⟩ := EStateM.Result.ok.inj (hcutoff.symm.trans h)
  exact ⟨rfl, hs₁.unchanged⟩

theorem templatesProcessed_of_renderTemplate {env : Environment} {settings : Settings}
    {name : Text} (h : env.renderTemplate settings name overrides s = .ok stats s') :
    stats.templatesProcessed = 1 := by
  obtain ⟨_, _, -, h⟩ := bind_eq_ok h
  obtain ⟨_, _, -, h⟩ := bind_eq_ok h
  obtain ⟨_, _, -, h⟩ := bind_eq_ok h
  obtain ⟨_, _, -, h⟩ := bind_eq_ok h
  obtain ⟨_, _, -, h⟩ := bind_eq_ok h
  cases h
  rfl

theorem templatesProcessed_of_renderEach
    (h : g.renderEach overrides templates s = .ok stats s') :
    stats.templatesProcessed = templates.length := by
  induction templates generalizing s stats with
  | nil =>
      cases h
      rfl
  | cons f rest ih =>
      obtain ⟨here, s₁, hhere, h⟩ := bind_eq_ok h
      obtain ⟨there, s₂, hrest, h⟩ := bind_eq_ok h
      cases h
      have hone := templatesProcessed_of_renderTemplate hhere
      have hlen := ih hrest
      simp only [RunStats.add, List.length_cons, hone, hlen]
      omega

/-- A run that ends well: what it selected, and the watermark that it left. -/
theorem renderAll_eq_ok (h : g.renderAll onlyModified overrides s = .ok stats s') :
    ∃ templates, g.selected s.files onlyModified = .ok templates ∧
      stats.templatesProcessed = templates.length ∧
      (templates ≠ [] → ∃ s₁ s₂ s₃, Session.Unchanged s s₁ ∧
        g.renderEach overrides templates s₁ = .ok stats s₂ ∧
        g.runPostCommands s₂ = .ok () s₃ ∧
        s₃.files.write s₃.now g.watermark.path
          (Watermark.toBytes (Instant.floorSeconds s.now)) = .ok s'.files) := by
  obtain ⟨_, _, hget, hrun⟩ := bind_eq_ok h
  cases hget
  obtain ⟨c, s₁, hcutoff, hrest⟩ := bind_eq_ok hrun
  obtain ⟨rfl, hs₁⟩ := cutoff_eq_ok hcutoff
  obtain ⟨_, _, hget, hselect⟩ := bind_eq_ok hrest
  cases hget
  obtain ⟨templates, _, hcandidates, hrender⟩ := bind_eq_ok hselect
  obtain ⟨hcandidates, hsame⟩ := Job.ofExcept_eq_ok hcandidates
  rw [hsame] at hrender
  obtain ⟨_, s₂, hstart, hrender⟩ := bind_eq_ok hrender
  obtain ⟨total, s₃, heach, hend⟩ := bind_eq_ok hrender
  rw [hs₁.1] at hcandidates
  refine ⟨templates, hcandidates, ?_⟩
  have hlen := templatesProcessed_of_renderEach heach
  have hs₂ : Session.Unchanged s s₂ := by
    have hunchanged := Job.unchanged_start.of_ok hstart
    exact Session.Unchanged.trans _ _ _ hs₁ hunchanged
  split at hend
  case isTrue hempty =>
    obtain ⟨_, _, -, hend⟩ := bind_eq_ok hend
    cases hend
    exact ⟨hlen, fun hne => absurd (List.isEmpty_iff.mp hempty) hne⟩
  case isFalse =>
    obtain ⟨_, s₄, hcommands, hend⟩ := bind_eq_ok hend
    obtain ⟨_, s₅, hwrite, hend⟩ := bind_eq_ok hend
    obtain ⟨_, s₆, hfinish, hend⟩ := bind_eq_ok hend
    cases hend
    cases hfinish
    refine ⟨hlen, fun _ => ⟨s₂, s₃, s₄, hs₂, heach, hcommands, ?_⟩⟩
    rw [Watermark.write_apply] at hwrite
    split at hwrite
    case h_1 files hfiles =>
      cases hwrite
      exact hfiles
    case h_2 => cases hwrite

end Generator

end TemplateTree
