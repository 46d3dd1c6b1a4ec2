import TemplateTree.Proofs.Build.Runs
import TemplateTree.Proofs.Settings.Sketch

/-!
# Watermarks that can be read

A watermark file stands for a number just if it holds a numeral below two to the power 64,
with white space around it.  Whatever else is there, or if nothing is, the run that asks for
modified templates goes on as one that asks for all of them.
-/

namespace TemplateTree

namespace Text

/-- A numeral of a number: decimal digits, with a plus sign before them or without. -/
def IsNumeral (t : Text) (n : Nat) : Prop :=
  ∃ digits, (t = digits ∨ t = '+' :: digits) ∧ digits ≠ [] ∧ (∀ c ∈ digits, c.isDigit = true) ∧
    Nat.ofDigitChars 10 digits 0 = n

variable {t : Text} {n limit : Nat}

theorem readDigits?_eq_some_iff : readDigits? t = some n ↔
    t ≠ [] ∧ (∀ c ∈ t, c.isDigit = true) ∧ Nat.ofDigitChars 10 t 0 = n := by
  unfold readDigits?
  split
  case isTrue h =>
    obtain ⟨hne, hall⟩ : t ≠ [] ∧ ∀ c ∈ t, c.isDigit = true := by simpa using h
    rw [valueFrom_eq hall, Option.some.injEq]
    exact ⟨fun heq => ⟨hne, hall, heq⟩, fun heq => heq.2.2⟩
  case isFalse h =>
    refine ⟨nofun, fun ⟨hne, hall, _⟩ => absurd ?_ h⟩
    simpa [hne] using hall

theorem readBelow?_eq_some_iff : readBelow? limit t = some n ↔ IsNumeral t n ∧ n < limit := by
  have hlimit : ∀ digits, (readDigits? digits).filter (· < limit) = some n ↔
      readDigits? digits = some n ∧ n < limit := fun digits => by
    rw [Option.filter_eq_some_iff, decide_eq_true_iff]
  unfold readBelow?
  dsimp only
  split
  case h_1 r =>
    rw [hlimit, readDigits?_eq_some_iff, IsNumeral]
    refine and_congr_left fun _ => ⟨fun h => ⟨r, .inr rfl, h⟩, ?_⟩
    rintro ⟨digits, rfl | heq, h⟩
    · exact absurd (h.2.1 '+' List.mem_cons_self) (by decide)
    · exact (List.cons.inj heq).2 ▸ h
  case h_2 hsign =>
    rw [hlimit, readDigits?_eq_some_iff, IsNumeral]
    refine and_congr_left fun _ => ⟨fun h => ⟨t, .inl rfl, h⟩, ?_⟩
    rintro ⟨digits, rfl | rfl, h⟩
    · exact h
    · exact absurd rfl (hsign digits)

end Text

namespace Watermark

variable {w : Watermark} {t : FileTree} {n : Nat}

theorem read_eq_some_iff : w.read t = some n ↔ ∃ text,
    t.readBytes w.path = .ok (Text.toBytes text) ∧ Text.IsNumeral (Text.trim text) n ∧
      n < 2 ^ 64 := by
  constructor
  · intro h
    obtain ⟨q, bytes, hspot, ⟨time, mode, hitem⟩, hnumber⟩ := exists_of_read h
    obtain ⟨text, htext, hparse⟩ := Option.bind_eq_some_iff.mp hnumber
    obtain rfl := Text.ofBytes?_eq_some_iff.mp htext
    exact ⟨text, FileTree.readBytes_of_item? hspot hitem, Text.readBelow?_eq_some_iff.mp hparse⟩
  · rintro ⟨text, hbytes, hnumeral⟩
    rw [read_of_readBytes hbytes, ofBytes?, Text.ofBytes?_toBytes]
    exact Text.readBelow?_eq_some_iff.mpr hnumeral

end Watermark

namespace Generator

variable {g : Generator} {overrides : Option Namespace} {s : Session}

def unread : Job Unit :=
  Job.debug "no usable watermark, rendering all templates"

theorem cutoff_of_unread (h : g.watermark.read s.files = none) :
    g.cutoff true s = (unread >>= fun _ => pure none) s := by
  rw [cutoff, if_neg (by decide), bind_of_ok Job.get_apply, h]
  rfl

/-- Without a watermark to be read, a run for modified templates is a run for all of them, but
for what it says first. -/
theorem renderAll_of_unread (h : g.watermark.read s.files = none) :
    g.renderAll true overrides s = (unread >>= fun _ => g.renderAll false overrides) s := by
  have hsaid : unread s = .ok () (unread.after s) := rfl
  have hcutoff : g.cutoff true s = .ok none (unread.after s) := cutoff_of_unread h
  rw [bind_of_ok hsaid, renderAll, renderAll, bind_of_ok Job.get_apply,
    bind_of_ok hcutoff]
  rfl

end Generator

/-- A watermark is read back as it was stored.  What is read is a numeral below two to the
power 64, with white space around it, and nothing else is; then a run for modified templates
has the templates of a full run to render, and goes on as that one does. -/
theorem Watermark.read_exactly (w : Watermark) :
    (∀ (s s' : Session) (n : Nat), s.files.Sound → n < 2 ^ 64 → w.write n s = .ok () s' →
      w.read s'.files = some n) ∧
    (∀ (t : FileTree) (n : Nat), w.read t = some n ↔ ∃ text,
      t.readBytes w.path = .ok (Text.toBytes text) ∧ Text.IsNumeral (Text.trim text) n ∧
        n < 2 ^ 64) ∧
    ∀ (g : Generator) (s : Session) (overrides : Option Namespace), g.watermark = w →
      w.read s.files = none →
      g.selected s.files true = g.selected s.files false ∧
      g.renderAll true overrides s =
        (Generator.unread >>= fun _ => g.renderAll false overrides) s := by
  refine ⟨fun s s' n hs hlimit hwrite => ?_, fun t n => read_eq_some_iff, ?_⟩
  · rw [write_apply] at hwrite
    split at hwrite
    case h_1 files hfiles =>
      obtain ⟨-, rfl⟩ := EStateM.Result.ok.inj hwrite
      exact read_of_write hs hlimit hfiles
    case h_2 => cases hwrite
  · rintro g s overrides rfl hnone
    refine ⟨?_, g.renderAll_of_unread hnone⟩
    rw [Generator.selected, hnone]
    rfl

namespace Sketch

/-- A project with one template, whose watermark file holds a text. -/
def marked (mark : Text) : FileTree :=
  ⟨.dir [("last".toList, file mark), (['t'], .dir [(['a'], file ['A'])])], []⟩

theorem sound_marked (mark : Text) : (marked mark).Sound := by
  refine ⟨Node.Sound.of_names ["last".toList, ['t']] rfl (by decide) (by decide) ?_, rfl⟩
  refine List.forall_mem_cons.mpr ⟨.file, List.forall_mem_singleton.mpr ?_⟩
  exact Node.Sound.of_names [['a']] rfl (by decide) (by decide)
    (List.forall_mem_singleton.mpr .file)

def idle : Generator :=
  ⟨settings false [] "/last".toList, ⟨⟨[]⟩, [], [], [], false, [], .empty⟩⟩

end Sketch

open Sketch in
/-- The first number that is too large does not stand for anything, and the run has the only
template to render. -/
theorem Watermark.read_exactly_overflowing :
    (∃ s', (⟨"/last".toList⟩ : Watermark).write 5 (start (marked ['x'])) = .ok () s' ∧
      (⟨"/last".toList⟩ : Watermark).read s'.files = some 5) ∧
    (⟨"/last".toList⟩ : Watermark).read (marked " +042\n".toList) = some 42 ∧
    (⟨"/last".toList⟩ : Watermark).read (marked "18446744073709551616".toList) = none ∧
    idle.selected (marked "18446744073709551616".toList) true =
      .ok [idle.settings.templateAt [['a']]] := by
  obtain ⟨hback, hnumeral, hfull⟩ := Watermark.read_exactly ⟨"/last".toList⟩
  have hnone :
      (⟨"/last".toList⟩ : Watermark).read (marked "18446744073709551616".toList) = none := by
    decide +kernel
  refine ⟨?_, (hnumeral _ _).mpr ⟨" +042\n".toList, by decide +kernel, ?_, by decide⟩, hnone, ?_⟩
  · have hwritten : ((marked ['x']).write (10 * Instant.second) "/last".toList
        (Watermark.toBytes 5)).toOption.isSome = true := by decide +kernel
    obtain ⟨files, hfiles⟩ := Option.isSome_iff_exists.mp hwritten
    have hstored : (start (marked ['x'])).files.write (start (marked ['x'])).now "/last".toList
        (Watermark.toBytes 5) = .ok files := toOption_eq_some_iff.mp hfiles
    have hwrite : (⟨"/last".toList⟩ : Watermark).write 5 (start (marked ['x'])) =
        .ok () { start (marked ['x']) with files := files } := by
      rw [Watermark.write_apply, hstored]
    exact ⟨_, hwrite, hback _ _ 5 (sound_marked _) (by decide) hwrite⟩
  · exact ⟨"042".toList, .inr (by decide +kernel), by decide, List.all_eq_true.mp (by decide),
      by decide⟩
  · have hall := (hfull idle (start (marked "18446744073709551616".toList)) none rfl hnone).1
    exact hall.trans (by decide +kernel)

end TemplateTree
