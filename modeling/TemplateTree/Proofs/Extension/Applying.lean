import TemplateTree.Proofs.Extension.Additions
import TemplateTree.Proofs.Settings.Sketch

/-!
# Applying extensions

The extensions that settings list are applied one after the other.  Whether that goes
well, and what comes of it, depends only on which ones are listed; if it does not, the
failure names the first identifier that is refused.
-/

namespace TemplateTree

def Settings.withExtensions (settings : Settings) (engine custom : List Text) : Settings :=
  { settings with engineExtensions := engine, customModules := custom }

namespace Extension

open Job

variable {settings : Settings} {env env₁ env' : Environment} {e : Extension}
  {P : Extension → Prop} {kind : ExtensionKind} {id : Text} {ids engine custom : List Text}

/-! ## Identifiers -/

theorem find?_eq_some_iff : find? kind id = some e ↔ e ∈ kind.members ∧ e.name = id := by
  constructor
  · intro h
    have hname := List.find?_some (p := fun e : Extension => decide (e.name = id)) h
    exact ⟨List.mem_of_find?_eq_some h, of_decide_eq_true hname⟩
  · rintro ⟨hmem, rfl⟩
    cases kind <;> cases e <;> first | rfl | exact absurd hmem (by decide)

theorem find?_eq_none_iff : find? kind id = none ↔ id ∉ kind.members.map name := by
  rw [find?, List.find?_eq_none]
  simp

/-- An identifier that is refused: it is unknown, or include guards are wanted without the
filters that they need. -/
def Offends (engine : List Text) : ExtensionKind × Text → Prop
  | (.engine, id) => id ∉ ["case".toList, "debug".toList]
  | (.custom, id) =>
    id ∉ ["build_info".toList, "identifier_tests".toList, "include_guard".toList] ∨
      id = "include_guard".toList ∧ "case".toList ∉ engine

theorem offends_iff : Offends engine (kind, id) ↔ find? kind id = none ∨
    find? kind id = some includeGuard ∧ case.name ∉ engine := by
  rw [find?_eq_none_iff, find?_eq_some_iff]
  cases kind with
  | engine =>
      refine (or_iff_left ?_).symm
      rintro ⟨⟨hmem, -⟩, -⟩
      exact absurd hmem (by decide)
  | custom =>
      apply or_congr_right
      constructor
      · rintro ⟨rfl, hcase⟩
        exact ⟨⟨by decide, rfl⟩, hcase⟩
      · rintro ⟨⟨-, rfl⟩, hcase⟩
        exact ⟨rfl, hcase⟩

/-! ## One list after the other -/

/-- The next identifier of a list is applied, or refused by its name. -/
theorem named_spec (h : Extended settings env P env₁)
    (hcase : kind = .custom → (P case ↔ case.name ∈ engine)) (id : Text) :
    (¬ Offends engine (kind, id) ∧ ∃ e env₂, e ∈ kind.members ∧ e.name = id ∧
      named settings kind env₁ id = .ok env₂ ∧
      Extended settings env (fun e' => P e' ∨ e' = e) env₂) ∨
    (Offends engine (kind, id) ∧
      ∃ message, named settings kind env₁ id = .error (.extension id message)) := by
  rw [offends_iff, named]
  cases hfind : find? kind id with
  | none => exact .inr ⟨.inl rfl, _, rfl⟩
  | some e =>
      obtain ⟨hmem, hname⟩ := find?_eq_some_iff.mp hfind
      dsimp only
      by_cases hneeds : e.Needs env₁
      · refine .inl ⟨?_, e, _, hmem, hname, ?_, h.addTo e⟩
        · rintro (hnone | ⟨hguard, hmissing⟩)
          · cases hnone
          · obtain rfl := Option.some.inj hguard
            have hkind : kind = .custom := by
              cases kind with
              | engine => exact absurd hmem (by decide)
              | custom => rfl
            exact hmissing ((hcase hkind).mp (h.needs_iff.mp hneeds rfl))
        · rw [added_of_needs hneeds]
          rfl
      · refine .inr ⟨.inr ?_, "requires the `case` engine extension", ?_⟩
        · obtain ⟨rfl, hmissing⟩ := Classical.not_imp.mp (mt h.needs_iff.mpr hneeds)
          have hkind : kind = .custom := by
            cases kind with
            | engine => exact absurd hmem (by decide)
            | custom => rfl
          exact ⟨rfl, fun hlisted => hmissing ((hcase hkind).mpr hlisted)⟩
        · rw [added_of_not_needs hneeds, ← hname]
          rfl

/-- A list is applied as a whole, or up to the first identifier that is refused. -/
theorem foldlM_named (h : Extended settings env P env₁)
    (hcase : kind = .custom → (P case ↔ case.name ∈ engine)) (ids : List Text) :
    ((∀ id ∈ ids, ¬ Offends engine (kind, id)) ∧ ∃ env₂,
      ids.foldlM (named settings kind) env₁ = .ok env₂ ∧
      Extended settings env (fun e => P e ∨ e ∈ kind.members ∧ e.name ∈ ids) env₂) ∨
    ∃ before id after message, ids = before ++ id :: after ∧
      (∀ i ∈ before, ¬ Offends engine (kind, i)) ∧ Offends engine (kind, id) ∧
      ids.foldlM (named settings kind) env₁ = .error (.extension id message) := by
  induction ids generalizing P env₁ with
  | nil =>
      refine .inl ⟨by simp, env₁, rfl, h.congr fun e => ?_⟩
      simp
  | cons id rest ih =>
      rw [List.foldlM_cons]
      rcases named_spec h hcase id with ⟨hfine, e, env₂, hmem, rfl, hone, h₂⟩ |
        ⟨hbad, message, hone⟩
      · -- a custom module is not the extension on which include guards depend
        have hcase₂ : kind = .custom → ((P case ∨ case = e) ↔ case.name ∈ engine) := by
          rintro rfl
          have hne : case ≠ e := by
            rintro rfl
            exact absurd hmem (by decide)
          rw [or_iff_left hne]
          exact hcase rfl
        rw [hone]
        rcases ih h₂ hcase₂ with ⟨hall, env₃, hrest, h₃⟩ |
          ⟨before, id, after, message, rfl, hbefore, hbad, hrest⟩
        · refine .inl ⟨List.forall_mem_cons.mpr ⟨hfine, hall⟩, env₃, hrest, h₃.congr fun e' => ?_⟩
          rw [or_assoc]
          apply or_congr_right
          constructor
          · rintro (rfl | ⟨hmem', hname⟩)
            · exact ⟨hmem, List.mem_cons_self⟩
            · exact ⟨hmem', List.mem_cons_of_mem _ hname⟩
          · rintro ⟨hmem', hname⟩
            rcases List.mem_cons.mp hname with hsame | hname
            · have hfind := find?_eq_some_iff.mpr ⟨hmem', hsame⟩
              have hfind' := find?_eq_some_iff.mpr ⟨hmem, rfl⟩
              exact .inl (Option.some.inj (hfind.symm.trans hfind'))
            · exact .inr ⟨hmem', hname⟩
        · exact .inr ⟨e.name :: before, id, after, message, rfl,
            List.forall_mem_cons.mpr ⟨hfine, hbefore⟩, hbad, hrest⟩
      · exact .inr ⟨[], id, rest, message, rfl, by simp, hbad, by rw [hone]; rfl⟩

/-! ## Both lists -/

/-- An extension that is listed. -/
def Listed (engine custom : List Text) (e : Extension) : Prop :=
  e ∈ ExtensionKind.engine.members ∧ e.name ∈ engine ∨
    e ∈ ExtensionKind.custom.members ∧ e.name ∈ custom

/-- All identifiers, in the order in which they are read. -/
def identifiers (engine custom : List Text) : List (ExtensionKind × Text) :=
  engine.map (.engine, ·) ++ custom.map (.custom, ·)

theorem outcome_spec (hregistry : env.registry = .empty) (hglobals : env.globals = [])
    (settings : Settings) :
    ((∀ p ∈ identifiers settings.engineExtensions settings.customModules,
        ¬ Offends settings.engineExtensions p) ∧ ∃ env', outcome settings env = .ok env' ∧
      Extended settings env (Listed settings.engineExtensions settings.customModules) env') ∨
    ∃ before p after message,
      identifiers settings.engineExtensions settings.customModules = before ++ p :: after ∧
      (∀ q ∈ before, ¬ Offends settings.engineExtensions q) ∧
      Offends settings.engineExtensions p ∧
      outcome settings env = .error (.extension p.2 message) := by
  have hstart : Extended settings env (fun _ => False) env := .nil hregistry hglobals
  have hnever : ExtensionKind.engine = .custom →
      (False ↔ case.name ∈ settings.engineExtensions) := fun h => by cases h
  unfold outcome identifiers
  rcases foldlM_named hstart hnever settings.engineExtensions with ⟨hfine, env₁, hrun, h₁⟩ |
    ⟨before, id, after, message, hids, hbefore, hbad, hrun⟩
  · have hcase : ExtensionKind.custom = .custom → ((False ∨ case ∈ ExtensionKind.engine.members ∧
        case.name ∈ settings.engineExtensions) ↔ case.name ∈ settings.engineExtensions) := by
      intro _
      rw [false_or]
      exact and_iff_right (by decide)
    rw [hrun]
    rcases foldlM_named h₁ hcase settings.customModules with ⟨hfine', env₂, hrun', h₂⟩ |
      ⟨before, id, after, message, hids, hbefore, hbad, hrun'⟩
    · refine .inl ⟨?_, env₂, hrun', h₂.congr fun e => by rw [false_or, Listed]⟩
      rintro ⟨kind, id⟩ hp
      rcases List.mem_append.mp hp with hp | hp
      · obtain ⟨i, hi, heq⟩ := List.mem_map.mp hp
        exact heq ▸ hfine i hi
      · obtain ⟨i, hi, heq⟩ := List.mem_map.mp hp
        exact heq ▸ hfine' i hi
    · refine .inr ⟨settings.engineExtensions.map (.engine, ·) ++ before.map (.custom, ·),
        (.custom, id), after.map (.custom, ·), message, ?_, ?_, hbad, hrun'⟩
      · rw [hids, List.map_append, List.map_cons, List.append_assoc]
      · intro q hq
        rcases List.mem_append.mp hq with hq | hq
        · obtain ⟨i, hi, rfl⟩ := List.mem_map.mp hq
          exact hfine i hi
        · obtain ⟨i, hi, rfl⟩ := List.mem_map.mp hq
          exact hbefore i hi
  · refine .inr ⟨before.map (.engine, ·), (.engine, id),
      after.map (.engine, ·) ++ settings.customModules.map (.custom, ·), message, ?_, ?_, hbad, ?_⟩
    · nth_rewrite 1 [hids]
      rw [List.map_append, List.map_cons, List.append_assoc, List.cons_append]
    · intro q hq
      obtain ⟨i, hi, rfl⟩ := List.mem_map.mp hq
      exact hbefore i hi
    · rw [hrun]
      rfl

theorem offends_none_iff : (∀ p ∈ identifiers engine custom, ¬ Offends engine p) ↔
    (∀ id ∈ engine, id ∈ ["case".toList, "debug".toList]) ∧
    (∀ id ∈ custom,
      id ∈ ["build_info".toList, "identifier_tests".toList, "include_guard".toList]) ∧
    ("include_guard".toList ∈ custom → "case".toList ∈ engine) := by
  constructor
  · intro h
    have hengine : ∀ id ∈ engine, ¬ Offends engine (.engine, id) := fun id hid =>
      h _ (List.mem_append_left _ (List.mem_map_of_mem hid))
    have hcustom : ∀ id ∈ custom, ¬ Offends engine (.custom, id) := fun id hid =>
      h _ (List.mem_append_right _ (List.mem_map_of_mem hid))
    refine ⟨fun id hid => Classical.not_not.mp (hengine id hid), fun id hid => ?_, fun hguard => ?_⟩
    · by_contra hunknown
      exact hcustom id hid (.inl hunknown)
    · by_contra hmissing
      exact hcustom _ hguard (.inr ⟨rfl, hmissing⟩)
  · rintro ⟨hengine, hcustom, hguard⟩ p hp
    rcases List.mem_append.mp hp with hp | hp
    · obtain ⟨id, hid, rfl⟩ := List.mem_map.mp hp
      exact fun hunknown => hunknown (hengine id hid)
    · obtain ⟨id, hid, rfl⟩ := List.mem_map.mp hp
      rintro (hunknown | ⟨rfl, hmissing⟩)
      · exact hunknown (hcustom id hid)
      · exact hmissing (hguard hid)

theorem Extended.of_withExtensions
    (h : Extended (settings.withExtensions engine custom) env P env') :
    Extended settings env P env' := by
  have hsame : ∀ e, additions (settings.withExtensions engine custom) env e =
      additions settings env e := by
    intro e
    cases e <;> rfl
  refine ⟨h.texts, ?_, ?_, ?_, ?_⟩
  · simpa only [hsame] using h.filters
  · simpa only [hsame] using h.functions
  · simpa only [hsame] using h.tests
  · simpa only [hsame] using h.globals

/-- All extensions are applied just if no identifier is refused. -/
theorem outcome_eq_ok_iff (hregistry : env.registry = .empty) (hglobals : env.globals = [])
    (settings : Settings) (engine custom : List Text) :
    (∃ env', outcome (settings.withExtensions engine custom) env = .ok env') ↔
      ∀ p ∈ identifiers engine custom, ¬ Offends engine p := by
  rcases outcome_spec hregistry hglobals (settings.withExtensions engine custom) with
    ⟨hfine, env', hrun, -⟩ |
    ⟨before, p, after, message, hsplit, -, hbad, hrun⟩
  · exact iff_of_true ⟨env', hrun⟩ hfine
  · refine iff_of_false ?_ fun hfine => hfine p ?_ hbad
    · rintro ⟨env', hok⟩
      rw [hrun] at hok
      cases hok
    · exact hsplit ▸ List.mem_append_right before List.mem_cons_self

theorem extended_of_outcome (hregistry : env.registry = .empty) (hglobals : env.globals = [])
    (h : outcome (settings.withExtensions engine custom) env = .ok env') :
    Extended settings env (Listed engine custom) env' := by
  rcases outcome_spec hregistry hglobals (settings.withExtensions engine custom) with
    ⟨-, env₁, hrun, h₁⟩ | ⟨before, p, after, message, -, -, -, hrun⟩
  · obtain rfl := Except.ok.inj (hrun.symm.trans h)
    exact h₁.of_withExtensions
  · rw [hrun] at h
    cases h

theorem listed_congr {engine' custom' : List Text} (hengine : ∀ id, id ∈ engine' ↔ id ∈ engine)
    (hcustom : ∀ id, id ∈ custom' ↔ id ∈ custom) (e : Extension) :
    Listed engine' custom' e ↔ Listed engine custom e := by
  rw [Listed, Listed, hengine, hcustom]

/-- What extensions do depends only on which ones are listed.  In an environment that was
just made they are applied with success just if all of them are known and include guards do
not come without the case filters.  Then exactly their entries are there, the texts are those
of before, and any lists with the same members make the same environment, whatever the
session.  Otherwise the failure names the first identifier that is refused. -/
theorem applyAll_by_members {t : FileTree} {base : Settings}
    (hcreate : Environment.create t base = .ok env) (engine custom : List Text) (s : Session) :
    ((∃ env' s', applyAll (base.withExtensions engine custom) env s = .ok env' s') ↔
      (∀ id ∈ engine, id ∈ ["case".toList, "debug".toList]) ∧
      (∀ id ∈ custom,
        id ∈ ["build_info".toList, "identifier_tests".toList, "include_guard".toList]) ∧
      ("include_guard".toList ∈ custom → "case".toList ∈ engine)) ∧
    (∀ env' s', applyAll (base.withExtensions engine custom) env s = .ok env' s' →
      Extended base env (Listed engine custom) env' ∧
      ∀ engine' custom', (∀ id, id ∈ engine' ↔ id ∈ engine) → (∀ id, id ∈ custom' ↔ id ∈ custom) →
        ∀ u, ∃ u', applyAll (base.withExtensions engine' custom') env u = .ok env' u') ∧
    (∀ e s', applyAll (base.withExtensions engine custom) env s = .error e s' →
      ∃ before p after message, identifiers engine custom = before ++ p :: after ∧
        (∀ q ∈ before, ¬ Offends engine q) ∧ Offends engine p ∧
        e = .extension p.2 message) := by
  obtain ⟨-, -, -, -, -, -, -, -, hglobals, hregistry⟩ := Environment.create_spec hcreate
  have hsettles := settles_applyAll (base.withExtensions engine custom) env
  refine ⟨?_, fun env' s' hrun => ⟨?_, ?_⟩, fun e s' hrun => ?_⟩
  · rw [← offends_none_iff]
    refine Iff.trans ⟨?_, ?_⟩ (outcome_eq_ok_iff hregistry hglobals base engine custom)
    · rintro ⟨env', s', hrun⟩
      exact ⟨env', hsettles.eq_ok hrun⟩
    · rintro ⟨env', hok⟩
      rw [hok] at hsettles
      obtain ⟨s', hrun⟩ := hsettles.exists_ok s
      exact ⟨env', s', hrun⟩
  · exact extended_of_outcome hregistry hglobals (hsettles.eq_ok hrun)
  · intro engine' custom' hengine hcustom u
    have hok := hsettles.eq_ok hrun
    have hfine := (outcome_eq_ok_iff hregistry hglobals base engine custom).mp ⟨env', hok⟩
    have hfine' : ∀ p ∈ identifiers engine' custom', ¬ Offends engine' p := by
      have hconditions := offends_none_iff.mp hfine
      apply offends_none_iff.mpr
      simpa only [hengine, hcustom] using hconditions
    obtain ⟨env'', hok'⟩ :=
      (outcome_eq_ok_iff hregistry hglobals base engine' custom').mpr hfine'
    have hextended := extended_of_outcome hregistry hglobals hok
    have hextended' := extended_of_outcome hregistry hglobals hok'
    obtain rfl : env'' = env' :=
      (hextended'.congr (listed_congr hengine hcustom)).unique hextended
    have hsettles' := settles_applyAll (base.withExtensions engine' custom') env
    rw [hok'] at hsettles'
    exact hsettles'.exists_ok u
  · have herror := hsettles.eq_error hrun
    rcases outcome_spec hregistry hglobals (base.withExtensions engine custom) with
      ⟨-, env', hok, -⟩ | ⟨before, p, after, message, hsplit, hbefore, hbad, hrefused⟩
    · rw [hok] at herror
      cases herror
    · rw [hrefused] at herror
      exact ⟨before, p, after, message, hsplit, hbefore, hbad, (Except.error.inj herror).symm⟩

end Extension

namespace Sketch

def single : FileTree :=
  ⟨.dir [(['t'], .dir [(['a'], file ['A'])])], []⟩

theorem exists_single :
    ∃ env, Environment.create single (settings false [] "/last".toList) = .ok env := by
  have hmade : (Environment.create single (settings false [] "/last".toList)).toOption.isSome =
      true := by decide +kernel
  obtain ⟨env, hsome⟩ := Option.isSome_iff_exists.mp hmade
  exact ⟨env, toOption_eq_some_iff.mp hsome⟩

end Sketch

namespace Extension

/-- Include guards come with the case filters, listed once or twice, and not without them. -/
theorem applyAll_by_members_guards : ∃ env,
    Environment.create Sketch.single (Sketch.settings false [] "/last".toList) = .ok env ∧
    (∀ s, ∃ env' s', applyAll ((Sketch.settings false [] "/last".toList).withExtensions
        ["case".toList] ["include_guard".toList]) env s = .ok env' s' ∧
      ∃ u', applyAll ((Sketch.settings false [] "/last".toList).withExtensions
        ["case".toList, "case".toList] ["include_guard".toList]) env s = .ok env' u') ∧
    ∀ s, ¬ ∃ env' s', applyAll ((Sketch.settings false [] "/last".toList).withExtensions
      [] ["include_guard".toList]) env s = .ok env' s' := by
  obtain ⟨env, hcreate⟩ := Sketch.exists_single
  refine ⟨env, hcreate, fun s => ?_, fun s => ?_⟩
  · obtain ⟨hiff, hsame, -⟩ :=
      applyAll_by_members hcreate ["case".toList] ["include_guard".toList] s
    obtain ⟨env', s', hrun⟩ := hiff.mpr ⟨by decide, by decide, by decide⟩
    obtain ⟨-, hagain⟩ := hsame env' s' hrun
    exact ⟨env', s', hrun, hagain _ _ (by simp) (by simp) s⟩
  · obtain ⟨hiff, -⟩ := applyAll_by_members hcreate [] ["include_guard".toList] s
    exact fun hrun => absurd ((hiff.mp hrun).2.2 (by decide)) (by decide)

end Extension

end TemplateTree
