import TemplateTree.Proofs.Template.Bare
import TemplateTree.Proofs.Template.Resembling
import TemplateTree.Template.Grammar

/-!
# The rules of templates in order

Before it has taken a character, a rule of templates calls only simpler ones, so that no text
is too long for the matcher to come to its outcome.  The outcome depends on the rest of the
text alone, but for the place at which a whole template begins.
-/

namespace TemplateTree.Template

open Peg ParseTree

variable {n : Nat} {r : Rule} {l : Peg Rule} {t : Text} {tree : Tree}

/-- How many rules may be called one by the other before a character is taken. -/
def callRank : Rule → Nat
  | .testArg => 10
  | .logicExpr => 9
  | .logicVal => 8
  | .comparisonExpr => 7
  | .comparisonVal | .inCond => 6
  | .basicExprFilter => 5
  | .basicExpr | .inContainer | .template => 4
  | .basicVal | .stringExprFilter | .content | .blockContent | .macroContent | .forContent
  | .blockForContent => 3
  | .test | .testNot | .stringConcat | .rawText | .raw | .text | .contentIf | .blockIf | .macroIf
  | .forIf | .forBlockIf | .forLoop | .blockFor | .filterSection | .blockFilter | .block
  | .macroDefinition => 2
  | .pathIdent | .kwarg | .fnCall | .testCall | .macroCall | .basicOp | .comparisonOp
  | .arrayFilter | .macroDefArg | .macroDef | .blockStart | .includeTag | .importTag
  | .extendsTag | .variableTag | .superTag | .setTag | .setGlobalTag | .commentTag | .blockTag
  | .macroTag | .ifTag | .elifTag | .elseTag | .forTag | .filterTag | .breakTag | .continueTag
  | .endblockTag | .endmacroTag | .endifTag | .endforTag | .endfilterTag | .rawTag
  | .endrawTag => 1
  | _ => 0

/-- Whether a rule takes a character whenever it matches. -/
def takesOne (r : Rule) : Bool :=
  r ≠ .template && r ≠ .eoi

/-- A rank above all ranks. -/
def topRank : Nat := 11

theorem ranked : Ranked grammar takesOne callRank topRank where
  takes := by intro r; cases r <;> decide
  leads := by intro r; cases r <;> decide
  below := by intro r; cases r <;> decide

def atFirst : Setting := ⟨.free, false⟩

/-- A text is parsed as its match comes out, whatever depth of rules is enough for it. -/
theorem exists_outcome (hn : topRank * (t.length + 1) ≤ n) : ∃ o,
    ComesTo grammar n (.rule .template) atFirst ⟨t, 0⟩ o ∧
      ∀ tree, Peg.parse grammar .template t = .ok tree ↔ ∃ j, o = some (j, [tree]) := by
  have hrank : callRank .template < topRank := ranked.below _
  have hdepth : topRank * t.length + callRank .template < depthFor t := by
    unfold depthFor topRank at *
    omega
  refine ⟨(matchRule grammar (depthFor t) .template atFirst ⟨t, 0⟩ 0).result,
    comesTo_of_matchRule ranked hdepth ?_, fun tree => ?_⟩
  · rw [Nat.mul_add, Nat.mul_one] at hn
    dsimp only
    omega
  · unfold Peg.parse
    dsimp only [atFirst]
    split
    case h_1 j tree' hresult =>
      rw [hresult]
      simp
    case h_2 hother =>
      refine ⟨fun h => (by cases h), fun ⟨j, hj⟩ => ?_⟩
      exact absurd hj (hother j tree)

/-! ## The same rest of the text -/

/-- Whether a part of an expression looks at the rest of the text alone. -/
def looksAhead : Peg Rule → Bool
  | .text _ | .range _ _ | .any | .stop => true
  | .rule r => r ≠ .template
  | _ => false

theorem tracks_of_looksAhead (hl : looksAhead l = true) (hrule : ∀ r, l ≠ .rule r) :
    Tracks grammar n unplaced Spaced Eq Eq l := by
  cases l with
  | text p =>
      refine tracks_text ?_
      rintro t _ rfl
      by_cases hpre : p <+: t
      · obtain ⟨u, rfl⟩ := hpre
        exact .inr ⟨u, u, rfl, rfl, rfl⟩
      · exact .inl ⟨hpre, hpre⟩
  | range low high =>
      refine tracks_range ?_
      rintro t _ rfl
      cases t with
      | nil => exact .inl ⟨by simp, by simp⟩
      | cons c u => exact .inr ⟨c, u, u, rfl, rfl, rfl⟩
  | any =>
      intro s i i' o o' _ hrest h h'
      cases h with
      | any hread =>
          cases h' with
          | any hread' =>
              rw [hread.rest, hread'.rest] at hrest
              exact .matched (List.cons.inj hrest).2 rfl
          | noAny hnil => simp [← hrest, hread.rest] at hnil
      | noAny hnil =>
          cases h' with
          | any hread' => simp [hrest, hread'.rest] at hnil
          | noAny _ => exact .failed
  | stop =>
      intro s i i' o o' _ hrest h h'
      cases h with
      | stop hnil =>
          cases h' with
          | stop _ => exact .matched hrest rfl
          | noStop hne => exact absurd (hrest ▸ hnil) hne
      | noStop hne =>
          cases h' with
          | stop hnil => exact absurd (hrest ▸ hnil) hne
          | noStop _ => exact .failed
  | rule r => exact absurd rfl (hrule r)
  | _ => cases hl

theorem passes_eq : Passes Spaced Eq :=
  passes_of_dropWhile fun _ _ h => congrArg _ h

/-- The tree of a rule without its place is told by its text and the trees inside it. -/
theorem seenAlike_of_text_eq {S S' : Text → Text → Prop}
    (h : ∀ w w' u u', S (w ++ u) (w' ++ u') → S' u u' → w = w') :
    SeenAlike unplaced S S' r := by
  intro w w' u u' p p' ts ts' hS hS' htrees
  obtain rfl := h w w' u u' hS hS'
  rw [unplaced, unplaced, bare, bare, if_neg Bool.false_ne_true, bareIn_eq, bareIn_eq]
  exact congrArg (ParseTree.node r 0 w) htrees

/-- A rule matches alike wherever the rest of the text is the same. -/
theorem tracks_eq (hr : r ≠ .template) : Tracks grammar n unplaced Spaced Eq Eq (.rule r) := by
  refine .of_rules (E := fun r => r ≠ .template) passes_eq ?_ ?_ hr
  · intro r _ _
    refine seenAlike_of_text_eq fun w w' u u' h h' => ?_
    rw [h'] at h
    exact List.append_cancel_right h
  · intro r hr l hl
    have hall : ∀ r : Rule, r ≠ .template → (grammar r).body.leaves.all looksAhead = true := by
      intro r hr
      cases r
      case template => exact absurd rfl hr
      all_goals rfl
    have hahead := List.all_eq_true.mp (hall r hr) l hl
    by_cases hrule : ∃ q, l = .rule q
    · obtain ⟨q, rfl⟩ := hrule
      exact .inl ⟨q, rfl, of_decide_eq_true hahead⟩
    · exact .inr fun n => tracks_of_looksAhead hahead fun q hq => hrule ⟨q, hq⟩

end TemplateTree.Template
