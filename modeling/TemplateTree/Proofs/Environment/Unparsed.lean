import TemplateTree.Proofs.Environment.Location
import TemplateTree.Proofs.Environment.Unreached
import TemplateTree.Proofs.Template.Refusals
import TemplateTree.Proofs.Text.Encoding

/-!
# Templates that do not parse

The failure is laid to the template, and to the line, that are found in the message about it.
These are the first source that does not parse and the line its parser tells of, unless the
name of the source holds a quote or looks like a place.
-/

namespace TemplateTree

open Text Location

namespace Template

variable {name text : Text} {place : Nat} {e : TemplateError}

/-- The line that the parser tells of for a text that it refuses, if it is a machine number. -/
def reportedLine? (t : Text) : Option Nat :=
  match Peg.parse grammar .template t with
  | .error place => (some (lineAndColumn t place).1).filter (· < Nat.pow 2 64)
  | .ok _ => none

theorem line?_of_not_mem (h : '>' ∉ text) : Location.line? text = none := by
  have hnone : firstAt arrowLine? text = none := by
    rw [firstAt_eq_none_iff]
    intro u hu
    rw [Option.eq_none_iff_forall_ne_some]
    intro line hline
    obtain ⟨blank, column, -, -, -, -, harrow⟩ := arrowLine?_eq_some_iff.mp hline
    exact h (hu.subset (harrow.subset (by simp)))
  rw [Location.line?, hnone]
  rfl

theorem points_decimal (line column : Nat) (rest : Text) :
    Points (decimal line) ("--> ".toList ++ (decimal line ++ ':' :: (decimal column ++ rest))) := by
  have hdigits : ∀ {n : Nat} {c : Char}, c ∈ decimal n → isDecimalDigit c = true :=
    fun hc => isDecimalDigit_of_isDigit (isDigit_of_mem_decimal hc)
  obtain ⟨c, r, hcolumn⟩ := List.exists_cons_of_ne_nil (decimal_ne_nil column)
  have hc : c ∈ decimal column := hcolumn ▸ List.mem_cons_self
  refine ⟨[' '], c, rfl, decimal_ne_nil line, fun _ => hdigits, hdigits hc, r ++ rest, ?_⟩
  simp [hcolumn]

theorem line?_parseReport (text : Text) (place : Nat) :
    Location.line? (trimEnd (parseReport text place)) =
      (some (lineAndColumn text place).1).filter (· < Nat.pow 2 64) := by
  obtain ⟨before, hbefore⟩ : ∃ before, parseReport text place = before ++ ['-'] :=
    ⟨_, (List.append_assoc _ "^--".toList ['-']).symm⟩
  have htrim : trimEnd (parseReport text place) = parseReport text place := by
    rw [hbefore, trimEnd_concat rfl]
  obtain ⟨rest, hrest⟩ : ∃ rest, parseReport text place =
      filled (decimal (lineAndColumn text place).1).length ' ' ++
        ("--> ".toList ++ (decimal (lineAndColumn text place).1 ++
          ':' :: (decimal (lineAndColumn text place).2 ++ rest))) := by
    apply Exists.intro
    simp only [parseReport, List.append_assoc]
    rfl
  have hmargin : '-' ∉ filled (decimal (lineAndColumn text place).1).length ' ' := by
    simp [filled]
  have hfirst := firstAt_of_some (arrowLine?_of_points
    (points_decimal (lineAndColumn text place).1 (lineAndColumn text place).2 rest))
  rw [htrim, hrest, Location.line?, firstAt_arrowLine?_of_not_mem hmargin, hfirst]
  exact (readBelow?_decimal _ _).trans (by simp [Option.filter_some])

theorem chain_parse (name cause : Text) :
    (TemplateError.mk ("Failed to parse '" ++ name ++ "'") [cause]).chain =
      parseMessage name cause := by
  have hassoc : ∀ a b c d : Text, a ++ (b ++ ['\'']) ++ c ++ ['\''] ++ ('\n' :: d ++ []) =
      a ++ (b ++ '\'' :: (c ++ '\'' :: '\n' :: d)) := by
    intro a b c d
    simp
  exact hassoc "Failed to ".toList "parse ".toList name (trimEnd cause)

theorem reportedLine?_of_error (h : Peg.parse grammar .template text = .error place) :
    reportedLine? text = (some (lineAndColumn text place).1).filter (· < Nat.pow 2 64) := by
  rw [reportedLine?, h]

theorem reportedLine?_of_ok {tree : Tree} (h : Peg.parse grammar .template text = .ok tree) :
    reportedLine? text = none := by
  rw [reportedLine?, h]

/-- What is said of a text that is refused: its name and, if there is one, the line that the
parser tells of. -/
theorem exists_chain_of_parse (h : parse name text = .error e) :
    ∃ cause, e.chain = parseMessage name cause ∧
      Location.line? (trimEnd cause) = reportedLine? text := by
  obtain ⟨cause, rfl, hcause⟩ := exists_cause_of_parse h
  refine ⟨cause, chain_parse name cause, ?_⟩
  rcases hcause with ⟨place, hplace, hreport⟩ | ⟨⟨tree, htree⟩, hblunt⟩
  · rw [hreport, line?_parseReport, reportedLine?_of_error hplace]
  · obtain ⟨after, -, hafter⟩ := exists_trimEnd_append cause
    have htrim : '>' ∉ trimEnd cause := fun hmem =>
      hblunt (hafter ▸ List.mem_append_left after hmem)
    rw [line?_of_not_mem htrim, reportedLine?_of_ok htree]

end Template

variable {t : FileTree} {s : Settings} {set : TemplateSet} {sources : Sources} {name text : Text}
  {source : Source} {e : TemplateError}

namespace Library

variable {before after : List (Text × Text)}

theorem parseAll_of_error
    (hbefore : ∀ p ∈ before, ∃ template, Template.parse p.1 p.2 = .ok template)
    (he : Template.parse name text = .error e) :
    parseAll (before ++ (name, text) :: after) = .error e := by
  induction before with
  | nil =>
      rw [List.nil_append, parseAll, he]
      rfl
  | cons p before ih =>
      obtain ⟨template, htemplate⟩ := hbefore p List.mem_cons_self
      have hrest := ih fun q hq => hbefore q (List.mem_cons_of_mem p hq)
      rw [List.cons_append, parseAll, htemplate, hrest]
      rfl

theorem ofTexts_of_error
    (hbefore : ∀ p ∈ before, ∃ template, Template.parse p.1 p.2 = .ok template)
    (he : Template.parse name text = .error e) :
    ofTexts (before ++ (name, text) :: after) = .error e := by
  rw [ofTexts, parseAll_of_error hbefore he]
  rfl

end Library

namespace Sources

theorem ordered_of_load {files : FileTree} {o : EngineOptions}
    (h : load files o set = .ok sources) :
    sources.Pairwise fun a b => Text.order a.1 b.1 = .lt := by
  obtain ⟨l, hturns, -, rfl⟩ := Loading.turns_of_load h
  exact ((Loading.consistent_start files o set).turns hturns).ordered

theorem templates_ne_nil_of_load {files : FileTree} {o : EngineOptions}
    (h : load files o set = .ok sources) (hsource : sources.lookup name = some source) :
    set.templates ≠ [] := by
  intro hnil
  unfold load at h
  rw [hnil] at h
  obtain rfl : [] = sources := by simpa [readNew, ByName.names, close, bind, Except.bind] using h
  cases hsource

/-- Where a source does not parse, there is a first one that does not. -/
theorem exists_first (hmem : (name, source) ∈ sources)
    (he : Template.parse name source.processed = .error e) :
    ∃ before name source after e, sources = before ++ (name, source) :: after ∧
      (∀ p ∈ before, ∃ template, Template.parse p.1 p.2.processed = .ok template) ∧
      Template.parse name source.processed = .error e := by
  induction sources with
  | nil => cases hmem
  | cons p sources ih =>
      cases hp : Template.parse p.1 p.2.processed with
      | error e' => exact ⟨[], p.1, p.2, sources, e', rfl, by simp, hp⟩
      | ok template =>
          rcases List.mem_cons.mp hmem with rfl | hmem
          · cases hp.symm.trans he
          · obtain ⟨before, name, source, after, e', rfl, hbefore, hfirst⟩ := ih hmem
            refine ⟨p :: before, name, source, after, e', rfl, ?_, hfirst⟩
            rw [List.forall_mem_cons]
            exact ⟨⟨template, hp⟩, hbefore⟩

theorem mem_before_of_lt {before after : Sources}
    (hordered : (before ++ (name, source) :: after).Pairwise fun a b => Text.order a.1 b.1 = .lt)
    {p : Text × Source} (hp : p ∈ before ++ (name, source) :: after)
    (hlt : Text.order p.1 name = .lt) : p ∈ before := by
  rcases List.mem_append.mp hp with hp | hp
  · exact hp
  rcases List.mem_cons.mp hp with rfl | hp
  · simp at hlt
  · have hafter := (List.pairwise_cons.mp (List.pairwise_append.mp hordered).2.1).1 p hp
    simpa using Text.order_trans hlt hafter

theorem name_ne_nil_of_load (ht : t.Sound) (hset : s.discover t = .ok set)
    (h : load t s.engineOptions set = .ok sources) (hsource : sources.lookup name = some source) :
    name ≠ [] := by
  obtain ⟨root, hplace⟩ := Settings.place_of_discover hset
  obtain ⟨f, hf, rfl, -⟩ := (load_spec h).2 name source hsource
  obtain ⟨names, hne, hvalid, rfl⟩ := Settings.exists_names_of_discover ht hplace hset hf
  rw [Settings.name_templateAt hplace hne hvalid]
  obtain ⟨x, rest, rfl⟩ := List.exists_cons_of_ne_nil hne
  have hx := (hvalid x List.mem_cons_self).1
  cases rest <;> simp [Text.joinWith, hx]

theorem sourceLine_of_lookup (h : sources.lookup name = some source) (n : Nat) :
    sources.sourceLine name n = source.sourceLine n := by
  rw [sourceLine, h]

end Sources

namespace Environment

theorem create_of_load (hset : s.discover t = .ok set) (hne : set.templates ≠ [])
    (hstencils : s.stencilName? ≠ none → set.stencils ≠ [])
    (hload : Sources.load t s.engineOptions set = .ok sources) :
    create t s = ofSources s set sources := by
  have hsome : set.templates.isEmpty = false := by simpa using hne
  unfold create
  rw [hset]
  simp only [bind, Except.bind, hsome, Bool.false_eq_true, if_false]
  cases hname : s.stencilName? with
  | none =>
      simp only [pure, Except.pure, hload]
      rfl
  | some n =>
      have hsome' : set.stencils.isEmpty = false := by simpa using hstencils (by simp [hname])
      simp only [hsome', Bool.false_eq_true, if_false, pure, Except.pure, hload]
      rfl

theorem create_of_first {before after : Sources} (hset : s.discover t = .ok set)
    (hstencils : s.stencilName? ≠ none → set.stencils ≠ [])
    (hload : Sources.load t s.engineOptions set = .ok (before ++ (name, source) :: after))
    (hbefore : ∀ p ∈ before, ∃ template, Template.parse p.1 p.2.processed = .ok template)
    (he : Template.parse name source.processed = .error e) :
    create t s = .error (Sources.loadFailure (before ++ (name, source) :: after) e) := by
  have hsource : List.lookup name (before ++ (name, source) :: after) = some source :=
    ByName.lookup_of_mem (Sources.ordered_of_load hload) (by simp)
  have hsome := Sources.templates_ne_nil_of_load hload hsource
  have hparsed : ∀ p ∈ before.map fun p => (p.1, p.2.processed),
      ∃ template, Template.parse p.1 p.2 = .ok template := by
    intro p hp
    obtain ⟨q, hq, rfl⟩ := List.mem_map.mp hp
    exact hbefore q hq
  have hlibrary : Library.ofTexts (before.map (fun p => (p.1, p.2.processed)) ++
      (name, source.processed) :: after.map fun p => (p.1, p.2.processed)) = .error e :=
    Library.ofTexts_of_error hparsed he
  rw [create_of_load hset hsome hstencils hload, ofSources, List.map_append, List.map_cons,
    hlibrary]
  rfl

/-- Whether a name is found again in a message: no quote ends it early. -/
def Unquoted (name : Text) : Prop :=
  '\'' ∉ name ∧ '"' ∉ name

theorem getD_template?_eq_iff (hne : name ≠ []) (cause : Text) :
    (template? (parseMessage name cause)).getD "<templates>".toList = name ↔ Unquoted name := by
  constructor
  · rintro heq
    cases hfound : template? (parseMessage name cause) with
    | some file =>
        rw [hfound] at heq
        exact heq ▸ not_mem_of_template? hfound
    | none =>
        rw [hfound] at heq
        rw [← heq]
        exact ⟨by simp, by simp⟩
  · intro h
    rw [template?_parseMessage hne h.1 h.2]
    rfl

/-- What the failure says of a source that does not parse. -/
theorem exists_loadFailure (he : Template.parse name source.processed = .error e)
    (hne : name ≠ []) : ∃ file line, sources.loadFailure e = .template file line e.chain ∧
      (file = name ↔ Unquoted name) ∧
      (HoldsPlace name → line = (Location.line? name).map (sources.sourceLine file)) ∧
      (¬ HoldsPlace name → line =
        (Template.reportedLine? source.processed).map (sources.sourceLine file)) := by
  obtain ⟨cause, hchain, hreported⟩ := Template.exists_chain_of_parse he
  have hline := line?_parseMessage name cause
  refine ⟨_, _, rfl, ?_, fun hplace => ?_, fun hplace => ?_⟩
  · rw [hchain]
    exact getD_template?_eq_iff hne cause
  · rw [holdsPlace_iff, Option.ne_none_iff_isSome] at hplace
    rw [hchain, hline, if_pos hplace]
  · rw [holdsPlace_iff, not_not] at hplace
    rw [hchain, hline, hplace, if_neg (by simp), hreported]

end Environment

/-! ## A template that stops early -/

namespace Sketch

def halting : FileTree :=
  ⟨.dir [(['t'], .dir [(['a'], file "A\n\x7b\x7b 1 + \x7d\x7d".toList)])], []⟩

theorem sound_halting : halting.Sound := by
  refine ⟨Node.Sound.of_names [['t']] rfl (by decide) (by decide) ?_, rfl⟩
  refine List.forall_mem_singleton.mpr
    (Node.Sound.of_names [['a']] rfl (by decide) (by decide) ?_)
  exact List.forall_mem_singleton.mpr .file

/-- Whether the template is all that is loaded, and does not parse because of its second
line. -/
def haltsEarly : Bool :=
  match (settings false [] "/last".toList).discover halting with
  | .error _ => false
  | .ok set => match Sources.load halting ⟨false, false, false⟩ set with
    | .ok [(name, source)] => name = ['a'] &&
      (Template.reportedLine? source.processed).map source.sourceLine = some 2 &&
      (match Template.parse name source.processed with
        | .error _ => true
        | .ok _ => false)
    | _ => false

theorem exists_halting : ∃ set source e,
    (settings false [] "/last".toList).discover halting = .ok set ∧
    Sources.load halting ⟨false, false, false⟩ set = .ok [(['a'], source)] ∧
    Template.parse ['a'] source.processed = .error e ∧
    (Template.reportedLine? source.processed).map source.sourceLine = some 2 := by
  have hcheck : haltsEarly = true := by decide +kernel
  unfold haltsEarly at hcheck
  split at hcheck
  case h_1 => cases hcheck
  case h_2 set hset =>
    split at hcheck
    case h_2 => cases hcheck
    case h_1 name source hload =>
      simp only [Bool.and_eq_true, decide_eq_true_eq] at hcheck
      obtain ⟨⟨rfl, hline⟩, hparse⟩ := hcheck
      split at hparse
      case h_2 => cases hparse
      case h_1 e he => exact ⟨set, source, e, hset, hload, he, hline⟩

end Sketch

namespace Environment

/-- Where a source does not parse, no environment is made.  The failure tells of the first one
that does not, in the byte order of the names, and of the line that the parser tells of, if the
name of the source holds neither quotes nor a place. -/
theorem create_of_unparsed (ht : t.Sound) (hset : s.discover t = .ok set)
    (hstencils : s.stencilName? ≠ none → set.stencils ≠ [])
    (hload : Sources.load t s.engineOptions set = .ok sources)
    (hbad : ∃ name source e, sources.lookup name = some source ∧
      Template.parse name source.processed = .error e) :
    ∃ name source e, sources.lookup name = some source ∧
      Template.parse name source.processed = .error e ∧
      (∀ name' source', sources.lookup name' = some source' → toBytes name' < toBytes name →
        ∃ template, Template.parse name' source'.processed = .ok template) ∧
      (Unquoted name ∧ ¬ HoldsPlace name →
        create t s = .error (.template name
          ((Template.reportedLine? source.processed).map source.sourceLine) e.chain)) ∧
      ∃ file line, create t s = .error (.template file line e.chain) ∧
        (file = name ↔ Unquoted name) ∧
        (HoldsPlace name → line = (Location.line? name).map (sources.sourceLine file)) ∧
        (¬ HoldsPlace name → line =
          (Template.reportedLine? source.processed).map (sources.sourceLine file)) := by
  obtain ⟨name, source, e, hsource, he⟩ := hbad
  obtain ⟨before, name, source, after, e, rfl, hbefore, he⟩ :=
    Sources.exists_first (ByName.mem_of_lookup hsource) he
  have hordered := Sources.ordered_of_load hload
  have hsource : List.lookup name (before ++ (name, source) :: after) = some source :=
    ByName.lookup_of_mem hordered (by simp)
  have hfirst : ∀ name' source',
      List.lookup name' (before ++ (name, source) :: after) = some source' →
      toBytes name' < toBytes name →
      ∃ template, Template.parse name' source'.processed = .ok template := by
    intro name' source' hsource' hlt
    have hmem := Sources.mem_before_of_lt hordered (ByName.mem_of_lookup hsource')
      (Text.order_eq_lt_iff.mpr hlt)
    exact hbefore (name', source') hmem
  have hne := Sources.name_ne_nil_of_load ht hset hload hsource
  obtain ⟨file, line, hfailure, hfile, hplace, hline⟩ := exists_loadFailure he hne
  have hfails := create_of_first hset hstencils hload hbefore he
  rw [hfailure] at hfails
  refine ⟨name, source, e, hsource, he, hfirst, ?_, file, line, hfails, hfile, hplace, hline⟩
  rintro ⟨hunquoted, hnot⟩
  rw [hfails, hline hnot, hfile.mpr hunquoted]
  have hmap : (Sources.sourceLine (before ++ (name, source) :: after) name) = source.sourceLine :=
    funext (Sources.sourceLine_of_lookup hsource)
  rw [hmap]

/-- The template is told of by its name and line. -/
theorem create_of_unparsed_halting : Sketch.halting.Sound ∧ ∃ e,
    create Sketch.halting (Sketch.settings false [] "/last".toList) =
      .error (.template ['a'] (some 2) e) := by
  obtain ⟨set, source, e, hset, hload, he, hline⟩ := Sketch.exists_halting
  have hlookup : List.lookup ['a'] [(['a'], source)] = some source := by simp
  obtain ⟨name, source', e', hsource', -, -, hcreate, -⟩ := create_of_unparsed
    Sketch.sound_halting hset (fun hname => absurd rfl hname) hload ⟨['a'], source, e, hlookup, he⟩
  have hmem := ByName.mem_of_lookup hsource'
  obtain ⟨rfl, rfl⟩ : name = ['a'] ∧ source' = source := by simpa using hmem
  have hplain : ¬ HoldsPlace ['a'] := by
    rw [holdsPlace_iff, not_not]
    rfl
  refine ⟨Sketch.sound_halting, e'.chain, ?_⟩
  rw [hcreate ⟨⟨by decide, by decide⟩, hplain⟩, hline]

end Environment

end TemplateTree
