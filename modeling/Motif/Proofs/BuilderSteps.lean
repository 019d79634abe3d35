import Motif.Proofs.Pattern.TypePath
import Motif.Proofs.Precedence
import Motif.Proofs.Refusal

/-!
Steps in preparing a matcher.

Options are used only when everything is built, and then for nothing but telling type names apart.
So it makes no difference where between the rules they were set, nor in what order names were added.
-/

namespace Motif

namespace PatternOptions

/-- Options that know the same type names, whatever their order. -/
def Agree (left right : PatternOptions) : Prop :=
  Option.Rel (fun known others => ∀ name, name ∈ known ↔ name ∈ others) left.knownTypes
    right.knownTypes

variable {left right : PatternOptions}

/-- Options agree with themselves. -/
theorem Agree.refl (options : PatternOptions) : Agree options options := by
  -- Whether or not there are known names, they are the same on both sides.
  obtain ⟨_ | known⟩ := options
  · exact .none
  · exact .some fun _ => Iff.rfl

/-- Options that agree tell type names from other names alike. -/
theorem Agree.isTypeName_eq (agree : Agree left right) (name : String) :
    left.isTypeName name = right.isTypeName name := by
  -- A name is looked up among known names, or else judged by itself.
  obtain ⟨known⟩ := left
  obtain ⟨others⟩ := right
  cases agree with
  | none => rfl
  | some same => exact Bool.eq_iff_iff.mpr (by simpa [isTypeName] using same name)

/-- Further restrictions keep options in agreement. -/
theorem Agree.withKnownTypes (agree : Agree left right) (names : List String) :
    Agree (left.withKnownTypes names) (right.withKnownTypes names) := by
  -- New names come to the same names on either side.
  obtain ⟨known⟩ := left
  obtain ⟨others⟩ := right
  cases agree with
  | none => exact .some fun _ => Iff.rfl
  | some same => exact .some fun name => by simp [same]

/-- Options with one restriction after another. -/
def restrictedBy (groups : List (List String)) (options : PatternOptions) : PatternOptions :=
  groups.foldl (fun options names => options.withKnownTypes names) options

/-- All restrictions together are one, unless there is none. -/
theorem restrictedBy_eq {groups : List (List String)} (some : groups ≠ [])
    (options : PatternOptions) :
    options.restrictedBy groups = ⟨options.knownTypes.getD [] ++ groups.flatten⟩ := by
  -- Restrictions add up from the front, so the last one is looked at by itself.
  induction groups generalizing options with
  | nil => exact absurd rfl some
  | cons names rest ih =>
    by_cases last : rest = []
    · simp [last, restrictedBy, withKnownTypes]
    · have further := ih last (options.withKnownTypes names)
      simpa [restrictedBy, withKnownTypes] using further

end PatternOptions

section Reading

variable {left right : PatternOptions}

/-- Options matter to the reading of patterns only by the type names that there are. -/
theorem Pattern.parseWith_eq_of_agree (agree : left.Agree right) (source : String) :
    parseWith left source = parseWith right source := by
  -- A type path is the only thing that is judged by the options.
  have path (first last : Lexeme) :
      ofPath left source first last = ofPath right source first last := by
    simp only [ofPath, agree.isTypeName_eq]
  -- Every other form is read without a look at them.
  have same (lexemes : List Lexeme) : read left source (.finish source) lexemes =
      read right source (.finish source) lexemes := by
    cases lexemes with
    | nil => rfl
    | cons first rest => simp only [read, path]
  simp only [parseWith, readWhole, same]

/-- So do they to the building of matchers, which are the same in every clause. -/
theorem Matcher.buildWith_eq_of_agree (agree : left.Agree right) (table : RuleTable) :
    buildWith left table = buildWith right table := by
  -- A table is built rule by rule, and each rule by reading its pattern.
  have same : Clause.ofRule left = Clause.ofRule right := by
    funext rule
    simp only [Clause.ofRule, Pattern.parseWith_eq_of_agree agree]
  simp only [buildWith, Clause.ofTable, same]

end Reading

namespace MatcherBuilder

namespace Step

/-- The options that a step sets anew, if it does. -/
def options? : Step → Option PatternOptions
  | options own => some own
  | knownTypes _ | clause _ | rules _ => none

/-- Whether a step leaves the options that were set before, though perhaps restricted. -/
def keepsOptions : Step → Bool
  | options _ => false
  | knownTypes _ | clause _ | rules _ => true

/-- The names that a step restricts type tags to, if it does. -/
def names? : Step → Option (List String)
  | knownTypes names => some names
  | options _ | clause _ | rules _ => none

/-- The rules that a step adds. -/
def added : Step → List Rule
  | clause rule => [rule]
  | rules table => table.rules
  | options _ | knownTypes _ => []

/-- Whether a step is about options, and not about rules. -/
def configures : Step → Bool
  | options _ | knownTypes _ => true
  | clause _ | rules _ => false

end Step

/-- The options of the last step that sets them anew. -/
def lastOptions (steps : List Step) : PatternOptions :=
  (steps.filterMap Step.options?).getLast?.getD {}

/-- The names of the restrictions behind the last step that sets options anew. -/
def laterNames (steps : List Step) : List (List String) :=
  (steps.rtakeWhile Step.keepsOptions).filterMap Step.names?

/-- The options of the last step that sets them, with the restrictions behind it. -/
def finalOptions (steps : List Step) : PatternOptions :=
  (lastOptions steps).restrictedBy (laterNames steps)

/-- The rules of all steps, in order. -/
def contributed (steps : List Step) : RuleTable :=
  ⟨steps.flatMap Step.added⟩

/-- Whether the options in force in the end were ever restricted, be it to no name at all. -/
def Restricted (steps : List Step) : Prop :=
  (lastOptions steps).knownTypes ≠ none ∨ laterNames steps ≠ []

/-- The options of one more step count, if it has any. -/
theorem lastOptions_concat (steps : List Step) (last : Step) :
    lastOptions (steps ++ [last]) = last.options?.getD (lastOptions steps) := by
  -- A step behind all others is the last of those with options, or has none.
  cases own : last.options? <;> simp [lastOptions, own]

/-- One more step adds its names, unless it sets the options anew. -/
theorem laterNames_concat (steps : List Step) (last : Step) :
    laterNames (steps ++ [last]) =
      if last.keepsOptions then laterNames steps ++ last.names?.toList else [] := by
  -- New options cut off all restrictions before them.
  cases kept : last.keepsOptions <;> cases names : last.names? <;>
    simp [laterNames, kept, names]

/-- One more step adds its rules at the end. -/
theorem contributed_concat (steps : List Step) (last : Step) :
    contributed (steps ++ [last]) = ⟨(contributed steps).rules ++ last.added⟩ := by
  -- Rules are gathered step by step.
  simp [contributed]

/-- What a step does to the options of a builder, it does to those that count in the end. -/
theorem finalOptions_concat (steps : List Step) (last : Step) (table : RuleTable) :
    finalOptions (steps ++ [last]) = (step ⟨finalOptions steps, table⟩ last).options := by
  -- Each kind of step says what becomes of options and of restrictions.
  simp only [finalOptions, lastOptions_concat, laterNames_concat]
  cases last <;>
    simp [step, PatternOptions.restrictedBy, Step.keepsOptions, Step.options?, Step.names?]

/-- A builder has gathered the rules of all its steps and the options that count by then. -/
theorem ofSteps_eq (steps : List Step) :
    ofSteps steps = ⟨finalOptions steps, contributed steps⟩ := by
  -- The last step decides what becomes of the options before it, so it is the one set apart.
  induction steps using List.reverseRecOn with
  | nil => rfl
  | append_singleton steps last ih =>
    have taken : ofSteps (steps ++ [last]) = (ofSteps steps).step last := by simp [ofSteps]
    rw [taken, ih, finalOptions_concat steps last (contributed steps), contributed_concat]
    cases last with
    | options | knownTypes => simp [step, Step.added]
    | clause | rules => rfl

/-- What is built from some steps. -/
theorem build_ofSteps (steps : List Step) :
    (ofSteps steps).build = Matcher.buildWith (finalOptions steps) (contributed steps) := by
  -- Nothing is looked at but the options and the rules that the steps left.
  rw [ofSteps_eq, build]

/-- Builders with the same rules and options that agree. -/
def Alike (left right : MatcherBuilder) : Prop :=
  left.options.Agree right.options ∧ left.table = right.table

/-- The same step keeps builders alike. -/
theorem Alike.step {left right : MatcherBuilder} (alike : Alike left right) (next : Step) :
    Alike (left.step next) (right.step next) := by
  -- A step works on options and rules apart from each other.
  obtain ⟨agree, same⟩ := alike
  cases next with
  | options own => exact ⟨.refl own, same⟩
  | knownTypes names => exact ⟨agree.withKnownTypes names, same⟩
  | clause rule => exact ⟨agree, congrArg (RuleTable.push · rule) same⟩
  | rules table => exact ⟨agree, congrArg (· ++ table) same⟩

/-- The same steps keep builders alike. -/
theorem Alike.steps {left right : MatcherBuilder} (alike : Alike left right) (steps : List Step) :
    Alike (steps.foldl MatcherBuilder.step left) (steps.foldl MatcherBuilder.step right) := by
  -- Being alike goes on from each step to the next.
  induction steps generalizing left right with
  | nil => exact alike
  | cons next rest ih => exact ih (alike.step next)

/-- From builders that are alike the same is built. -/
theorem Alike.build_eq {left right : MatcherBuilder} (alike : Alike left right) :
    left.build = right.build := by
  -- The rules are the same, and the options tell the same type names apart.
  rw [build, build, alike.2, Matcher.buildWith_eq_of_agree alike.1]

/-- One restriction after another is taken by the options alone. -/
theorem foldl_knownTypes (groups : List (List String)) (builder : MatcherBuilder) :
    (groups.map Step.knownTypes).foldl step builder =
      ⟨builder.options.restrictedBy groups, builder.table⟩ := by
  -- Each restriction goes to the options and leaves the rules alone.
  induction groups generalizing builder with
  | nil => rfl
  | cons names rest ih => exact ih _

/-- Steps about rules do not see the options, nor do the others see the rules. -/
theorem step_comm (builder : MatcherBuilder) {adding setting : Step}
    (adds : adding.configures = false) (sets : setting.configures = true) :
    (builder.step adding).step setting = (builder.step setting).step adding := by
  -- One of the two steps writes the options and the other one the rules.
  cases setting with
  | options | knownTypes =>
    cases adding with
    | options | knownTypes => cases adds
    | clause | rules => rfl
  | clause | rules => cases sets

/-- A way to rearrange steps. -/
inductive Rearranged : List Step → List Step → Prop
  /-- A step about rules and a step about options change places. -/
  | swap (front back : List Step) {adding setting : Step} (adds : adding.configures = false)
      (sets : setting.configures = true) :
      Rearranged (front ++ adding :: setting :: back) (front ++ setting :: adding :: back)
  /-- Restrictions that follow each other are permuted, merged or split, with the same names. -/
  | regroup (front back : List Step) {groups others : List (List String)} (some : groups ≠ [])
      (some' : others ≠ []) (same : ∀ name, name ∈ groups.flatten ↔ name ∈ others.flatten) :
      Rearranged (front ++ groups.map .knownTypes ++ back) (front ++ others.map .knownTypes ++ back)

/-- Rearranging steps once leads to builders that are alike. -/
theorem Rearranged.alike {steps others : List Step} (rearranged : Rearranged steps others) :
    Alike (ofSteps steps) (ofSteps others) := by
  cases rearranged with
  | @swap front back adding setting adds sets =>
    -- Up to the two steps the builders are the same one, and behind them again.
    have same : ofSteps (front ++ adding :: setting :: back) =
        ofSteps (front ++ setting :: adding :: back) := by
      simp only [ofSteps, List.foldl_append, List.foldl_cons, step_comm _ adds sets]
    rw [same]
    exact ⟨.refl _, rfl⟩
  | @regroup front back groups others some some' same =>
    -- Before and behind the restrictions the steps are the same, so only their names count.
    have alike : Alike ((groups.map .knownTypes).foldl step (ofSteps front))
        ((others.map .knownTypes).foldl step (ofSteps front)) := by
      rw [foldl_knownTypes, foldl_knownTypes, PatternOptions.restrictedBy_eq some,
        PatternOptions.restrictedBy_eq some']
      refine ⟨.some fun name => ?_, rfl⟩
      rw [List.mem_append, List.mem_append, same]
    simpa [ofSteps, List.foldl_append] using alike.steps back

/-- However often steps are rearranged, the same is built from them. -/
theorem build_ofSteps_of_rearranged {steps others : List Step}
    (rearranged : Relation.EqvGen Rearranged steps others) :
    (ofSteps steps).build = (ofSteps others).build := by
  -- Being built alike is an equivalence that each single change respects.
  induction rearranged with
  | rel _ _ once => exact once.alike.build_eq
  | refl _ => rfl
  | symm _ _ _ ih => exact ih.symm
  | trans _ _ _ _ _ first second => exact first.trans second

/-- Restricted options know the names that were collected into them. -/
theorem isTypeName_of_restricted {steps : List Step} (restricted : Restricted steps)
    (name : String) : (finalOptions steps).isTypeName name = true ↔
      name ∈ (lastOptions steps).knownTypes.getD [] ∨ ∃ names ∈ laterNames steps, name ∈ names := by
  -- Either there are restrictions, or the options had known names of their own.
  by_cases later : laterNames steps = []
  · -- Nothing was restricted since, so the options had known names when they were set.
    have before := restricted.resolve_right (not_not_intro later)
    obtain ⟨known, own⟩ := Option.ne_none_iff_exists'.mp before
    simp [finalOptions, later, PatternOptions.restrictedBy, PatternOptions.isTypeName, own]
  · rw [finalOptions, PatternOptions.restrictedBy_eq later]
    simp [PatternOptions.isTypeName]

/-- Options that were never restricted are the default ones. -/
theorem finalOptions_of_unrestricted {steps : List Step} (free : ¬ Restricted steps) :
    finalOptions steps = {} := by
  -- Without a restriction nothing was added to options that know no names.
  obtain ⟨known, later⟩ := not_or.mp free
  rw [finalOptions, not_not.mp later]
  exact congrArg PatternOptions.mk (not_not.mp known)

/-- Steps about rules alone leave the options as they are at first. -/
theorem not_restricted_of_rules {steps : List Step}
    (plain : ∀ step ∈ steps, step.configures = false) : ¬ Restricted steps := by
  -- A step about rules has neither options nor names.
  have none : ∀ step ∈ steps, step.options? = none ∧ step.names? = none := by
    intro step member
    have own := plain step member
    cases step with
    | options | knownTypes => cases own
    | clause | rules => exact ⟨rfl, rfl⟩
  -- So there is no last step with options, and nothing behind it either.
  have initial : lastOptions steps = {} := by
    rw [lastOptions, List.filterMap_eq_nil_iff.mpr fun step member => (none step member).1]
    rfl
  have nameless : laterNames steps = [] :=
    List.filterMap_eq_nil_iff.mpr fun step member =>
      (none step ((List.rtakeWhile_suffix _ _).subset member)).2
  simp [Restricted, initial, nameless]

/--
Setting options and adding rules commute.

All rules are built in order, under the options of the last step that sets them with the
restrictions behind it, so rearranging the steps does not change the clauses or the error. There is
one clause for each rule, with its handler and the pattern of its text, or else the error of the
first rule that is turned down. A type path is accepted when its whole text is among the names
collected into those options, or, if they were never restricted, when its last segment is
capitalised.
-/
theorem builder_steps_commute (steps : List Step) :
    (ofSteps steps).build = Matcher.buildWith (finalOptions steps) (contributed steps) ∧
    (∀ matcher, (ofSteps steps).build = .ok matcher →
      List.Forall₂ (fun rule clause => rule = ⟨clause.text, clause.handler⟩ ∧
        Pattern.parseWith (finalOptions steps) clause.text = .ok clause.pattern)
        (contributed steps).rules matcher.clauses) ∧
    (∀ error, (ofSteps steps).build = .error error ↔
      ∃ index rule, (contributed steps).FirstRefused (finalOptions steps) index rule error) ∧
    (∀ others, Relation.EqvGen Rearranged steps others →
      (ofSteps others).build = (ofSteps steps).build) ∧
    (∀ source name, Pattern.parseWith (finalOptions steps) source = .ok (.typeTag name) ↔
      Pattern.WritesPath source name ∧
        (Restricted steps → name ∈ (lastOptions steps).knownTypes.getD [] ∨
          ∃ names ∈ laterNames steps, name ∈ names) ∧
        (¬ Restricted steps → begins Char.isUpper (lastSegment name).toList = true)) ∧
    ((∀ step ∈ steps, step.configures = false) →
      (ofSteps steps).build = Matcher.build (contributed steps)) := by
  refine ⟨build_ofSteps steps, ?_, ?_,
    fun _ rearranged => (build_ofSteps_of_rearranged rearranged).symm, ?_, ?_⟩
  · intro matcher built
    rw [build_ofSteps] at built
    exact Matcher.clauses_of_buildWith built
  · intro error
    rw [build_ofSteps, RuleTable.buildWith_eq_error_iff]
  · intro source name
    rw [Pattern.parseWith_eq_typeTag_iff]
    refine and_congr_right fun _ => ?_
    by_cases restricted : Restricted steps
    · simpa [restricted] using isTypeName_of_restricted restricted name
    · simp [restricted, finalOptions_of_unrestricted restricted, PatternOptions.isTypeName_default]
  · intro plain
    rw [build_ofSteps, finalOptions_of_unrestricted (not_restricted_of_rules plain), Matcher.build]

/--
A rule that is added first sees the names that come last, and not those that were dropped.

It makes a clause under them, and gives an error where only the others are known.
-/
theorem builder_steps_commute_of_late_names :
    let rule : Rule := ⟨"IO", .nullary fun _ => .ok .null⟩
    let steps : List Step :=
      [.knownTypes ["Maybe"], .options {}, .clause rule, .knownTypes [], .knownTypes ["IO"]]
    let others : List Step :=
      [.knownTypes ["Maybe"], .options {}, .knownTypes ["IO"], .clause rule]
    let matcher : Matcher := ⟨[⟨"IO", .typeTag "IO", 0, rule.handler⟩]⟩
    let early : List Step := [.clause rule, .knownTypes ["Maybe"]]
    let error : EvalError := .malformedPattern ⟨⟨.unknownType "IO", ⟨0, 2⟩⟩, "IO"⟩
    (ofSteps steps).build = Matcher.buildWith ⟨some ["IO"]⟩ ⟨[rule]⟩ ∧
      (ofSteps steps).build = .ok matcher ∧
      List.Forall₂ (fun rule clause => rule = ⟨clause.text, clause.handler⟩ ∧
        Pattern.parseWith ⟨some ["IO"]⟩ clause.text = .ok clause.pattern) [rule]
        matcher.clauses ∧
      (ofSteps early).build = .error error ∧
      Relation.EqvGen Rearranged steps others ∧ (ofSteps others).build = (ofSteps steps).build ∧
      Restricted steps ∧ Pattern.parseWith ⟨some ["IO"]⟩ "IO" = .ok (.typeTag "IO") ∧
      Pattern.parseWith ⟨some ["IO"]⟩ "Maybe" ≠ .ok (.typeTag "Maybe") ∧
      (ofSteps [.clause rule]).build = Matcher.build ⟨[rule]⟩ := by
  intro rule steps others matcher early error
  have later : laterNames steps = [[], ["IO"]] := rfl
  have restricted : Restricted steps := .inr (by simp [later])
  -- The empty restriction goes first, and then the rule changes places with the other one.
  have rearranged : Relation.EqvGen Rearranged steps others := by
    refine .trans _ [.knownTypes ["Maybe"], .options {}, .clause rule, .knownTypes ["IO"]] _
      (.rel _ _ ?_) (.rel _ _ ?_)
    · exact .regroup [.knownTypes ["Maybe"], .options {}, .clause rule] []
        (List.cons_ne_nil [] [["IO"]]) (List.cons_ne_nil ["IO"] []) (fun _ => Iff.rfl)
    · exact .swap [.knownTypes ["Maybe"], .options {}] [] rfl rfl
  obtain ⟨built, clauses, -, again, accepted, -⟩ := builder_steps_commute steps
  have done : (ofSteps steps).build = .ok matcher := by cbv
  -- Under the other name the rule is the first of its table that is no pattern.
  have unread : Pattern.parseWith ⟨some ["Maybe"]⟩ rule.pattern =
      .error ⟨⟨.unknownType "IO", ⟨0, 2⟩⟩, "IO"⟩ := by cbv
  have first : RuleTable.FirstRefused ⟨some ["Maybe"]⟩ ⟨[rule]⟩ 0 rule error := by
    refine ⟨rfl, .malformed unread, ?_⟩
    intro place before
    exact absurd before (Nat.not_lt_zero place)
  -- A lone identifier is a path of one segment.
  have path : Pattern.WritesPath "IO" "IO" := by
    let lexeme : Lexeme := ⟨.identifier, "IO", ⟨0, 2⟩⟩
    have alone : Lexeme.ofText "IO" = [lexeme] := by decide +kernel
    have slice : "IO" = Span.slice ⟨0, 2⟩ "IO" := by decide +kernel
    have name : NameForm [lexeme.token] lexeme.token.text := .name rfl
    rw [Pattern.WritesPath, alone]
    exact ⟨_, lexeme, lexeme, .one name, rfl, rfl, slice⟩
  refine ⟨built, done, clauses matcher done,
    ((builder_steps_commute early).2.2.1 error).mpr ⟨0, rule, first⟩, rearranged,
    again others rearranged, restricted, ?_, ?_, ?_⟩
  · exact (accepted "IO" "IO").mpr
      ⟨path, fun _ => .inr ⟨["IO"], by simp [later]⟩, fun free => absurd restricted free⟩
  · intro done
    obtain ⟨-, known, -⟩ := (accepted "Maybe" "Maybe").mp done
    have initial : (lastOptions steps).knownTypes = none := rfl
    simp [later, initial, restricted] at known
  · exact (builder_steps_commute [.clause rule]).2.2.2.2.2 (by simp [Step.configures])

end MatcherBuilder

end Motif
