import ComponentOutline.Proofs.Session.Steps
import ComponentOutline.Proofs.Syntax.Occurrence

/-!
# Readers do not disturb each other

Two sessions are alike for a reader if both have the same reader under its name and agree on
the settings that still matter to it.  A step that is done in both keeps them alike, and so
does a step that is done in only one of them, if it uses another reader or changes settings
that do not matter.  What a reader answers is therefore settled by the steps that name it, by
the settings when it was created and by those when it extracts.
-/

namespace ComponentOutline

namespace Settings

/-- The settings from which every program starts, apart from those of one group. -/
def defaultsApart (group : String) : List (String × String × Value) :=
  (Settings.default.filter fun entries => entries.1 != group).flatMap fun entries =>
    entries.2.map fun entry => (entries.1, entry.1, entry.2)

/-- Sets one value after the other. -/
def assignAll (assigned : List (String × String × Value)) (settings : Settings) : Settings :=
  assigned.foldl (fun current setting => current.assign setting.1 setting.2.1 setting.2.2)
    settings

/-- A setting that is the same twice, or is among those set now, is the same afterwards. -/
theorem lookup_assignAll_congr
    {group key : String}
    {fallback : Value}
    {assigned : List (String × String × Value)}
    {settings other : Settings}
    (same : (∃ setting ∈ assigned, group = setting.1 ∧ key = setting.2.1) ∨
      settings.lookup group key fallback = other.lookup group key fallback) :
    (settings.assignAll assigned).lookup group key fallback =
      (other.assignAll assigned).lookup group key fallback := by
  induction assigned generalizing settings other with
  | nil =>
      obtain ⟨setting, isSet, -⟩ | same := same
      · cases isSet
      · exact same
  | cons first rest inductionHypothesis =>
      apply inductionHypothesis
      obtain ⟨setting, isSet, isThis⟩ | same := same
      · obtain rfl | later := List.mem_cons.mp isSet
        · exact .inr (lookup_assign_congr _ (.inl isThis))
        · exact .inl ⟨setting, later, isThis⟩
      · exact .inr (lookup_assign_congr _ (.inr same))

/-- Some settings have nothing to do with a group: none belongs to it, and restoring all
other groups restores them. -/
structure IsApart (group : String) (wanted : List (String × String × Value)) : Prop where
  avoids : ∀ setting ∈ wanted, setting.1 ≠ group
  restored : ∀ settings : Settings,
    (settings.assignAll (defaultsApart group)).valuesOf wanted =
      Settings.default.valuesOf wanted

/-- Settings outside of a group are apart from it if the defaults cover them. -/
theorem isApart_of_covered
    {group : String}
    {wanted : List (String × String × Value)}
    (avoids : ∀ setting ∈ wanted, setting.1 ≠ group)
    (covered : ∀ setting ∈ wanted,
      ∃ restored ∈ defaultsApart group, setting.1 = restored.1 ∧ setting.2.1 = restored.2.1)
    (kept : (Settings.default.assignAll (defaultsApart group)).valuesOf wanted =
      Settings.default.valuesOf wanted) :
    IsApart group wanted := by
  refine ⟨avoids, ?_⟩
  intro settings
  refine Eq.trans ?_ kept
  apply List.map_congr_left
  intro setting isWanted
  exact lookup_assignAll_congr (.inl (covered setting isWanted))

/-- What an extraction looks at has nothing to do with the settings of parsing. -/
theorem isApart_extractionKeys : IsApart "parsing" extractionKeys :=
  isApart_of_covered (by decide) (by decide) rfl

/-- What the creation of a reader looks at has nothing to do with the settings of
extraction. -/
theorem isApart_creationKeys : IsApart "extraction" creationKeys :=
  isApart_of_covered (by decide) (by decide) rfl

end Settings

namespace Session

/-- The session after steps. -/
def afterAll (grammars : Grammars) (session : Session) (steps : List Step) : Session :=
  steps.foldl (fun current step => (run grammars current step).2.1) session

/-- What a step answers and logs after others. -/
def answerAfter
    (grammars : Grammars)
    (session : Session)
    (earlier : List Step)
    (step : Step) : Answer × Log :=
  let outcome := run grammars (afterAll grammars session earlier) step
  (outcome.1, outcome.2.2)

/-- What the reader with a name answers and logs, whenever it is used, in a run of steps. -/
def answersTo
    (grammars : Grammars)
    (id : String)
    (session : Session)
    (steps : List Step) : List (Answer × Log) :=
  ((steps.zip (runAll grammars session steps)).filter fun answered => answered.1.uses id).map
    fun answered => answered.2

namespace Step

/-- A step, unless it uses a reader with another name. -/
def withoutOthers (id : String) : Step → List Step
  | .parse name code markup => if name = id then [.parse name code markup] else []
  | .extract name code pattern => if name = id then [.extract name code pattern] else []
  | step => [step]

/-- The change of a setting, as a step. -/
def setting (assigned : String × String × Value) : Step :=
  .setSetting assigned.1 assigned.2.1 assigned.2.2

/-- A step without what it does to the settings of a group.  Of a reset there remains that
all other groups are restored. -/
def without (group : String) : Step → List Step
  | .setSetting changed key value =>
      if changed = group then [] else [.setSetting changed key value]
  | .resetSettings => (Settings.defaultsApart group).map setting
  | step => [step]

end Step

variable {grammars : Grammars} {id : String} {wanted : List (String × String × Value)}
  {session other third : Session} {step : Step} {steps : List Step}

theorem answerAfter_nil (grammars : Grammars) (session : Session) (step : Step) :
    answerAfter grammars session [] step =
      ((run grammars session step).1, (run grammars session step).2.2) := rfl

theorem answersTo_cons (step : Step) (rest : List Step) :
    answersTo grammars id session (step :: rest) =
      (if step.uses id then [answerAfter grammars session [] step] else []) ++
        answersTo grammars id (run grammars session step).2.1 rest := by
  unfold answersTo
  rw [runAll, List.zip_cons_cons, List.filter_cons]
  split
  · rfl
  · rfl

/-- The answers to later steps are those after the earlier ones. -/
theorem answersTo_append (earlier later : List Step) :
    answersTo grammars id session (earlier ++ later) =
      answersTo grammars id session earlier ++
        answersTo grammars id (afterAll grammars session earlier) later := by
  induction earlier generalizing session with
  | nil => rfl
  | cons step rest inductionHypothesis =>
      rw [List.cons_append, answersTo_cons, answersTo_cons, inductionHypothesis,
        List.append_assoc]
      rfl

/-- A reader that is not used gives no answers. -/
theorem answersTo_of_unused (unused : ∀ step ∈ steps, step.uses id = false) :
    answersTo grammars id session steps = [] := by
  induction steps generalizing session with
  | nil => rfl
  | cons step rest inductionHypothesis =>
      obtain ⟨unusedFirst, unusedRest⟩ := List.forall_mem_cons.mp unused
      rw [answersTo_cons, unusedFirst, inductionHypothesis unusedRest]
      rfl

/-- Two sessions have the same reader under a name and agree on some settings. -/
structure Alike
    (id : String)
    (wanted : List (String × String × Value))
    (session other : Session) : Prop where
  reader_eq : session.readers.get? id = other.readers.get? id
  values_eq : session.settings.valuesOf wanted = other.settings.valuesOf wanted

namespace Alike

theorem refl (id : String) (wanted : List (String × String × Value)) (session : Session) :
    Alike id wanted session session :=
  ⟨rfl, rfl⟩

theorem symm (alike : Alike id wanted session other) : Alike id wanted other session :=
  ⟨alike.reader_eq.symm, alike.values_eq.symm⟩

theorem trans
    (first : Alike id wanted session other)
    (second : Alike id wanted other third) :
    Alike id wanted session third :=
  ⟨first.reader_eq.trans second.reader_eq, first.values_eq.trans second.values_eq⟩

/-- Sessions that are alike in some settings are alike in fewer. -/
theorem mono
    {fewer : List (String × String × Value)}
    (alike : Alike id wanted session other)
    (isFewer : fewer ⊆ wanted) :
    Alike id fewer session other := by
  refine ⟨alike.reader_eq, ?_⟩
  apply List.map_congr_left
  intro setting isWanted
  exact Settings.lookup_eq_of_valuesOf alike.values_eq (isFewer isWanted)

/-- What a use of the reader answers depends on the reader and, for an extraction, on the
settings that it looks at. -/
theorem answer_eq
    (alike : Alike id step.consulted session other)
    (uses : step.uses id = true) :
    answerAfter grammars session [] step = answerAfter grammars other [] step := by
  cases step with
  | parse name code markup =>
      obtain rfl := eq_of_beq uses
      obtain ⟨sameAnswer, sameLog⟩ := useReader_congr
        (Node.summary <$> Reading.parse grammars code markup) .parsed alike.reader_eq
      exact Prod.ext sameAnswer sameLog
  | extract name code pattern =>
      obtain rfl := eq_of_beq uses
      have sameExtraction := Reading.extract_congr alike.values_eq grammars code pattern
      obtain ⟨sameAnswer, sameLog⟩ := useReader_congr
        (Reading.extract grammars session.settings code pattern) .extracted alike.reader_eq
      rw [answerAfter_nil, answerAfter_nil, run, run, ← sameExtraction, sameAnswer, sameLog]
  | getSetting | setSetting | resetSettings | create | createFor => cases uses

/-- A step that is done in both sessions keeps them alike; if it creates the reader, they
have to agree on what its creation looks at. -/
theorem run_both
    (alike : Alike id wanted session other)
    (covered : step.creates id = true → Settings.creationKeys ⊆ wanted) :
    Alike id wanted (run grammars session step).2.1 (run grammars other step).2.1 := by
  refine ⟨?_, ?_⟩
  · rw [run_get?, run_get?, alike.reader_eq]
    exact Step.readerAfter_congr (fun creates => (alike.mono (covered creates)).values_eq) _ _
  · rw [run_settings, run_settings]
    exact Step.valuesOf_settingsAfter_congr alike.values_eq step

/-- A step that leaves alone the reader and the settings that matter keeps the session like
another. -/
theorem run_left
    (alike : Alike id wanted session other)
    (reader : step.readerAfter grammars id session.settings (session.readers.get? id) =
      session.readers.get? id)
    (values : (step.settingsAfter session.settings).valuesOf wanted =
      session.settings.valuesOf wanted) :
    Alike id wanted (run grammars session step).2.1 other := by
  refine ⟨?_, ?_⟩
  · rw [run_get?, reader, alike.reader_eq]
  · rw [run_settings, values, alike.values_eq]

end Alike

theorem afterAll_settings (grammars : Grammars) (session : Session) (steps : List Step) :
    (afterAll grammars session steps).settings =
      steps.foldl Step.settingsAfter session.settings := by
  induction steps generalizing session with
  | nil => rfl
  | cons step rest inductionHypothesis =>
      rw [List.foldl_cons, ← run_settings grammars, ← inductionHypothesis]
      rfl

theorem afterAll_setting
    (grammars : Grammars)
    (session : Session)
    (assigned : List (String × String × Value)) :
    afterAll grammars session (assigned.map Step.setting) =
      { session with settings := session.settings.assignAll assigned } := by
  induction assigned generalizing session with
  | nil => rfl
  | cons first rest inductionHypothesis => exact inductionHypothesis _

/-- Steps take the place of one step: sessions that are alike remain so, and the reader
answers the same if the settings that it looks at matter. -/
structure Replaces
    (grammars : Grammars)
    (id : String)
    (wanted : List (String × String × Value))
    (step : Step)
    (replacement : List Step) : Prop where
  alike : ∀ {session other}, Alike id wanted session other →
    Alike id wanted (run grammars session step).2.1 (afterAll grammars other replacement)
  answersTo_eq : (step.uses id = true → step.consulted ⊆ wanted) →
    ∀ {session other}, Alike id wanted session other →
      answersTo grammars id session [step] = answersTo grammars id other replacement

theorem replaces_self (covered : step.creates id = true → Settings.creationKeys ⊆ wanted) :
    Replaces grammars id wanted step [step] where
  alike alike := alike.run_both covered
  answersTo_eq asked session other alike := by
    rw [answersTo_cons, answersTo_cons]
    split
    · next uses =>
        rw [(alike.mono (asked uses)).answer_eq uses]
        rfl
    · rfl

/-- A step that does not matter to a reader can be left out. -/
theorem replaces_nil
    (unused : step.uses id = false)
    (reader : ∀ settings reader, step.readerAfter grammars id settings reader = reader)
    (values : ∀ settings, (step.settingsAfter settings).valuesOf wanted =
      settings.valuesOf wanted) :
    Replaces grammars id wanted step [] where
  alike alike := alike.run_left (reader _ _) (values _)
  answersTo_eq _ session other _ := by
    rw [answersTo_cons, unused]
    rfl

/-- A reset is replaced by restoring the defaults of all other groups. -/
theorem replaces_reset {group : String} (isApart : Settings.IsApart group wanted) :
    Replaces grammars id wanted .resetSettings
      ((Settings.defaultsApart group).map Step.setting) where
  alike alike := by
    -- The group that is not restored keeps its old values, and none of them matters.
    rw [afterAll_setting]
    exact ⟨alike.reader_eq, (isApart.restored _).symm⟩
  answersTo_eq _ session other _ := by
    have unused : ∀ step ∈ (Settings.defaultsApart group).map Step.setting,
        step.uses id = false := by
      intro step isRestoring
      obtain ⟨assigned, -, rfl⟩ := List.mem_map.mp isRestoring
      rfl
    rw [answersTo_of_unused unused]
    rfl

/-- Steps on other readers can be left out. -/
theorem replaces_withoutOthers
    (covered : step.creates id = true → Settings.creationKeys ⊆ wanted) :
    Replaces grammars id wanted step (step.withoutOthers id) := by
  cases step with
  | parse name code markup =>
      simp only [Step.withoutOthers]
      split
      · exact replaces_self covered
      · next differs =>
          exact replaces_nil (beq_eq_false_iff_ne.mpr differs) (fun _ _ => if_neg differs)
            (fun _ => rfl)
  | extract name code pattern =>
      simp only [Step.withoutOthers]
      split
      · exact replaces_self covered
      · next differs =>
          exact replaces_nil (beq_eq_false_iff_ne.mpr differs) (fun _ _ => if_neg differs)
            (fun _ => rfl)
  | getSetting | setSetting | resetSettings | create | createFor => exact replaces_self covered

/-- What a step does to a group that does not matter can be left out. -/
theorem replaces_without
    {group : String}
    (isApart : Settings.IsApart group wanted)
    (covered : step.creates id = true → Settings.creationKeys ⊆ wanted) :
    Replaces grammars id wanted step (step.without group) := by
  cases step with
  | setSetting changed key value =>
      simp only [Step.without]
      split
      · next same =>
          subst same
          exact replaces_nil rfl (fun _ _ => rfl)
            (Settings.valuesOf_assign_of_notMem isApart.avoids key value)
      · exact replaces_self covered
  | resetSettings => exact replaces_reset isApart
  | getSetting | create | createFor | parse | extract => exact replaces_self covered

section

variable {edit : Step → List Step}

/-- If steps are replaced one by one, sessions that are alike remain so in the end. -/
theorem alike_afterAll
    (replaces : ∀ step ∈ steps, Replaces grammars id wanted step (edit step))
    (alike : Alike id wanted session other) :
    Alike id wanted (afterAll grammars session steps)
      (afterAll grammars other (steps.flatMap edit)) := by
  induction steps generalizing session other with
  | nil => exact alike
  | cons step rest inductionHypothesis =>
      obtain ⟨replacesFirst, replacesRest⟩ := List.forall_mem_cons.mp replaces
      have alikeNext := replacesFirst.alike alike
      have alikeLater := inductionHypothesis replacesRest alikeNext
      rw [List.flatMap_cons, afterAll, afterAll, List.foldl_append]
      exact alikeLater

/-- If steps are replaced one by one, the reader answers the same all along. -/
theorem answersTo_flatMap
    (replaces : ∀ step ∈ steps, Replaces grammars id wanted step (edit step))
    (asked : ∀ step ∈ steps, step.uses id = true → step.consulted ⊆ wanted)
    (alike : Alike id wanted session other) :
    answersTo grammars id other (steps.flatMap edit) = answersTo grammars id session steps := by
  induction steps generalizing session other with
  | nil => rfl
  | cons step rest inductionHypothesis =>
      obtain ⟨replacesFirst, replacesRest⟩ := List.forall_mem_cons.mp replaces
      obtain ⟨askedFirst, askedRest⟩ := List.forall_mem_cons.mp asked
      have sameFirst := replacesFirst.answersTo_eq askedFirst alike
      have sameRest := inductionHypothesis replacesRest askedRest (replacesFirst.alike alike)
      rw [List.flatMap_cons, answersTo_append, ← sameFirst, sameRest]
      exact (answersTo_append [step] rest).symm

end

/-- The uses of other readers do not matter to a reader. -/
theorem answersTo_withoutOthers
    (grammars : Grammars)
    (id : String)
    (session : Session)
    (steps : List Step) :
    answersTo grammars id session (steps.flatMap (Step.withoutOthers id)) =
      answersTo grammars id session steps := by
  -- No setting changes in only one of the runs, so all of them may matter.
  refine answersTo_flatMap ?_ ?_
    (Alike.refl id (Settings.creationKeys ++ Settings.extractionKeys) session)
  · intro step _
    exact replaces_withoutOthers fun _ => List.subset_append_left _ _
  · intro step _ uses
    exact List.Subset.trans (Step.consulted_subset_of_uses uses) (List.subset_append_right _ _)

/-- The settings of parsing do not matter to a reader while it is not created anew. -/
theorem answersTo_without_parsing
    (grammars : Grammars)
    (session : Session)
    (uncreated : ∀ step ∈ steps, step.creates id = false) :
    answersTo grammars id session (steps.flatMap (Step.without "parsing")) =
      answersTo grammars id session steps := by
  -- The runs come to differ in the settings of parsing, which only a creation looks at.
  refine answersTo_flatMap ?_ ?_ (Alike.refl id Settings.extractionKeys session)
  · intro step isStep
    apply replaces_without Settings.isApart_extractionKeys
    intro creates
    rw [uncreated step isStep] at creates
    cases creates
  · intro step _ uses
    exact Step.consulted_subset_of_uses uses

/-- What the settings of extraction were before does not matter to a reader. -/
theorem alike_of_without_extraction
    {earlier alternative : List Step}
    (same : earlier.flatMap (Step.without "extraction") =
      alternative.flatMap (Step.without "extraction"))
    (grammars : Grammars)
    (id : String)
    (session : Session) :
    Alike id Settings.creationKeys (afterAll grammars session earlier)
      (afterAll grammars session alternative) := by
  have stripped : ∀ steps,
      Alike id Settings.creationKeys (afterAll grammars session steps)
        (afterAll grammars session (steps.flatMap (Step.without "extraction"))) := by
    -- An extraction may answer something else now, but it does the same to its reader.
    intro steps
    refine alike_afterAll ?_ (Alike.refl id Settings.creationKeys session)
    intro step _
    exact replaces_without Settings.isApart_creationKeys fun _ => List.Subset.refl _
  have first := stripped earlier
  rw [same] at first
  exact first.trans (stripped alternative).symm

/-- A reader that one step creates answers the same, whenever it is used, without the uses of
the other readers, and without what is done to the settings of parsing after its creation.
What it says about a source does not depend on what was done to the settings of extraction,
and what it extracts depends on their present values alone. -/
theorem answersTo_isolated
    {before after : List Step}
    {creation : Step}
    (creates : creation.creates id = true)
    (once : (before ++ creation :: after).countP (Step.creates id) = 1)
    (grammars : Grammars)
    (session : Session) :
    answersTo grammars id session
          ((before ++ creation :: after).flatMap (Step.withoutOthers id)) =
        answersTo grammars id session (before ++ creation :: after) ∧
      answersTo grammars id session
          (before ++ creation :: after.flatMap (Step.without "parsing")) =
        answersTo grammars id session (before ++ creation :: after) ∧
      ∀ earlier alternative : List Step,
        earlier.flatMap (Step.without "extraction") =
            alternative.flatMap (Step.without "extraction") →
          (∀ code markup,
            answerAfter grammars session earlier (.parse id code markup) =
              answerAfter grammars session alternative (.parse id code markup)) ∧
          ((afterAll grammars session earlier).settings.valuesOf Settings.extractionKeys =
              (afterAll grammars session alternative).settings.valuesOf
                Settings.extractionKeys →
            ∀ code pattern,
              answerAfter grammars session earlier (.extract id code pattern) =
                answerAfter grammars session alternative (.extract id code pattern)) := by
  refine ⟨answersTo_withoutOthers grammars id session _, ?_, ?_⟩
  · have uncreated : ∀ step ∈ after, step.creates id = false := by
      have none : after.countP (Step.creates id) = 0 := by
        rw [List.countP_append, List.countP_cons_of_pos creates] at once
        omega
      simpa using List.countP_eq_zero.mp none
    rw [answersTo_append, answersTo_append, answersTo_cons, answersTo_cons,
      answersTo_without_parsing grammars _ uncreated]
  · intro earlier alternative same
    have alike := alike_of_without_extraction same grammars id session
    refine ⟨?_, ?_⟩
    · intro code markup
      have alikeNow : Alike id [] (afterAll grammars session earlier)
          (afterAll grammars session alternative) :=
        ⟨alike.reader_eq, rfl⟩
      exact alikeNow.answer_eq (beq_self_eq_true id)
    · intro sameValues code pattern
      have alikeNow : Alike id Settings.extractionKeys (afterAll grammars session earlier)
          (afterAll grammars session alternative) :=
        ⟨alike.reader_eq, sameValues⟩
      exact alikeNow.answer_eq (beq_self_eq_true id)

/-- Every source has the tree of `a;`. -/
def sampleGrammars : Grammars := fun _ _ =>
  .ofText "program" none "a;" [
    .ofText "expression_statement" none "a;" [
      .ofText "identifier" none "a" [],
      .token ";"]]

/-- Another reader is created, with room for one tree. -/
def sampleOpening : List Step :=
  [.setSetting "parsing" "cache_size" (.int 1), .create "other" .null .null]

/-- Both readers are used, and settings of both groups change. -/
def sampleClosing : List Step :=
  [.parse "other" (.string "a;") .null,
    .setSetting "parsing" "strict" (.bool false),
    .parse "reader" (.string "a;") .null,
    .setSetting "extraction" "state_supplier" (.string "startingState"),
    .extract "reader" (.string "a;") .null]

/-- One reader among others, with settings changed and reset in between. -/
theorem answersTo_isolated_sampleSteps :
    (sampleOpening ++ .createFor "reader" "a.js" .null :: sampleClosing).countP
        (Step.creates "reader") = 1 ∧
      answersTo sampleGrammars "reader" .start
          [.setSetting "parsing" "cache_size" (.int 1), .create "other" .null .null,
            .createFor "reader" "a.js" .null,
            .setSetting "parsing" "strict" (.bool false),
            .parse "reader" (.string "a;") .null,
            .setSetting "extraction" "state_supplier" (.string "startingState"),
            .extract "reader" (.string "a;") .null] =
        answersTo sampleGrammars "reader" .start
          (sampleOpening ++ .createFor "reader" "a.js" .null :: sampleClosing) ∧
      answersTo sampleGrammars "reader" .start
          [.setSetting "parsing" "cache_size" (.int 1), .create "other" .null .null,
            .createFor "reader" "a.js" .null,
            .parse "other" (.string "a;") .null,
            .parse "reader" (.string "a;") .null,
            .setSetting "extraction" "state_supplier" (.string "startingState"),
            .extract "reader" (.string "a;") .null] =
        answersTo sampleGrammars "reader" .start
          (sampleOpening ++ .createFor "reader" "a.js" .null :: sampleClosing) ∧
      answerAfter sampleGrammars .start
          [.createFor "reader" "a.js" .null,
            .setSetting "extraction" "state_supplier" .null, .resetSettings]
          (.extract "reader" (.string "a;") .null) =
        answerAfter sampleGrammars .start
          [.createFor "reader" "a.js" .null, .resetSettings]
          (.extract "reader" (.string "a;") .null) := by
  have once :
      (sampleOpening ++ .createFor "reader" "a.js" .null :: sampleClosing).countP
        (Step.creates "reader") = 1 := by
    rfl
  obtain ⟨withoutOthers, withoutParsing, apart⟩ :=
    @answersTo_isolated "reader" sampleOpening sampleClosing (.createFor "reader" "a.js" .null)
      rfl once sampleGrammars .start
  obtain ⟨-, extracts⟩ := apart
    [.createFor "reader" "a.js" .null, .setSetting "extraction" "state_supplier" .null,
      .resetSettings]
    [.createFor "reader" "a.js" .null, .resetSettings] rfl
  refine ⟨once, withoutOthers, withoutParsing, extracts ?_ _ _⟩
  rw [afterAll_settings, afterAll_settings]
  rfl

end Session
end ComponentOutline
