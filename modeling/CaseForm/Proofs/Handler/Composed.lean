import CaseForm.Handler.Compose
import Mathlib.Data.List.Basic

/-!
What a handler is composed of.

`composeSteps` goes through the actions once, with a flag for the refresh. Said without the flag:
the first action that posts the edited values makes the refresh, every other action that posts makes
nothing, and an action that does not post makes its own step where it stands, whatever is around it
(`Action.own`). So what comes before the first posting action and what comes after it are composed
alike (`composeSteps_of_first`), and the pairs of values to set, the steps that stand alone and
the refresh are each accounted for action by action.

* `Handler.Composes`: what is asked of a handler, in terms of the declared actions;
* `Field.handler_composes`: every handler is composed in this way.
-/

namespace CaseForm

/-! ### Declarations -/

/-- Whether an action of the kind posts the edited values. -/
def ActionKind.posts : ActionKind → Bool
  | .postValue | .refresh => true
  | _ => false

/-- Whether an action of the kind has a step to itself, beside values and refreshes. -/
def ActionKind.standsAlone : ActionKind → Bool
  | .performAction | .runScript | .openUrl => true
  | _ => false

/-- Whether the action has the parameter that its kind cannot do without. -/
def Action.isComplete (action : Action) : Bool :=
  match action.kind with
  | .performAction => action.parameters.actionName.any (· ≠ "")
  | .runScript => action.parameters.functionName.any (· ≠ "")
  | .openUrl => !action.parameters.urlBase.isNull
  | .setValue | .postValue | .refresh => true
  | .other _ => false

/-- The pairs that the action declares as values to set. -/
def Action.declaredPairs (action : Action) : List SetValuePair :=
  match action.kind with
  | .setValue => action.parameters.setValuePairs
  | _ => []

/-- What an action adds to a handler by itself. Posting is the matter of the refresh, and values to
set add nothing if they travel in it. -/
def Action.own (threads : Bool) (action : Action) : List Step :=
  match action.kind with
  | .postValue | .refresh => []
  | .setValue => if threads then [] else [.setValue action.parameters.setValuePairs]
  | _ => action.step.toOption.toList

/-- The pairs that a step carries. -/
def Step.pairs : Step → List SetValuePair
  | .setValue pairs | .refresh pairs => pairs
  | _ => []

/-- Whether the step has nothing to do with values and refreshes. -/
def Step.standsAlone : Step → Bool
  | .performAction _ | .runScript _ _ | .openUrl _ _ _ => true
  | _ => false

namespace Control

variable (control : Control)

/-- All actions that are declared, of whatever kind. -/
def declaredActions : List Action := control.actionSets.flatMap (·.actions)

/-- The events of the bindings with an action of a known kind. -/
def namedEvents : List String :=
  (control.actionSets.filter (·.actions.any (·.kind.isSupported))).flatMap fun set =>
    set.events.map (·.event)

theorem supportedActions_eq :
    control.supportedActions = control.declaredActions.filter (·.kind.isSupported) :=
  List.filter_flatMap.symm

theorem declaredPairs_eq :
    control.declaredPairs = control.declaredActions.flatMap Action.declaredPairs := by
  unfold declaredPairs
  rw [supportedActions_eq]
  induction control.declaredActions with
  | nil => rfl
  | cons action actions ih =>
    rw [List.flatMap_cons, ← ih]
    cases kind : action.kind <;>
      simp [ActionKind.isSupported, Action.declaredPairs, kind]

theorem any_refresh_supportedActions :
    control.supportedActions.any (·.kind == .refresh) =
      control.declaredActions.any (·.kind == .refresh) := by
  rw [supportedActions_eq, List.any_filter]
  congr 1
  funext action
  cases action.kind <;> rfl

theorem events_handler : control.handler.events = control.namedEvents.eraseDups := by
  have fires : control.actionSets.flatMap ActionSet.firing = control.namedEvents := by
    unfold namedEvents
    induction control.actionSets with
    | nil => rfl
    | cons set sets ih =>
      rw [List.flatMap_cons, ih, List.filter_cons]
      have empty : set.supported.isEmpty = !set.actions.any (·.kind.isSupported) := by
        rw [ActionSet.supported, Bool.eq_iff_iff]
        simp
      rw [ActionSet.firing, empty]
      cases set.actions.any (·.kind.isSupported) <;> rfl
  rw [handler, fires]

end Control

/-! ### Steps of single actions -/

/-- What the step of an action shows of the action. -/
structure Step.Suits (step : Step) (action : Action) : Prop where
  acts : step.isPreventDefault = false
  isRefresh : step.isRefresh = action.kind.posts
  standsAlone : step.standsAlone = action.kind.standsAlone
  pairs : step.pairs = action.declaredPairs

namespace Action

variable {action : Action} {step : Step} {threads : Bool}

/-- An action makes a step of its kind if it has its parameter, and otherwise none. -/
theorem step_cases (action : Action) :
    (∃ step, action.step = .ok step ∧ action.isComplete = true ∧ step.Suits action) ∨
      ∃ error, action.step = .error error ∧ action.isComplete = false := by
  obtain ⟨kind, pairs, actionName, functionName, parameters, urlBase, name, options⟩ := action
  cases kind with
  | setValue | postValue | refresh => exact .inl ⟨_, rfl, rfl, rfl, rfl, rfl, rfl⟩
  | performAction =>
    cases actionName with
    | none => exact .inr ⟨_, rfl, rfl⟩
    | some actionName =>
      by_cases blank : actionName = ""
      · exact .inr ⟨.missingParameter "takeAction" "actionName",
          by simp [step, nonEmpty?, Option.filter, blank, ActionKind.tag],
          by simp [isComplete, blank]⟩
      · exact .inl ⟨.performAction actionName,
          by simp [step, nonEmpty?, Option.filter, blank], by simp [isComplete, blank],
          rfl, rfl, rfl, rfl⟩
  | runScript =>
    cases functionName with
    | none => exact .inr ⟨_, rfl, rfl⟩
    | some functionName =>
      by_cases blank : functionName = ""
      · exact .inr ⟨.missingParameter "runScript" "functionName",
          by simp [step, nonEmpty?, Option.filter, blank, ActionKind.tag],
          by simp [isComplete, blank]⟩
      · exact .inl ⟨.runScript functionName (parameters.map (·.value)),
          by simp [step, nonEmpty?, Option.filter, blank], by simp [isComplete, blank],
          rfl, rfl, rfl, rfl⟩
  | openUrl =>
    cases missing : urlBase.isNull with
    | true =>
      exact .inr ⟨.missingParameter "openUrlInWindow" "urlBase",
        by simp [step, missing, ActionKind.tag], by simp [isComplete, missing]⟩
    | false =>
      exact .inl ⟨.openUrl urlBase (name.getD "") (options.getD ""),
        by simp [step, missing], by simp [isComplete, missing], rfl, rfl, rfl, rfl⟩
  | other tag => exact .inr ⟨_, rfl, rfl⟩

/-- What an action adds by itself is its step. -/
theorem suits_of_mem_own (mem : step ∈ action.own threads) :
    action.step = .ok step ∧ step.Suits action ∧ action.kind.posts = false := by
  have made (mem : step ∈ action.step.toOption.toList) :
      action.step = .ok step ∧ step.Suits action := by
    rcases step_cases action with ⟨other, ok, -, suits⟩ | ⟨error, failed, -⟩
    · rw [ok] at mem
      cases List.mem_singleton.1 mem
      exact ⟨ok, suits⟩
    · rw [failed] at mem
      cases mem
  obtain ⟨kind, parameters⟩ := action
  cases kind with
  | postValue | refresh => cases mem
  | setValue =>
    cases threads with
    | true => cases mem
    | false => exact ⟨(made mem).1, (made mem).2, rfl⟩
  | _ => exact ⟨(made mem).1, (made mem).2, rfl⟩

/-- Values to set that travel in the refresh add no step. -/
theorem not_mem_own {pairs : List SetValuePair} : .setValue pairs ∉ action.own true := by
  intro mem
  have alone := (suits_of_mem_own mem).2.1.standsAlone
  obtain ⟨kind, parameters⟩ := action
  cases kind with
  | setValue | postValue | refresh | other tag => cases mem
  | _ => cases alone

/-- An action of an unknown kind adds nothing. -/
theorem own_of_unsupported (unknown : action.kind.isSupported = false) :
    action.own threads = [] := by
  obtain ⟨kind, parameters⟩ := action
  cases kind with
  | other tag => rfl
  | _ => cases unknown

theorem own_of_posts (posts : action.kind.posts = true) : action.own threads = [] := by
  obtain ⟨kind, parameters⟩ := action
  cases kind with
  | postValue | refresh => rfl
  | _ => cases posts

theorem declaredPairs_of_posts (posts : action.kind.posts = true) :
    action.declaredPairs = [] := by
  obtain ⟨kind, parameters⟩ := action
  cases kind with
  | postValue | refresh => rfl
  | _ => cases posts

/-- The pairs that an action adds by itself are those that it declares, unless they travel in the
refresh. -/
theorem flatMap_pairs_own (threads : Bool) (action : Action) :
    (action.own threads).flatMap Step.pairs = if threads then [] else action.declaredPairs := by
  obtain ⟨kind, parameters⟩ := action
  cases kind with
  | setValue => cases threads <;> simp [own, Step.pairs, declaredPairs]
  | _ =>
    rw [List.flatMap_eq_nil_iff.2 fun step mem => (suits_of_mem_own mem).2.1.pairs]
    cases threads <;> rfl

/-- An action adds a step that stands alone if it is of such a kind and has its parameter. -/
theorem filter_standsAlone_own (threads : Bool) (action : Action) :
    ((action.own threads).filter Step.standsAlone).map Except.ok =
      if action.kind.standsAlone && action.isComplete then [action.step] else [] := by
  have alone (own : action.own threads = action.step.toOption.toList)
      (stands : action.kind.standsAlone = true) :
      ((action.own threads).filter Step.standsAlone).map Except.ok =
        if action.kind.standsAlone && action.isComplete then [action.step] else [] := by
    rw [own, stands]
    rcases step_cases action with ⟨made, ok, complete, suits⟩ | ⟨error, failed, incomplete⟩
    · rw [ok, complete]
      simp [Except.toOption, suits.standsAlone, stands]
    · rw [failed, incomplete]
      rfl
  obtain ⟨kind, parameters⟩ := action
  cases kind with
  | setValue => cases threads <;> rfl
  | postValue | refresh | other tag => rfl
  | _ => exact alone rfl rfl

end Action

/-! ### The steps of actions -/

variable {threaded : Option (List SetValuePair)} {first : Action}
  {before after actions : List Action}

/-- One action after another: a posting one makes the refresh if there has been none, and any other
one adds its own step. -/
theorem composeSteps_cons (threaded : Option (List SetValuePair)) (posted : Bool) (action : Action)
    (actions : List Action) :
    composeSteps threaded posted (action :: actions) =
      if action.kind.posts then
        if posted then composeSteps threaded posted actions
        else .refresh (threaded.getD []) :: composeSteps threaded true actions
      else action.own threaded.isSome ++ composeSteps threaded posted actions := by
  obtain ⟨kind, parameters⟩ := action
  rw [composeSteps]
  cases kind with
  | setValue => cases threaded <;> rfl
  | postValue | refresh => cases posted <;> rfl
  | other tag => rfl
  | _ =>
    dsimp only [ActionKind.posts, Action.own]
    split <;> simp [*, Except.toOption]

/-- Once there has been a refresh, actions add what they add by themselves. -/
theorem composeSteps_posted (threaded : Option (List SetValuePair)) (actions : List Action) :
    composeSteps threaded true actions = actions.flatMap (Action.own threaded.isSome) := by
  induction actions with
  | nil => rfl
  | cons action actions ih =>
    rw [composeSteps_cons, if_pos rfl, ih, List.flatMap_cons]
    split
    · next posts => rw [Action.own_of_posts posts, List.nil_append]
    · rfl

/-- Before the first action that posts, actions add what they add by themselves. -/
theorem composeSteps_append (threaded : Option (List SetValuePair)) (rest : List Action)
    (quiet : ∀ action ∈ before, action.kind.posts = false) :
    composeSteps threaded false (before ++ rest) =
      before.flatMap (Action.own threaded.isSome) ++ composeSteps threaded false rest := by
  induction before with
  | nil => rfl
  | cons action before ih =>
    obtain ⟨here, quiet⟩ := List.forall_mem_cons.1 quiet
    rw [List.cons_append, composeSteps_cons, here, if_neg Bool.false_ne_true, ih quiet,
      List.flatMap_cons, List.append_assoc]

/-- The refresh stands where the first action that posts stands, and every other action adds what it
adds by itself. -/
theorem composeSteps_of_first (threaded : Option (List SetValuePair))
    (quiet : ∀ action ∈ before, action.kind.posts = false) (posts : first.kind.posts = true) :
    composeSteps threaded false (before ++ first :: after) =
      before.flatMap (Action.own threaded.isSome) ++
        .refresh (threaded.getD []) :: after.flatMap (Action.own threaded.isSome) := by
  rw [composeSteps_append threaded _ quiet, composeSteps_cons, if_pos posts,
    if_neg Bool.false_ne_true, composeSteps_posted]

/-- Actions of unknown kinds make no difference. -/
theorem composeSteps_filter (threaded : Option (List SetValuePair)) (posted : Bool)
    (actions : List Action) :
    composeSteps threaded posted (actions.filter (·.kind.isSupported)) =
      composeSteps threaded posted actions := by
  induction actions generalizing posted with
  | nil => rfl
  | cons action actions ih =>
    rw [List.filter_cons, composeSteps_cons]
    cases known : action.kind.isSupported with
    | true =>
      rw [if_pos rfl, composeSteps_cons, ih, ih]
    | false =>
      have quiet : action.kind.posts = false := by
        cases kind : action.kind <;> simp_all [ActionKind.isSupported, ActionKind.posts]
      rw [if_neg Bool.false_ne_true, ih, quiet, if_neg Bool.false_ne_true,
        Action.own_of_unsupported known, List.nil_append]

/-- Some action posts, and then one is the first to do so, or none does. -/
theorem exists_first_posting (actions : List Action) :
    (∀ action ∈ actions, action.kind.posts = false) ∨
      ∃ before first after, actions = before ++ first :: after ∧
        (∀ action ∈ before, action.kind.posts = false) ∧ first.kind.posts = true := by
  cases found : actions.find? (·.kind.posts) with
  | none =>
    left
    simpa using found
  | some first =>
    right
    obtain ⟨posts, before, after, split, quiet⟩ := List.find?_eq_some_iff_append.1 found
    exact ⟨before, first, after, split, by simpa using quiet, posts⟩

/-! ### Events in the order of their first appearance -/

section Appearance

variable {α : Type} [BEq α] [LawfulBEq α]

/-- Leaving out other elements keeps the order in which two elements first appear. -/
theorem idxOf_lt_of_filter {a b : α} (keep : α → Bool) (keepsLeft : keep a = true)
    (keepsRight : keep b = true) {elements : List α}
    (sooner : (elements.filter keep).idxOf a < (elements.filter keep).idxOf b) :
    elements.idxOf a < elements.idxOf b := by
  induction elements with
  | nil => exact sooner
  | cons first rest ih =>
    by_cases here : a = first
    · subst here
      rw [List.filter_cons_of_pos keepsLeft, List.idxOf_cons_self] at sooner
      by_cases same : a = b
      · subst same
        simp at sooner
      · simp [List.idxOf_cons_ne _ same]
    · by_cases there : b = first
      · subst there
        simp [List.filter_cons_of_pos keepsRight] at sooner
      · rw [List.idxOf_cons_ne _ (Ne.symm here), List.idxOf_cons_ne _ (Ne.symm there)]
        refine Nat.succ_lt_succ (ih ?_)
        rw [List.filter_cons] at sooner
        split at sooner
        · rw [List.idxOf_cons_ne _ (Ne.symm here), List.idxOf_cons_ne _ (Ne.symm there)] at sooner
          exact Nat.lt_of_succ_lt_succ sooner
        · exact sooner

/-- Without repetitions, elements stand in the order in which they first appear. -/
theorem pairwise_eraseDups (elements : List α) :
    elements.eraseDups.Pairwise fun a b => elements.idxOf a < elements.idxOf b := by
  induction length : elements.length using Nat.strongRecOn generalizing elements with
  | ind n ih =>
    subst length
    cases elements with
    | nil => exact List.Pairwise.nil
    | cons first rest =>
      have other {a : α} (mem : a ∈ (rest.filter fun b => !b == first).eraseDups) :
          (!a == first) = true := (List.mem_filter.1 (List.mem_eraseDups.1 mem)).2
      have shorter : (rest.filter fun b => !b == first).length < (first :: rest).length :=
        Nat.lt_succ_of_le (List.length_filter_le _ _)
      rw [List.eraseDups_cons, List.pairwise_cons]
      refine ⟨fun b mem => ?_, (ih _ shorter _ rfl).imp_of_mem fun left right sooner => ?_⟩
      · have apart : first ≠ b := by
          rintro rfl
          simpa using other mem
        rw [List.idxOf_cons_self, List.idxOf_cons_ne _ apart]
        exact Nat.succ_pos _
      · have apart {a : α} (kept : (!a == first) = true) : first ≠ a := by
          rintro rfl
          simp at kept
        rw [List.idxOf_cons_ne _ (apart (other left)), List.idxOf_cons_ne _ (apart (other right))]
        exact Nat.succ_lt_succ (idxOf_lt_of_filter (fun b => !b == first) (other left) (other right)
          sooner)

end Appearance

/-! ### The whole handler -/

/-- What a handler has of the bindings of a control. -/
structure Handler.Composes (handler : Handler) (control : Control) : Prop where
  /-- The first step keeps the surroundings still, and no other one does. -/
  opens : ∃ rest, handler.steps = .preventDefault :: rest ∧ .preventDefault ∉ rest
  /-- There is one refresh if an action that posts is declared, and none otherwise. -/
  refreshes : (handler.steps.filter Step.isRefresh).length =
    if control.declaredActions.any (·.kind.posts) then 1 else 0
  /-- The refresh stands where the first action that posts is declared: the steps before it are
  those of the actions before that one, and the steps after it those of the actions after. -/
  place : ∀ before first after, control.declaredActions = before ++ first :: after →
    (∀ action ∈ before, action.kind.posts = false) → first.kind.posts = true →
      ∃ carried, handler.steps = .preventDefault ::
        (before.flatMap (Action.own control.threadedPairs?.isSome) ++
          .refresh carried :: after.flatMap (Action.own control.threadedPairs?.isSome))
  /-- The pairs of the steps are the declared ones, in order. -/
  pairs : handler.steps.flatMap Step.pairs = control.declaredActions.flatMap Action.declaredPairs
  /-- Where a refresh is declared, all of them travel in it, and none is set before. -/
  threads : (∃ action ∈ control.declaredActions, action.kind = .refresh) →
    .refresh (control.declaredActions.flatMap Action.declaredPairs) ∈ handler.steps ∧
      ∀ pairs, .setValue pairs ∈ handler.steps → pairs = []
  /-- The steps that stand alone are those that the declared actions of their kinds make by
  themselves, if they have their parameters, in order. -/
  standsAlone : (handler.steps.filter Step.standsAlone).map Except.ok =
    (control.declaredActions.filter fun action =>
      action.kind.standsAlone && action.isComplete).map Action.step
  /-- The events are those of the bindings with an action of a known kind. -/
  events : ∀ event, event ∈ handler.events ↔
    ∃ set ∈ control.actionSets, (∃ action ∈ set.actions, action.kind.isSupported = true) ∧
      ∃ binding ∈ set.events, binding.event = event
  /-- No event is named twice. -/
  nodup : handler.events.Nodup
  /-- The events stand in the order of their first appearance. -/
  order : handler.events.Pairwise fun a b =>
    control.namedEvents.idxOf a < control.namedEvents.idxOf b

namespace Control

variable (control : Control)

theorem steps_handler : control.handler.steps =
    .preventDefault :: composeSteps control.threadedPairs? false control.declaredActions := by
  rw [handler, supportedActions_eq, composeSteps_filter]

/-- The pairs travel in the refresh if a refresh and pairs are declared. -/
theorem threadedPairs_cases :
    control.threadedPairs? = some control.declaredPairs ∧
        (∃ action ∈ control.declaredActions, action.kind = .refresh) ∨
      control.threadedPairs? = none ∧
        ((∃ action ∈ control.declaredActions, action.kind = .refresh) →
          control.declaredPairs = []) := by
  have refreshes : control.supportedActions.any (·.kind == .refresh) = true ↔
      ∃ action ∈ control.declaredActions, action.kind = .refresh := by
    rw [any_refresh_supportedActions]
    simp
  rw [threadedPairs?]
  cases any : control.supportedActions.any (·.kind == .refresh) with
  | true =>
    rw [any] at refreshes
    cases pairs : control.declaredPairs with
    | nil => exact .inr ⟨rfl, fun _ => rfl⟩
    | cons first rest => exact .inl ⟨rfl, refreshes.1 rfl⟩
  | false =>
    rw [any] at refreshes
    exact .inr ⟨rfl, fun declared => nomatch refreshes.2 declared⟩

variable {control}

/-- The steps of a handler in one of two forms: no action posts, or one is the first to do so. -/
theorem steps_cases (control : Control) :
    (∀ action ∈ control.declaredActions, action.kind.posts = false) ∧
        control.handler.steps = .preventDefault ::
          control.declaredActions.flatMap (Action.own control.threadedPairs?.isSome) ∨
      ∃ before first after, control.declaredActions = before ++ first :: after ∧
        (∀ action ∈ before, action.kind.posts = false) ∧ first.kind.posts = true ∧
        control.handler.steps = .preventDefault ::
          (before.flatMap (Action.own control.threadedPairs?.isSome) ++
            .refresh (control.threadedPairs?.getD []) ::
              after.flatMap (Action.own control.threadedPairs?.isSome)) := by
  rw [steps_handler]
  rcases exists_first_posting control.declaredActions with
    quiet | ⟨before, first, after, split, quiet, posts⟩
  · left
    have all := composeSteps_append control.threadedPairs? [] quiet
    rw [List.append_nil, composeSteps, List.append_nil] at all
    exact ⟨quiet, by rw [all]⟩
  · right
    refine ⟨before, first, after, split, quiet, posts, ?_⟩
    rw [split, composeSteps_of_first _ quiet posts]

/-- The steps that actions add by themselves. -/
theorem suits_of_mem_flatMap_own {threads : Bool} {actions : List Action} {step : Step}
    (mem : step ∈ actions.flatMap (Action.own threads)) :
    step.isPreventDefault = false ∧ step.isRefresh = false := by
  obtain ⟨action, -, own⟩ := List.mem_flatMap.1 mem
  obtain ⟨-, suits, quiet⟩ := Action.suits_of_mem_own own
  exact ⟨suits.acts, suits.isRefresh.trans quiet⟩

theorem filter_isRefresh_own (threads : Bool) (actions : List Action) :
    (actions.flatMap (Action.own threads)).filter Step.isRefresh = [] := by
  rw [List.filter_eq_nil_iff]
  intro step mem
  rw [(suits_of_mem_flatMap_own mem).2]
  exact Bool.false_ne_true

theorem flatMap_pairs_flatMap_own (threads : Bool) (actions : List Action) :
    (actions.flatMap (Action.own threads)).flatMap Step.pairs =
      if threads then [] else actions.flatMap Action.declaredPairs := by
  rw [List.flatMap_assoc]
  simp only [Action.flatMap_pairs_own]
  cases threads <;> simp

theorem filter_standsAlone_flatMap_own (threads : Bool) (actions : List Action) :
    ((actions.flatMap (Action.own threads)).filter Step.standsAlone).map Except.ok =
      (actions.filter fun action => action.kind.standsAlone && action.isComplete).map
        Action.step := by
  induction actions with
  | nil => rfl
  | cons action actions ih =>
    rw [List.flatMap_cons, List.filter_append, List.map_append, ih,
      Action.filter_standsAlone_own, List.filter_cons]
    split <;> rfl

/-- The first step keeps the surroundings still, and no other one does. -/
theorem steps_open (control : Control) :
    ∃ rest, control.handler.steps = .preventDefault :: rest ∧ .preventDefault ∉ rest := by
  have acts {threads : Bool} {actions : List Action} :
      .preventDefault ∉ actions.flatMap (Action.own threads) := fun mem =>
    nomatch (suits_of_mem_flatMap_own mem).1
  rcases control.steps_cases with ⟨-, steps⟩ | ⟨before, first, after, -, -, -, steps⟩
  · exact ⟨_, steps, acts⟩
  · refine ⟨_, steps, fun mem => ?_⟩
    rcases List.mem_append.1 mem with mem | mem
    · exact acts mem
    · rcases List.mem_cons.1 mem with eq | mem
      · cases eq
      · exact acts mem

/-- There is one refresh if an action that posts is declared, and none otherwise. -/
theorem length_refreshes (control : Control) :
    (control.handler.steps.filter Step.isRefresh).length =
      if control.declaredActions.any (·.kind.posts) then 1 else 0 := by
  rcases control.steps_cases with ⟨quiet, steps⟩ | ⟨before, first, after, split, -, posts, steps⟩
  · have none : control.declaredActions.any (·.kind.posts) = false := by simpa using quiet
    simp only [steps, none, List.filter_cons, Step.isRefresh, filter_isRefresh_own]
    rfl
  · have some : control.declaredActions.any (·.kind.posts) = true := by
      rw [split]
      simp [posts]
    simp only [steps, some, List.filter_cons, List.filter_append, Step.isRefresh,
      filter_isRefresh_own]
    rfl

/-- The pairs of the steps are the declared ones, in order. -/
theorem flatMap_pairs_steps (control : Control) :
    control.handler.steps.flatMap Step.pairs =
      control.declaredActions.flatMap Action.declaredPairs := by
  have declared := control.declaredPairs_eq
  rcases control.steps_cases with ⟨quiet, steps⟩ | ⟨before, first, after, split, -, posts, steps⟩
  · -- Pairs travel in a refresh only if one is declared, and that would post.
    have apart : control.threadedPairs?.isSome = false := by
      rcases control.threadedPairs_cases with ⟨-, action, mem, kind⟩ | ⟨none, -⟩
      · have absurd := quiet action mem
        rw [kind] at absurd
        cases absurd
      · rw [none]
        rfl
    rw [steps, List.flatMap_cons, flatMap_pairs_flatMap_own, apart]
    rfl
  · rw [steps, List.flatMap_cons, List.flatMap_append, List.flatMap_cons,
      flatMap_pairs_flatMap_own, flatMap_pairs_flatMap_own]
    rcases control.threadedPairs_cases with ⟨threaded, -⟩ | ⟨none, -⟩
    · rw [threaded, ← declared]
      simp [Step.pairs]
    · rw [none, split, List.flatMap_append, List.flatMap_cons, Action.declaredPairs_of_posts posts]
      rfl

/-- Where a refresh is declared, all pairs travel in it, and none is set before. -/
theorem threads_pairs (declares : ∃ action ∈ control.declaredActions, action.kind = .refresh) :
    .refresh (control.declaredActions.flatMap Action.declaredPairs) ∈ control.handler.steps ∧
      ∀ pairs, .setValue pairs ∈ control.handler.steps → pairs = [] := by
  obtain ⟨action, mem, kind⟩ := declares
  rw [← declaredPairs_eq]
  rcases control.steps_cases with ⟨quiet, -⟩ | ⟨before, first, after, -, -, -, steps⟩
  · have absurd := quiet action mem
    rw [kind] at absurd
    cases absurd
  rcases control.threadedPairs_cases with ⟨threaded, -⟩ | ⟨none, unfilled⟩
  · rw [threaded] at steps
    refine ⟨by simp [steps], fun pairs set => ?_⟩
    -- Values that travel in the refresh make no step of their own.
    have apart {actions : List Action} : .setValue pairs ∉ actions.flatMap (Action.own true) := by
      intro mem
      obtain ⟨other, -, own⟩ := List.mem_flatMap.1 mem
      exact Action.not_mem_own own
    rw [steps, List.mem_cons, List.mem_append, List.mem_cons] at set
    rcases set with eq | mem | eq | mem
    · cases eq
    · exact absurd mem apart
    · cases eq
    · exact absurd mem apart
  · have empty := unfilled ⟨action, mem, kind⟩
    have all := control.flatMap_pairs_steps
    rw [← declaredPairs_eq, empty] at all
    rw [none] at steps
    exact ⟨by simp [steps, empty], fun pairs set => List.flatMap_eq_nil_iff.1 all _ set⟩

/-- The steps that stand alone are those that actions of their kinds make, in order. -/
theorem filter_standsAlone_steps (control : Control) :
    (control.handler.steps.filter Step.standsAlone).map Except.ok =
      (control.declaredActions.filter fun action =>
        action.kind.standsAlone && action.isComplete).map Action.step := by
  rcases control.steps_cases with ⟨-, steps⟩ | ⟨before, first, after, split, -, posts, steps⟩
  · rw [steps, List.filter_cons]
    exact filter_standsAlone_flatMap_own _ _
  · have passed : (first.kind.standsAlone && first.isComplete) = false := by
      cases kind : first.kind <;> simp_all [ActionKind.posts, ActionKind.standsAlone]
    rw [split, List.filter_append, List.filter_cons, passed, List.map_append,
      if_neg Bool.false_ne_true, ← filter_standsAlone_flatMap_own, ← filter_standsAlone_flatMap_own,
      ← List.map_append, steps, List.filter_cons, List.filter_append, List.filter_cons]
    rfl

theorem mem_namedEvents_iff {event : String} :
    event ∈ control.namedEvents ↔
      ∃ set ∈ control.actionSets, (∃ action ∈ set.actions, action.kind.isSupported = true) ∧
        ∃ binding ∈ set.events, binding.event = event := by
  simp [namedEvents, and_assoc]

end Control

/-- Every handler is composed of what its field declares: nothing is lost, nothing is done twice,
and everything keeps its order. -/
theorem Field.handler_composes (field : Field) : field.handler.Composes field.control where
  opens := field.control.steps_open
  refreshes := field.control.length_refreshes
  place before first after split quiet posts := by
    refine ⟨field.control.threadedPairs?.getD [], ?_⟩
    rw [handler, Control.steps_handler, split, composeSteps_of_first _ quiet posts]
  pairs := field.control.flatMap_pairs_steps
  threads := Control.threads_pairs
  standsAlone := field.control.filter_standsAlone_steps
  events event := by
    rw [handler, Control.events_handler, List.mem_eraseDups, Control.mem_namedEvents_iff]
  nodup := by
    rw [handler, Control.events_handler]
    exact (pairwise_eraseDups _).imp fun sooner same => by simp [same] at sooner
  order := by
    rw [handler, Control.events_handler]
    exact pairwise_eraseDups _

/-- The first action that posts takes the place of a later refresh, with the values that are
declared in between. -/
example :
    let sets : List ActionSet := [⟨[⟨.postValue, .blank⟩], []⟩,
      ⟨[⟨.setValue, { ActionParameters.blank with setValuePairs := [⟨"A", .null⟩] }⟩,
        ⟨.refresh, .blank⟩], []⟩]
    ({ Control.undefined with actionSets := sets } : Control).handler.steps =
      [.preventDefault, .refresh [⟨"A", .null⟩]] := rfl

end CaseForm
