import Telescope.Data.Exception
import Telescope.Data.Json
import Telescope.Data.Loop
import Telescope.Data.Store
import Telescope.Text.Edit
import Mathlib.Data.List.ReduceOption

namespace Telescope.Pipelines

open Telescope

/-! The script that disables scheduled pipelines (`pipelines/pipelines.py`), run against
a service that keeps the definitions by their IDs. -/

/-- A variable's value is missing, null or a text. -/
structure Variable where
  value : Option (Option Text)

structure Definition where
  id : Int
  name : Text
  path : Text
  queueStatus : Text
  comment : Option Text
  «variables» : Option (Store Text Variable)
  /-- What the script sends back as it got it. -/
  others : Fields

structure Build where
  sourceBranch : Option Text
  definitionId : Int

def mainBranch : Text := lit "refs/heads/main"

def skipReason : Text := lit "SKIP_RESOURCE_MANAGEMENT is set to true"

def branchReason (sourceBranch : Text) : Text :=
  lit "Pipeline is scheduled on non-main branch: " ++ sourceBranch

def noneHasNoLower : Error :=
  ⟨.attributeError, lit "'NoneType' object has no attribute 'lower'"⟩

/-- `.get("value", "false").lower() == "true"`; no letter outside ASCII has one of
"true" in lower case. -/
def Variable.isTrue (skip : Variable) : Except Error Bool :=
  match skip.value with
  | none => .ok false
  | some none => .error noneHasNoLower
  | some (some text) => .ok (decide (text.map Char.toLower = lit "true"))

def Definition.skipsResourceManagement (pipelineDef : Definition) : Except Error Bool :=
  match pipelineDef.«variables».bind fun declared =>
      declared.get? (lit "SKIP_RESOURCE_MANAGEMENT") with
  | none => .ok false
  | some skip => skip.isTrue

def shouldDisablePipeline (pipelineDef : Definition) (sourceBranch : Option Text)
    (excludedIds : List Int) : Except Error (Bool × Option Text) :=
  if pipelineDef.id ∈ excludedIds then
    .ok (false, some (lit "Pipeline is explicitly excluded"))
  else
    match pipelineDef.skipsResourceManagement with
    | .error error => .error error
    | .ok true => .ok (true, some skipReason)
    | .ok false =>
        match presentText sourceBranch with
        | none => .ok (false, none)
        | some branch =>
            if branch ≠ mainBranch then .ok (true, some (branchReason branch))
            else .ok (false, none)

structure Service where
  definitions : Store Int Definition
  keyed : ∀ id pipelineDef, definitions.get? id = some pipelineDef → pipelineDef.id = id

theorem keyed_put {definitions : Store Int Definition}
    (keyed : ∀ id pipelineDef, definitions.get? id = some pipelineDef → pipelineDef.id = id)
    (body : Definition) (id : Int) (pipelineDef : Definition)
    (found : (definitions.put body.id body).get? id = some pipelineDef) :
    pipelineDef.id = id := by
  by_cases same : id = body.id
  · subst same
    rw [Store.get?_put_self] at found
    rw [Option.some.inj found]
  · rw [definitions.get?_put_of_ne same] at found
    exact keyed id pipelineDef found

/-- A definition is replaced, never created. -/
def Service.replace (service : Service) (body : Definition) : Option Service :=
  match service.definitions.get? body.id with
  | some _ => some ⟨service.definitions.put body.id body, keyed_put service.keyed body⟩
  | none => none

/-- An update is stored, refused, or stored although its response is lost. -/
inductive UpdateAnswer where
  | stored
  | refused (error : Error)
  | lost (error : Error)

/-- How the service answers the requests of one run, in their order. -/
structure Answers where
  builds : Except Error (List Build)
  readFault : Nat → Option Error
  update : Nat → UpdateAnswer

def notFound : Error := ⟨.external, lit "404 Client Error: Not Found"⟩

def getPipelineDefinition (fault : Option Error) (service : Service) (id : Int) :
    Except Error Definition :=
  match fault with
  | some error => .error error
  | none =>
      match service.definitions.get? id with
      | some pipelineDef => .ok pipelineDef
      | none => .error notFound

def withComment (pipelineDef : Definition) (reason : Option Text) : Definition :=
  { pipelineDef with
    comment := some (lit "Disabled by script: " ++ reason.getD (lit "None")) }

/-- The body of the loop over the scheduled pipelines: the definition to disable, if any. -/
def examine (service : Service) (excludedIds : List Int) (fault : Option Error)
    (build : Build) : Except Error (Option Definition) := do
  let pipelineDef ← getPipelineDefinition fault service build.definitionId
  let (shouldDisable, reason) ←
    shouldDisablePipeline pipelineDef build.sourceBranch excludedIds
  return if shouldDisable && decide (pipelineDef.queueStatus ≠ lit "disabled") then
    some (withComment pipelineDef reason)
  else none

def pipelinesToDisable (answers : Answers) (excludedIds : List Int) (service : Service) :
    Except Error (List Definition) := do
  let scheduled ← answers.builds
  let examined ← scheduled.zipIdx.mapM fun build =>
    examine service excludedIds (answers.readFault build.2) build.1
  return examined.reduceOption

def disabled (pipelineDef : Definition) : Definition :=
  { pipelineDef with queueStatus := lit "disabled" }

/-- The service, and the definitions put so far. -/
structure Session where
  service : Service
  puts : List Definition

def disablePipeline (answers : Answers) (pipelineDef : Definition) (session : Session) :
    Except Error Unit × Session :=
  let body := disabled pipelineDef
  let puts := session.puts ++ [body]
  match answers.update session.puts.length, session.service.replace body with
  | .stored, some service => (.ok (), ⟨service, puts⟩)
  | .stored, none => (.error notFound, ⟨session.service, puts⟩)
  | .refused error, _ => (.error error, ⟨session.service, puts⟩)
  | .lost error, replaced => (.error error, ⟨replaced.getD session.service, puts⟩)

structure Ran where
  exitCode : Nat
  session : Session

def main (answers : Answers) (excludedIds : List Int) (service : Service) : Ran :=
  match pipelinesToDisable answers excludedIds service with
  | .error _ => ⟨1, service, []⟩
  | .ok pipelines =>
      match forEach (disablePipeline answers) pipelines ⟨service, []⟩ with
      | (.error _, session) => ⟨1, session⟩
      | (.ok (), session) => ⟨0, session⟩

/-! ## What is due -/

def Definition.Skips (pipelineDef : Definition) : Prop :=
  ∃ declared skip value, pipelineDef.«variables» = some declared ∧
    declared.get? (lit "SKIP_RESOURCE_MANAGEMENT") = some skip ∧
    skip.value = some (some value) ∧ value.map Char.toLower = lit "true"

def Elsewhere (sourceBranch : Option Text) : Prop :=
  ∃ branch, sourceBranch = some branch ∧ branch ≠ [] ∧ branch ≠ mainBranch

/-- The script should disable the definition of a build. -/
structure Due (excludedIds : List Int) (pipelineDef : Definition)
    (sourceBranch : Option Text) : Prop where
  included : pipelineDef.id ∉ excludedIds
  enabled : pipelineDef.queueStatus ≠ lit "disabled"
  reason : pipelineDef.Skips ∨ Elsewhere sourceBranch

private theorem skipsResourceManagement_ok {pipelineDef : Definition} {skips : Bool}
    (returned : pipelineDef.skipsResourceManagement = .ok skips) :
    skips = true ↔ pipelineDef.Skips := by
  unfold Definition.skipsResourceManagement at returned
  unfold Definition.Skips
  cases declared : pipelineDef.«variables» with
  | none =>
      rw [declared] at returned
      cases returned
      simp
  | some declaredVariables =>
      rw [declared, Option.bind_some] at returned
      cases found : declaredVariables.get? (lit "SKIP_RESOURCE_MANAGEMENT") with
      | none =>
          rw [found] at returned
          cases returned
          simp [found]
      | some skip =>
          rw [found] at returned
          simp only [Variable.isTrue] at returned
          rcases value : skip.value with _ | _ | text
          · rw [value] at returned
            cases returned
            simp [found, value]
          · rw [value] at returned
            cases returned
          · rw [value] at returned
            cases returned
            simp [found, value]

private theorem elsewhere_iff {sourceBranch : Option Text} :
    Elsewhere sourceBranch ↔
      ∃ branch, presentText sourceBranch = some branch ∧ branch ≠ mainBranch := by
  simp only [Elsewhere, presentText, Option.filter_eq_some_iff, decide_eq_true_iff, and_assoc]

private theorem shouldDisablePipeline_ok {pipelineDef : Definition} {sourceBranch : Option Text}
    {excludedIds : List Int} {shouldDisable : Bool} {reason : Option Text}
    (returned : shouldDisablePipeline pipelineDef sourceBranch excludedIds =
      .ok (shouldDisable, reason)) :
    shouldDisable = true ↔
      pipelineDef.id ∉ excludedIds ∧ (pipelineDef.Skips ∨ Elsewhere sourceBranch) := by
  unfold shouldDisablePipeline at returned
  by_cases excluded : pipelineDef.id ∈ excludedIds
  · rw [if_pos excluded] at returned
    cases returned
    simp [excluded]
  · rw [if_neg excluded] at returned
    cases skips : pipelineDef.skipsResourceManagement with
    | error error =>
        rw [skips] at returned
        cases returned
    | ok value =>
        have meaning := skipsResourceManagement_ok skips
        rw [skips] at returned
        cases value with
        | true =>
            cases returned
            simp [excluded, meaning.mp rfl]
        | false =>
            have unmanaged : ¬ pipelineDef.Skips := fun holds => nomatch meaning.mpr holds
            rw [elsewhere_iff]
            cases present : presentText sourceBranch with
            | none =>
                rw [present] at returned
                cases returned
                simp [unmanaged]
            | some branch =>
                rw [present] at returned
                dsimp only at returned
                by_cases onMain : branch = mainBranch
                · rw [if_neg (not_not.mpr onMain)] at returned
                  cases returned
                  simp [unmanaged, onMain]
                · rw [if_pos onMain] at returned
                  cases returned
                  simp [excluded, onMain]

/-- What an examination that returns has found. -/
theorem examine_ok {service : Service} {excludedIds : List Int} {fault : Option Error}
    {build : Build} {found : Option Definition}
    (examined : examine service excludedIds fault build = .ok found) :
    fault = none ∧ ∃ pipelineDef,
      service.definitions.get? build.definitionId = some pipelineDef ∧
      ((Due excludedIds pipelineDef build.sourceBranch ∧
          ∃ reason, found = some (withComment pipelineDef reason)) ∨
        (¬ Due excludedIds pipelineDef build.sourceBranch ∧ found = none)) := by
  obtain ⟨pipelineDef, read, checked⟩ := exists_of_bind_eq_ok examined
  obtain ⟨⟨shouldDisable, reason⟩, decided, collected⟩ := exists_of_bind_eq_ok checked
  have meaning := shouldDisablePipeline_ok decided
  cases fault with
  | some error => cases read
  | none =>
      refine ⟨rfl, pipelineDef, ?_, ?_⟩
      · simp only [getPipelineDefinition] at read
        split at read
        next stored => rw [stored, Except.ok.inj read]
        next => cases read
      · have outcome := Except.ok.inj collected
        by_cases enabled : pipelineDef.queueStatus = lit "disabled"
        · right
          refine ⟨fun due => due.enabled enabled, ?_⟩
          rw [← outcome]
          simp [enabled]
        · cases shouldDisable with
          | true =>
              obtain ⟨included, why⟩ := meaning.mp rfl
              refine .inl ⟨⟨included, enabled, why⟩, reason, ?_⟩
              rw [← outcome]
              simp [enabled]
          | false =>
              refine .inr ⟨fun due => ?_, outcome.symm⟩
              cases meaning.mpr ⟨due.included, due.reason⟩

/-- An examination reads only the definition of its build. -/
theorem examine_congr {service other : Service} {build : Build}
    (same : other.definitions.get? build.definitionId =
      service.definitions.get? build.definitionId)
    (excludedIds : List Int) (fault : Option Error) :
    examine other excludedIds fault build = examine service excludedIds fault build := by
  simp only [examine, getPipelineDefinition, same]

/-- What has been disabled is not disabled again. -/
theorem examine_of_disabled {service other : Service} {excludedIds : List Int}
    {build : Build} {found : Definition}
    (examined : examine service excludedIds none build = .ok (some found))
    (put : other.definitions.get? build.definitionId = some (disabled found)) :
    examine other excludedIds none build = .ok none := by
  obtain ⟨pipelineDef, read, checked⟩ := exists_of_bind_eq_ok examined
  obtain ⟨⟨shouldDisable, reason⟩, decided, collected⟩ := exists_of_bind_eq_ok checked
  have isComment : found = withComment pipelineDef reason := by
    have outcome := Except.ok.inj collected
    split at outcome
    · exact (Option.some.inj outcome).symm
    · cases outcome
  have decidedAgain : shouldDisablePipeline (disabled found) build.sourceBranch excludedIds =
      .ok (shouldDisable, reason) := by
    rw [isComment]
    exact decided
  simp only [examine, getPipelineDefinition, put, bind, Except.bind, decidedAgain]
  simp [disabled, pure, Except.pure]

/-! ## The loop that disables -/

def Service.replaceAll (service : Service) (bodies : List Definition) : Service :=
  bodies.foldl (fun current body => (current.replace body).getD current) service

private theorem replaceAll_append (service : Service) (earlier later : List Definition) :
    service.replaceAll (earlier ++ later) = (service.replaceAll earlier).replaceAll later :=
  List.foldl_append

theorem replace_get? (service : Service) (body : Definition) (id : Int) :
    ((service.replace body).getD service).definitions.get? id =
      if id = body.id then (service.definitions.get? id).map fun _ => body
      else service.definitions.get? id := by
  unfold Service.replace
  cases found : service.definitions.get? body.id with
  | none =>
      by_cases same : id = body.id
      · rw [if_pos same, same, found]
        exact found
      · rw [if_neg same]
        rfl
  | some old =>
      by_cases same : id = body.id
      · rw [if_pos same, same, found]
        exact service.definitions.get?_put_self _ _
      · rw [if_neg same]
        exact service.definitions.get?_put_of_ne same _

theorem replaceAll_get?_of_absent {bodies : List Definition} {id : Int}
    (absent : ∀ body ∈ bodies, body.id ≠ id) (service : Service) :
    (service.replaceAll bodies).definitions.get? id = service.definitions.get? id := by
  induction bodies generalizing service with
  | nil => rfl
  | cons body rest induction =>
      obtain ⟨here, later⟩ := List.forall_mem_cons.mp absent
      have stepped := induction later ((service.replace body).getD service)
      rw [replace_get?, if_neg (Ne.symm here)] at stepped
      exact stepped

theorem replaceAll_isSome (service : Service) (bodies : List Definition) (id : Int) :
    ((service.replaceAll bodies).definitions.get? id).isSome =
      (service.definitions.get? id).isSome := by
  induction bodies generalizing service with
  | nil => rfl
  | cons body rest induction =>
      have stepped := induction ((service.replace body).getD service)
      rw [replace_get?] at stepped
      refine stepped.trans ?_
      split
      · exact Option.isSome_map
      · rfl

/-- A definition that was replaced is one of the bodies. -/
theorem replaceAll_get?_of_mem {bodies : List Definition} {id : Int} {service : Service}
    (stored : (service.definitions.get? id).isSome = true)
    (member : ∃ body ∈ bodies, body.id = id) :
    ∃ body ∈ bodies, body.id = id ∧
      (service.replaceAll bodies).definitions.get? id = some body := by
  induction bodies generalizing service with
  | nil =>
      obtain ⟨body, impossible, -⟩ := member
      exact absurd impossible List.not_mem_nil
  | cons first rest induction =>
      let next := (service.replace first).getD service
      have kept : (next.definitions.get? id).isSome = true :=
        (replaceAll_isSome service [first] id).trans stored
      by_cases later : ∃ body ∈ rest, body.id = id
      · obtain ⟨body, inRest, same, found⟩ := induction kept later
        exact ⟨body, List.mem_cons_of_mem first inRest, same, found⟩
      · have absent : ∀ body ∈ rest, body.id ≠ id := fun body inRest same =>
          later ⟨body, inRest, same⟩
        obtain ⟨body, inAll, same⟩ := member
        obtain rfl | inRest := List.mem_cons.mp inAll
        · refine ⟨body, List.mem_cons_self, same, ?_⟩
          have unchanged := replaceAll_get?_of_absent absent next
          obtain ⟨old, found⟩ := Option.isSome_iff_exists.mp stored
          rw [replace_get?, if_pos same.symm, found] at unchanged
          exact unchanged
        · exact absurd same (absent body inRest)

/-- However the service answers, a part of the list from its start has been put. -/
theorem disableAll_spec (answers : Answers) (pipelines : List Definition)
    (session : Session) :
    ∃ count ≤ pipelines.length,
      (forEach (disablePipeline answers) pipelines session).2.service =
        session.service.replaceAll ((pipelines.take count).map disabled) ∧
      ((forEach (disablePipeline answers) pipelines session).1 = .ok () →
        count = pipelines.length) := by
  induction pipelines generalizing session with
  | nil => exact ⟨0, Nat.le_refl 0, rfl, fun _ => rfl⟩
  | cons pipelineDef rest induction =>
      have stepped : (∃ error, disablePipeline answers pipelineDef session =
            (.error error, ⟨session.service, session.puts ++ [disabled pipelineDef]⟩)) ∨
          ∃ result, disablePipeline answers pipelineDef session =
            (result, ⟨(session.service.replace (disabled pipelineDef)).getD session.service,
              session.puts ++ [disabled pipelineDef]⟩) := by
        unfold disablePipeline
        cases answers.update session.puts.length with
        | refused error => exact .inl ⟨error, rfl⟩
        | lost error => exact .inr ⟨.error error, rfl⟩
        | stored =>
            dsimp only
            cases session.service.replace (disabled pipelineDef) with
            | none => exact .inl ⟨notFound, rfl⟩
            | some service => exact .inr ⟨.ok (), rfl⟩
      rw [forEach]
      rcases stepped with ⟨error, refused⟩ | ⟨result, replaced⟩
      · rw [refused]
        exact ⟨0, Nat.zero_le _, rfl, fun returned => by cases returned⟩
      · rw [replaced]
        cases result with
        | error error =>
            exact ⟨1, Nat.succ_le_succ (Nat.zero_le _), rfl, fun returned => by cases returned⟩
        | ok value =>
            obtain ⟨count, within, reached, all⟩ := induction
              ⟨(session.service.replace (disabled pipelineDef)).getD session.service,
                session.puts ++ [disabled pipelineDef]⟩
            exact ⟨count + 1, Nat.succ_le_succ within, reached,
              fun returned => congrArg Nat.succ (all returned)⟩

/-! ## Which definitions are selected -/

def selected (service : Service) (excludedIds : List Int) (build : Build) :
    Option Definition :=
  match examine service excludedIds none build with
  | .ok found => found
  | .error _ => none

def Examinable (service : Service) (excludedIds : List Int) (build : Build) : Prop :=
  ∃ found, examine service excludedIds none build = .ok found

theorem examine_eq_selected {service : Service} {excludedIds : List Int} {build : Build}
    (examinable : Examinable service excludedIds build) :
    examine service excludedIds none build = .ok (selected service excludedIds build) := by
  obtain ⟨found, examined⟩ := examinable
  rw [selected, examined]

theorem reduceOption_map_selected (service : Service) (excludedIds : List Int)
    (builds : List Build) :
    (builds.zipIdx.map fun build => selected service excludedIds build.1).reduceOption =
      builds.filterMap (selected service excludedIds) := by
  have firsts : (builds.zipIdx.map fun build => selected service excludedIds build.1) =
      (builds.zipIdx.map Prod.fst).map (selected service excludedIds) := by
    rw [List.map_map]
    rfl
  rw [firsts, List.zipIdx_map_fst, List.reduceOption, List.filterMap_map]
  rfl

theorem pipelinesToDisable_ok {answers : Answers} {excludedIds : List Int}
    {service : Service} {pipelines : List Definition}
    (returned : pipelinesToDisable answers excludedIds service = .ok pipelines) :
    ∃ builds, answers.builds = .ok builds ∧
      (∀ build ∈ builds, Examinable service excludedIds build) ∧
      pipelines = builds.filterMap (selected service excludedIds) := by
  obtain ⟨builds, scheduled, later⟩ := exists_of_bind_eq_ok returned
  obtain ⟨examined, all, collected⟩ := exists_of_bind_eq_ok later
  have each := (mapM_succeeds_iff _ _).mp ⟨examined, all⟩
  have undisturbed : ∀ build ∈ builds.zipIdx,
      examine service excludedIds (answers.readFault build.2) build.1 =
        .ok (selected service excludedIds build.1) := by
    intro build member
    obtain ⟨found, returns⟩ := each build member
    obtain ⟨noFault, -⟩ := examine_ok returns
    rw [noFault] at returns ⊢
    exact examine_eq_selected ⟨found, returns⟩
  refine ⟨builds, scheduled, ?_, ?_⟩
  · intro build member
    obtain ⟨index, found⟩ := List.mem_iff_getElem?.mp member
    obtain ⟨outcome, returns⟩ := each (build, index) (List.mem_zipIdx_iff_getElem?.mpr found)
    obtain ⟨noFault, -⟩ := examine_ok returns
    rw [noFault] at returns
    exact ⟨outcome, returns⟩
  · rw [mapM_eq_map undisturbed] at all
    rw [← Except.ok.inj collected, ← Except.ok.inj all, reduceOption_map_selected]

theorem selected_some {service : Service} {excludedIds : List Int} {build : Build}
    {found : Definition} (isSelected : selected service excludedIds build = some found) :
    found.id = build.definitionId ∧ ∃ pipelineDef reason,
      service.definitions.get? build.definitionId = some pipelineDef ∧
      Due excludedIds pipelineDef build.sourceBranch ∧
      found = withComment pipelineDef reason := by
  cases examined : examine service excludedIds none build with
  | error error =>
      rw [selected, examined] at isSelected
      cases isSelected
  | ok outcome =>
      rw [selected, examined] at isSelected
      subst isSelected
      obtain ⟨-, pipelineDef, stored, ⟨due, reason, same⟩ | ⟨-, impossible⟩⟩ :=
        examine_ok examined
      · have ownId : pipelineDef.id = build.definitionId := service.keyed _ _ stored
        cases same
        exact ⟨ownId, pipelineDef, reason, stored, due, rfl⟩
      · cases impossible

/-- Every way in which a run ends. -/
theorem main_cases (answers : Answers) (excludedIds : List Int) (service : Service) :
    main answers excludedIds service = ⟨1, service, []⟩ ∨
      ∃ builds, answers.builds = .ok builds ∧
        (∀ build ∈ builds, Examinable service excludedIds build) ∧
        ∃ count ≤ (builds.filterMap (selected service excludedIds)).length,
          (main answers excludedIds service).session.service =
            service.replaceAll (((builds.filterMap (selected service excludedIds)).take
              count).map disabled) ∧
          ((main answers excludedIds service).exitCode = 0 →
            count = (builds.filterMap (selected service excludedIds)).length) := by
  unfold main
  cases chosen : pipelinesToDisable answers excludedIds service with
  | error error => exact .inl rfl
  | ok pipelines =>
      right
      obtain ⟨builds, scheduled, examinable, rfl⟩ := pipelinesToDisable_ok chosen
      obtain ⟨count, within, reached, all⟩ := disableAll_spec answers
        (builds.filterMap (selected service excludedIds)) ⟨service, []⟩
      refine ⟨builds, scheduled, examinable, count, within, ?_⟩
      dsimp only
      rcases looped : forEach (disablePipeline answers)
        (builds.filterMap (selected service excludedIds)) ⟨service, []⟩ with ⟨result, session⟩
      rw [looped] at reached all
      cases result with
      | error error => exact ⟨reached, fun exited => nomatch exited⟩
      | ok value => exact ⟨reached, fun _ => all rfl⟩

/-- Whatever the service answers, a run changes no definition but the ones due among those
of the builds, and of these only the status and the comment; a run that exits with 0 has
disabled all of them. -/
theorem main_disables_due (answers : Answers) (excludedIds : List Int)
    (service : Service) :
    (∀ id, (main answers excludedIds service).session.service.definitions.get? id =
        service.definitions.get? id ∨
      ∃ builds build pipelineDef reason, answers.builds = .ok builds ∧ build ∈ builds ∧
        build.definitionId = id ∧ service.definitions.get? id = some pipelineDef ∧
        Due excludedIds pipelineDef build.sourceBranch ∧
        (main answers excludedIds service).session.service.definitions.get? id =
          some (disabled (withComment pipelineDef reason))) ∧
    ((main answers excludedIds service).exitCode = 0 →
      ∃ builds, answers.builds = .ok builds ∧ ∀ build ∈ builds, ∃ before after,
        service.definitions.get? build.definitionId = some before ∧
        (main answers excludedIds service).session.service.definitions.get?
          build.definitionId = some after ∧
        (Due excludedIds before build.sourceBranch → after.queueStatus = lit "disabled")) := by
  rcases main_cases answers excludedIds service with
    failed | ⟨builds, scheduled, examinable, count, -, reached, all⟩
  · rw [failed]
    exact ⟨fun id => .inl rfl, fun exited => nomatch exited⟩
  · let bodies := ((builds.filterMap (selected service excludedIds)).take count).map disabled
    have origin : ∀ body ∈ bodies, ∃ build ∈ builds, ∃ found,
        selected service excludedIds build = some found ∧ body = disabled found := by
      intro body member
      obtain ⟨found, taken, rfl⟩ := List.mem_map.mp member
      obtain ⟨build, inBuilds, isSelected⟩ := List.mem_filterMap.mp (List.mem_of_mem_take taken)
      exact ⟨build, inBuilds, found, isSelected, rfl⟩
    have replaced : ∀ id, (∃ body ∈ bodies, body.id = id) → ∃ build ∈ builds,
        build.definitionId = id ∧ ∃ pipelineDef reason,
          service.definitions.get? id = some pipelineDef ∧
          Due excludedIds pipelineDef build.sourceBranch ∧
          (service.replaceAll bodies).definitions.get? id =
            some (disabled (withComment pipelineDef reason)) := by
      intro id touched
      have stored : (service.definitions.get? id).isSome = true := by
        obtain ⟨body, member, same⟩ := touched
        obtain ⟨build, -, found, isSelected, rfl⟩ := origin body member
        obtain ⟨ownId, pipelineDef, reason, present, -, -⟩ := selected_some isSelected
        rw [← same, show (disabled found).id = build.definitionId from ownId, present]
        rfl
      obtain ⟨body, member, same, now⟩ := replaceAll_get?_of_mem stored touched
      obtain ⟨build, inBuilds, found, isSelected, rfl⟩ := origin body member
      obtain ⟨ownId, pipelineDef, reason, present, due, rfl⟩ := selected_some isSelected
      have sameBuild : build.definitionId = id := ownId.symm.trans same
      rw [sameBuild] at present
      exact ⟨build, inBuilds, sameBuild, pipelineDef, reason, present, due, now⟩
    rw [reached]
    constructor
    · intro id
      by_cases touched : ∃ body ∈ bodies, body.id = id
      · obtain ⟨build, inBuilds, same, pipelineDef, reason, present, due, now⟩ :=
          replaced id touched
        exact .inr ⟨builds, build, pipelineDef, reason, scheduled, inBuilds, same, present, due,
          now⟩
      · exact .inl (replaceAll_get?_of_absent (fun body member same =>
          touched ⟨body, member, same⟩) service)
    · intro exited
      refine ⟨builds, scheduled, ?_⟩
      intro build member
      obtain ⟨outcome, examined⟩ := examinable build member
      obtain ⟨-, before, present, verdict⟩ := examine_ok examined
      have kept : ((service.replaceAll bodies).definitions.get?
          build.definitionId).isSome = true := by
        rw [replaceAll_isSome, present]
        rfl
      obtain ⟨after, now⟩ := Option.isSome_iff_exists.mp kept
      refine ⟨before, after, present, now, ?_⟩
      intro due
      rcases verdict with ⟨-, reason, rfl⟩ | ⟨notDue, -⟩
      · have isSelected : selected service excludedIds build =
            some (withComment before reason) := by
          rw [selected, examined]
        have touched : ∃ body ∈ bodies, body.id = build.definitionId := by
          refine ⟨disabled (withComment before reason), ?_, (selected_some isSelected).1⟩
          apply List.mem_map_of_mem
          rw [all exited, List.take_length]
          exact List.mem_filterMap.mpr ⟨build, member, isSelected⟩
        obtain ⟨-, -, -, pipelineDef, why, -, -, put⟩ := replaced _ touched
        rw [now] at put
        rw [Option.some.inj put]
        rfl
      · exact absurd due notDue

/-! ## Resuming a run -/

def undisturbed (builds : List Build) : Answers where
  builds := .ok builds
  readFault _ := none
  update _ := .stored

/-- After the first of the selected definitions have been disabled, a further run
selects the others. -/
theorem selected_after {service : Service} {excludedIds : List Int} {builds : List Build}
    (distinct : (builds.map Build.definitionId).Nodup)
    (examinable : ∀ build ∈ builds, Examinable service excludedIds build) (count : Nat) :
    let chosen := builds.filterMap (selected service excludedIds)
    let reached := service.replaceAll ((chosen.take count).map disabled)
    (∀ build ∈ builds, Examinable reached excludedIds build) ∧
      builds.filterMap (selected reached excludedIds) = chosen.drop count := by
  intro chosen reached
  obtain ⟨earlier, later, split, taken, dropped⟩ :=
    List.filterMap_eq_append_iff.mp (List.take_append_drop count chosen).symm
  -- A definition that has been put belongs to one build only, an earlier one.
  have own : ∀ build ∈ builds, ∀ body ∈ (chosen.take count).map disabled,
      body.id = build.definitionId → build ∈ earlier ∧
        ∃ found, selected service excludedIds build = some found ∧ body = disabled found := by
    intro build member body inBodies same
    obtain ⟨found, inTaken, rfl⟩ := List.mem_map.mp inBodies
    rw [← taken] at inTaken
    obtain ⟨other, inEarlier, isSelected⟩ := List.mem_filterMap.mp inTaken
    have sameId : other.definitionId = build.definitionId :=
      (selected_some isSelected).1.symm.trans same
    have inBuilds : other ∈ builds := split ▸ List.mem_append_left later inEarlier
    have sameBuild : other = build := List.inj_on_of_nodup_map distinct inBuilds member sameId
    subst sameBuild
    exact ⟨inEarlier, found, isSelected, rfl⟩
  have untouched : ∀ build ∈ builds,
      (∀ found, build ∈ earlier → selected service excludedIds build ≠ some found) →
      examine reached excludedIds none build =
        .ok (selected service excludedIds build) := by
    intro build member unselected
    rw [← examine_eq_selected (examinable build member)]
    apply examine_congr
    apply replaceAll_get?_of_absent
    intro body inBodies same
    obtain ⟨inEarlier, found, isSelected, -⟩ := own build member body inBodies same
    exact unselected found inEarlier isSelected
  have afterEarlier : ∀ build ∈ earlier, examine reached excludedIds none build = .ok none := by
    intro build inEarlier
    have member : build ∈ builds := split ▸ List.mem_append_left later inEarlier
    cases isSelected : selected service excludedIds build with
    | none =>
        rw [← isSelected]
        exact untouched build member fun found _ => by rw [isSelected]; exact nofun
    | some found =>
        obtain ⟨ownId, pipelineDef, -, stored, -, -⟩ := selected_some isSelected
        have inBodies : disabled found ∈ (chosen.take count).map disabled := by
          apply List.mem_map_of_mem
          rw [← taken]
          exact List.mem_filterMap.mpr ⟨build, inEarlier, isSelected⟩
        obtain ⟨body, inPut, same, now⟩ := replaceAll_get?_of_mem
          (Option.isSome_iff_exists.mpr ⟨pipelineDef, stored⟩)
          ⟨disabled found, inBodies, ownId⟩
        obtain ⟨-, other, alsoSelected, rfl⟩ := own build member body inPut same
        rw [isSelected] at alsoSelected
        cases alsoSelected
        have examined := examine_eq_selected (examinable build member)
        rw [isSelected] at examined
        exact examine_of_disabled examined now
  have afterLater : ∀ build ∈ later, examine reached excludedIds none build =
      .ok (selected service excludedIds build) := by
    intro build inLater
    have member : build ∈ builds := split ▸ List.mem_append_right earlier inLater
    refine untouched build member fun found inEarlier _ => ?_
    rw [split, List.map_append, List.nodup_append] at distinct
    exact distinct.2.2 _ (List.mem_map_of_mem inEarlier) _ (List.mem_map_of_mem inLater) rfl
  constructor
  · intro build member
    rw [split] at member
    rcases List.mem_append.mp member with inEarlier | inLater
    · exact ⟨none, afterEarlier build inEarlier⟩
    · exact ⟨_, afterLater build inLater⟩
  · rw [split, List.filterMap_append, ← dropped]
    have none_left : earlier.filterMap (selected reached excludedIds) = [] := by
      rw [List.filterMap_eq_nil_iff]
      intro build inEarlier
      rw [selected, afterEarlier build inEarlier]
    rw [none_left, List.nil_append]
    apply List.filterMap_congr
    intro build inLater
    rw [selected, afterLater build inLater]

private theorem pipelinesToDisable_undisturbed {service : Service} {excludedIds : List Int}
    {builds : List Build}
    (examinable : ∀ build ∈ builds, Examinable service excludedIds build) :
    pipelinesToDisable (undisturbed builds) excludedIds service =
      .ok (builds.filterMap (selected service excludedIds)) := by
  have each : ∀ build ∈ builds.zipIdx,
      examine service excludedIds ((undisturbed builds).readFault build.2) build.1 =
        .ok (selected service excludedIds build.1) := fun build member =>
    examine_eq_selected (examinable build.1 (List.fst_mem_of_mem_zipIdx member))
  have all := mapM_eq_map each
  simp only [pipelinesToDisable, undisturbed, bind, Except.bind] at all ⊢
  rw [all]
  exact congrArg Except.ok (reduceOption_map_selected service excludedIds builds)

/-- Without failures of the service, all the definitions are put. -/
theorem disableAll_undisturbed (builds : List Build) {pipelines : List Definition}
    (session : Session)
    (stored : ∀ pipelineDef ∈ pipelines,
      (session.service.definitions.get? pipelineDef.id).isSome = true) :
    ∃ puts, forEach (disablePipeline (undisturbed builds)) pipelines session =
      (.ok (), ⟨session.service.replaceAll (pipelines.map disabled), puts⟩) := by
  induction pipelines generalizing session with
  | nil => exact ⟨session.puts, rfl⟩
  | cons pipelineDef rest induction =>
      obtain ⟨here, later⟩ := List.forall_mem_cons.mp stored
      obtain ⟨old, found⟩ := Option.isSome_iff_exists.mp here
      have replaces : session.service.replace (disabled pipelineDef) =
          some ((session.service.replace (disabled pipelineDef)).getD session.service) := by
        simp only [Service.replace, show (disabled pipelineDef).id = pipelineDef.id from rfl,
          found, Option.getD_some]
      rw [forEach]
      simp only [disablePipeline, undisturbed]
      rw [replaces]
      apply induction
      intro other member
      rw [← later other member]
      exact replaceAll_isSome session.service [disabled pipelineDef] other.id

theorem main_undisturbed {service : Service} {excludedIds : List Int}
    {builds : List Build}
    (examinable : ∀ build ∈ builds, Examinable service excludedIds build) :
    (main (undisturbed builds) excludedIds service).exitCode = 0 ∧
      (main (undisturbed builds) excludedIds service).session.service =
        service.replaceAll ((builds.filterMap (selected service excludedIds)).map disabled) := by
  have stored : ∀ pipelineDef ∈ builds.filterMap (selected service excludedIds),
      (service.definitions.get? pipelineDef.id).isSome = true := by
    intro pipelineDef member
    obtain ⟨build, -, isSelected⟩ := List.mem_filterMap.mp member
    obtain ⟨ownId, before, -, present, -, -⟩ := selected_some isSelected
    rw [ownId, present]
    rfl
  obtain ⟨puts, looped⟩ := disableAll_undisturbed builds ⟨service, []⟩ stored
  unfold main
  rw [pipelinesToDisable_undisturbed examinable]
  dsimp only
  rw [looped]
  exact ⟨rfl, rfl⟩

/-- Once all have been disabled, a run updates nothing. -/
theorem main_settled {service : Service} {excludedIds : List Int} {builds : List Build}
    (distinct : (builds.map Build.definitionId).Nodup)
    (examinable : ∀ build ∈ builds, Examinable service excludedIds build)
    {later : Answers} (scheduled : later.builds = .ok builds) :
    let settled := service.replaceAll
      ((builds.filterMap (selected service excludedIds)).map disabled)
    (main later excludedIds settled).session = ⟨settled, []⟩ := by
  intro settled
  obtain ⟨-, nothingLeft⟩ := selected_after distinct examinable
    (builds.filterMap (selected service excludedIds)).length
  rw [List.take_length, List.drop_length] at nothingLeft
  unfold main
  cases chosen : pipelinesToDisable later excludedIds settled with
  | error error => rfl
  | ok pipelines =>
      obtain ⟨others, alsoScheduled, -, rfl⟩ := pipelinesToDisable_ok chosen
      obtain rfl : builds = others := Except.ok.inj (scheduled.symm.trans alsoScheduled)
      rw [nothingLeft]
      rfl

/-- Whatever happens in a run over builds of different definitions, an undisturbed run
after it ends as one that had not been disturbed would have, and later runs over these
builds update nothing. -/
theorem main_resumes (answers : Answers) (excludedIds : List Int) (service : Service)
    (builds : List Build) (distinct : (builds.map Build.definitionId).Nodup)
    (scheduled : answers.builds = .ok builds) :
    let interrupted := (main answers excludedIds service).session.service
    let resumed := main (undisturbed builds) excludedIds interrupted
    let whole := main (undisturbed builds) excludedIds service
    resumed.exitCode = whole.exitCode ∧ resumed.session.service = whole.session.service ∧
      ∀ later : Answers, later.builds = .ok builds →
        (main later excludedIds resumed.session.service).session =
          ⟨resumed.session.service, []⟩ := by
  intro interrupted resumed whole
  have same : resumed.exitCode = whole.exitCode ∧
      resumed.session.service = whole.session.service := by
    rcases main_cases answers excludedIds service with
      failed | ⟨others, alsoScheduled, examinable, count, -, reached, -⟩
    · have unchanged : interrupted = service := congrArg (fun ran => ran.session.service) failed
      simp only [resumed, whole, unchanged, and_self]
    · obtain rfl : builds = others := Except.ok.inj (scheduled.symm.trans alsoScheduled)
      obtain ⟨stillExaminable, rest⟩ := selected_after distinct examinable count
      obtain ⟨wholeExit, wholeService⟩ := main_undisturbed examinable
      obtain ⟨resumedExit, resumedService⟩ := main_undisturbed stillExaminable
      rw [rest, ← replaceAll_append, ← List.map_append, List.take_append_drop,
        ← wholeService] at resumedService
      rw [← reached] at resumedExit resumedService
      exact ⟨resumedExit.trans wholeExit.symm, resumedService⟩
  refine ⟨same.1, same.2, ?_⟩
  intro later laterScheduled
  rw [same.2]
  rcases main_cases (undisturbed builds) excludedIds service with
    failed | ⟨others, alsoScheduled, examinable, -⟩
  · -- A build that cannot be examined stops the later run as well.
    rw [show whole = ⟨1, service, []⟩ from failed]
    rcases main_cases later excludedIds service with
      laterFailed | ⟨others, alsoScheduled, examinable, -⟩
    · rw [laterFailed]
    · obtain rfl : builds = others := Except.ok.inj (laterScheduled.symm.trans alsoScheduled)
      have exited := (main_undisturbed examinable).1
      rw [failed] at exited
      cases exited
  · obtain rfl : builds = others := Except.ok.inj alsoScheduled
    rw [show whole.session.service = _ from (main_undisturbed examinable).2]
    exact main_settled distinct examinable laterScheduled

def definitionOf (id : Int) (name : Text) : Definition where
  id := id
  name := name
  path := lit "scale"
  queueStatus := lit "enabled"
  comment := none
  «variables» := none
  others := []

private theorem keyed_empty (id : Int) (pipelineDef : Definition)
    (found : (Store.empty : Store Int Definition).get? id = some pipelineDef) :
    pipelineDef.id = id := by
  cases found

def threeDefinitions : Service :=
  ⟨((Store.empty.put 7 (definitionOf 7 (lit "nightly"))).put 8
      (definitionOf 8 (lit "weekly"))).put 9 (definitionOf 9 (lit "hourly")),
    keyed_put (keyed_put (keyed_put keyed_empty (definitionOf 7 (lit "nightly")))
      (definitionOf 8 (lit "weekly"))) (definitionOf 9 (lit "hourly"))⟩

def featureBuilds : List Build :=
  [7, 8, 9].map fun id => ⟨some (lit "refs/heads/feature"), id⟩

/-- The response to the second update is lost, so the third one is not sent. -/
def losingAnswers : Answers where
  builds := .ok featureBuilds
  readFault _ := none
  update put := if put = 1 then .lost ⟨.external, lit "Read timed out."⟩ else .stored

def statusOf (service : Service) (id : Int) : Option Text :=
  (service.definitions.get? id).map Definition.queueStatus

/-- The interrupted run leaves the third definition enabled; the next one disables it,
and the definitions end as if nothing had happened. -/
theorem main_resumes_after_lost_response :
    (main losingAnswers [] threeDefinitions).exitCode = 1 ∧
    [7, 8, 9].map (statusOf (main losingAnswers [] threeDefinitions).session.service) =
      [some (lit "disabled"), some (lit "disabled"), some (lit "enabled")] ∧
    (main (undisturbed featureBuilds) []
        (main losingAnswers [] threeDefinitions).session.service).session.service =
      (main (undisturbed featureBuilds) [] threeDefinitions).session.service ∧
    [7, 8, 9].map (statusOf
        (main (undisturbed featureBuilds) [] threeDefinitions).session.service) =
      [some (lit "disabled"), some (lit "disabled"), some (lit "disabled")] :=
  ⟨rfl, rfl, (main_resumes losingAnswers [] threeDefinitions featureBuilds (by decide) rfl).2.1,
    rfl⟩

end Telescope.Pipelines
