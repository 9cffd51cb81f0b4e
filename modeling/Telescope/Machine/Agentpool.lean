import Mathlib.Algebra.Order.Archimedean.Basic
import Mathlib.Tactic.Linarith
import Telescope.Machine.Batch

namespace Telescope.Machine

open Telescope

/-! Polling the agentpool (`_wait_for_agentpool_provisioning`). -/

def pollIntervalSeconds : ℚ := 10

def agentpoolApiVersion : Text := lit "2024-06-02-preview"

structure AgentpoolPoll where
  clock : ℚ
  reply : Reply

/-- Every further poll comes after a sleep. -/
structure AgentpoolTrace where
  start : ℚ
  poll : Nat → AgentpoolPoll
  slept : ∀ i, (poll i).clock + pollIntervalSeconds ≤ (poll (i + 1)).clock

/-- `value.get(key)`, with the text of Python's `AttributeError` as an input. -/
def Json.getKey (attributeText : Json → Text) (value : Json) (key : Text) :
    Except Error (Option Json) :=
  match value with
  | .obj fields => .ok ((fields.find? fun field => field.1 = key).map Prod.snd)
  | other => .error ⟨.attributeError, attributeText other⟩

/-- `body.get("properties", {}).get("provisioningState")` -/
def provisioningState (attributeText : Json → Text) (body : Json) :
    Except Error (Option Json) := do
  let properties ← Json.getKey attributeText body (lit "properties")
  Json.getKey attributeText (properties.getD (.obj [])) (lit "provisioningState")

def stateVerdict : Option Json → Option Bool
  | none => some false
  | some .null => some false
  | some (.str state) =>
      if state = lit "Succeeded" then some true
      else if state = lit "Failed" then some false
      else none
  | some _ => none

/-- What one poll decides; `none` sleeps and polls again. -/
def agentpoolVerdict (attributeText : Json → Text) (url : Text) :
    Reply → Except Error (Option Bool)
  | .error raised => .error raised
  | .ok response =>
      if response.statusCode ≠ 200 then
        if 400 ≤ response.statusCode ∧ response.statusCode < 500 then
          .error (.runtimeError (lit "agentpool GET " ++ url ++ lit " -> " ++
            natText response.statusCode ++ lit " " ++ response.text.take 500))
        else .ok none
      else
        match response.json with
        | none => .ok none
        | some body =>
            match provisioningState attributeText body with
            | .error raised => .error raised
            | .ok state => .ok (stateVerdict state)

/-- The polls begun, and how the wait ended. -/
structure AgentpoolExit where
  polls : Nat
  result : Except Error Bool

def agentpoolLoop (verdict : Reply → Except Error (Option Bool)) (timeout : Int)
    (trace : AgentpoolTrace) : Nat → Nat → Option AgentpoolExit
  | 0, _ => none
  | fuel + 1, i =>
      if (trace.poll i).clock < trace.start + timeout then
        match verdict (trace.poll i).reply with
        | .error raised => some ⟨i + 1, .error raised⟩
        | .ok (some succeeded) => some ⟨i + 1, .ok succeeded⟩
        | .ok none => agentpoolLoop verdict timeout trace fuel (i + 1)
      else some ⟨i, .ok false⟩

def waitForAgentpoolProvisioning (attributeText : Json → Text) (url : Text)
    (timeout : Int) (trace : AgentpoolTrace) (fuel : Nat) : Option AgentpoolExit :=
  agentpoolLoop (agentpoolVerdict attributeText url) timeout trace fuel 0

/-- A poll that reports the agentpool provisioned. -/
def ReportsSucceeded (attributeText : Json → Text) (reply : Reply) : Prop :=
  ∃ response body, reply = .ok response ∧ response.statusCode = 200 ∧
    response.json = some body ∧
      provisioningState attributeText body = .ok (some (.str (lit "Succeeded")))

private theorem stateVerdict_true (state : Option Json)
    (succeeded : stateVerdict state = some true) :
    state = some (.str (lit "Succeeded")) := by
  cases state with
  | none => simp [stateVerdict] at succeeded
  | some value =>
      cases value with
      | str text =>
          rw [stateVerdict] at succeeded
          split at succeeded
          · rename_i same
            rw [same]
          · split at succeeded <;> simp at succeeded
      | _ => simp [stateVerdict] at succeeded

private theorem agentpoolVerdict_true (attributeText : Json → Text) (url : Text) (reply : Reply)
    (verdict : agentpoolVerdict attributeText url reply = .ok (some true)) :
    ReportsSucceeded attributeText reply := by
  cases reply with
  | error raised => simp [agentpoolVerdict] at verdict
  | ok response =>
      rw [agentpoolVerdict] at verdict
      split at verdict
      · split at verdict <;> simp at verdict
      · rename_i status
        cases json : response.json with
        | none => simp [json] at verdict
        | some body =>
            rw [json] at verdict
            cases state : provisioningState attributeText body with
            | error raised => simp [state] at verdict
            | ok value =>
                simp only [state, Except.ok.injEq] at verdict
                refine ⟨response, body, rfl, not_not.mp status, json, ?_⟩
                rw [state, stateVerdict_true value verdict]

/-- A successful wait saw the agentpool provisioned in a poll begun before the
deadline. -/
theorem agentpoolLoop_true (attributeText : Json → Text) (url : Text) (timeout : Int)
    (trace : AgentpoolTrace) (fuel i : Nat) (exit : AgentpoolExit)
    (ran : agentpoolLoop (agentpoolVerdict attributeText url) timeout trace fuel i =
      some exit)
    (succeeded : exit.result = .ok true) :
    ∃ k, k < exit.polls ∧ (trace.poll k).clock < trace.start + timeout ∧
      ReportsSucceeded attributeText (trace.poll k).reply := by
  induction fuel generalizing i with
  | zero => simp [agentpoolLoop] at ran
  | succ fuel induction =>
      rw [agentpoolLoop] at ran
      split at ran
      · rename_i early
        split at ran
        · have exitEquation := Option.some.inj ran
          subst exitEquation
          simp at succeeded
        · rename_i verdict
          have exitEquation := Option.some.inj ran
          subst exitEquation
          simp only [Except.ok.injEq] at succeeded
          rw [succeeded] at verdict
          exact ⟨i, Nat.lt_succ_self i, early,
            agentpoolVerdict_true attributeText url _ verdict⟩
        · exact induction (i + 1) ran
      · have exitEquation := Option.some.inj ran
        subst exitEquation
        simp at succeeded

theorem agentpoolLoop_terminates (verdict : Reply → Except Error (Option Bool))
    (timeout : Int) (trace : AgentpoolTrace) (remaining i : Nat)
    (late : trace.start + timeout ≤ (trace.poll (i + remaining)).clock) :
    ∃ exit, agentpoolLoop verdict timeout trace (remaining + 1) i = some exit := by
  induction remaining generalizing i with
  | zero =>
      rw [Nat.add_zero] at late
      rw [agentpoolLoop, if_neg (not_lt.mpr late)]
      exact ⟨_, rfl⟩
  | succ remaining induction =>
      have later : trace.start + timeout ≤ (trace.poll (i + 1 + remaining)).clock := by
        rwa [Nat.add_assoc, Nat.add_comm 1]
      rw [agentpoolLoop]
      split
      · split
        · exact ⟨_, rfl⟩
        · exact ⟨_, rfl⟩
        · exact induction (i + 1) later
      · exact ⟨_, rfl⟩

private theorem AgentpoolTrace.clock_ge (trace : AgentpoolTrace) (i : Nat) :
    (trace.poll 0).clock + pollIntervalSeconds * i ≤ (trace.poll i).clock := by
  induction i with
  | zero => simp
  | succ i induction =>
      have next := trace.slept i
      push_cast
      linarith

theorem AgentpoolTrace.exists_late (trace : AgentpoolTrace) (time : ℚ) :
    ∃ i, time ≤ (trace.poll i).clock := by
  obtain ⟨i, large⟩ := exists_nat_ge (time - (trace.poll 0).clock)
  have reached := trace.clock_ge i
  have count : (0 : ℚ) ≤ i := Nat.cast_nonneg i
  refine ⟨i, ?_⟩
  rw [pollIntervalSeconds] at reached
  linarith

end Telescope.Machine
