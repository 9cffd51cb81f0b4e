import Telescope.Data.Contract
import Telescope.Data.Exception
import Telescope.Data.Wire

namespace Telescope.Kubernetes

open Telescope

/-! `run_pod_exec_command` over the websocket stream that the client library returns. -/

inductive Channel where
  | stdout
  | stderr
  deriving DecidableEq

structure ExecStream (σ : Type) where
  isOpen : σ → Bool
  update : σ → Except Error Unit × σ
  peek : Channel → σ → Except Error Text × σ
  read : Channel → σ → Except Error Text × σ
  close : σ → σ

structure ExecRequest where
  name : Text
  «namespace» : Text
  command : List Text
  container : Option Text
  stderr : Bool
  stdin : Bool
  stdout : Bool
  tty : Bool
  preloadContent : Bool

structure OutputFile where
  content : List UInt8
  closed : Bool

/-- How opening a file for writing and writing to it fail; a write that fails may leave
part of its bytes. -/
structure Disk where
  openError : Text → Option Error
  writeError : List UInt8 → List UInt8 → Option (Error × List UInt8)

structure ExecState (σ : Type) where
  stream : σ
  file : Option OutputFile

abbrev ExecProgram (σ : Type) := EStateM Error (ExecState σ)

/-- `text.encode('utf-8')` -/
def encodeUtf8 (text : Text) : List UInt8 := text.flatMap String.utf8EncodeChar

private theorem encodeUtf8_append (first second : Text) :
    encodeUtf8 (first ++ second) = encodeUtf8 first ++ encodeUtf8 second :=
  List.flatMap_append

structure ExecArgs where
  podName : Text
  command : Text
  containerName : Text
  destPath : Text
  «namespace» : Text

def ExecArgs.request (args : ExecArgs) : ExecRequest where
  name := args.podName
  «namespace» := args.namespace
  command := [lit "/bin/sh", lit "-c", args.command]
  container := if args.containerName = [] then none else some args.containerName
  stderr := true
  stdin := false
  stdout := true
  tty := false
  preloadContent := false

/-- What a call returns or raises, with the stream and the file if there is a stream. -/
structure ExecRun (σ : Type) where
  result : Except Error Text
  left : Option (ExecState σ)

section Command

variable {σ : Type} (stream : ExecStream σ) (disk : Disk)

def onStream {α : Type} (operation : σ → Except Error α × σ) : ExecProgram σ α :=
  fun state =>
    match operation state.stream with
    | (.ok value, after) => .ok value { state with stream := after }
    | (.error error, after) => .error error { state with stream := after }

def saveOutput (stdout : Text) : ExecProgram σ Unit := fun state =>
  match state.file with
  | none => .ok () state
  | some file =>
      match disk.writeError file.content (encodeUtf8 stdout) with
      | none =>
          .ok () { state with
            file := some { file with content := file.content ++ encodeUtf8 stdout } }
      | some (error, content) =>
          .error error { state with file := some { file with content := content } }

/-- `if resp.peek_stdout(): ...` -/
def takeStdout (res : List Text) : ExecProgram σ (List Text) := do
  let peeked ← onStream (stream.peek .stdout)
  if peeked = [] then
    return res
  else
    let stdout ← onStream (stream.read .stdout)
    saveOutput disk stdout
    return res ++ [stdout]

def stderrError (errorMsg : Text) : Error :=
  ⟨.external, lit "Error occurred while executing command in pod: " ++ errorMsg⟩

/-- `if resp.peek_stderr(): ...` -/
def checkStderr : ExecProgram σ Unit := do
  let peeked ← onStream (stream.peek .stderr)
  if peeked = [] then
    return ()
  else
    let errorMsg ← onStream (stream.read .stderr)
    throw (stderrError errorMsg)

def execPass (res : List Text) : ExecProgram σ (List Text) := do
  onStream stream.update
  let res ← takeStdout stream disk res
  checkStderr stream
  return res

/-- The `while` loop; `none` when the fuel runs out. -/
def execLoop : Nat → List Text → ExecState σ →
    Option (EStateM.Result Error (ExecState σ) (List Text))
  | 0, _, _ => none
  | fuel + 1, res, state =>
      if stream.isOpen state.stream then
        match execPass stream disk res state with
        | .ok res after => execLoop fuel res after
        | .error error after => some (.error error after)
      else some (.ok res state)

def openDestination (destPath : Text) : Except Error (Option OutputFile) :=
  if destPath = [] then .ok none
  else
    match disk.openError destPath with
    | none => .ok (some ⟨[], false⟩)
    | some error => .error error

/-- The `finally` clause. -/
def closeAll (state : ExecState σ) : ExecState σ where
  stream := stream.close state.stream
  file := state.file.map fun file => { file with closed := true }

def runPodExecCommand (connect : ExecRequest → Except Error σ) (args : ExecArgs)
    (fuel : Nat) : Option (ExecRun σ) :=
  match connect args.request with
  | .error error => some ⟨.error error, none⟩
  | .ok start =>
      match openDestination disk args.destPath with
      | .error error => some ⟨.error error, some ⟨start, none⟩⟩
      | .ok file =>
          (execLoop stream disk fuel [] ⟨start, file⟩).map fun
            | .ok res after => ⟨.ok res.flatten, some (closeAll stream after)⟩
            | .error error after => ⟨.error error, some (closeAll stream after)⟩

end Command

/-! ## Streams that deliver frames -/

/-- The client library's stream: `update` and each peek look for one frame, and reading
a channel that holds something empties it. -/
structure ExecStream.Follows {σ : Type} (stream : ExecStream σ) (wire : σ → Wire Channel Char)
    (arrives : Nat → Bool) : Prop where
  isOpen : ∀ state, stream.isOpen state = (wire state).connected
  update : ∀ state, ∃ after, stream.update state = (.ok (), after) ∧
    wire after = (wire state).call arrives
  peek : ∀ channel state, ∃ after,
    stream.peek channel state = (.ok (((wire state).call arrives).buffer channel), after) ∧
    wire after = (wire state).call arrives
  read : ∀ channel state, (wire state).buffer channel ≠ [] → ∃ after,
    stream.read channel state = (.ok ((wire state).buffer channel), after) ∧
    wire after = (wire state).drain channel
  close : ∀ state, stream.isOpen (stream.close state) = false

/-- No write to the open file fails. -/
def Disk.Writes (disk : Disk) : Prop :=
  ∀ content chunk, disk.writeError content chunk = none

/-- The destination, if one is given, can be opened for writing. -/
def Disk.Opens (disk : Disk) (destPath : Text) : Prop :=
  destPath ≠ [] → disk.openError destPath = none

section Delivery

variable {σ : Type} {stream : ExecStream σ} {disk : Disk} {wire : σ → Wire Channel Char}
variable {arrives : Nat → Bool} {frames : List (Frame Channel Char)} {destPath : Text}

theorem onStream_of_ok {α : Type} {operation : σ → Except Error α × σ} {value : α}
    {state : ExecState σ} {after : σ} (ran : operation state.stream = (.ok value, after)) :
    onStream operation state = .ok value { state with stream := after } := by
  rw [onStream, ran]

/-- What was gathered, what the buffer holds and what will arrive is what was sent. -/
structure Gathering (wire : σ → Wire Channel Char) (arrives : Nat → Bool)
    (frames : List (Frame Channel Char)) (destPath : Text) (res : List Text)
    (state : ExecState σ) : Prop where
  stdout : res.flatten ++ (wire state.stream).expected .stdout = sent .stdout frames
  stderr : (wire state.stream).expected .stderr = sent .stderr frames
  delivering : Frame.close ∈ frames →
    (wire state.stream).Delivering arrives frames.length
  file : state.file = if destPath = [] then none else some ⟨encodeUtf8 res.flatten, false⟩

/-- The loop tests `is_open` with nothing on stderr, and with nothing left on stdout if
the stream is closed. -/
structure AtTest (wire : σ → Wire Channel Char) (state : ExecState σ) : Prop where
  stderr : (wire state.stream).buffer .stderr = []
  stdout : (wire state.stream).connected = false → (wire state.stream).buffer .stdout = []

theorem Gathering.called {res : List Text} {state : ExecState σ} {after : σ}
    (gathering : Gathering wire arrives frames destPath res state)
    (call : wire after = (wire state.stream).call arrives) :
    Gathering wire arrives frames destPath res { state with stream := after } where
  stdout := by
    rw [call, Wire.expected_call]
    exact gathering.stdout
  stderr := by
    rw [call, Wire.expected_call]
    exact gathering.stderr
  delivering closes := by
    rw [call]
    exact (gathering.delivering closes).call
  file := gathering.file

private theorem update_gathers (follows : stream.Follows wire arrives) {res : List Text}
    {state : ExecState σ} (gathering : Gathering wire arrives frames destPath res state) :
    ∃ after, onStream stream.update state = .ok () after ∧
      Gathering wire arrives frames destPath res after ∧
      (wire state.stream).calls < (wire after.stream).calls := by
  obtain ⟨after, ran, call⟩ := follows.update state.stream
  refine ⟨_, onStream_of_ok ran, gathering.called call, ?_⟩
  dsimp only
  rw [call, Wire.calls_call]
  exact Nat.lt_succ_self _

private theorem saveOutput_gathers (writes : disk.Writes) {res : List Text} {state : ExecState σ}
    (stdout : Text)
    (file : state.file = if destPath = [] then none else some ⟨encodeUtf8 res.flatten, false⟩) :
    saveOutput disk stdout state = .ok () { state with
      file := if destPath = [] then none
        else some ⟨encodeUtf8 (res ++ [stdout]).flatten, false⟩ } := by
  cases Decidable.em (destPath = []) with
  | inl without =>
      rw [if_pos without] at file ⊢
      rw [saveOutput, file]
      dsimp only
      rw [← file]
  | inr given =>
      rw [if_neg given] at file ⊢
      rw [saveOutput, file]
      dsimp only
      rw [writes, List.flatten_concat, encodeUtf8_append]

private theorem takeStdout_gathers (follows : stream.Follows wire arrives)
    (writes : disk.Writes) {res : List Text} {state : ExecState σ}
    (gathering : Gathering wire arrives frames destPath res state) :
    ∃ taken after, takeStdout stream disk res state = .ok taken after ∧
      Gathering wire arrives frames destPath taken after ∧
      (wire after.stream).buffer .stdout = [] ∧
      (wire state.stream).calls < (wire after.stream).calls := by
  obtain ⟨peeked, ran, call⟩ := follows.peek .stdout state.stream
  have gathered := gathering.called call
  have later : (wire state.stream).calls < (wire peeked).calls := by
    rw [call, Wire.calls_call]
    exact Nat.lt_succ_self _
  rw [takeStdout, bind_of_ok (onStream_of_ok ran), ← call]
  cases Decidable.em ((wire peeked).buffer .stdout = []) with
  | inl empty =>
      rw [if_pos empty]
      exact ⟨res, _, rfl, gathered, empty, later⟩
  | inr holds =>
      obtain ⟨after, read, drained⟩ := follows.read .stdout peeked holds
      have file : (⟨after, state.file⟩ : ExecState σ).file =
          if destPath = [] then none else some ⟨encodeUtf8 res.flatten, false⟩ := gathering.file
      have saved := saveOutput_gathers writes ((wire peeked).buffer .stdout) file
      rw [if_neg holds, bind_of_ok (onStream_of_ok read), bind_of_ok saved]
      refine ⟨_, _, rfl, ⟨?_, ?_, ?_, rfl⟩, ?_, ?_⟩
      · dsimp only
        rw [List.flatten_concat, List.append_assoc, drained, Wire.expected_drain_self]
        exact gathered.stdout
      · dsimp only
        rw [drained, Wire.expected_drain_of_ne (by decide)]
        exact gathered.stderr
      · intro closes
        dsimp only
        rw [drained]
        exact (gathered.delivering closes).drain .stdout
      · dsimp only
        rw [drained, Wire.buffer_drain_self]
      · dsimp only
        rw [drained]
        exact later

def RaisesStderr (frames : List (Frame Channel Char)) (error : Error) : Prop :=
  ∃ text, text ≠ [] ∧ text <+: sent .stderr frames ∧ error = stderrError text

private theorem checkStderr_gathers (follows : stream.Follows wire arrives) {res : List Text}
    {state : ExecState σ} (gathering : Gathering wire arrives frames destPath res state)
    (taken : (wire state.stream).buffer .stdout = []) :
    (∃ after, checkStderr stream state = .ok () after ∧
      Gathering wire arrives frames destPath res after ∧ AtTest wire after ∧
      (wire state.stream).calls < (wire after.stream).calls) ∨
    ∃ error after, checkStderr stream state = .error error after ∧
      RaisesStderr frames error := by
  obtain ⟨peeked, ran, call⟩ := follows.peek .stderr state.stream
  have gathered := gathering.called call
  rw [checkStderr, bind_of_ok (onStream_of_ok ran), ← call]
  cases Decidable.em ((wire peeked).buffer .stderr = []) with
  | inl empty =>
      rw [if_pos empty]
      refine .inl ⟨_, rfl, gathered, ⟨empty, ?_⟩, ?_⟩
      · dsimp only
        rw [call]
        exact Wire.buffer_call_of_closed taken
      · dsimp only
        rw [call, Wire.calls_call]
        exact Nat.lt_succ_self _
  | inr holds =>
      obtain ⟨after, read, _⟩ := follows.read .stderr peeked holds
      rw [if_neg holds, bind_of_ok (onStream_of_ok read)]
      refine .inr ⟨_, _, rfl, _, holds, ?_, rfl⟩
      rw [← gathered.stderr]
      exact List.prefix_append _ _

theorem execPass_gathers (follows : stream.Follows wire arrives)
    (writes : disk.Writes) {res : List Text} {state : ExecState σ}
    (gathering : Gathering wire arrives frames destPath res state) :
    (∃ taken after, execPass stream disk res state = .ok taken after ∧
      Gathering wire arrives frames destPath taken after ∧ AtTest wire after ∧
      (wire state.stream).calls < (wire after.stream).calls) ∨
    ∃ error after, execPass stream disk res state = .error error after ∧
      RaisesStderr frames error := by
  obtain ⟨updated, update, gathered, later⟩ := update_gathers follows gathering
  obtain ⟨taken, drained, take, kept, empty, moved⟩ :=
    takeStdout_gathers follows writes gathered
  rw [execPass, bind_of_ok update, bind_of_ok take]
  obtain ⟨after, check, final, test, ended⟩ | ⟨error, after, check, raises⟩ :=
    checkStderr_gathers follows kept empty
  · rw [bind_of_ok check]
    exact .inl ⟨taken, after, rfl, final, test, (later.trans moved).trans ended⟩
  · rw [bind_of_error check]
    exact .inr ⟨error, after, rfl, raises⟩

private theorem execLoop_gathers (follows : stream.Follows wire arrives)
    (writes : disk.Writes) {fuel : Nat} {res : List Text} {state : ExecState σ}
    {result : EStateM.Result Error (ExecState σ) (List Text)}
    (gathering : Gathering wire arrives frames destPath res state) (test : AtTest wire state)
    (ran : execLoop stream disk fuel res state = some result) :
    (∃ gathered after, result = .ok gathered after ∧ sent .stderr frames = [] ∧
      gathered.flatten = sent .stdout frames ∧
      after.file =
        if destPath = [] then none else some ⟨encodeUtf8 (sent .stdout frames), false⟩) ∨
    ∃ error after, result = .error error after ∧ RaisesStderr frames error := by
  induction fuel generalizing res state with
  | zero => cases ran
  | succ fuel induction =>
      rw [execLoop, follows.isOpen] at ran
      cases isOpen : (wire state.stream).connected with
      | false =>
          rw [isOpen, if_neg Bool.false_ne_true] at ran
          cases ran
          have output := gathering.stdout
          rw [Wire.expected_of_closed isOpen (test.stdout isOpen), List.append_nil] at output
          refine .inl ⟨res, state, rfl, ?_, output, ?_⟩
          · rw [← gathering.stderr]
            exact Wire.expected_of_closed isOpen test.stderr
          · rw [gathering.file, output]
      | true =>
          rw [isOpen, if_pos rfl] at ran
          obtain ⟨taken, after, pass, gathered, tested, _⟩ | ⟨error, after, pass, raises⟩ :=
            execPass_gathers follows writes gathering
          · rw [pass] at ran
            exact induction gathered tested ran
          · rw [pass] at ran
            cases ran
            exact .inr ⟨error, after, rfl, raises⟩

/-- The loop ends by the time as many calls found a frame as there are frames. -/
theorem exists_execLoop (follows : stream.Follows wire arrives)
    (writes : disk.Writes) (closes : Frame.close ∈ frames) {fuel : Nat}
    {res : List Text} {state : ExecState σ}
    (gathering : Gathering wire arrives frames destPath res state)
    (delivers : frames.length ≤
      Nat.count (fun call => arrives call = true) ((wire state.stream).calls + fuel)) :
    ∃ result, execLoop stream disk (fuel + 1) res state = some result := by
  induction fuel generalizing res state with
  | zero =>
      have closed := (gathering.delivering closes).closed delivers
      rw [execLoop, follows.isOpen, closed, if_neg Bool.false_ne_true]
      exact ⟨_, rfl⟩
  | succ fuel induction =>
      rw [execLoop, follows.isOpen]
      cases (wire state.stream).connected with
      | false =>
          rw [if_neg Bool.false_ne_true]
          exact ⟨_, rfl⟩
      | true =>
          rw [if_pos rfl]
          obtain ⟨taken, after, pass, gathered, _, later⟩ | ⟨error, after, pass, _⟩ :=
            execPass_gathers follows writes gathering
          · rw [pass]
            apply induction gathered
            refine delivers.trans (Nat.count_monotone _ ?_)
            omega
          · rw [pass]
            exact ⟨_, rfl⟩

/-- Whatever the stream and the disk do, a call that has both closes both. -/
def Closed (stream : ExecStream σ) (run : ExecRun σ) : Prop :=
  ∃ state, run.left = some state ∧ stream.isOpen state.stream = false ∧
    ∀ file ∈ state.file, file.closed = true

theorem closed_closeAll (follows : ∀ state, stream.isOpen (stream.close state) = false)
    (result : Except Error Text) (state : ExecState σ) :
    Closed stream ⟨result, some (closeAll stream state)⟩ := by
  refine ⟨_, rfl, follows state.stream, ?_⟩
  intro file member
  obtain ⟨_, _, rfl⟩ := Option.map_eq_some_iff.mp member
  rfl

private theorem sent_stdout_texts (texts : List Text) (rest : List (Frame Channel Char)) :
    sent .stdout (texts.map (Frame.data .stdout) ++ .close :: rest) = texts.flatten := by
  induction texts with
  | nil => rfl
  | cons text texts induction =>
      rw [List.map_cons, List.cons_append, sent_data_self, induction, List.flatten_cons]

private theorem sent_stderr_texts (texts : List Text) (rest : List (Frame Channel Char)) :
    sent .stderr (texts.map (Frame.data .stdout) ++ .close :: rest) = [] := by
  induction texts with
  | nil => rfl
  | cons text texts induction =>
      rw [List.map_cons, List.cons_append, sent_data_of_ne (by decide), induction]

/-- The call returned a text, and the file, if one was asked for, holds that text. -/
def ReturnsOutput (text destPath : Text) (run : ExecRun σ) : Prop :=
  run.result = .ok text ∧ ∃ state, run.left = some state ∧
    state.file = if destPath = [] then none else some ⟨encodeUtf8 text, true⟩

private theorem runPodExecCommand_connected {connect : ExecRequest → Except Error σ}
    {args : ExecArgs} {start : σ} (connected : connect args.request = .ok start)
    (opens : disk.Opens args.destPath) (fuel : Nat) :
    runPodExecCommand stream disk connect args fuel =
      (execLoop stream disk fuel []
          ⟨start, if args.destPath = [] then none else some ⟨[], false⟩⟩).map fun
        | .ok res after => ⟨.ok res.flatten, some (closeAll stream after)⟩
        | .error error after => ⟨.error error, some (closeAll stream after)⟩ := by
  rw [runPodExecCommand, connected]
  dsimp only
  rw [openDestination]
  cases Decidable.em (args.destPath = []) with
  | inl without => rw [if_pos without, if_pos without]
  | inr given => rw [if_neg given, if_neg given, opens given]

/-- A destination that cannot be opened ends the call between the connection and the
`try` statement. -/
private theorem runPodExecCommand_unopened {connect : ExecRequest → Except Error σ}
    {args : ExecArgs} {start : σ} {error : Error}
    (connected : connect args.request = .ok start) (given : args.destPath ≠ [])
    (fails : disk.openError args.destPath = some error) (fuel : Nat) :
    runPodExecCommand stream disk connect args fuel =
      some ⟨.error error, some ⟨start, none⟩⟩ := by
  rw [runPodExecCommand, connected]
  dsimp only
  rw [openDestination, if_neg given, fails]

theorem gathering_start (arrives : Nat → Bool) (destPath : Text) {start : σ}
    (begins : wire start = ⟨frames, true, fun _ => [], 0⟩) :
    Gathering wire arrives frames destPath []
      ⟨start, if destPath = [] then none else some ⟨[], false⟩⟩ ∧
    AtTest wire ⟨start, if destPath = [] then none else some ⟨[], false⟩⟩ := by
  refine ⟨⟨?_, ?_, ?_, rfl⟩, ?_, ?_⟩
  · dsimp only
    rw [begins]
    rfl
  · dsimp only
    rw [begins]
    rfl
  · intro closes
    dsimp only
    rw [begins]
    intro _
    exact ⟨closes, by rw [Nat.count_zero, Nat.add_zero]⟩
  · dsimp only
    rw [begins]
  · dsimp only
    rw [begins]
    intro closed
    cases closed

private theorem runPodExecCommand_outcome (follows : stream.Follows wire arrives)
    {connect : ExecRequest → Except Error σ} {args : ExecArgs}
    (opens : disk.Opens args.destPath) (writes : disk.Writes) {start : σ}
    (connected : connect args.request = .ok start)
    (begins : wire start = ⟨frames, true, fun _ => [], 0⟩) {fuel : Nat} {run : ExecRun σ}
    (ran : runPodExecCommand stream disk connect args fuel = some run) :
    (sent .stderr frames = [] ∧ ReturnsOutput (sent .stdout frames) args.destPath run) ∨
    ∃ error, run.result = .error error ∧ RaisesStderr frames error := by
  obtain ⟨gathering, test⟩ := gathering_start arrives args.destPath begins
  rw [runPodExecCommand_connected connected opens] at ran
  obtain ⟨result, looped, same⟩ := Option.map_eq_some_iff.mp ran
  subst same
  obtain ⟨gathered, after, rfl, silent, output, file⟩ | ⟨error, after, rfl, raises⟩ :=
    execLoop_gathers follows writes gathering test looped
  · refine .inl ⟨silent, congrArg Except.ok output, closeAll stream after, rfl, ?_⟩
    rw [closeAll, file]
    split <;> rfl
  · exact .inr ⟨error, rfl, raises⟩

private theorem runPodExecCommand_closed (follows : stream.Follows wire arrives)
    {connect : ExecRequest → Except Error σ} {args : ExecArgs} {start : σ}
    (connected : connect args.request = .ok start) (opens : disk.Opens args.destPath)
    {fuel : Nat} {run : ExecRun σ}
    (ran : runPodExecCommand stream disk connect args fuel = some run) :
    Closed stream run := by
  rw [runPodExecCommand_connected connected opens] at ran
  obtain ⟨result, _, same⟩ := Option.map_eq_some_iff.mp ran
  subst same
  cases result with
  | ok res after => exact closed_closeAll follows.close _ after
  | error error after => exact closed_closeAll follows.close _ after

/-- What the caller of an execution is promised: the stream and the file are closed
however the call ends; and as long as writing to the file works, the output is
complete, text on stderr makes the call raise, and the call ends once as many calls
have found a frame as there are frames. -/
structure CompleteOutput (stream : ExecStream σ) (disk : Disk) (arrives : Nat → Bool)
    (frames : List (Frame Channel Char)) (connect : ExecRequest → Except Error σ)
    (args : ExecArgs) : Prop where
  closed : ∀ fuel run, runPodExecCommand stream disk connect args fuel = some run →
    Closed stream run
  returns : disk.Writes →
    ∀ texts : List Text, frames = texts.map (Frame.data .stdout) ++ [.close] →
      ∀ fuel run, runPodExecCommand stream disk connect args fuel = some run →
        ReturnsOutput texts.flatten args.destPath run
  raises : disk.Writes → sent .stderr frames ≠ [] →
    ∀ fuel run, runPodExecCommand stream disk connect args fuel = some run →
      ∃ error, run.result = .error error ∧ RaisesStderr frames error
  ends : disk.Writes → Frame.close ∈ frames →
    ∀ calls, frames.length ≤ Nat.count (fun call => arrives call = true) calls →
      ∃ run, runPodExecCommand stream disk connect args (calls + 1) = some run

private theorem completeOutput_of_opens (follows : stream.Follows wire arrives)
    {connect : ExecRequest → Except Error σ} {args : ExecArgs} {start : σ}
    (connected : connect args.request = .ok start) (opens : disk.Opens args.destPath)
    (begins : wire start = ⟨frames, true, fun _ => [], 0⟩) :
    CompleteOutput stream disk arrives frames connect args where
  closed _ _ ran := runPodExecCommand_closed follows connected opens ran
  returns writes texts delivered fuel run ran := by
    subst delivered
    obtain ⟨_, returns⟩ | ⟨_, _, text, holds, taken, _⟩ :=
      runPodExecCommand_outcome follows opens writes connected begins ran
    · rw [sent_stdout_texts] at returns
      exact returns
    · rw [sent_stderr_texts] at taken
      exact absurd (List.prefix_nil.mp taken) holds
  raises writes errors fuel run ran := by
    obtain ⟨silent, _⟩ | raised :=
      runPodExecCommand_outcome follows opens writes connected begins ran
    · exact absurd silent errors
    · exact raised
  ends writes closes calls delivers := by
    obtain ⟨gathering, _⟩ := gathering_start arrives args.destPath begins
    rw [runPodExecCommand_connected connected opens]
    have arrived : frames.length ≤
        Nat.count (fun call => arrives call = true) ((wire start).calls + calls) := by
      rw [begins, Nat.zero_add]
      exact delivers
    obtain ⟨result, looped⟩ := exists_execLoop follows writes closes gathering arrived
    rw [looped]
    exact ⟨_, rfl⟩

/-- Whatever the frames and whenever they arrive, an execution keeps its promise
exactly when its destination is empty or can be opened: otherwise it raises with the
stream still open. -/
theorem exec_output_complete_iff (disk : Disk) (follows : stream.Follows wire arrives)
    (connect : ExecRequest → Except Error σ) (args : ExecArgs) (start : σ)
    (connected : connect args.request = .ok start)
    (begins : wire start = ⟨frames, true, fun _ => [], 0⟩) :
    CompleteOutput stream disk arrives frames connect args ↔
      (args.destPath ≠ [] → disk.openError args.destPath = none) := by
  constructor
  · intro complete given
    cases fails : disk.openError args.destPath with
    | none => rfl
    | some error =>
        have raised : runPodExecCommand stream disk connect args 0 =
            some ⟨.error error, some ⟨start, none⟩⟩ :=
          runPodExecCommand_unopened connected given fails 0
        obtain ⟨state, left, closed, _⟩ := complete.closed 0 _ raised
        cases left
        -- nothing has touched the stream since the connection
        rw [follows.isOpen, begins] at closed
        cases closed
  · intro opens
    exact completeOutput_of_opens follows connected opens begins

end Delivery

/-! ## The library's stream -/

def scheduledStream (arrives : Nat → Bool) : ExecStream (Wire Channel Char) where
  isOpen wire := wire.connected
  update wire := (.ok (), wire.call arrives)
  peek channel wire := (.ok ((wire.call arrives).buffer channel), wire.call arrives)
  read channel wire :=
    -- Only reading an empty channel looks for a frame.
    if wire.buffer channel = [] then
      (.ok ((wire.call arrives).buffer channel), (wire.call arrives).drain channel)
    else (.ok (wire.buffer channel), wire.drain channel)
  close wire := { wire with connected := false }

theorem scheduledStream_follows (arrives : Nat → Bool) :
    (scheduledStream arrives).Follows id arrives where
  isOpen _ := rfl
  update wire := ⟨wire.call arrives, rfl, rfl⟩
  peek _ wire := ⟨wire.call arrives, rfl, rfl⟩
  read channel wire holds := ⟨wire.drain channel, if_neg holds, rfl⟩
  close _ := rfl

def emptyDisk : Disk where
  openError _ := none
  writeError _ _ := none

def savedEcho : ExecArgs where
  podName := lit "pod"
  command := lit "echo ab"
  containerName := []
  destPath := lit "logs/out"
  «namespace» := lit "default"

def echoFrames : List (Frame Channel Char) :=
  [.data .stdout (lit "a"), .data .stdout (lit "b"), .close]

def connectEcho (_ : ExecRequest) : Except Error (Wire Channel Char) :=
  .ok ⟨echoFrames, true, fun _ => [], 0⟩

theorem exec_output_complete_echo :
    CompleteOutput (scheduledStream fun call => call % 2 = 1) emptyDisk
      (fun call => call % 2 = 1) echoFrames connectEcho savedEcho :=
  (exec_output_complete_iff emptyDisk (scheduledStream_follows fun call => call % 2 = 1)
    connectEcho savedEcho _ rfl rfl).mpr fun _ => rfl

/-- A disk without the directory of the destination. -/
def missingDirectory : Disk where
  openError path :=
    some ⟨.external, lit "[Errno 2] No such file or directory: '" ++ path ++ lit "'"⟩
  writeError _ _ := none

/-- `open` raises with the stream open. -/
theorem exec_leaves_stream_open :
    ¬ ∀ (disk : Disk) (args : ExecArgs),
      CompleteOutput (scheduledStream fun call => call % 2 = 1) disk
        (fun call => call % 2 = 1) echoFrames connectEcho args := by
  intro complete
  have opens := (exec_output_complete_iff missingDirectory
    (scheduledStream_follows fun call => call % 2 = 1) connectEcho savedEcho _ rfl rfl).mp
      (complete missingDirectory savedEcho)
  exact nomatch opens (by decide)

end Telescope.Kubernetes
