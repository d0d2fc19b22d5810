import DockerClient.Program.Shell.State

/-
**Signals and jobs.**

* `Shell.deliver`, `Shell.receive` — what a signal does to a shell;
* `Shell.trapCommand`, `Shell.killCommand` — `trap` and `kill`;
* `Shell.State.addJob`, `Shell.awaitJob` — jobs that run aside;
* `Shell.waitCommand`, `Shell.jobsCommand` — `wait` and `jobs`.
-/

set_option relaxedAutoImplicit false
set_option autoImplicit false

namespace DockerClient.Shell

/-! ### Signals -/

/-- Whether a signal stops a program. -/
def isStop (signal : Nat) : Bool := decide (19 ≤ signal) && decide (signal ≤ 22)

/-- What a signal does to the shell: nothing, wait for its trap, or end it. -/
def deliver (signal : Nat) : Shell Unit := do
  let st ← get
  if signal = 0 ∨ (st.process.ignored.contains signal ∧ !Signal.isFinal signal) then pure ()
  else
    match (if Signal.isFinal signal then none else st.traps.lookup signal) with
    | some _ =>
        if st.arrived.contains signal then pure ()
        else set { st with arrived := signal :: st.arrived }
    | none =>
        if Signal.isHarmless signal then pure ()
        else if isStop signal then throw (.ended .endless)
        else throw (.ended (.killed signal))

/-- Receives the signals that have come. -/
def receive : Shell Unit := do
  let st ← get
  let k := st.process.kernel
  let isDue (s : Sent) : Bool := s.process == st.process.number && decide (s.time ≤ k.clock)
  let due := k.signals.filter isDue
  if due.isEmpty then pure ()
  else
    set { st with process :=
      { st.process with kernel := { k with signals := k.signals.filter fun s => !isDue s } } }
    due.forM fun s => deliver s.signal

/-- Sets or drops the trap for a signal. -/
def setTrap (signal : Nat) (action : Option Bytes) : Shell Unit :=
  modify fun st =>
    let others := st.traps.filter (·.1 ≠ signal)
    let p := st.process
    let heard := p.ignored.filter (· ≠ signal)
    let ignored :=
      if st.deaf.contains signal then p.ignored
      else if action = some [] ∧ signal ≠ 0 then signal :: heard
      else heard
    { st with
      traps := (match action with | some text => (signal, text) :: others | none => others)
      process := { p with ignored := ignored } }

/-- `trap`: what to do when a signal arrives. -/
def trapCommand (args : List Bytes) : Shell Nat := do
  let (_, args) ← optionsOf "" args
  match args with
  | [] =>
      let st ← get
      (List.range Signal.bound).forM fun n =>
        match st.traps.lookup n with
        | some action =>
            print ("trap -- ".toList ++ singleQuoted action ++ ' ' ::
              ((Signal.name? n).getD "").toList ++ ['\n'])
        | none => pure ()
      pure 0
  | first :: rest =>
      let resets := rest.isEmpty || (Signal.number? first).isSome && (first.head?.map Script.isDigit).getD false
      let action := if resets || first == ['-'] then none else some first
      let set (found : Bool) (name : Bytes) : Shell Bool := do
        if !found then pure false
        else
          match Signal.number? name with
          | some n =>
              setTrap n action
              pure true
          | none =>
              say ("trap: ".toList ++ name ++ ": bad trap\n".toList)
              pure false
      let all ← (if resets then args else rest).foldlM set true
      pure (if all then 0 else 1)

/-! ### Jobs -/

/-- The state without jobs that have ended and were asked for. -/
def State.dropJobs (st : State) : State :=
  { st with jobs := st.jobs.filter fun j =>
      !(j.awaited && decide (j.finish ≤ st.process.kernel.clock)) }

/-- The least number that no job has. -/
def State.freeIndex (st : State) : Nat :=
  ((List.range (st.jobs.length + 1)).find? fun n => st.jobs.all (·.index ≠ n + 1)).getD 0 + 1

/-- Adds a job, the last one first. -/
def State.addJob (st : State) (processes : List Nat) (task : Nat) (ending : Ending) (finish : Nat) :
    State :=
  let st := st.dropJobs
  { st with
    jobs := ⟨st.freeIndex, processes, task, ending, finish, false, false⟩ :: st.jobs
    lastAside := processes.getLast? }

/-- Changes a job. -/
def State.updateJob (st : State) (j : Job) : State :=
  { st with jobs := st.jobs.map fun old => if old.index = j.index then j else old }

/-- Says that a signal ended a program, unless that is usual. -/
def sayEnding (e : Ending) : Shell Unit :=
  match e with
  | .killed signal =>
      if signal = 2 ∨ signal = 13 then pure () else say ((Signal.text signal).toList ++ ['\n'])
  | _ => pure ()

/-- Waits until a time. -/
def waitUntil (time : Nat) : Shell Unit := do
  if Kernel.never ≤ time then throw (.ended .endless)
  onProcess fun p => { p with kernel := p.kernel.waitUntil time }

/-- Notices the jobs that have ended. -/
def noticeJobs : Shell Unit :=
  modify fun st => { st with jobs := st.jobs.map fun j =>
    if j.finish ≤ st.process.kernel.clock then { j with noticed := true } else j }

/-- Waits for a job; gives its status. -/
def awaitJob (j : Job) : Shell Nat := do
  if !j.noticed then
    waitUntil j.finish
    sayEnding j.ending
  modify fun st => st.updateJob { j with noticed := true, awaited := true }
  receive
  pure j.ending.status

/-- The job that a text names after a percent sign. -/
def namedJob (name : Bytes) : Shell Job := do
  let st ← get
  let missing : Shell Job := raise ("No such job: ".toList ++ name)
  match name with
  | ['%'] | ['%', '%'] | ['%', '+'] =>
      match st.jobs with
      | j :: _ => pure j
      | [] => raise "No current job".toList
  | ['%', '-'] =>
      match st.jobs with
      | _ :: j :: _ => pure j
      | _ => raise "No previous job".toList
  | '%' :: digits =>
      match (Numeral.count? digits).bind fun n => st.jobs.find? (·.index == n) with
      | some j => pure j
      | none => missing
  | _ => missing

/-- `wait`: waits for all jobs, or for some. -/
def waitCommand (args : List Bytes) : Shell Nat := do
  let (_, args) ← optionsOf "" args
  if args.isEmpty then
    (← get).jobs.forM fun j => do
      waitUntil j.finish
      modify fun st => st.updateJob { j with noticed := true, awaited := true }
    receive
    pure 0
  else
    args.foldlM (fun status name => do
      if name.head? = some '%' then awaitJob (← namedJob name)
      else
        let n ← countOf name
        match (← get).jobs.find? fun j => j.processes.getLast? == some n with
        | some j => awaitJob j
        | none => pure status) 127

/-- How a job stands, as a text. -/
def Job.text (j : Job) (clock : Nat) : String :=
  if clock < j.finish then "Running"
  else
    match j.ending with
    | .exited 0 => "Done"
    | .exited n => "Done(" ++ toString n ++ ")"
    | .killed signal => Signal.text signal
    | .endless => "Running"

/-- Shows a job after so many others. -/
def showJob (before : Nat) (withProcess : Bool) (j : Job) : Shell Unit := do
  let clock := (← get).process.kernel.clock
  let mark := if before = 0 then '+' else if before = 1 then '-' else ' '
  let start := '[' :: Bytes.ofNat j.index ++ [']', ' ', mark, ' ']
  let start :=
    if withProcess then start ++ Bytes.ofNat (j.processes.head?.getD 0) ++ [' '] else start
  let line := start ++ (j.text clock).toList
  print (line ++ List.replicate (max 1 (33 - line.length)) ' '
    ++ (List.replicate (j.processes.length - 1) " | ".toList).flatten ++ ['\n'])

/-- Shows jobs, and drops those that have ended. -/
def showJobs (withProcess : Bool) : Nat → List Job → Shell Unit
  | _, [] => pure ()
  | before, j :: rest => do
      showJob before withProcess j
      let st ← get
      if st.process.kernel.clock < j.finish then showJobs withProcess (before + 1) rest
      else
        set { st with jobs := st.jobs.filter (·.index ≠ j.index) }
        showJobs withProcess before rest

/-- `jobs`: lists jobs. -/
def jobsCommand (args : List Bytes) : Shell Nat := do
  let (options, names) ← optionsOf "lp" args
  let shown ← if names.isEmpty then pure (← get).jobs else names.mapM namedJob
  match options.getLast? with
  | some ('p', _) => shown.forM fun j => print (Bytes.ofNat (j.processes.head?.getD 0) ++ ['\n'])
  | option => showJobs option.isSome 0 shown
  pure 0

/-- `fg` and `bg`: there is nothing to go on with. -/
def resumeCommand (args : List Bytes) : Shell Nat := do
  let j ← namedJob (args.head?.getD ['%'])
  raise ("job ".toList ++ '%' :: Bytes.ofNat j.index ++ " not created under job control".toList)

/-! ### Sending signals -/

/-- Sends a signal to a process; false if there is none. -/
def sendSignal (process signal : Nat) : Shell Bool := do
  let st ← get
  let p := st.process
  if process = p.number then
    deliver signal
    pure true
  else if p.above.contains process then
    set { st with process := { p with kernel := p.kernel.send process signal } }
    pure true
  else
    match st.jobs.find? fun j => j.processes.contains process with
    | some j =>
        if j.noticed then pure false
        else
          if j.finish ≤ p.kernel.clock ∨ Signal.isHarmless signal ∨ isStop signal ∨ signal = 2 ∨
              signal = 3 then pure true
          else
            set ({ st with process := { p with kernel := p.kernel.endTask j.task } }.updateJob
              { j with ending := .killed signal, finish := p.kernel.clock })
            pure true
    | none => pure false

/-- How `kill` is used. -/
def killUsage : Bytes :=
  ("Usage: kill [-s sigspec | -signum | -sigspec] [pid | job]... or\n"
    ++ "kill -l [exitstatus]").toList

/-- Lists the signals, or names one by its number or by a status. -/
def listSignals (args : List Bytes) : Shell Nat := do
  match args with
  | [] =>
      print ['0', '\n']
      ((List.range Signal.bound).drop 1).forM fun n =>
        print (((Signal.name? n).getD "").toList ++ ['\n'])
  | text :: _ =>
      let n ← countOf text
      let n := if 128 < n then n - 128 else n
      if n = 0 ∨ Signal.bound ≤ n then
        raise ("invalid signal number or exit status: ".toList ++ text)
      else print (((Signal.name? n).getD "").toList ++ ['\n'])
  pure 0

/-- The signal that options of `kill` ask for, and whether they ask for a list. -/
def killOptions : List (Char × Bytes) → Option Nat → Bool → Shell (Option Nat × Bool)
  | [], signal, list => pure (signal, list)
  | ('s', name) :: rest, _, list => do
      match Signal.number? name with
      | some n => killOptions rest (some n) list
      | none => raise ("invalid signal number or name: ".toList ++ name)
  | _ :: rest, signal, _ => killOptions rest signal true

/-- `kill`: sends a signal to processes. -/
def killCommand (args : List Bytes) : Shell Nat := do
  let (signal, list, targets) : Option Nat × Bool × List Bytes ←
    match args with
    | ('-' :: name) :: rest =>
        match Signal.number? name with
        | some n => pure (some n, false, rest)
        | none => do
            let (options, rest) ← optionsOf "ls:" args
            let (signal, list) ← killOptions options none false
            pure (signal, list, rest)
    | args => pure (none, false, args)
  if args.isEmpty then raise killUsage
  else if list then
    if signal.isSome then raise killUsage else listSignals targets
  else if targets.isEmpty then raise killUsage
  else
    let signal := signal.getD 15
    let statuses ← targets.mapM fun target => do
      let found ←
        match target with
        | '%' :: _ => do
            let _ ← namedJob target
            pure false
        | '-' :: digits => do
            let _ ← countOf digits
            pure false
        | digits => do sendSignal (← countOf digits) signal
      if found then pure 0
      else
        warn (SystemFault.noProcess.text.toList ++ ['\n'])
        pure 1
    pure (if statuses.contains 1 then 1 else 0)

end DockerClient.Shell
