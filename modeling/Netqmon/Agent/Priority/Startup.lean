import Netqmon.Agent.Priority.Selection
import Netqmon.Lib.UpwardRuns

/-! # Start of the priority backend

`prepare` recovers what an earlier process has left, captures the queues of the LAN ports and describes
them in an evidence file; `activate` creates the IFB link, replaces the roots of all ports and attaches
the filters. The file is what an agent that is killed on the way is recovered from. A start whose file
names a live process is refused, and the file is not written before there is an IFB link, so no start
that changes anything has evidence of it (`evidence_precedes_changes_iff`).

Of the file the owner, its boot and namespace and the captured roots are kept, of a device what
`capture_original_root` makes of it, whether its root is ours, and its filters. What the recovery makes
of the devices is a parameter. Commands that change nothing of this (classes, pins, BPF maps,
read-backs) are steps that can fail. -/

namespace Netqmon.Agent.Priority.Startup

open Lib.Checks Lib.RustStr Lib.UpwardRuns Lib.UpwardRuns.Upward Lib.Ordered

/-! ### Host -/

structure OriginalQueueRoot where
  (kind options : String)
  mqLeaves : List (String × String × String)
deriving DecidableEq

def OriginalQueueRoot.noqueue : OriginalQueueRoot := ⟨"noqueue", "null", []⟩

structure RecoveryOwner where
  pid : ℕ
  comm : Option String
  starttime : Option ℕ
  (bootId netns : Option String)
deriving DecidableEq

structure Evidence where
  phase : String
  (bootId netns : Option String)
  owner : Option RecoveryOwner
  originalQdiscRoots : List (String × OriginalQueueRoot)

structure Device where
  /-- The result of `capture_original_root`. -/
  root : Except String OriginalQueueRoot
  (owned clsact : Bool)
  filters : List String

abbrev Devices := AList fun _ : String => Device

/-- What is left when the agent is killed. -/
structure Network where
  devices : Devices
  evidence : Option Evidence

/-- What the runtime remembers of its own changes. -/
structure Changes where
  ifbCreated : Bool
  ifbOriginalRoot : Option OriginalQueueRoot
  ownedRoots : OrderedSet String
  matcherAttached : List String
  ifbObserverAttached : Bool
  clsactCreated : OrderedSet String

structure Host where
  owner : RecoveryOwner
  ifb : String
  ports : List (String × OriginalQueueRoot)
  /-- The queue that the kernel gives a link without one. -/
  defaultRoot : OriginalQueueRoot
  changes : Changes
  network : Network
  /-- The errors of the commands to come. -/
  faults : List (Option String)
  /-- The networks after each change, the latest first. -/
  history : List Network

variable (host : Host)

instance : Preorder Host where
  le host host' := host.history <:+ host'.history
  le_refl host := List.suffix_refl host.history
  le_trans _ _ _ := List.IsSuffix.trans

abbrev Setup := Upward Host

/-! ### Commands -/

/-- Any command can fail. -/
def command : Setup Unit where
  run host := (match host.faults with
    | some error :: _ => .error error
    | _ => .ok (), { host with faults := host.faults.tail })
  above host := List.suffix_refl host.history

variable (name : String)

def tcShow : Setup Device := do
  command
  match (← Upward.get).network.devices.lookup name with
  | none => .ofExcept (.error "Cannot find device")
  | some device => return device

/-- A change of the network, remembered in the history. -/
def change (f : Host → Network) : Setup Unit where
  run host := (.ok (), { host with network := f host, history := f host :: host.history })
  above host := List.suffix_cons (f host) host.history

def setDevices (f : Devices → Devices) : Setup Unit :=
  change fun host => { host.network with devices := f host.network.devices }

def tc (f : Device → Device) : Setup Unit := do
  let device ← tcShow name
  setDevices (·.insert name (f device))

def captureRoot : Setup OriginalQueueRoot := do .ofExcept (← tcShow name).root

def check (ok : Bool) (error : String) : Setup Unit := .ofExcept (ensure ok error)

def note (f : Changes → Changes) : Setup Unit where
  run host := (.ok (), { host with changes := f host.changes })
  above host := List.suffix_refl host.history

def atomicWrite (phase : String) : Setup Unit :=
  change fun host => { host.network with
    evidence := some ⟨phase, host.owner.bootId, host.owner.netns, some host.owner, host.ports⟩ }

def writeEvidence (phase : String) : Setup Unit := do
  let host ← Upward.get
  (host.ifb :: host.ports.map Prod.fst).forM fun name => do let _ ← tcShow name
  command
  atomicWrite phase

/-! ### Recovery -/

/-- What can be read of the processes, the boot and the own network namespace. -/
structure Proc where
  comm : ℕ → Option String
  starttime : ℕ → Option ℕ
  (bootId netns : Option String)

variable (proc : Proc)

def currentProcessOwner (pid : ℕ) : RecoveryOwner :=
  ⟨pid, proc.comm pid, proc.starttime pid, proc.bootId, proc.netns⟩

def agentComm : String := "netqmon-agent"

def RecoveryOwner.isEmpty (owner : RecoveryOwner) : Bool :=
  owner.pid = 0 && owner.comm.isNone && owner.starttime.isNone

def recoveryOwnerIsLive (owner : RecoveryOwner) : Bool :=
  if owner.pid = 0 then false
  else match owner.starttime with
    | some expected => proc.starttime owner.pid = some expected
    | none => match proc.comm owner.pid, owner.comm with
      | some actual, some expected => actual = trim expected
      | some actual, none => actual = agentComm
      | none, _ => false

def ensureRecoveryOwnerExited (evidence : Evidence) : Except String Unit :=
  match evidence.owner with
  | none => .ok ()
  | some owner =>
    let starttime := match owner.starttime with
      | none => "None"
      | some starttime => s!"Some({starttime})"
    ensure (owner.isEmpty || !recoveryOwnerIsLive proc owner)
      s!"priority_runtime_owned_by_live_process: pid {owner.pid} starttime {starttime} is still running"

def recoveryScopeMatches (evidence : Evidence) (bootId netns : Option String) : Bool :=
  evidence.bootId.all (bootId = some ·) && evidence.netns.all (netns = some ·)

/-- A file that is missing or cannot be read says nothing. -/
def recoverStalePriorityResources (reclaim : Devices → Except String Devices) (network : Network) :
    Except String Network := do
  let evidence := network.evidence.getD ⟨"", none, none, none, []⟩
  if recoveryScopeMatches evidence proc.bootId proc.netns then
    ensureRecoveryOwnerExited proc evidence
    return { network with devices := ← reclaim network.devices }
  else
    return network

/-! ### Preparation -/

def inspectPort (devices : Devices) (name : String) : Except String (String × OriginalQueueRoot) := do
  match devices.lookup name with
  | none => .error "Cannot find device"
  | some device =>
    let root ← device.root
    ensure device.filters.isEmpty ("priority_tc_conflict: foreign filter exists on " ++ name)
    return (name, root)

/-- A start in which a command of the inspection fails changes nothing. -/
def prepare (pid : ℕ) (ifb : String) (names : List String) (defaultRoot : OriginalQueueRoot)
    (reclaim : Devices → Except String Devices) (found : Network) (faults : List (Option String)) :
    Except String Host := do
  let network ← recoverStalePriorityResources proc reclaim found
  let ports ← names.mapM (inspectPort network.devices)
  ensure (network.devices.lookup ifb).isNone "priority_ifb_conflict: IFB name already exists"
  let changes : Changes := ⟨false, none, .empty, [], false, .empty⟩
  -- A failure to write the file is only logged.
  let host := ((writeEvidence "prepared").observe.run
    ⟨currentProcessOwner proc pid, ifb, ports, defaultRoot, changes, network, faults, []⟩).2
  return { host with history := [] }

/-! ### Activation -/

def unsupportedRoot : Except String OriginalQueueRoot :=
  .error "priority_qdisc_conflict: unsupported root qdisc htb"

def addRoot (expectedOriginal : OriginalQueueRoot) : Setup Unit := do
  check ((← captureRoot name) = expectedOriginal)
    ("priority_qdisc_conflict: " ++ name ++ " queue tree changed before replacement")
  tc name fun d => { d with root := unsupportedRoot, owned := true }
  note fun c => { c with ownedRoots := c.ownedRoots.add name }
  -- The classes and the queue below the root.
  command

/-- A new link has the root that the kernel gives it. -/
def addLink (defaultRoot : OriginalQueueRoot) : Setup Unit := do
  command
  check ((← Upward.get).network.devices.lookup name).isNone "File exists"
  setDevices (·.insert name ⟨.ok defaultRoot, false, false, []⟩)

def createOwnedQueues : Setup Unit := do
  let host ← .get
  addLink host.ifb host.defaultRoot
  note fun c => { c with ifbCreated := true }
  command
  let original ← captureRoot host.ifb
  note fun c => { c with ifbOriginalRoot := some original }
  command
  addRoot host.ifb original
  host.ports.forM fun port => do
    check ((← captureRoot port.1) = port.2)
      ("priority_qdisc_conflict: " ++ port.1 ++ " queue tree changed after prepare")
    command
    addRoot port.1 port.2

def verifyOwnedQueues : Setup Unit := do
  let host ← .get
  (host.ifb :: host.ports.map Prod.fst).forM fun name => do
    check (← tcShow name).owned ("priority_qdisc_readback_failed: " ++ name)

def restoreOriginalRoot (original : OriginalQueueRoot) : Setup Unit := do
  if original.kind = "fq_codel" ∨ original.kind = "mq" then
    tc name fun d => { d with root := .ok original }
  else
    check (original.kind = "noqueue")
      ("priority_qdisc_restore_failed: unsupported saved root " ++ original.kind)
  check ((← captureRoot name) = original)
    ("priority_qdisc_restore_failed: restored tree differs on " ++ name)

def removeOwnedRoot (name : String) : Setup Unit := do
  check (← tcShow name).owned ("priority_qdisc_ownership_changed: " ++ name)
  tc name fun d => { d with root := .ok host.defaultRoot, owned := false }
  let original := if name = host.ifb then host.changes.ifbOriginalRoot
    else (host.ports.find? (·.1 = name)).map Prod.snd
  restoreOriginalRoot name (original.getD .noqueue)

/-- Do everything and report the errors. -/
def collect (steps : List (Setup Unit)) : Setup Unit := do
  let results ← steps.mapM (·.observe)
  let errors := results.filterMap fun
    | .ok _ => none
    | .error error => some error
  check errors.isEmpty ("; ".intercalate errors)

def deleteIfb : Setup Unit := do
  if host.changes.ifbCreated && (host.network.devices.lookup host.ifb).isSome then
    command
    setDevices (·.erase host.ifb)
    note fun c => { c with ifbCreated := false }

def rollbackPrepare : Setup Unit := do
  let host ← .get
  -- The BPF maps come first.
  collect (command :: host.changes.ownedRoots.keys.reverse.map (removeOwnedRoot host)
    ++ [deleteIfb host])

def ensureClsact : Setup Unit := do
  unless (← tcShow name).clsact do
    tc name fun d => { d with clsact := true }
    note fun c => { c with clsactCreated := c.clsactCreated.add name }

def removeClsact : Setup Unit := do
  check (← tcShow name).filters.isEmpty
    ("priority_clsact_ownership_changed: left " ++ name ++ " in place because filters remain")
  tc name fun d => { d with clsact := false }

def addFilter (filter name : String) : Setup Unit :=
  tc name fun d => { d with filters := filter :: d.filters }

def removeFilter (filter name : String) : Setup Unit :=
  tc name fun d => { d with filters := d.filters.erase filter }

def rollbackActivation : Setup Unit := do
  let host ← .get
  collect (host.changes.matcherAttached.map (removeFilter "matcher")
    ++ if host.changes.ifbObserverAttached then [removeFilter "ifb-observer" host.ifb] else [])
  -- Pins.
  command
  collect (host.changes.clsactCreated.keys.map removeClsact)
  rollbackPrepare

def attachFilters : Setup Unit := do
  let host ← .get
  -- Pins.
  command
  host.ports.forM fun port => do
    ensureClsact port.1
    addFilter "matcher" port.1
    note fun c => { c with matcherAttached := c.matcherAttached ++ [port.1] }
  ensureClsact host.ifb
  addFilter "ifb-observer" host.ifb
  note fun c => { c with ifbObserverAttached := true }
  command
  writeEvidence "active"

def orRollback (x rollback : Setup Unit) : Setup Unit := do
  if let .error error ← x.observe then
    let _ ← rollback.observe
    .ofExcept (.error error)

def activate : Setup Unit := do
  orRollback (do createOwnedQueues; verifyOwnedQueues; command) rollbackPrepare
  -- The program handles and the pin directory.
  orRollback command rollbackPrepare
  orRollback attachFilters rollbackActivation

/-! ### Evidence at every point -/

/-- The file names the process, its boot and its namespace, and holds the captured root of every port
whose root is replaced. -/
def Accounted (network : Network) : Bool :=
  network.evidence.any fun evidence => evidence.owner = some host.owner
    && evidence.bootId = host.owner.bootId && evidence.netns = host.owner.netns
    && host.ports.all fun port =>
      !(network.devices.lookup port.1).any (·.owned) || evidence.originalQdiscRoots.contains port

variable {proc : Proc} {pid : ℕ} {ifb : String} {names : List String}
  {defaultRoot : OriginalQueueRoot} {reclaim : Devices → Except String Devices}
  {found network : Network} {faults : List (Option String)} {host : Host}

theorem evidence_of_recovered (h : recoverStalePriorityResources proc reclaim found = .ok network) :
    network.evidence = found.evidence := by
  unfold recoverStalePriorityResources at h
  dsimp only at h
  split_ifs at h
  · obtain ⟨-, h⟩ := seq_eq_ok.1 h
    obtain ⟨devices, -, h⟩ := bind_eq_ok.1 h
    cases h
    rfl
  · cases h
    rfl

/-- The runtime finds no file of its own: a start with a file of a live process is refused. -/
theorem not_accounted_of_recovered (hpid : pid ≠ 0) (hself : (proc.starttime pid).isSome)
    (hrecovered : recoverStalePriorityResources proc reclaim found = .ok network)
    (howner : host.owner = currentProcessOwner proc pid) {changed : Network}
    (hfile : changed.evidence = network.evidence) : ¬ Accounted host changed := by
  intro h
  rw [evidence_of_recovered hrecovered] at hfile
  obtain ⟨starttime, hstart⟩ := Option.isSome_iff_exists.1 hself
  cases hfound : found.evidence with
  | none => simp [Accounted, hfile, hfound] at h
  | some evidence =>
    simp only [Accounted, hfile, hfound, howner, Option.any_some, Bool.and_eq_true,
      decide_eq_true_eq] at h
    obtain ⟨⟨⟨hnamed, hboot⟩, hnetns⟩, -⟩ := h
    -- The file is of this boot and namespace, so the process that it names is looked for.
    have hscope : recoveryScopeMatches evidence proc.bootId proc.netns = true := by
      rw [recoveryScopeMatches, hboot, hnetns]
      simp [currentProcessOwner, Option.all_eq_true]
    have hexited : ensureRecoveryOwnerExited proc evidence = .ok () := by
      unfold recoverStalePriorityResources at hrecovered
      simp only [hfound, Option.getD_some, hscope, if_true] at hrecovered
      exact (seq_eq_ok.1 hrecovered).1
    simp [ensureRecoveryOwnerExited, hnamed, ensure_eq_ok, RecoveryOwner.isEmpty, recoveryOwnerIsLive,
      currentProcessOwner, hpid, hstart] at hexited

/-! ### The first commands of a start -/

theorem run_command_ok (h : ∀ error, host.faults.head? ≠ some (some error)) :
    command.run host = (.ok (), { host with faults := host.faults.tail }) := by
  rcases hfaults : host.faults with _ | ⟨_ | error, rest⟩
  · simp only [command, hfaults]
  · simp only [command, hfaults]
  · exact absurd (hfaults ▸ rfl) (h error)

theorem run_tcShow_absent (habsent : host.network.devices.lookup name = none) :
    ∃ error, (tcShow name).run host = (.error error, { host with faults := host.faults.tail }) := by
  by_cases hfault : ∃ error, host.faults.head? = some (some error)
  · obtain ⟨error, hfault⟩ := hfault
    obtain ⟨rest, hfaults⟩ := List.head?_eq_some_iff.1 hfault
    exact ⟨error, run_bind_error _ (by simp only [command, hfaults])⟩
  · refine ⟨"Cannot find device",
      (run_bind_ok _ (run_command_ok (not_exists.1 hfault))).trans ((run_bind_ok _ rfl).trans ?_)⟩
    dsimp only
    rw [habsent]
    rfl

theorem run_writeEvidence (habsent : host.network.devices.lookup host.ifb = none) (phase : String) :
    ((writeEvidence phase).run host).2 = { host with faults := host.faults.tail } := by
  obtain ⟨error, hshow⟩ := run_tcShow_absent host.ifb habsent
  have hall := run_bind_error (fun _ => (host.ports.map Prod.fst).forM fun name => do
    let _ ← tcShow name) (run_bind_error (fun _ => pure ()) hshow)
  exact congrArg Prod.snd (run_bind_error (fun _ => do command; atomicWrite phase) hall)

theorem prepare_spec (h : prepare proc pid ifb names defaultRoot reclaim found faults = .ok host) :
    recoverStalePriorityResources proc reclaim found = .ok host.network ∧
      host.owner = currentProcessOwner proc pid ∧ host.history = [] ∧ host.faults = faults.tail ∧
      host.network.devices.lookup host.ifb = none ∧
      host.changes = ⟨false, none, .empty, [], false, .empty⟩ := by
  obtain ⟨network, hrecovered, h⟩ := bind_eq_ok.1 h
  obtain ⟨ports, -, h⟩ := bind_eq_ok.1 h
  obtain ⟨habsent, h⟩ := seq_eq_ok.1 h
  rw [ensure_eq_ok, Option.isNone_iff_eq_none] at habsent
  have hwrite := @run_writeEvidence ⟨currentProcessOwner proc pid, ifb, ports, defaultRoot,
    ⟨false, none, .empty, [], false, .empty⟩, network, faults, []⟩ habsent "prepared"
  obtain rfl := Except.ok.inj h
  dsimp only [observe]
  rw [hwrite]
  exact ⟨hrecovered, rfl, rfl, rfl, habsent, rfl⟩

theorem history_of_refused {error : String}
    (hprepare : prepare proc pid ifb names defaultRoot reclaim found faults = .ok host)
    (hrefused : faults[1]? = some (some error)) : (activate.run host).2.history = [] := by
  obtain ⟨-, -, hhistory, hfaults, -, hchanges⟩ := prepare_spec hprepare
  obtain ⟨rest, hrest⟩ : ∃ rest, faults.tail = some error :: rest := by
    rcases faults with _ | ⟨_, _ | ⟨_, rest⟩⟩ <;> simp_all
  cases host
  dsimp only at hhistory hfaults hchanges
  subst hhistory hchanges hfaults
  rw [hrest]
  rcases rest with _ | ⟨_ | _, _⟩ <;> rfl

/-- Otherwise the link is made while the file is the one that was found. -/
theorem link_mem_history
    (hprepare : prepare proc pid ifb names defaultRoot reclaim found faults = .ok host)
    (hrefused : ∀ error, faults[1]? ≠ some (some error)) :
    ∃ changed ∈ (activate.run host).2.history, changed.evidence = host.network.evidence := by
  obtain ⟨-, -, -, hfaults, habsent, -⟩ := prepare_spec hprepare
  have hcommand := @run_command_ok host fun error h => hrefused error (by
    rw [hfaults] at h
    rcases faults with _ | ⟨_, _ | ⟨_, rest⟩⟩ <;> simp_all)
  let changed : Network := ⟨host.network.devices.insert host.ifb
    ⟨.ok host.defaultRoot, false, false, []⟩, host.network.evidence⟩
  have hadded : ((addLink host.ifb host.defaultRoot).run host).2.history =
      changed :: host.history := by
    rw [addLink, run_bind_ok _ hcommand, run_bind_ok _ rfl]
    dsimp only
    rw [habsent]
    rfl
  have hlink : ((addLink host.ifb host.defaultRoot).run host).2 ≤ (activate.run host).2 := by
    have hqueues : _ ≤ (createOwnedQueues.run host).2 :=
      run_le_bind (addLink host.ifb host.defaultRoot) _ host
    have hsetup := hqueues.trans (run_le_bind createOwnedQueues
      (fun _ => do verifyOwnedQueues; command) host)
    exact hsetup.trans ((run_le_bind (observe _) _ host).trans (run_le_bind _ _ host))
  exact ⟨changed, List.IsSuffix.subset hlink (hadded ▸ List.mem_cons_self), rfl⟩

/-- **Evidence precedes changes** only if there are none: in a start of a process that can read its own
start time, the file accounts for every change that `activate` makes exactly if the command that
creates the IFB link, the first one, fails. -/
theorem evidence_precedes_changes_iff
    (hprepare : prepare proc pid ifb names defaultRoot reclaim found faults = .ok host)
    (hpid : pid ≠ 0) (hself : (proc.starttime pid).isSome) :
    (∀ changed ∈ (activate.run host).2.history, Accounted host changed) ↔
      ∃ error, faults[1]? = some (some error) := by
  constructor
  · intro h
    by_contra hrefused
    obtain ⟨changed, hmem, hfile⟩ := link_mem_history hprepare (not_exists.1 hrefused)
    obtain ⟨hrecovered, howner, -⟩ := prepare_spec hprepare
    exact not_accounted_of_recovered hpid hself hrecovered howner hfile (h changed hmem)
  · rintro ⟨error, hrefused⟩ changed hmem
    rw [history_of_refused hprepare hrefused] at hmem
    cases hmem

/-! ### Starts of a process -/

def sampleProc : Proc where
  comm pid := if pid = 812 then some agentComm else none
  starttime pid := if pid = 812 then some 4711 else none
  bootId := some "boot"
  netns := some "ns"

/-- There is nothing to reclaim. -/
def sampleStart (evidence : Option Evidence) (faults : List (Option String)) : Except String Host :=
  let devices : Devices := (∅ : Devices).insert "lan1" ⟨.ok .noqueue, false, false, []⟩
  prepare sampleProc 812 "ifb0" ["lan1"] .noqueue .ok ⟨devices, evidence⟩ faults

/-- The file of an agent that was killed. -/
def staleEvidence : Evidence :=
  ⟨"active", some "boot", some "ns", some ⟨700, some agentComm, some 1234, some "boot", some "ns"⟩,
    [("lan1", .noqueue)]⟩

/-- The link cannot be created. -/
theorem accounted_refused_link : ∃ host,
    sampleStart (some staleEvidence) [none, some "File exists"] = .ok host ∧
      ∀ changed ∈ (activate.run host).2.history, Accounted host changed := by
  have hstart : sampleStart (some staleEvidence) [none, some "File exists"] = .ok _ := rfl
  exact ⟨_, hstart, (evidence_precedes_changes_iff hstart (by decide) rfl).2 ⟨_, rfl⟩⟩

/-- The prepared file is not written, as there is no IFB link that it could describe. When the link
has been made, there is no evidence of it. -/
theorem killed_without_evidence : ∃ host, sampleStart none [] = .ok host ∧
    ¬ ∀ changed ∈ (activate.run host).2.history, Accounted host changed :=
  ⟨_, rfl, by decide +kernel⟩

/-- A file that names this process stops the start. -/
example : sampleStart (some { staleEvidence with owner := currentProcessOwner sampleProc 812 }) [] =
    .error "priority_runtime_owned_by_live_process: pid 812 starttime Some(4711) is still running" := by
  rfl

end Netqmon.Agent.Priority.Startup
