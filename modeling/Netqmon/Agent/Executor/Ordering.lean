import Netqmon.Agent.Executor.Reconcile
import Netqmon.Agent.Executor.Stages

/-! # The order of saved snapshots

A snapshot is only saved if it is not older than the saved one. Whatever is delivered, and whatever
fails on the way, the saved revision never falls, and as long as the controller's epoch stays the
same, neither does the pair of revision and generation (`snapshots_ordered`). The agent remembers
one epoch only: a snapshot of an earlier epoch that comes back is compared with nothing but the
saved revision (`earlier_epoch_returns`). -/

namespace Netqmon.Agent.Executor.Ordering

open SavedState Executor.Topology Plan Process Reconcile
open Stages Lib.Checks Lib.EarlyReturn Protocol.Policy
open Protocol.Validate

variable {W : Type} {host : Host W} {ctx : Context} {snapshot : PolicySnapshot}
  {topology : PolicyTopology}

/-! ### One call -/

/-- `file` is the content of the state file: only a write changes it, and one that fails may have
changed it or not. -/
structure KeepsFile (host : Host W) (file : W → Option PolicyState) : Prop where
  load : ∀ w old, host.load w = .ok old → file w = old
  runner : ∀ saved, RunnerKeeps host (file · = saved)
  persisted : ∀ state w, (host.persist state w).1.isOk = true →
    file (host.persist state w).2 = some state
  refused : ∀ state w, file (host.persist state w).2 = file w ∨
    file (host.persist state w).2 = some state

/-- The new state is not older than the saved one. -/
structure Follows (old new : PolicyState) : Prop where
  revision : old.configRevision ≤ new.configRevision
  pair : new.controllerEpoch = old.controllerEpoch →
    toLex (old.configRevision, old.bundleGeneration) ≤
      toLex (new.configRevision, new.bundleGeneration)
  identity : new.controllerEpoch = old.controllerEpoch →
    new.configRevision = old.configRevision → new.bundleGeneration = old.bundleGeneration →
      new.checksum = old.checksum

theorem Follows.refl (old : PolicyState) : Follows old old :=
  ⟨le_rfl, fun _ => le_rfl, fun _ _ _ => rfl⟩

theorem Follows.trans {a b c : PolicyState} (hab : Follows a b) (hbc : Follows b c)
    (hep : b.controllerEpoch = a.controllerEpoch) : Follows a c where
  revision := hab.revision.trans hbc.revision
  pair hc := (hab.pair hep).trans (hbc.pair (hc.trans hep.symm))
  identity hc hrev hgen := by
    have hle := hab.pair hep
    have hle' := hbc.pair (hc.trans hep.symm)
    rw [hrev, hgen] at hle'
    have heq := Prod.mk.inj (toLex.injective (le_antisymm hle' hle))
    exact (hbc.identity (hc.trans hep.symm) (hrev.trans heq.1.symm)
      (hgen.trans heq.2.symm)).trans (hab.identity hep heq.1 heq.2)

/-- What a call may do to the state file. -/
def Advances (before after : Option PolicyState) : Prop :=
  after = before ∨ ∃ new, after = some new ∧ ∀ old, before = some old → Follows old new

variable {file : W → Option PolicyState}

variable {saved : Option PolicyState}

theorem loadPrevious_file (h : KeepsFile host file) :
    Triple (file · = saved) (loadPrevious host ctx snapshot topology)
      (fun old w => (old = saved ∧ ∀ prev, old = some prev →
        checkOrder ctx snapshot topology prev = .ok ()) ∧ file w = saved)
      (fun _ w => file w = saved) := by
  refine Triple.bind (Q := fun loaded w => (∀ old, loaded = .ok old → old = saved) ∧ file w = saved)
    (Triple.read fun w hw => ⟨fun old hold => (h.load w old hold).symm.trans hw, hw⟩)
    fun loaded => Triple.assume fun hloaded => ?_
  refine Triple.bind (Q := fun old w => old = saved ∧ file w = saved) (Triple.ofExcept ?_ ?_)
    fun old => Triple.assume fun hold => ?_
  · intro old hold w hw
    cases loaded with
    | error e => cases hold
    | ok found =>
      cases hold
      exact ⟨hloaded _ rfl, hw⟩
  · intro _ _ w hw
    exact hw
  refine Triple.bind (Q := fun _ w => file w = saved)
    (Triple.call ((h.runner saved).recoverShapingJournal _)) fun recovered => ?_
  refine Triple.bind
    (Triple.ofExcept (fun _ _ _ hw => hw) fun _ _ _ hw => hw) fun _ => ?_
  cases old with
  | none => exact Triple.pure fun w hw => ⟨⟨hold, nofun⟩, hw⟩
  | some prev =>
    refine Triple.bind (Triple.ofExcept (fun _ hor w hw => ⟨hor, hw⟩) fun _ _ _ hw => hw)
      fun _ => Triple.assume fun hor => Triple.pure fun w hw => ⟨⟨hold, ?_⟩, hw⟩
    rintro _ ⟨⟩
    exact hor

theorem saveState_file (h : KeepsFile host file) (old : Option PolicyState) (plan : BuiltPlan)
    (shape : PreparedShape) (journal : Bool) :
    Triple (file · = saved) (saveState host ctx snapshot topology old plan shape journal)
      (fun _ w => file w = saved ∨
        file w = some (fromSnapshot ctx snapshot topology plan shape.saved))
      (fun _ w => file w = saved ∨
        file w = some (fromSnapshot ctx snapshot topology plan shape.saved)) := by
  unfold saveState
  dsimp only
  split
  · exact ((h.runner saved).undo old shape.desired _ journal _ _).imp (fun _ hw => hw)
      (fun _ _ hw => .inl hw) fun _ _ hw => .inl hw
  split
  · refine Triple.bind (Q := fun _ w => file w = saved ∨
      file w = some (fromSnapshot ctx snapshot topology plan shape.saved))
      (Triple.call fun w hw => ?_) fun persisted => ?_
    · rcases h.refused (fromSnapshot ctx snapshot topology plan shape.saved) w with hk | hnew
      · exact .inl (hk.trans hw)
      · exact .inr hnew
    · split
      · exact Triple.pure fun _ hw => hw
      · intro w hw
        rcases hw with hw | hw
        · exact ((h.runner saved).undo old shape.desired _ journal _ _).imp (fun _ hw => hw)
            (fun _ _ hw => .inl hw) (fun _ _ hw => .inl hw) w hw
        · exact ((h.runner _).undo old shape.desired _ journal _ _).imp (fun _ hw => hw)
            (fun _ _ hw => .inr hw) (fun _ _ hw => .inr hw) w hw
  · exact Triple.pure fun _ hw => .inl hw

/-- **One call.** The state file stays, or its new content follows the old one. -/
theorem processSnapshotWith_file (h : KeepsFile host file) :
    Triple (file · = saved) (processSnapshotWith host ctx snapshot topology)
      (fun _ w => Advances saved (file w)) (fun _ w => Advances saved (file w)) := by
  have hr := h.runner saved
  have hk : ∀ {α : Type} {p : Prog W PolicyAck α}, Keeps (file · = saved) p →
      Triple (file · = saved) p (fun _ w => file w = saved) (fun _ w => Advances saved (file w)) :=
    fun hp => hp.imp (fun _ hw => hw) (fun _ _ hw => hw) fun _ _ hw => .inl hw
  refine Triple.bind (Q := fun _ w => file w = saved) (Triple.read fun _ hw => hw)
    fun disabled => ?_
  refine (hk (Keeps.ofExcept _)).bind fun _ => ?_
  refine Triple.bind ((loadPrevious_file h).imp (fun _ hw => hw) (fun _ _ hw => hw)
    fun _ _ hw => .inl hw) fun old => Triple.assume fun ⟨hold, hor⟩ => ?_
  refine (hk (Keeps.ofExcept _)).bind fun _ => ?_
  refine (hk (hr.preflight _ _)).bind fun plan => ?_
  refine (hk (hr.prepareShape _ plan)).bind fun shape => ?_
  refine (hk (hr.writeJournal old shape)).bind fun journal => ?_
  refine (hk (hr.installNft old plan shape.saved journal)).bind fun _ => ?_
  refine (hk (hr.installShape old shape journal)).bind fun _ => ?_
  -- from here on the file holds the new state, or still the old one
  have hadv : ∀ after, after = saved ∨
      after = some (fromSnapshot ctx snapshot topology plan shape.saved) →
        Advances saved after := by
    rintro after (rfl | rfl)
    · exact .inl rfl
    · refine .inr ⟨_, rfl, fun prev hpr => ?_⟩
      have hpassed := hor prev (hold.trans hpr)
      simp only [checkOrder, seq_eq_ok, ensure_eq_ok, decide_eq_true_eq] at hpassed
      obtain ⟨hrevision, hstale, hconf⟩ := hpassed
      refine ⟨hrevision, fun hep => ?_, fun hep hrev hgen => ?_⟩
      · rw [Prod.Lex.toLex_le_toLex]
        grind [fromSnapshot]
      · grind [fromSnapshot]
  refine Triple.bind ((saveState_file h old plan shape journal).imp (fun _ hw => hw)
    (fun _ w hw => hadv (file w) hw) fun _ w hw => hadv (file w) hw) fun _ => ?_
  refine Triple.bind (fun w hw => ?_)
    fun _ => Triple.pure fun _ hw => hw
  exact (h.runner (file w)).dropJournal journal |>.imp (fun _ hw => hw)
    (fun _ w' hw' => by rwa [hw']) (fun _ w' hw' => by rwa [hw']) w rfl

variable {w : W}

theorem advances_result (h : KeepsFile host file) :
    Advances (file w) (file ((processSnapshotWith host ctx snapshot topology).result w).2) := by
  rcases (processSnapshotWith_file h).result rfl with hok | hearly
  · exact hok
  · exact hearly

/-! ### Runs -/

/-- What makes the agent process a snapshot. -/
inductive Event
  | deliver (ctx : Context) (topology : PolicyTopology) (snapshot : PolicySnapshot)
  | reconcile (inspected : Context × PolicyTopology) (ctx : Context) (topology : PolicyTopology)
  | restore (ctx : Context) (topology : PolicyTopology)

def step (host : Host W) (w : W) : Event → W
  | .deliver ctx topology snapshot => ((processSnapshotWith host ctx snapshot topology).result w).2
  | .reconcile inspected ctx topology => (reconcileSaved host ctx topology inspected w).2
  | .restore ctx topology => (restoreLocal host ctx topology w).2

def run (host : Host W) (w : W) (events : List Event) : W := events.foldl (step host) w

theorem advances_step (h : KeepsFile host file) (event : Event) :
    Advances (file w) (file (step host w event)) := by
  cases event with
  | deliver ctx topology snapshot => exact advances_result h
  | reconcile inspected ctx topology =>
    dsimp only [step, reconcileSaved]
    split
    · split
      · exact .inl rfl
      · split
        · exact .inl rfl
        · exact advances_result h
    · exact .inl rfl
  | restore ctx topology =>
    dsimp only [step, restoreLocal]
    split
    · exact .inl rfl
    · split
      · exact advances_result h
      · exact .inl rfl

variable {events : List Event}

/-- Once there is a saved state, there always is one, and its revision does not fall. -/
theorem revision_run (h : KeepsFile host file) {a : PolicyState} (ha : file w = some a) :
    ∃ b, file (run host w events) = some b ∧ a.configRevision ≤ b.configRevision := by
  induction events generalizing w a with
  | nil => exact ⟨a, ha, le_rfl⟩
  | cons event events ih =>
    rcases advances_step h event with hk | ⟨new, hnew, hfol⟩
    · exact ih (hk.trans ha)
    · obtain ⟨b, hb, hle⟩ := ih hnew
      exact ⟨b, hb, (hfol a ha).revision.trans hle⟩

theorem follows_run (h : KeepsFile host file) {a b : PolicyState} (ha : file w = some a)
    (hb : file (run host w events) = some b)
    (hep : ∀ n c, file (run host w (events.take n)) = some c → c.controllerEpoch = a.controllerEpoch) :
    Follows a b := by
  induction events generalizing w a with
  | nil =>
    obtain rfl : a = b := Option.some.inj (ha.symm.trans hb)
    exact .refl a
  | cons event events ih =>
    have hlt : ∀ n c, file (run host (step host w event) (events.take n)) = some c →
        c.controllerEpoch = a.controllerEpoch := fun n c hc => hep (n + 1) c hc
    rcases advances_step h event with hk | ⟨new, hnew, hfol⟩
    · exact ih (hk.trans ha) hb hlt
    · have hsm : new.controllerEpoch = a.controllerEpoch := hlt 0 new hnew
      exact (hfol a ha).trans
        (ih hnew hb fun n c hc => (hlt n c hc).trans hsm.symm) hsm

/-- **Saved snapshots are ordered.** In every run the saved revision never falls. As long as the
saved states are all of one epoch, the pair of revision and generation does not fall either, and the
same pair means the same checksum. -/
theorem snapshots_ordered (host : Host W) (file : W → Option PolicyState)
    (h : KeepsFile host file) (w : W) (events : List Event) (a : PolicyState)
    (ha : file w = some a) :
    ∃ b, file (run host w events) = some b ∧ a.configRevision ≤ b.configRevision ∧
      ((∀ n c, file (run host w (events.take n)) = some c →
          c.controllerEpoch = a.controllerEpoch) →
        toLex (a.configRevision, a.bundleGeneration) ≤
            toLex (b.configRevision, b.bundleGeneration) ∧
          (b.configRevision = a.configRevision → b.bundleGeneration = a.bundleGeneration →
            b.checksum = a.checksum)) := by
  obtain ⟨b, hb, hle⟩ := revision_run h ha
  refine ⟨b, hb, hle, fun hepoch => ?_⟩
  have hfollows := follows_run h ha hb hepoch
  have hsame : b.controllerEpoch = a.controllerEpoch :=
    hepoch events.length b (by rwa [List.take_length])
  exact ⟨hfollows.pair hsame, hfollows.identity hsame⟩

/-! ### Concrete runs -/

/-- A host of which only the state file matters. -/
def fileHost : Host (Option PolicyState) :=
  .working (fun _ => false) .ok (fun state _ => some state) false

theorem keepsFile_fileHost : KeepsFile fileHost id where
  load _ _ hload := Except.ok.inj hload
  runner _ :=
    { clearOwned := fun _ h => h
      isInstalled := fun _ h => h
      replace := fun _ _ _ h => h
      inspectMarkConflicts := fun _ _ _ h => h
      prepareShaping := fun _ _ _ h => h
      writeShapingJournal := fun _ _ _ h => h
      applyShaping := fun _ _ _ h => h
      rollbackShaping := fun _ _ _ h => h
      clearShapingJournal := fun _ h => h
      recoverShapingJournal := fun _ _ h => h }
  persisted _ _ _ := rfl
  refused _ _ := .inr rfl

def firstEpoch : String := "00000000-0000-4000-8000-00000000000a"
def secondEpoch : String := "00000000-0000-4000-8000-00000000000b"

variable (epoch : String)

/-- The checksum of the snapshot without policies at the revision 5, by epoch and generation. -/
def sampleChecksum (generation : ℕ) : String :=
  if epoch == secondEpoch then
    "sha256:6a3c830c3e609cac575c176c732f051d7e09e48e0ec95a094b3aa08858b92bd8"
  else if generation == 3 then
    "sha256:0436e9e347f01ecf9d997802310ebcbd22d4cacfd4b66891626e19e082134860"
  else "sha256:480274a997612e8f698fa351804e4e8a041607a89ab173e870b5f017cc5ee203"

def sampleSnapshot (generation : ℕ) : PolicySnapshot :=
  { plainSnapshot with
    controllerEpoch := epoch
    configRevision := 5
    bundleGeneration := generation
    checksum := sampleChecksum epoch generation }

def sampleContext : Context :=
  { codec := ⟨fun payload => sampleChecksum payload.controllerEpoch payload.bundleGeneration,
      fun _ => 352⟩
    digest16 := fun _ => 0
    topologyFingerprint := fun _ => ""
    gatewayId := "gw-test"
    bootId := "boot"
    now := some 1791600001000
    reportedNow := some 1791600001500 }

/-- Nothing is known of the network. -/
def noTopology : PolicyTopology :=
  ⟨false, none, none, .allUnsupported, none, none, [], [], none, none, none, none, none, [], [], false⟩

def delivery (generation : ℕ) : Event :=
  .deliver sampleContext noTopology (sampleSnapshot epoch generation)

/-- The identity of a saved snapshot, without its checksum. -/
def identityOf (saved : PolicyState) : String × ℕ × ℕ :=
  (saved.controllerEpoch, saved.configRevision, saved.bundleGeneration)

/-- Generation 2, then 3, then 2 again, which is refused. -/
theorem later_generation_stays :
    (∃ a, run fileHost none [delivery firstEpoch 2] = some a ∧
      ∃ b, run fileHost (run fileHost none [delivery firstEpoch 2])
          [delivery firstEpoch 3, delivery firstEpoch 2] = some b ∧
        a.configRevision ≤ b.configRevision) ∧
    (run fileHost none [delivery firstEpoch 2, delivery firstEpoch 3,
      delivery firstEpoch 2]).map identityOf = some (firstEpoch, 5, 3) := by
  refine ⟨?_, by decide +kernel⟩
  rcases hsaved : run fileHost none [delivery firstEpoch 2] with _ | a
  · exact absurd (congrArg Option.isSome hsaved) (by decide +kernel)
  · obtain ⟨b, hb, hle, -⟩ := snapshots_ordered fileHost id keepsFile_fileHost (some a)
      [delivery firstEpoch 3, delivery firstEpoch 2] a rfl
    exact ⟨a, rfl, b, hb, hle⟩

/-- After a snapshot of another epoch, an older generation of the first epoch is saved again. -/
theorem earlier_epoch_returns :
    (∀ generation ∈ [2, 3], validateSnapshot sampleContext.codec
      (sampleSnapshot firstEpoch generation) = .ok ()) ∧
    validateSnapshot sampleContext.codec (sampleSnapshot secondEpoch 1) = .ok () ∧
    (run fileHost none [delivery firstEpoch 3]).map identityOf = some (firstEpoch, 5, 3) ∧
    (run fileHost none [delivery firstEpoch 3, delivery secondEpoch 1]).map identityOf =
      some (secondEpoch, 5, 1) ∧
    (run fileHost none [delivery firstEpoch 3, delivery secondEpoch 1,
      delivery firstEpoch 2]).map identityOf = some (firstEpoch, 5, 2) := by
  decide +kernel

end Netqmon.Agent.Executor.Ordering
