import Netqmon.Agent.Receiver.Reshape
import Netqmon.Lib.OneFault

/-! # What a failed command leaves behind

A command that is acknowledged as failed because an operation on a map failed should have no effect.
A block and an allow work on the verdict map and then on the map of endpoint blocks, and each of the
two parts is on its own:

* the verdict part of both is a transaction, which is undone when one of its operations fails;
* nobody undoes the verdict part when an operation on the endpoint blocks fails;
* remembering endpoint blocks, and installing a shape, undo their writes when a write fails, but not
  when a read does; forgetting endpoint blocks undoes nothing.

`Harmless` says in which states such a command changes nothing all the same, and
`failed_command_undone_iff` that there are no others. -/

namespace Netqmon.Agent.Receiver.FailedCommands

open Agent.Flow Agent.FlowAlias
open Agent.FlowVerdict.Model Agent.FlowVerdict.Operations
open Agent.FlowVerdict.Staging Agent.FlowVerdict.Outcomes
open Agent.Receiver.Command Agent.Receiver.Effects Agent.Receiver.Runs
open Agent.Receiver.Reshape (trackedAndBlocked)
open Lib.FaultMap Lib.OneFault Protocol.Policy

/-! ### The failing operation -/

/-- The map operation that fails, counted from zero among the operations on its map. -/
inductive FailedOperation
  | verdict (n : ℕ)
  | endpoint (n : ℕ)

/-- During the command exactly this operation fails, and nothing else touches the maps. -/
def Only (ctx : CommandContext) : FailedOperation → Prop
  | .verdict n => (∃ error, ctx.verdictFaults = failing n error) ∧ ctx.endpointFaults = []
  | .endpoint n => ctx.verdictFaults = [] ∧ ∃ error, ctx.endpointFaults = failing n error

/-- No failing operation is still to come. -/
def TookPlace (w : FlowVerdictWriter) : Prop := Calm w.verdictMap ∧ Calm w.endpointMap

/-- The two maps hold the same. -/
def Unchanged (w w' : FlowVerdictWriter) : Prop :=
  w'.verdictMap.get = w.verdictMap.get ∧ w'.endpointMap.get = w.endpointMap.get

variable {keys : List FlowKey}

/-! ### The verdict part of a block and of an allow -/

section Staging

variable {registry : BlockClaims} {readError : String} {decision : Decision} {n : ℕ}
  {map : Table FlowKey VerdictValue}

theorem stage_fails (keys : List FlowKey) (count : ℕ) (h : Fails n map) :
    (stage registry readError decision keys count map).2.get = map.get ∧
      ∀ staged total, (stage registry readError decision keys count map).1 = .ok (staged, total) →
        (∃ k, Fails k (stage registry readError decision keys count map).2) ∧
          ∀ s ∈ staged, s.previous = map.get s.key := by
  induction keys generalizing map n count with
  | nil =>
    refine ⟨rfl, fun staged total hok => ⟨⟨n, h⟩, ?_⟩⟩
    cases hok
    simp
  | cons key keys ih =>
    unfold stage
    cases n with
    | zero =>
      obtain ⟨error, map', hl, -, hget⟩ := lookup_fails_zero h key
      grind
    | succ n =>
      obtain ⟨map', hl, hfl, hget⟩ := lookup_fails_succ h key
      rw [hl]
      rcases hd : decision key (registry.at key) (map.get key) with error | ⟨claims, next⟩
      · grind
      obtain ⟨hsm, hdn⟩ := ih (count - (registry.at key).length + claims.length) hfl
      simp only [hd]
      rcases hs : stage registry readError decision keys
        (count - (registry.at key).length + claims.length) map' with ⟨error | ⟨staged, total⟩, map₂⟩
        <;> simp only [hs] at hsm hdn ⊢
      · exact ⟨hsm.trans hget, fun _ _ hok => by cases hok⟩
      · obtain ⟨hp, hpr⟩ := hdn staged total rfl
        refine ⟨hsm.trans hget, fun staged' total' hok => ⟨hp, ?_⟩⟩
        cases hok
        intro s hmem
        rcases List.mem_cons.1 hmem with rfl | hmem
        · rfl
        · rw [hpr s hmem, hget]

/-- Reading and then writing: all operations worked, or all writes are undone. -/
theorem commit_fails {count total : ℕ} {map' : Table FlowKey VerdictValue} {staged : List Staged}
    (h : Fails n map) (hnd : keys.Nodup)
    (hs : stage registry readError decision keys count map = (.ok (staged, total), map')) :
    (∃ k, Fails k (applyVerdictUpdates map' (stagedUpdates staged)).2) ∨
      (∃ error, (applyVerdictUpdates map' (stagedUpdates staged)).1 = .error error) ∧
        (applyVerdictUpdates map' (stagedUpdates staged)).2.get = map.get := by
  obtain ⟨hsm, hdn⟩ := @stage_fails registry readError decision n map keys count h
  rw [hs] at hsm hdn
  obtain ⟨⟨k, hfl⟩, hpr⟩ := hdn staged total rfl
  have hks := stagedUpdates_keys (stage_ok _ _ _ _ _ _ hs).1
  have hcur : ∀ key previous next, (key, previous, next) ∈ stagedUpdates staged →
      map'.get key = previous := by
    intro key previous next hmem
    obtain ⟨s, hmem', rfl, rfl, -⟩ := mem_stagedUpdates hmem
    rw [hpr s hmem', hsm]
  unfold applyVerdictUpdates
  obtain ⟨hok, k', hfails'⟩ | ⟨error, herr, -, hget⟩ :=
    transact_fails (stagedUpdates staged) [] hfl (hks ▸ hnd) hcur
  · grind
  · right
    rcases ht : map'.transact (stagedUpdates staged) [] with ⟨error' | _, map₂⟩ <;>
      rw [ht] at herr hget
    · exact ⟨⟨_, rfl⟩, hget.trans hsm⟩
    · cases herr

end Staging

/-- The verdict part with the failing operation in it: it worked and the failure is still to come,
or it reports an error and the verdicts are as before. -/
def Recovers (w : FlowVerdictWriter) (r : Except String ℕ × FlowVerdictWriter) : Prop :=
  (∃ k, Fails k r.2.verdictMap) ∨
    (∃ error, r.1 = .error error) ∧ r.2.verdictMap.get = w.verdictMap.get

variable {aliases : List FlowKey} {identity : VerdictIdentity} {w : FlowVerdictWriter}

theorem installOwnedBlock_recovers {n : ℕ} (h : Fails n w.verdictMap) (observed : List FlowKey)
    (gen expires now : ℕ) :
    Recovers w (installOwnedBlock w aliases observed identity gen expires now) := by
  unfold installOwnedBlock
  split_ifs with hready hks havailable
  · exact .inl ⟨n, h⟩
  · exact .inl ⟨n, h⟩
  · exact .inl ⟨n, h⟩
  have hnd : aliases.Nodup := by
    simp only [Bool.or_eq_true, Bool.not_eq_true', decide_eq_false_iff_not, not_or,
      not_not] at hks
    exact hks.2
  dsimp only
  rcases hs : stage (sweepExpired w.blockClaims aliases.length now)
    "read previous BPF flow verdict: " (blockDecision observed identity gen expires now)
    aliases (sweepExpired w.blockClaims aliases.length now).count w.verdictMap with
    ⟨error | ⟨staged, count⟩, map⟩
  · have hsm := congrArg (Table.get ∘ Prod.snd) hs
    exact .inr ⟨⟨_, rfl⟩, hsm.symm.trans (stage_fails _ _ h).1⟩
  · have hcom := commit_fails h hnd hs
    dsimp only
    split_ifs
    · have hsm := congrArg (Table.get ∘ Prod.snd) hs
      exact .inr ⟨⟨_, rfl⟩, hsm.symm.trans (stage_fails _ _ h).1⟩
    · rcases ha : applyVerdictUpdates map (stagedUpdates staged) with ⟨error | _, map'⟩ <;>
        rw [ha] at hcom
      · exact hcom.imp_right fun hbk => ⟨⟨_, rfl⟩, hbk.2⟩
      · exact hcom.imp_right fun hbk => by cases hbk.1.choose_spec

theorem clearAliases_recovers {n : ℕ} (h : Fails n w.verdictMap) (expectedFlowId : Option String)
    (now : ℕ) : Recovers w (clearAliases w aliases expectedFlowId now) := by
  unfold clearAliases
  split_ifs
  · exact .inl ⟨n, h⟩
  · exact .inl ⟨n, h⟩
  rcases expectedHash expectedFlowId with error | exp
  · exact .inl ⟨n, h⟩
  dsimp only
  rcases hs : stage w.blockClaims "look up BPF flow verdict: " (clearing exp now)
    aliases.eraseDups w.blockClaims.count w.verdictMap with ⟨error | ⟨staged, count⟩, map⟩
  · have hsm := congrArg (Table.get ∘ Prod.snd) hs
    exact .inr ⟨⟨_, rfl⟩, hsm.symm.trans (stage_fails _ _ h).1⟩
  · have hcom := commit_fails h (nodup_eraseDups _) hs
    dsimp only
    rcases ha : applyVerdictUpdates map (stagedUpdates staged) with ⟨error | _, map'⟩ <;>
      rw [ha] at hcom
    · exact hcom.imp_right fun hbk => ⟨⟨_, rfl⟩, hbk.2⟩
    · exact hcom.imp_right fun hbk => by cases hbk.1.choose_spec

/-- Every key holds already what is decided for it. -/
def Stands (registry : BlockClaims) (decision : Decision) (keys : List FlowKey)
    (map : Table FlowKey VerdictValue) : Prop :=
  ∀ key ∈ keys, ∀ claims next,
    decision key (registry.at key) (map.get key) = .ok (claims, next) → next = map.get key

/-- A verdict part that works changes nothing exactly if everything stands. -/
theorem committed_get_iff {w w' : FlowVerdictWriter} {registry : BlockClaims} {decision : Decision}
    {count : ℕ} (hcm : Calm w.verdictMap) (ho : Outcome w registry decision keys (.ok count, w')) :
    w'.verdictMap.get = w.verdictMap.get ↔ Stands registry decision keys w.verdictMap := by
  cases ho with
  | committed _ map map' staged hready hnd hst hap hcap hcalm' =>
    obtain ⟨rfl, hpr⟩ := hcalm' hcm
    obtain ⟨-, -, hwr, hother⟩ := commit_calm hcm hnd hst hpr
    rw [hap] at hwr hother
    have hdecided : ∀ s ∈ staged, decision s.key (registry.at s.key) (w.verdictMap.get s.key) =
        .ok (s.claims, s.next) := fun s hs => hpr s hs ▸ hst.decided s hs
    constructor
    · intro hsm key hkey claims next hd
      rw [← hst.keys_eq] at hkey
      obtain ⟨s, hs, rfl⟩ := List.mem_map.1 hkey
      have hnx : next = s.next := by
        rw [hdecided s hs, Except.ok.injEq, Prod.mk.injEq] at hd
        exact hd.2.symm
      rw [hnx, ← hwr s hs, hsm]
    · intro hstands
      funext key
      by_cases hkey : key ∈ keys
      · have hmem := hkey
        rw [← hst.keys_eq] at hmem
        obtain ⟨s, hs, rfl⟩ := List.mem_map.1 hmem
        rw [hwr s hs]
        exact hstands s.key hkey s.claims s.next (hdecided s hs)
      · exact hother key hkey

/-! ### Commands of two parts -/

section Parts

variable {n : ℕ} {w : FlowVerdictWriter} {verdictPart : Except String ℕ × FlowVerdictWriter}
  {endpointPart : FlowVerdictWriter → FlowVerdictWriter} {P Q : Prop}

/-- The endpoint blocks are worked on once the verdict part has succeeded. -/
def inParts (verdictPart : Except String ℕ × FlowVerdictWriter)
    (endpointPart : FlowVerdictWriter → FlowVerdictWriter) : FlowVerdictWriter :=
  match verdictPart with
  | (.error _, w) => w
  | (.ok _, w) => endpointPart w

/-- A failing operation on the verdicts leaves nothing behind. -/
theorem inParts_verdict (hrecovers : Recovers w verdictPart)
    (hes : verdictPart.2.endpointMap = w.endpointMap)
    (hk : ∀ w, (endpointPart w).verdictMap = w.verdictMap)
    (htk : TookPlace (inParts verdictPart endpointPart)) :
    Unchanged w (inParts verdictPart endpointPart) := by
  rcases verdictPart with ⟨error | count, w'⟩
  · obtain ⟨k, hfl⟩ | ⟨-, hsm⟩ := hrecovers
    · exact absurd htk.1 hfl.not_calm
    · exact ⟨hsm, congrArg Table.get hes⟩
  · obtain ⟨k, hfl⟩ | ⟨⟨error, herr⟩, -⟩ := hrecovers
    · exact absurd (hk w' ▸ htk.1) hfl.not_calm
    · cases herr

/-- A failing operation on the endpoint blocks leaves the verdict part behind. -/
theorem inParts_endpoint (h : Fails n w.endpointMap)
    (hes : verdictPart.2.endpointMap = w.endpointMap)
    (hk : ∀ w, (endpointPart w).verdictMap = w.verdictMap)
    (htk : TookPlace (inParts verdictPart endpointPart))
    (hok : ∀ count w', verdictPart = (.ok count, w') →
      (P ↔ w'.verdictMap.get = w.verdictMap.get) ∧ (Calm (endpointPart w').endpointMap →
        ((endpointPart w').endpointMap.get = w'.endpointMap.get ↔ Q))) :
    Unchanged w (inParts verdictPart endpointPart) ↔ P ∧ Q := by
  rcases verdictPart with ⟨error | count, w'⟩
  · exact absurd (hes ▸ htk.2) h.not_calm
  · obtain ⟨hstands, hforgets⟩ := hok count w' rfl
    rw [hstands, ← hforgets htk.2, ← hk w']
    rw [hes]
    rfl

end Parts

/-! ### What a command would write -/

variable (policyIdentityHash : String → BitVec 128) (ctx : CommandContext) (cmd : FlowCommand)
  (flow : ResolvedFlow)

def blockIdentity : Option VerdictIdentity :=
  match cmd.policyIds, flow.clientMac with
  | policyId :: _, some clientMac =>
    match flowIdentityHash cmd.policyFlowId, clientMacIdentity clientMac with
    | .ok flowHash, .ok mac => some ⟨flowHash, policyIdentityHash policyId, mac⟩
    | _, _ => none
  | _, _ => none

/-- The block is in force already, with the same deadline. -/
def BlockStands (w : FlowVerdictWriter) : Prop :=
  ∀ identity, blockIdentity policyIdentityHash cmd flow = some identity →
    Stands (sweepExpired w.blockClaims (blockReverseAliases flow.aliases).length ctx.writerNs)
      (blockDecision flow.observedAliases identity cmd.configRevision
        (commandDeadline ctx cmd ctx.receivedNs) ctx.writerNs)
      (blockReverseAliases flow.aliases) w.verdictMap

/-- There is nothing to clear. -/
def ClearStands (w : FlowVerdictWriter) : Prop :=
  ∀ flowHash, flowIdentityHash cmd.policyFlowId = .ok flowHash →
    Stands w.blockClaims (clearing (some flowHash) ctx.writerNs) (blockReverseAliases flow.aliases)
      w.verdictMap

/-- The endpoint blocks that a block command remembers. -/
def endpointBlocks : List (EndpointKey × VerdictValue) :=
  match blockIdentity policyIdentityHash cmd flow, flow.clientMac.bind (endpointExpiry ctx cmd) with
  | some identity, some expiry =>
    flow.endpointAliases.map fun key => (endpointBlockKey key identity.clientMac,
      ⟨deadlineAfter ctx.receivedNs (saturatingSub expiry ctx.nowMs % 2 ^ 64).toNat,
        cmd.configRevision, identity, 0, .block⟩)
  | _, _ => []

/-- The endpoint blocks that an allow command forgets. -/
def forgottenEndpoints : List EndpointKey :=
  match flow.clientMac.map clientMacIdentity with
  | some (.ok mac) => flow.endpointAliases.map fun key => endpointBlockKey key mac
  | _ => []

/-- The shapes that a shape command installs. -/
def shapes (cache : PolicyFlowAliasCache) : List (FlowKey × VerdictValue) :=
  match flowIdentityHash cmd.policyFlowId with
  | .ok flowHash => shapeWrites (shapeSelection ctx cache cmd flow).tags flowHash cmd.configRevision
      (commandDeadline ctx cmd ctx.shapeNs)
  | .error _ => []

/-- **The failure that does no harm**, by command and failing operation, in a state with resolved
aliases. -/
def Harmless (s : FlowState) (op : FailedOperation) : Prop :=
  match cmd.verdict, op with
  | some .block, .endpoint n =>
    BlockStands policyIdentityHash ctx cmd flow s.writer ∧
      -- operation `n` is a read if `n` is even; half as many blocks are then remembered
      (n % 2 = 0 → ∀ b ∈ (endpointBlocks policyIdentityHash ctx cmd flow).take (n / 2),
        s.writer.endpointMap.get b.1 = some b.2)
  | some .allow, .endpoint n =>
    ClearStands ctx cmd flow s.writer ∧
      ∀ key ∈ (forgottenEndpoints flow).take (n - 1), s.writer.endpointMap.get key = none
  | some .shape, .verdict n =>
    n % 2 = 0 →
      ∀ b ∈ (shapes ctx cmd flow s.cache).take (n / 2), s.writer.verdictMap.get b.1 = some b.2
  | _, _ => True

/-! ### Blocks -/

variable {policyIdentityHash ctx cmd flow} {n : ℕ} {s : FlowState} {policyId clientMac : String}

variable {rest : List String}

theorem writer_applyBlock (hids : cmd.policyIds = policyId :: rest)
    (hmac : flow.clientMac = some clientMac) :
    (applyBlock policyIdentityHash ctx s cmd flow).2.writer =
      inParts (installBlock policyIdentityHash s.writer (blockReverseAliases flow.aliases)
          flow.observedAliases cmd.policyFlowId policyId clientMac cmd.configRevision
          (commandDeadline ctx cmd ctx.receivedNs) ctx.writerNs)
        fun w => (rememberEndpoints policyIdentityHash ctx cmd flow policyId clientMac w).2 := by
  grind [applyBlock, inParts, FlowState.recordCommand]

theorem applyBlock_verdict (h : Fails n s.writer.verdictMap)
    (htk : TookPlace (applyBlock policyIdentityHash ctx s cmd flow).2.writer) :
    Unchanged s.writer (applyBlock policyIdentityHash ctx s cmd flow).2.writer := by
  rcases hids : cmd.policyIds with _ | ⟨policyId, rest⟩
  · simp only [applyBlock, hids] at htk
    exact absurd htk.1 h.not_calm
  rcases hmac : flow.clientMac with _ | clientMac
  · simp only [applyBlock, hids, hmac] at htk
    exact absurd htk.1 h.not_calm
  rw [writer_applyBlock hids hmac] at htk ⊢
  refine inParts_verdict ?_ (endpointMap_installBlock ..) (fun w => (rememberEndpoints_same ..).1)
    htk
  unfold installBlock
  split
  · exact .inl ⟨n, h⟩
  · exact .inl ⟨n, h⟩
  · exact installOwnedBlock_recovers h ..

theorem consistent_endpointBlocks :
    Consistent (endpointBlocks policyIdentityHash ctx cmd flow) := by
  unfold endpointBlocks
  split
  · intro b hb b' hb' _
    grind
  · intro b hb
    cases hb

theorem rememberEndpoints_fails (h : Fails n w.endpointMap)
    (hids : cmd.policyIds = policyId :: rest) (hmac : flow.clientMac = some clientMac)
    (hid : blockIdentity policyIdentityHash cmd flow = some identity)
    (htk : Calm (rememberEndpoints policyIdentityHash ctx cmd flow policyId clientMac w).2.endpointMap)
    :
    (rememberEndpoints policyIdentityHash ctx cmd flow policyId clientMac w).2.endpointMap.get =
        w.endpointMap.get ↔
      (n % 2 = 0 → ∀ b ∈ (endpointBlocks policyIdentityHash ctx cmd flow).take (n / 2),
        w.endpointMap.get b.1 = some b.2) := by
  obtain ⟨flowHash, mac, hflowHash, hmacId, rfl⟩ : ∃ flowHash mac,
      flowIdentityHash cmd.policyFlowId = .ok flowHash ∧ clientMacIdentity clientMac = .ok mac ∧
        identity = ⟨flowHash, policyIdentityHash policyId, mac⟩ := by
    simp only [blockIdentity] at hid
    split at hid
    · grind
    · cases hid
  unfold rememberEndpoints at htk ⊢
  rcases hexpiry : endpointExpiry ctx cmd clientMac with _ | expiry
  · rw [hexpiry] at htk
    exact absurd htk h.not_calm
  have hblocks : endpointBlocks policyIdentityHash ctx cmd flow =
      flow.endpointAliases.map fun key => (endpointBlockKey key mac,
        ⟨deadlineAfter ctx.receivedNs (saturatingSub expiry ctx.nowMs % 2 ^ 64).toNat,
          cmd.configRevision, ⟨flowHash, policyIdentityHash policyId, mac⟩, 0, .block⟩) := by
    simp [endpointBlocks, hid, hmac, hexpiry]
  simp only [hexpiry, rememberEndpointBlocks, hflowHash, hmacId] at htk ⊢
  split_ifs at htk ⊢ with hready havailable
  · exact absurd htk h.not_calm
  · exact absurd htk h.not_calm
  rw [← hblocks] at htk ⊢
  have hiff := overwrite_get_iff h (@consistent_endpointBlocks policyIdentityHash ctx cmd flow)
  rcases hrun : w.endpointMap.overwrite (endpointBlocks policyIdentityHash ctx cmd flow) [] with
    ⟨error | _, map⟩ <;> rw [hrun] at hiff <;> simp only [hrun] at htk
  · exact hiff htk
  · exact hiff htk

/-- A failing operation on the endpoint blocks leaves the verdicts of a block behind. -/
theorem applyBlock_endpoint (hcm : Calm s.writer.verdictMap) (h : Fails n s.writer.endpointMap)
    (htk : TookPlace (applyBlock policyIdentityHash ctx s cmd flow).2.writer) :
    Unchanged s.writer (applyBlock policyIdentityHash ctx s cmd flow).2.writer ↔
      BlockStands policyIdentityHash ctx cmd flow s.writer ∧
        (n % 2 = 0 → ∀ b ∈ (endpointBlocks policyIdentityHash ctx cmd flow).take (n / 2),
          s.writer.endpointMap.get b.1 = some b.2) := by
  rcases hids : cmd.policyIds with _ | ⟨policyId, rest⟩
  · simp only [applyBlock, hids] at htk
    exact absurd htk.2 h.not_calm
  rcases hmac : flow.clientMac with _ | clientMac
  · simp only [applyBlock, hids, hmac] at htk
    exact absurd htk.2 h.not_calm
  have hes := endpointMap_installBlock policyIdentityHash s.writer
    (blockReverseAliases flow.aliases) flow.observedAliases cmd.policyFlowId policyId clientMac
    cmd.configRevision (commandDeadline ctx cmd ctx.receivedNs) ctx.writerNs
  rw [writer_applyBlock hids hmac] at htk ⊢
  refine inParts_endpoint h hes (fun w => (rememberEndpoints_same ..).1) htk
    fun count w hrun => ?_
  rw [hrun] at hes
  -- the identity that the installed block has
  obtain ⟨identity, hid, hown⟩ : ∃ identity,
      blockIdentity policyIdentityHash cmd flow = some identity ∧
        installOwnedBlock s.writer (blockReverseAliases flow.aliases) flow.observedAliases
          identity cmd.configRevision (commandDeadline ctx cmd ctx.receivedNs) ctx.writerNs =
            (.ok count, w) := by
    unfold installBlock at hrun
    split at hrun
    · cases hrun
    · cases hrun
    · grind [blockIdentity]
  have hoc := installOwnedBlock_outcome s.writer (blockReverseAliases flow.aliases)
    flow.observedAliases identity cmd.configRevision (commandDeadline ctx cmd ctx.receivedNs)
    ctx.writerNs
  rw [hown] at hoc
  constructor
  · rw [committed_get_iff hcm hoc]
    refine ⟨fun hall => hall identity hid, fun hone identity' hidentity' => ?_⟩
    obtain rfl := Option.some.inj (hid.symm.trans hidentity')
    exact hone
  · rw [← hes] at h ⊢
    exact rememberEndpoints_fails h hids hmac hid

/-! ### Allows -/

/-- Keys are forgotten one after the other, and a forgotten key stays so. -/
theorem forgetKeys_fails (keys : List EndpointKey) {map : Table EndpointKey VerdictValue}
    (h : Fails n map) (htk : Calm (forgetKeys keys map).2) :
    (forgetKeys keys map).2.get = map.get ↔ ∀ key ∈ keys.take (n - 1), map.get key = none := by
  induction keys generalizing map n with
  | nil => exact absurd htk h.not_calm
  | cons key keys ih =>
    cases n with
    | zero =>
      obtain ⟨error, map', hl, -, hget⟩ := lookup_fails_zero h key
      grind [forgetKeys]
    | succ n =>
      obtain ⟨map', hl, hfl, hget⟩ := lookup_fails_succ h key
      simp only [forgetKeys, hl] at htk ⊢
      cases hkey : map.get key with
      | none =>
        simp only [hkey] at htk ⊢
        rw [← hget, ih hfl htk, hget]
        cases n with
        | zero => simp
        | succ n => simp [hkey]
      | some v =>
        cases n with
        | zero =>
          obtain ⟨error, map'', hput, -, hget'⟩ := put_fails_zero hfl key none
          have hdel : map'.delete key = (.error error, map'') := hput
          grind
        | succ n =>
          obtain ⟨map'', hput, -, hget'⟩ := @put_fails_succ _ _ _ n map' key none hfl
            fun _ => by simp [hget, hkey]
          have hdel : map'.delete key = (.ok (), map'') := hput
          simp only [hdel]
          -- the key was present, and is not any more
          have hgo : Holds (fun other _ => other ≠ key) map'' := by
            rintro other v' hv' rfl
            rw [hget', Function.update_self] at hv'
            cases hv'
          refine iff_of_false (fun hsm => ?_) fun hn => ?_
          · refine noEndpoint_forgetKeys keys map'' hgo key v ?_ rfl
            rw [hsm, hkey]
          · have hnone' := hn key (by simp)
            rw [hkey] at hnone'
            cases hnone'

theorem writer_applyClear : (applyClear ctx s cmd flow true).2.writer =
    inParts (clearAliases s.writer (blockReverseAliases flow.aliases) (some cmd.policyFlowId)
      ctx.writerNs) fun w => (forgetEndpoints flow w).2 := by
  grind [applyClear, inParts, FlowState.recordCommand]

/-- A failing operation on the endpoint blocks leaves the verdicts cleared. -/
theorem applyClear_endpoint (hcm : Calm s.writer.verdictMap) (h : Fails n s.writer.endpointMap)
    (htk : TookPlace (applyClear ctx s cmd flow true).2.writer) :
    Unchanged s.writer (applyClear ctx s cmd flow true).2.writer ↔
      ClearStands ctx cmd flow s.writer ∧
        ∀ key ∈ (forgottenEndpoints flow).take (n - 1), s.writer.endpointMap.get key = none := by
  have hes := endpointMap_clearAliases s.writer (blockReverseAliases flow.aliases)
    (some cmd.policyFlowId) ctx.writerNs
  have hoc := clearAliases_outcome s.writer (blockReverseAliases flow.aliases)
    (some cmd.policyFlowId) ctx.writerNs
  rw [writer_applyClear] at htk ⊢
  refine inParts_endpoint h hes (fun w => (forgetEndpoints_same flow w).1) htk
    fun count w hrun => ?_
  rw [hrun] at hes hoc
  obtain ⟨error, herr⟩ | ⟨exp, hexpected, hoc⟩ := hoc
  · cases herr
  constructor
  · rw [committed_get_iff hcm hoc]
    rcases hhash : flowIdentityHash cmd.policyFlowId with error | flowHash <;>
      simp only [expectedHash, hhash, Except.map] at hexpected
    · cases hexpected
    · grind [ClearStands, Stands, List.mem_eraseDups]
  · rw [← hes] at h ⊢
    intro htk
    unfold forgetEndpoints forgetEndpointBlocks at htk ⊢
    rcases hcli : flow.clientMac with _ | clientMac <;> simp only [hcli] at htk ⊢
    · exact absurd htk h.not_calm
    split_ifs at htk ⊢
    · exact absurd htk h.not_calm
    rcases hmac : clientMacIdentity clientMac with error | mac <;> simp only [hmac] at htk ⊢
    · exact absurd htk h.not_calm
    have hks : forgottenEndpoints flow =
        flow.endpointAliases.map fun key => endpointBlockKey key mac := by
      simp [forgottenEndpoints, hcli, hmac]
    rw [hks]
    exact forgetKeys_fails _ h htk

/-! ### Shapes -/

theorem tag_of_mem_selectPriorityShapeTags {dir : FlowKey → Option AliasDirection}
    {classid : FlowKey → Bool → Option ℕ} {t : FlowKey × ℕ}
    (ht : t ∈ (selectPriorityShapeTags aliases dir classid).tags) :
    priorityShapeTag t.1.hook (dir t.1) (classid t.1) = some (.ok t.2) := by
  unfold selectPriorityShapeTags at ht
  rw [List.mem_insertionSort] at ht
  obtain ⟨u, hu, hmap⟩ := List.mem_filterMap.1 ht
  obtain ⟨tag, htag, rfl⟩ := Option.map_eq_some_iff.1 hmap
  obtain ⟨key, -, hmap'⟩ := List.mem_filterMap.1 hu
  obtain ⟨tag', htag', rfl⟩ := Option.map_eq_some_iff.1 hmap'
  rcases tag' with gap | tag'
  · cases htag
  · obtain rfl := Option.some.inj htag
    exact htag'

variable (cache : PolicyFlowAliasCache)

/-- The tag of an alias depends on the alias alone. -/
theorem consistent_shapeSelection : Consistent (shapeSelection ctx cache cmd flow).tags := by
  intro t ht t' ht' heq
  unfold shapeSelection at ht ht'
  rcases hruntime : ctx.priorityRuntime with _ | runtime <;> simp only [hruntime] at ht ht'
  · generalize htags : (do
      let state ← ctx.saved
      applicationShapeTags (← state.shapingState) flow.aliases (← flow.clientMac) cmd.policyIds
        (fun key => shapedAlias (cache.shapeDirection cmd.policyFlowId key))
        (sharedWanIngressIfindices ctx state)) = tags at ht ht'
    rcases tags with _ | tags
    · simp at ht
    · simp only [Option.bind_eq_bind, Option.bind_eq_some_iff] at htags
      obtain ⟨state, -, shaping, -, mac, -, happ⟩ := htags
      have htag := (mem_applicationShapeTags happ ht).2
      have htag' := (mem_applicationShapeTags happ ht').2
      grind
  · rcases hcli : flow.clientMac with _ | mac <;> simp only [hcli] at ht ht'
    · cases ht
    · have htag := tag_of_mem_selectPriorityShapeTags ht
      have htag' := tag_of_mem_selectPriorityShapeTags ht'
      grind

theorem consistent_shapes : Consistent (shapes ctx cmd flow cache) := by
  unfold shapes
  split
  · intro b hb b' hb' heq
    obtain ⟨t, ht, rfl⟩ := List.mem_map.1 hb
    obtain ⟨t', ht', rfl⟩ := List.mem_map.1 hb'
    have htag : t.2 = t'.2 := consistent_shapeSelection cache t ht t' ht' heq
    rw [htag]
  · intro b hb
    cases hb

theorem applyShape_failed (hsa : (applyShape ctx s cmd flow).1.1 = .failed) :
    ∃ error w, installShape s.writer (shapeSelection ctx s.cache cmd flow).tags cmd.policyFlowId
        cmd.configRevision (commandDeadline ctx cmd ctx.shapeNs) = (.error error, w) ∧
      (applyShape ctx s cmd flow).2.writer = w := by
  unfold applyShape at hsa ⊢
  dsimp only at hsa ⊢
  split_ifs at hsa ⊢
  rcases hrun : installShape s.writer (shapeSelection ctx s.cache cmd flow).tags cmd.policyFlowId
    cmd.configRevision (commandDeadline ctx cmd ctx.shapeNs) with ⟨error | _, w⟩ <;>
    simp only [hrun] at hsa
  · exact ⟨error, w, rfl, rfl⟩
  · split_ifs at hsa
    cases hsa

/-- Shapes that were written before a read failed stay. -/
theorem applyShape_verdict (h : Fails n s.writer.verdictMap)
    (hsa : (applyShape ctx s cmd flow).1.1 = .failed)
    (htk : TookPlace (applyShape ctx s cmd flow).2.writer) :
    Unchanged s.writer (applyShape ctx s cmd flow).2.writer ↔
      (n % 2 = 0 → ∀ b ∈ (shapes ctx cmd flow s.cache).take (n / 2),
        s.writer.verdictMap.get b.1 = some b.2) := by
  have hes := endpointMap_applyShape ctx s cmd flow
  obtain ⟨error, w, hrun, hw⟩ := applyShape_failed hsa
  rw [hw] at htk hes ⊢
  have hunchanged : Unchanged s.writer w ↔ w.verdictMap.get = s.writer.verdictMap.get :=
    and_iff_left (congrArg Table.get hes)
  rw [hunchanged]
  obtain ⟨error', href⟩ | ⟨flowHash, map, hhash, ⟨error', failure, hwrites, hfailed⟩ |
    ⟨count, -, hok⟩⟩ := installShape_cases s.writer
      cmd.policyFlowId
  · obtain ⟨-, rfl⟩ := Prod.mk.inj (hrun.symm.trans href)
    exact absurd htk.1 h.not_calm
  · obtain ⟨-, rfl⟩ := Prod.mk.inj (hrun.symm.trans hfailed)
    have hshapes : shapeWrites (shapeSelection ctx s.cache cmd flow).tags flowHash
        cmd.configRevision (commandDeadline ctx cmd ctx.shapeNs) = shapes ctx cmd flow s.cache := by
      simp [shapes, hhash]
    rw [hshapes] at hwrites
    have hiff := overwrite_get_iff h (@consistent_shapes ctx cmd flow s.cache)
    rw [hwrites] at hiff
    exact hiff htk.1
  · cases hrun.symm.trans hok

/-! ### Every command -/

theorem finalStatus_failed {status : CommandStatus} (h : (finalStatus flow status).1 = .failed) :
    status.1 = .failed := by
  unfold finalStatus at h
  split_ifs at h
  · cases h
  · exact h

/-- The operation fails when it is reached, and has not been reached yet. -/
def Pending (w : FlowVerdictWriter) : FailedOperation → Prop
  | .verdict n => Fails n w.verdictMap ∧ Calm w.endpointMap
  | .endpoint n => Calm w.verdictMap ∧ Fails n w.endpointMap

variable {op : FailedOperation}

theorem Pending.not_tookPlace (h : Pending w op) : ¬ TookPlace w := by
  cases op with
  | verdict n => exact fun htk => h.1.not_calm htk.1
  | endpoint n => exact fun htk => h.2.not_calm htk.2

theorem commandOutcome_undone_iff (hp : Pending s.writer op) (hop : cmd.operation = .upsert)
    (hsa : (commandOutcome policyIdentityHash ctx s cmd flow).1.1 = .failed)
    (htk : TookPlace (commandOutcome policyIdentityHash ctx s cmd flow).2.writer) :
    Unchanged s.writer (commandOutcome policyIdentityHash ctx s cmd flow).2.writer ↔
      Harmless policyIdentityHash ctx cmd flow s op := by
  unfold commandOutcome at hsa htk ⊢
  rcases href : refusal ctx cmd flow with _ | status <;>
    simp only [href] at hsa htk ⊢
  · unfold applyDecision at hsa htk ⊢
    simp only [hop] at hsa htk ⊢
    unfold Harmless
    rcases hverd : cmd.verdict with _ | _ | _ | _ <;> simp only [hverd] at hsa htk ⊢
    · exact absurd htk hp.not_tookPlace
    · cases op with
      | verdict n => exact iff_of_true (applyBlock_verdict hp.1 htk) trivial
      | endpoint n => exact applyBlock_endpoint hp.1 hp.2 htk
    · cases op with
      | verdict n =>
        rw [writer_applyClear] at htk ⊢
        exact iff_of_true (inParts_verdict (clearAliases_recovers hp.1 ..)
          (endpointMap_clearAliases ..) (fun w => (forgetEndpoints_same flow w).1) htk) trivial
      | endpoint n => exact applyClear_endpoint hp.1 hp.2 htk
    · cases op with
      | verdict n => exact applyShape_verdict hp.1 hsa htk
      | endpoint n =>
        -- a shape command does not touch the endpoint blocks
        have hk := endpointMap_applyShape ctx s cmd flow
        exact absurd (hk ▸ htk.2) hp.2.not_calm
  · exact absurd htk hp.not_tookPlace

/-- **A failed command has no effect** exactly if the failing operation is one that does no harm:
one on the verdicts, unless it is a read of a shape command after a write, or one on the endpoint
blocks, if the verdicts are in force already. -/
theorem failed_command_undone_iff (policyIdentityHash : String → BitVec 128) (ctx : CommandContext)
    (s : FlowState) (cmd : FlowCommand) (op : FailedOperation) (honly : Only ctx op)
    (hoperation : cmd.operation = .upsert)
    (hstatus : (applyFlowCommand policyIdentityHash ctx s cmd).1.status = .failed)
    (htook : TookPlace (applyFlowCommand policyIdentityHash ctx s cmd).2.writer) :
    Unchanged s.writer (applyFlowCommand policyIdentityHash ctx s cmd).2.writer ↔
      Harmless policyIdentityHash ctx cmd (resolveAliases ctx s cmd).1
        (resolveAliases ctx s cmd).2 op := by
  -- resolving the aliases does not look at the maps
  have hpending : Pending (resolveAliases ctx (s.withFaults ctx) cmd).2.writer op := by
    cases op with
    | verdict n => exact honly
    | endpoint n => exact honly
  exact commandOutcome_undone_iff hpending hoperation (finalStatus_failed hstatus) htook

/-! ### Commands that fail -/

/-- A tracked flow. -/
def observedFlow : FlowState := runFlow samplePolicyHash sampleFlowState (trackedAndBlocked.take 2)

/-- The first endpoint block cannot be written. -/
def endpointsFull : CommandContext :=
  { sampleContext 2000 true with endpointFaults := failing 1 "Cannot allocate memory" }

/-- The block is acknowledged as failed, and the flow is blocked. -/
theorem block_left_behind :
    (applyFlowCommand samplePolicyHash endpointsFull observedFlow
        (sampleBlockCommand 1000)).1.status = .failed ∧
      observedFlow.writer.verdictMap.get (sampleKey 1 1000) = none ∧
      ((applyFlowCommand samplePolicyHash endpointsFull observedFlow
        (sampleBlockCommand 1000)).2.writer.verdictMap.get (sampleKey 1 1000)).map
          (fun v => (v.verdict, v.identity.flowHash)) =
        some (.block, 0x00112233445566778899aabbccddeeff) ∧
      (applyFlowCommand samplePolicyHash endpointsFull observedFlow
        (sampleBlockCommand 1000)).2.writer.endpointMap.faults.length = 0 := by
  refine ⟨?_, ?_, ?_, ?_⟩ <;> decide +kernel

/-- The second of the block's verdicts cannot be written. -/
def verdictsFull : CommandContext :=
  { sampleContext 2000 true with verdictFaults := failing 5 "Cannot allocate memory" }

/-- The first verdict is taken back. -/
theorem block_taken_back :
    (applyFlowCommand samplePolicyHash verdictsFull observedFlow
        (sampleBlockCommand 1000)).1.status = .failed ∧
      Unchanged observedFlow.writer (applyFlowCommand samplePolicyHash verdictsFull observedFlow
        (sampleBlockCommand 1000)).2.writer := by
  have hstatus : (applyFlowCommand samplePolicyHash verdictsFull observedFlow
      (sampleBlockCommand 1000)).1.status = .failed := by decide +kernel
  have hverdicts : (applyFlowCommand samplePolicyHash verdictsFull observedFlow
      (sampleBlockCommand 1000)).2.writer.verdictMap.faults.length = 0 := by decide +kernel
  have hendpoints : (applyFlowCommand samplePolicyHash verdictsFull observedFlow
      (sampleBlockCommand 1000)).2.writer.endpointMap.faults.length = 0 := by decide +kernel
  refine ⟨hstatus, (failed_command_undone_iff samplePolicyHash verdictsFull observedFlow
    (sampleBlockCommand 1000) (.verdict 5) ⟨⟨_, rfl⟩, rfl⟩ rfl hstatus ?_).2 trivial⟩
  exact ⟨List.eq_nil_of_length_eq_zero hverdicts, List.eq_nil_of_length_eq_zero hendpoints⟩

end Netqmon.Agent.Receiver.FailedCommands
