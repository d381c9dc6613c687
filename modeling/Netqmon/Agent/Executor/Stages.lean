import Netqmon.Agent.Executor.Process

/-! # What the stages of a call keep

What every operation of the host but the write of the state file keeps, every stage before that
write keeps, too, and so does rolling back. -/

namespace Netqmon.Agent.Executor.Stages

open SavedState Executor.Topology Plan Process Lib.EarlyReturn Protocol.Policy

variable {W : Type} {host : Host W} {ctx : Context} {snap : PolicySnapshot}
  {topology : PolicyTopology}

/-- Every operation but the write of the state file keeps `I`. -/
structure RunnerKeeps (host : Host W) (I : W → Prop) : Prop where
  clearOwned : ∀ w, I w → I (host.clearOwned w).2
  isInstalled : ∀ w, I w → I (host.isInstalled w).2
  replace : ∀ topology plan w, I w → I (host.replace topology plan w).2
  inspectMarkConflicts : ∀ topology owned w, I w → I (host.inspectMarkConflicts topology owned w).2
  prepareShaping : ∀ desired previous w, I w → I (host.prepareShaping desired previous w).2
  writeShapingJournal : ∀ previous next w, I w → I (host.writeShapingJournal previous next w).2
  applyShaping : ∀ desired previous w, I w → I (host.applyShaping desired previous w).2
  rollbackShaping : ∀ previous current w, I w → I (host.rollbackShaping previous current w).2
  clearShapingJournal : ∀ w, I w → I (host.clearShapingJournal w).2
  recoverShapingJournal : ∀ committed w, I w → I (host.recoverShapingJournal committed w).2

namespace RunnerKeeps

variable {I : W → Prop} (h : RunnerKeeps host I)

include h

variable (previous : Option ShapingState) {w : W}

theorem rollbackShape (cur : Option ShapingState) (hw : I w) :
    I (rollbackShape host previous cur w).2 := by
  have hrecover := h.recoverShapingJournal previous w hw
  unfold Process.rollbackShape
  split
  · next hrun => rwa [hrun] at hrecover
  · next w' hrun =>
    rw [hrun] at hrecover
    have hrollback := h.rollbackShaping previous cur w' hrecover
    split <;> next hrun' => rwa [hrun'] at hrollback
  · next hrun => rwa [hrun] at hrecover

theorem rollbackNft (previous : Option PolicyState) (hw : I w) :
    I (rollbackNft host topology previous w).2 := by
  unfold Process.rollbackNft
  extract_lets restored
  have hres : I restored.2 := by
    dsimp only [restored]
    split
    · exact h.clearOwned w hw
    · split
      · exact h.replace topology _ w hw
      · exact h.clearOwned w hw
  rcases restored with ⟨_ | _, w'⟩ <;> exact hres

theorem rollbackRuntime (previous : Option PolicyState) (cur : Option ShapingState)
    (withShape : Bool) (hw : I w) :
    I (rollbackRuntime host topology previous cur withShape w).2 := by
  refine h.rollbackNft previous ?_
  split
  · exact h.rollbackShape _ cur hw
  · exact hw

theorem dropJournal (journal : Bool) : Keeps I (dropJournal host journal) := by
  unfold Process.dropJournal
  split
  · exact Keeps.bind (Keeps.call h.clearShapingJournal) fun _ => Keeps.pure ()
  · exact Keeps.pure ()

theorem undo (previous : Option PolicyState) (cur : ShapingState) (withShape journal : Bool)
    (code error : String) :
    Keeps I (undo host ctx snap topology previous cur withShape journal code error) := by
  refine Keeps.bind (Keeps.call fun w hw => h.rollbackRuntime previous _ withShape hw)
    fun rollback => ?_
  split
  · exact Keeps.bind (Keeps.call h.clearShapingJournal) fun _ => Keeps.early _
  · exact Keeps.early _

theorem preflight (plan : BuiltPlan) :
    Keeps I (preflight host ctx snap topology previous plan) := by
  unfold Process.preflight
  split
  · exact Keeps.bind (Keeps.call (h.inspectMarkConflicts topology previous))
      fun _ => Keeps.ofExcept _
  · exact Keeps.pure plan

theorem prepareShape (plan : BuiltPlan) :
    Keeps I (prepareShape host ctx snap topology previous plan) := by
  unfold Process.prepareShape
  split
  · refine Keeps.bind (Keeps.call (h.prepareShaping _ previous)) fun prepared => ?_
    split
    · exact Keeps.pure _
    · split <;> exact Keeps.early _
  · exact Keeps.pure _

variable (old : Option PolicyState) (shape : PreparedShape)

theorem writeJournal : Keeps I (writeJournal host ctx snap topology old shape) := by
  unfold Process.writeJournal
  dsimp only
  split
  · exact Keeps.bind (Keeps.call (h.writeShapingJournal _ _)) fun _ =>
      Keeps.bind (Keeps.ofExcept _) fun _ => Keeps.pure true
  · exact Keeps.pure false

theorem nftInPlace (plan : BuiltPlan) (saved : Option ShapingState) :
    Keeps I (nftInPlace host ctx snap topology old plan saved) := by
  unfold Process.nftInPlace
  split
  · exact Keeps.call h.isInstalled
  · exact Keeps.pure _

theorem installNft (plan : BuiltPlan) (saved : Option ShapingState) (journal : Bool) :
    Keeps I (installNft host ctx snap topology old plan saved journal) := by
  unfold Process.installNft
  split
  · refine Keeps.bind (Keeps.call h.clearOwned) fun cleared => ?_
    split
    · exact Keeps.pure ()
    · exact Keeps.bind (h.dropJournal journal) fun _ => Keeps.early _
  · refine Keeps.bind (h.nftInPlace old plan saved) fun installed => ?_
    split
    · exact Keeps.pure ()
    · refine Keeps.bind (Keeps.call (h.replace topology _)) fun replaced => ?_
      split
      · exact Keeps.pure ()
      · exact Keeps.bind (Keeps.call fun w hw => h.rollbackRuntime old none false hw) fun _ =>
          Keeps.bind (h.dropJournal journal) fun _ => Keeps.early _
    · exact Keeps.bind (h.dropJournal journal) fun _ => Keeps.early _

theorem installShape (journal : Bool) :
    Keeps I (installShape host ctx snap topology old shape journal) := by
  unfold Process.installShape
  dsimp only
  split
  · refine Keeps.bind (Keeps.call (h.applyShaping _ _)) fun applied => ?_
    split
    · exact Keeps.pure ()
    · exact h.undo old shape.desired true journal _ _
  · exact Keeps.pure ()

end RunnerKeeps

end Netqmon.Agent.Executor.Stages
