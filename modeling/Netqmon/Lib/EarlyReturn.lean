import Mathlib

/-! # Stateful programs with early returns

A `Prog W R α` runs on a world `W` and either goes on with a value of type `α` or leaves the
function at once with a result of type `R`. `Triple pre p post returned` says what holds in each of
the two cases when `pre` held before. -/

namespace Netqmon.Lib.EarlyReturn

variable {W R α β : Type}

def Prog (W R α : Type) : Type := W → Except R α × W

namespace Prog

instance : Monad (Prog W R) where
  pure a := fun w => (.ok a, w)
  bind p f := fun w =>
    match p w with
    | (.error r, w') => (.error r, w')
    | (.ok a, w') => f a w'

/-- Leave with a result. -/
def early (r : R) : Prog W R α := fun w => (.error r, w)

def call (op : W → α × W) : Prog W R α := fun w => (.ok (op w).1, (op w).2)

def read (f : W → α) : Prog W R α := fun w => (.ok (f w), w)

/-- Checks that touch no state. -/
def ofExcept : Except R α → Prog W R α
  | .ok a => pure a
  | .error r => early r

/-- The result of a program, whichever way it leaves. -/
def result (p : Prog W R R) (w : W) : R × W :=
  match p w with
  | (.error r, w') => (r, w')
  | (.ok r, w') => (r, w')

end Prog

open Prog

/-! ### Running -/

variable {p : Prog W R α} {f : α → Prog W R β} {a : α}

theorem bind_run_ok {w w' : W} (h : p w = (.ok a, w')) : (p >>= f) w = f a w' := by
  simp [bind, h]

variable {r : R}

theorem bind_run_error {w w' : W} (h : p w = (.error r, w')) : (p >>= f) w = (.error r, w') := by
  simp [bind, h]

/-! ### Triples -/

def Triple (pre : W → Prop) (p : Prog W R α) (post : α → W → Prop) (returned : R → W → Prop) :
    Prop :=
  ∀ w, pre w →
    match p w with
    | (.ok a, w') => post a w'
    | (.error r, w') => returned r w'

variable {pre : W → Prop} {post : α → W → Prop} {returned : R → W → Prop}

theorem Triple.pure (h : ∀ w, pre w → post a w) :
    Triple pre (pure a : Prog W R α) post returned := h

theorem Triple.early (h : ∀ w, pre w → returned r w) :
    Triple pre (early r : Prog W R α) post returned := h

variable {op : W → α × W}

theorem Triple.call (h : ∀ w, pre w → post (op w).1 (op w).2) :
    Triple pre (call op : Prog W R α) post returned := h

theorem Triple.read {f : W → α} (h : ∀ w, pre w → post (f w) w) :
    Triple pre (read f : Prog W R α) post returned := h

variable {x : Except R α}

theorem Triple.ofExcept (hok : ∀ a, x = .ok a → ∀ w, pre w → post a w)
    (herr : ∀ r, x = .error r → ∀ w, pre w → returned r w) :
    Triple pre (ofExcept x : Prog W R α) post returned := by
  cases x with
  | ok a => exact Triple.pure (hok a rfl)
  | error r => exact Triple.early (herr r rfl)

theorem Triple.bind {Q : α → W → Prop} {post : β → W → Prop} (hp : Triple pre p Q returned)
    (hf : ∀ a, Triple (Q a) (f a) post returned) : Triple pre (p >>= f) post returned := by
  intro w hw
  have h := hp w hw
  rcases hrun : p w with ⟨r | a, w'⟩ <;> rw [hrun] at h
  · rw [bind_run_error hrun]
    exact h
  · rw [bind_run_ok hrun]
    exact hf a w' h

/-- A fact that does not depend on the world becomes a hypothesis. -/
theorem Triple.assume {P : Prop} (h : P → Triple pre p post returned) :
    Triple (fun w => P ∧ pre w) p post returned :=
  fun w hw => h hw.1 w hw.2

variable {Q : α → Prop}

/-- What is known of the world only matters for the value that is passed on. -/
theorem Triple.bind_fact {post : β → W → Prop} (hp : Triple pre p (fun a _ => Q a) returned)
    (hf : ∀ a, Q a → Triple (fun _ => True) (f a) post returned) :
    Triple pre (p >>= f) post returned :=
  hp.bind fun a w ha => hf a ha w trivial

/-- The result is passed on or returned early. -/
theorem Triple.result {p : Prog W R R} {post : R → W → Prop} (hp : Triple pre p post returned)
    {w : W} (hw : pre w) :
    post (p.result w).1 (p.result w).2 ∨ returned (p.result w).1 (p.result w).2 := by
  have h := hp w hw
  unfold Prog.result
  rcases hrun : p w with ⟨r | r, w'⟩ <;> rw [hrun] at h
  · exact .inr h
  · exact .inl h

theorem Triple.imp {pre' : W → Prop} {post' : α → W → Prop}
    {returned' : R → W → Prop} (hp : Triple pre p post returned) (hpre : ∀ w, pre' w → pre w)
    (hpost : ∀ a w, post a w → post' a w) (hreturned : ∀ r w, returned r w → returned' r w) :
    Triple pre' p post' returned' := by
  intro w hw
  have h := hp w (hpre w hw)
  rcases hrun : p w with ⟨r | a, w'⟩ <;> rw [hrun] at h
  · exact hreturned r w' h
  · exact hpost a w' h

/-! ### Invariants -/

/-- The program keeps `I`, whichever way it leaves. -/
def Keeps (I : W → Prop) (p : Prog W R α) : Prop := Triple I p (fun _ => I) (fun _ => I)

section Keeps

variable {I : W → Prop}

theorem Keeps.pure (a : α) : Keeps I (pure a : Prog W R α) := Triple.pure fun _ h => h

theorem Keeps.early (r : R) : Keeps I (early r : Prog W R α) := Triple.early fun _ h => h

theorem Keeps.call (h : ∀ w, I w → I (op w).2) : Keeps I (call op : Prog W R α) := Triple.call h

theorem Keeps.ofExcept (x : Except R α) : Keeps I (ofExcept x : Prog W R α) :=
  Triple.ofExcept (fun _ _ _ h => h) fun _ _ _ h => h

theorem Keeps.bind (hp : Keeps I p)
    (hf : ∀ a, Keeps I (f a)) : Keeps I (p >>= f) := Triple.bind hp hf

end Keeps

/-! ### Facts that do not depend on the world -/

/-- Whatever the world, what the program passes on satisfies `post` and what it leaves with
satisfies `returned`. -/
def Yields (p : Prog W R α) (post : α → Prop) (returned : R → Prop) : Prop :=
  Triple (fun _ => True) p (fun a _ => post a) (fun r _ => returned r)

section Yields

variable {post : α → Prop} {returned : R → Prop}

theorem Yields.pure (h : post a) : Yields (pure a : Prog W R α) post returned :=
  Triple.pure fun _ _ => h

theorem Yields.early (h : returned r) : Yields (early r : Prog W R α) post returned :=
  Triple.early fun _ _ => h

theorem Yields.call (h : ∀ w, post (op w).1) : Yields (call op : Prog W R α) post returned :=
  Triple.call fun w _ => h w

theorem Yields.ofExcept (hok : ∀ a, x = .ok a → post a) (herr : ∀ r, x = .error r → returned r) :
    Yields (ofExcept x : Prog W R α) post returned :=
  Triple.ofExcept (fun a ha _ _ => hok a ha) fun r hr _ _ => herr r hr

/-- Checks whose error text is turned into a result. -/
theorem Yields.ofExcept_mapError {ε : Type} {x : Except ε α} {f : ε → R}
    (hok : ∀ a, x = .ok a → post a) (herr : ∀ e, x = .error e → returned (f e)) :
    Yields (Prog.ofExcept (x.mapError f) : Prog W R α) post returned := by
  cases x with
  | ok a => exact Yields.pure (hok a rfl)
  | error e => exact Yields.early (herr e rfl)

variable {post : β → Prop}

theorem Yields.bind (hp : Yields p Q returned) (hf : ∀ a, Q a → Yields (f a) post returned) :
    Yields (p >>= f) post returned :=
  Triple.bind_fact hp hf

/-- A call, of whose outcome only its origin is known. -/
theorem Yields.call_bind (hf : ∀ w, Yields (f (op w).1) post returned) :
    Yields (Prog.call op >>= f) post returned := by
  have hc : Yields (Prog.call op : Prog W R α) (fun a => ∃ w, (op w).1 = a) returned :=
    Yields.call fun w => ⟨w, rfl⟩
  refine hc.bind fun a ha => ?_
  obtain ⟨w, rfl⟩ := ha
  exact hf w

end Yields

end Netqmon.Lib.EarlyReturn
