import Mathlib

/-! # Computations that only go up

A computation with errors on a preordered state that never leaves the states above the one it starts
in, not even when it fails. What the order keeps then holds of every program that is made of such
computations (`Upward.above`), with no proof about the program itself. -/

namespace Netqmon.Lib.UpwardRuns

structure Upward (σ : Type) [Preorder σ] (α : Type) where
  run : σ → Except String α × σ
  above : ∀ s, s ≤ (run s).2

namespace Upward

variable {σ α : Type} [Preorder σ]

instance : Monad (Upward σ) where
  pure a := ⟨fun s => (.ok a, s), le_refl⟩
  bind x f :=
    { run := fun s =>
        match x.run s with
        | (.error error, s') => (.error error, s')
        | (.ok a, s') => (f a).run s'
      above := fun s => by
        have hx := x.above s
        rcases hrun : x.run s with ⟨_ | a, s'⟩ <;> rw [hrun] at hx
        · exact hx
        · exact le_trans hx ((f a).above s') }

def ofExcept (result : Except String α) : Upward σ α := ⟨fun s => (result, s), le_refl⟩

def get : Upward σ σ := ⟨fun s => (.ok s, s), le_refl⟩

/-- Go on after an error. -/
def observe (x : Upward σ α) : Upward σ (Except String α) :=
  ⟨fun s => (.ok (x.run s).1, (x.run s).2), x.above⟩

section Bind

variable {β : Type} {x : Upward σ α} {s s' : σ}

theorem run_bind_ok {a : α} (f : α → Upward σ β) (h : x.run s = (.ok a, s')) :
    (x >>= f).run s = (f a).run s' := by
  simp only [bind, h]

theorem run_bind_error {error : String} (f : α → Upward σ β) (h : x.run s = (.error error, s')) :
    (x >>= f).run s = (.error error, s') := by
  simp only [bind, h]

/-- What a computation has reached stays reached. -/
theorem run_le_bind (x : Upward σ α) (f : α → Upward σ β) (s : σ) :
    (x.run s).2 ≤ ((x >>= f).run s).2 := by
  rcases hrun : x.run s with ⟨error | a, s'⟩
  · rw [run_bind_error f hrun]
  · rw [run_bind_ok f hrun]
    exact (f a).above s'

end Bind

end Upward

end Netqmon.Lib.UpwardRuns
