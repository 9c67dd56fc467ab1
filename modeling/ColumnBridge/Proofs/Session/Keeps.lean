import ColumnBridge.Proofs.Session.Ends
import Mathlib.Order.Defs.Unbundled

/-!
Relations between the states before and after a step.

* `Keeps`: a step leads to related states only, whether it returns or fails;
* `Keeps.bind`, `Keeps.ite`, `Keeps.onFailure`, `Keeps.forM`: a preorder is kept by steps that are put
  together from steps that keep it;
* `Keeps.onEngine`, `Keeps.quietly`: what a session keeps of what its engine does.
-/

namespace ColumnBridge

/-- A step leads to states that are related to those before it, whether it returns or fails. -/
def Keeps {ε σ α : Type} (R : σ → σ → Prop) (step : ExceptT ε (StateM σ) α) : Prop :=
  ∀ s, Ends step s (fun _ => R s) (R s)

namespace Keeps

section Rules

variable {ε σ α β : Type} {R : σ → σ → Prop} {step other : ExceptT ε (StateM σ) α}
  {next : α → ExceptT ε (StateM σ) β}

lemma mono {S : σ → σ → Prop} (h : Keeps R step) (hRS : ∀ {s t}, R s t → S s t) : Keeps S step :=
  fun s => (h s).mono (fun _ _ => hRS) fun _ => hRS

/-- What holds however a step ends holds for the state after it. -/
lemma snd (h : Keeps R step) (s : σ) : R s (step s).2 := by
  have hends := h s
  rcases hstep : step s with ⟨e | a, t⟩
  · exact (ends_iff_of_error hstep).mp hends
  · exact (ends_iff_of_ok hstep).mp hends

lemma of_forall (h : ∀ s t, R s t) : Keeps R step := fun s => by
  rw [Ends]
  split <;> exact h _ _

lemma modify {f : σ → σ} (hf : ∀ s, R s (f s)) : Keeps R (modify f : ExceptT ε (StateM σ) PUnit) := hf

lemma ite {c : Prop} [Decidable c] (h : Keeps R step) (ho : Keeps R other) :
    Keeps R (if c then step else other) := by
  split_ifs
  · exact h
  · exact ho

variable [IsPreorder σ R]

lemma pure (a : α) : Keeps R (Pure.pure a : ExceptT ε (StateM σ) α) := refl_of R

lemma throw (e : ε) : Keeps R (throw e : ExceptT ε (StateM σ) α) := refl_of R

lemma get : Keeps R (get : ExceptT ε (StateM σ) σ) := refl_of R

lemma liftM (x : Except ε α) : Keeps R (liftM x : ExceptT ε (StateM σ) α) := fun s =>
  ends_liftM (fun _ _ => refl_of R s) (refl_of R s)

lemma bind (h : Keeps R step) (hnext : ∀ a, Keeps R (next a)) : Keeps R (step >>= next) := by
  intro s
  refine ends_bind.mpr ((h s).mono (fun a t ht => ?_) fun _ => id)
  exact (hnext a t).mono (fun _ _ => trans_of R ht) fun _ => trans_of R ht

lemma forM {step : β → ExceptT ε (StateM σ) PUnit} (h : ∀ b, Keeps R (step b)) (bs : List β) :
    Keeps R (bs.forM step) := by
  induction bs with
  | nil => exact pure _
  | cons b bs ih => exact bind (h b) fun _ => ih

end Rules

/-! ### Steps of a session -/

section Session

variable {σ α : Type} {R : Embedding σ → Embedding σ → Prop}

lemma onEngine {Q : σ → σ → Prop} {call : EngineM σ α} (h : Keeps Q call)
    (hQ : ∀ {w e}, Q w.engine e → R w { w with engine := e }) : Keeps R (SessionM.onEngine call) :=
  fun w => SessionM.ends_onEngine.mpr ((h w.engine).mono (fun _ _ => hQ) fun _ => hQ)

lemma quietly {Q : σ → σ → Prop} {call : EngineM σ Unit} (h : Keeps Q call)
    (hQ : ∀ {w e}, Q w.engine e → R w { w with engine := e }) : Keeps R (SessionM.quietly call) :=
  fun w => SessionM.ends_quietly.mpr ((h w.engine).mono (fun _ _ => hQ) fun _ => hQ)

lemma onFailure [IsPreorder (Embedding σ) R] {step : SessionM σ α} {undo : SessionM σ Unit}
    (h : Keeps R step) (hundo : Keeps R undo) : Keeps R (SessionM.onFailure step undo) := by
  intro w
  refine SessionM.ends_onFailure.mpr ((h w).mono (fun _ _ => id) fun t ht => ?_)
  exact (hundo t).mono (fun _ _ => trans_of R ht) fun _ => trans_of R ht

end Session

end Keeps

end ColumnBridge
