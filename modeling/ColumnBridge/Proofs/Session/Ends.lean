import ColumnBridge.Session.Embedding
import Mathlib.Tactic

/-!
How steps of an engine or a session end.

* `Ends`: a step from a state returns in a way that one predicate allows, or fails in a state that
  another one allows;
* the rules that take a step apart: `ends_bind` and one for each primitive step, all `simp` lemmas;
* `bind_apply_of_ok`, `bind_apply_of_error`, `get_bind_apply`, `modify_bind_apply`: the same for a step
  whose result is known exactly;
* the rules for the steps of a session: `SessionM.ends_onEngine`, `SessionM.ends_quietly` and
  `SessionM.ends_onFailure`.
-/

namespace ColumnBridge

section Rules

variable {ε σ α β : Type}

/-- A step from a state returns a value in a state that `done` allows, or fails in a state that `failed`
allows. -/
def Ends (step : ExceptT ε (StateM σ) α) (s : σ) (done : α → σ → Prop) (failed : σ → Prop) : Prop :=
  match step s with
  | (.ok a, t) => done a t
  | (.error _, t) => failed t

variable {step : ExceptT ε (StateM σ) α} {next : α → ExceptT ε (StateM σ) β} {s : σ}
  {done : α → σ → Prop} {failed : σ → Prop}

/-- A step that returns ends by its value and its state. -/
lemma ends_iff_of_ok {a : α} {t : σ} (h : step s = (.ok a, t)) :
    Ends step s done failed ↔ done a t := by
  rw [Ends, h]

/-- A step that fails ends by its state. -/
lemma ends_iff_of_error {e : ε} {t : σ} (h : step s = (.error e, t)) :
    Ends step s done failed ↔ failed t := by
  rw [Ends, h]

/-- A step that ends in one way ends in every weaker way. -/
lemma Ends.mono (h : Ends step s done failed) {done' : α → σ → Prop} {failed' : σ → Prop}
    (hdone : ∀ a t, done a t → done' a t) (hfailed : ∀ t, failed t → failed' t) :
    Ends step s done' failed' := by
  rcases hstep : step s with ⟨e | a, t⟩
  · rw [ends_iff_of_error hstep] at h ⊢
    exact hfailed t h
  · rw [ends_iff_of_ok hstep] at h ⊢
    exact hdone a t h

/-- How a step ends is what it results in. -/
lemma Ends.remember (h : Ends step s done failed) :
    Ends step s (fun a t => step s = (.ok a, t) ∧ done a t)
      fun t => (∃ e, step s = (.error e, t)) ∧ failed t := by
  rcases hstep : step s with ⟨e | a, t⟩
  · rw [ends_iff_of_error hstep] at h ⊢
    exact ⟨⟨e, rfl⟩, h⟩
  · rw [ends_iff_of_ok hstep] at h ⊢
    exact ⟨rfl, h⟩

/-- After a step that returns, the next one goes on from its state. -/
lemma bind_apply_of_ok {a : α} {t : σ} (h : step s = (.ok a, t)) : (step >>= next) s = next a t := by
  simp only [bind, ExceptT.bind, ExceptT.mk, StateT.bind, ExceptT.bindCont, h]

/-- After a step that fails, nothing is done. -/
lemma bind_apply_of_error {e : ε} {t : σ} (h : step s = (.error e, t)) :
    (step >>= next) s = (.error e, t) := by
  simp only [bind, ExceptT.bind, ExceptT.mk, StateT.bind, ExceptT.bindCont, h]
  rfl

/-- A look at the state goes on with it. -/
lemma get_bind_apply {next : σ → ExceptT ε (StateM σ) β} : (get >>= next) s = next s s := rfl

/-- A change of the state goes on from the changed one. -/
lemma modify_bind_apply {f : σ → σ} {next : PUnit → ExceptT ε (StateM σ) β} :
    (modify f >>= next) s = next .unit (f s) := rfl

@[simp] lemma ends_pure (a : α) :
    Ends (pure a : ExceptT ε (StateM σ) α) s done failed ↔ done a s := Iff.rfl

@[simp] lemma ends_throw (e : ε) :
    Ends (throw e : ExceptT ε (StateM σ) α) s done failed ↔ failed s := Iff.rfl

@[simp] lemma ends_get {done : σ → σ → Prop} :
    Ends (get : ExceptT ε (StateM σ) σ) s done failed ↔ done s s := Iff.rfl

@[simp] lemma ends_set {t : σ} {done : PUnit → σ → Prop} :
    Ends (set t : ExceptT ε (StateM σ) PUnit) s done failed ↔ done .unit t := Iff.rfl

@[simp] lemma ends_modify {f : σ → σ} {done : PUnit → σ → Prop} :
    Ends (modify f : ExceptT ε (StateM σ) PUnit) s done failed ↔ done .unit (f s) := Iff.rfl

/-- Two steps end as the second does from where the first returns, or as the first fails. -/
@[simp] lemma ends_bind {done : β → σ → Prop} :
    Ends (step >>= next) s done failed
      ↔ Ends step s (fun a t => Ends (next a) t done failed) failed := by
  rw [Ends, Ends]
  simp only [bind, ExceptT.bind, ExceptT.mk, StateT.bind, ExceptT.bindCont]
  rcases step s with ⟨r | r, t⟩
  · rfl
  · rfl

/-- A result that is at hand decides by itself. -/
lemma ends_liftM {x : Except ε α} (hdone : ∀ a, x = .ok a → done a s) (hfailed : failed s) :
    Ends (liftM x : ExceptT ε (StateM σ) α) s done failed := by
  cases x with
  | ok a => exact hdone a rfl
  | error _ => exact hfailed

@[simp] lemma ends_ite {c : Prop} [Decidable c] {other : ExceptT ε (StateM σ) α} :
    Ends (if c then step else other) s done failed
      ↔ (c → Ends step s done failed) ∧ (¬ c → Ends other s done failed) := by
  split_ifs with h <;> simp [h]

end Rules

namespace SessionM

variable {σ α : Type} {w : Embedding σ} {done : α → Embedding σ → Prop} {failed : Embedding σ → Prop}

/-- A call on the engine ends as the engine does. -/
@[simp] lemma ends_onEngine {run : EngineM σ α} :
    Ends (onEngine run) w done failed
      ↔ Ends run w.engine (fun a e => done a { w with engine := e })
          fun e => failed { w with engine := e } := by
  rw [Ends, Ends, onEngine]
  rcases run w.engine with ⟨r | r, e⟩
  · rfl
  · rfl

/-- A quiet call on the engine does not fail. -/
@[simp] lemma ends_quietly {run : EngineM σ Unit} {done : Unit → Embedding σ → Prop} :
    Ends (quietly run) w done failed
      ↔ Ends run w.engine (fun _ e => done () { w with engine := e })
          fun e => done () { w with engine := e } := by
  rw [Ends, Ends, quietly]
  rcases run w.engine with ⟨r | r, e⟩
  · rfl
  · rfl

/-- A step that is undone when it fails. -/
@[simp] lemma ends_onFailure {step : SessionM σ α} {undo : SessionM σ Unit} :
    Ends (onFailure step undo) w done failed
      ↔ Ends step w done fun t => Ends undo t (fun _ u => failed u) failed := by
  rcases hstep : step w with ⟨e | a, t⟩
  · have hundo : onFailure step undo w = (undo >>= fun _ => throw e) t := by
      simp only [onFailure, tryCatch, tryCatchThe, MonadExceptOf.tryCatch, ExceptT.tryCatch,
        ExceptT.mk, bind, StateT.bind, hstep]
    rw [ends_iff_of_error hstep, Ends, hundo]
    exact ends_bind
  · have hkeep : onFailure step undo w = (.ok a, t) := by
      simp only [onFailure, tryCatch, tryCatchThe, MonadExceptOf.tryCatch, ExceptT.tryCatch,
        ExceptT.mk, bind, StateT.bind, hstep]
      rfl
    rw [ends_iff_of_ok hstep, ends_iff_of_ok hkeep]

end SessionM

end ColumnBridge
