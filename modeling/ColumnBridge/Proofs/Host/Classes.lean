import ColumnBridge.Proofs.Fetch.Objects

/-!
How a host counts the classes that it gives out.

A context takes a class of every kind or none, and gives back what it took.  Classes that are found and given
back one by one are counted in between.

* `HostContext.resolveAll_of_missing`, `HostContext.resolveAll_of_none`: a host that misses a class is as it
  was, and one that misses none gives a context all of them;
* `HostUse`, `HostUse.run`: a host with its contexts, and any steps on it in any order;
* `HostUse.balance`: the classes that are out by the steps alone, and `HostUse.liveClasses_step`: a host
  counts them, but never below zero;
* `HostUse.liveClasses_run_iff`: so its count is theirs exactly as long as theirs is never below zero;
* `HostUse.classes_allOrNothing`: which is so if no more classes are given back one by one than were found.
-/

namespace ColumnBridge

/-! ### All classes or none -/

/-- A host that misses no class finds each. -/
lemma ObjectHost.resolve_of_none {host : ObjectHost} (hmissing : host.missing = none) (kind : HostKind) :
    host.resolve kind = (.ok kind, { host with liveClasses := host.liveClasses + 1 }) := by
  rw [ObjectHost.resolve, if_neg (by simp [hmissing])]

namespace HostContext

/-- Giving classes back counts them down, but not below zero. -/
lemma releaseAll_eq (host : ObjectHost) (classes : List HostKind) :
    releaseAll host classes = { host with liveClasses := host.liveClasses - classes.length } := by
  rw [releaseAll, ← List.length_reverse]
  induction classes.reverse generalizing host with
  | nil => rfl
  | cons cls classes ih =>
    rw [List.foldl_cons, ih, List.length_cons, ObjectHost.release, Nat.sub_sub, Nat.add_comm]

/-- A class that is missing costs the classes found before it, and no other. -/
lemma resolveFrom_of_missing {host : ObjectHost} {kind : HostKind} (hmissing : host.missing = some kind)
    {kinds : List HostKind} (hkind : kind ∈ kinds) (found : List HostKind) :
    resolveFrom { host with liveClasses := host.liveClasses + found.length } found kinds
      = (.error (.host s!"class {kind.className} not found"), host) := by
  induction kinds generalizing found with
  | nil => cases hkind
  | cons first kinds ih =>
    rw [resolveFrom, ObjectHost.resolve]
    dsimp only
    by_cases hfirst : host.missing = some first
    · obtain rfl : kind = first := Option.some.inj (hmissing.symm.trans hfirst)
      rw [if_pos hfirst]
      dsimp only
      rw [releaseAll_eq]
      simp only [Nat.add_sub_cancel]
    · have hrest : kind ∈ kinds := by
        refine (List.mem_cons.mp hkind).resolve_left fun heq => hfirst ?_
        rw [hmissing, heq]
      rw [if_neg hfirst]
      have hnext := ih hrest (found ++ [first])
      rw [List.length_append, List.length_singleton, ← Nat.add_assoc] at hnext
      exact hnext

/-- A host that misses no class gives all of them. -/
lemma resolveFrom_of_none (host : ObjectHost) (hmissing : host.missing = none)
    (found kinds : List HostKind) :
    resolveFrom host found kinds
      = (.ok ⟨found ++ kinds⟩, { host with liveClasses := host.liveClasses + kinds.length }) := by
  induction kinds generalizing host found with
  | nil => rw [resolveFrom, List.append_nil]; rfl
  | cons first kinds ih =>
    rw [resolveFrom, ObjectHost.resolve_of_none hmissing]
    dsimp only
    rw [ih { host with liveClasses := host.liveClasses + 1 } hmissing, List.append_assoc,
      List.singleton_append, List.length_cons, Nat.add_assoc, Nat.add_comm 1]

/-- If a class is missing, the failure is that of the class, and the host is as it was. -/
theorem resolveAll_of_missing {host : ObjectHost} {kind : HostKind} (hmissing : host.missing = some kind) :
    resolveAll host = (.error (.host s!"class {kind.className} not found"), host) :=
  resolveFrom_of_missing hmissing (List.mem_of_getElem? (HostKind.all_getElem_index kind)) []

/-- Otherwise there is a context with a class of every kind. -/
theorem resolveAll_of_none {host : ObjectHost} (hmissing : host.missing = none) :
    resolveAll host = (.ok ⟨HostKind.all⟩, { host with liveClasses := host.liveClasses + 13 }) :=
  resolveFrom_of_none host hmissing [] HostKind.all

/-- A context gives back a class of every kind. -/
lemma teardown_all (host : ObjectHost) :
    teardown ⟨HostKind.all⟩ host = { host with liveClasses := host.liveClasses - 13 } :=
  releaseAll_eq host HostKind.all

end HostContext

/-! ### Using a host -/

/-- A host in use: the contexts that were resolved on it and not torn down, and how many classes were found
and given back one by one. -/
structure HostUse where
  host : ObjectHost
  contexts : List HostContext := []
  resolved : ℕ := 0
  released : ℕ := 0

namespace HostUse

/-- What can be done with a host. -/
inductive Step
  | resolveAll
  /-- Tear down the context at a position among those that are there. -/
  | teardown (position : ℕ)
  | resolve (kind : HostKind)
  | release (cls : HostKind)
  /-- Objects may be made in between. -/
  | construct (cls : HostKind) (value : HostValue)

/-- A host after one step. -/
def step (s : HostUse) : Step → HostUse
  | .resolveAll =>
    match HostContext.resolveAll s.host with
    | (.ok context, host) => { s with host, contexts := s.contexts ++ [context] }
    | (.error _, host) => { s with host }
  | .teardown position =>
    match s.contexts[position]? with
    | some context => { s with host := context.teardown s.host, contexts := s.contexts.eraseIdx position }
    | none => s
  | .resolve kind =>
    match s.host.resolve kind with
    | (.ok _, host) => { s with host, resolved := s.resolved + 1 }
    | (.error _, host) => { s with host }
  | .release cls => { s with host := s.host.release cls, released := s.released + 1 }
  | .construct cls value => { s with host := (s.host.construct cls value).2 }

/-- A host after some steps. -/
def run (s : HostUse) (steps : List Step) : HostUse := steps.foldl step s

/-- The classes that are out by the steps alone: those found one by one less those given back, and those of
the contexts. -/
def balance (s : HostUse) : ℤ := s.resolved - s.released + 13 * s.contexts.length

variable {host : ObjectHost} {s : HostUse}

/-- Making an object leaves the classes. -/
lemma snd_construct (host : ObjectHost) (cls : HostKind) (value : HostValue) :
    (host.construct cls value).2.liveClasses = host.liveClasses
      ∧ (host.construct cls value).2.missing = host.missing := by
  rw [ObjectHost.construct]
  split_ifs <;> exact ⟨rfl, rfl⟩

/-- The contexts have all classes, and are resolved on a host that misses none. -/
structure Sound (host : ObjectHost) (s : HostUse) : Prop where
  missing_eq : s.host.missing = host.missing
  eq_all : ∀ context ∈ s.contexts, context = ⟨HostKind.all⟩ ∧ host.missing = none

namespace Sound

lemma start (host : ObjectHost) : Sound host { host } := ⟨rfl, nofun⟩

/-- **One step.**  Every step keeps the contexts sound. -/
theorem step (h : s.Sound host) (c : Step) : (s.step c).Sound host := by
  cases c with
  | resolveAll =>
    rw [HostUse.step]
    cases hmissing : s.host.missing with
    | some kind =>
      rw [HostContext.resolveAll_of_missing hmissing]
      exact h
    | none =>
      rw [HostContext.resolveAll_of_none hmissing]
      refine ⟨h.missing_eq, fun context hcontext => ?_⟩
      rcases List.mem_append.mp hcontext with hold | hnew
      · exact h.eq_all context hold
      · exact ⟨List.mem_singleton.mp hnew, h.missing_eq ▸ hmissing⟩
  | teardown position =>
    rw [HostUse.step]
    split
    · next context _ =>
      refine ⟨?_, fun other hother => h.eq_all other (List.mem_of_mem_eraseIdx hother)⟩
      rw [HostContext.teardown, HostContext.releaseAll_eq]
      exact h.missing_eq
    · exact h
  | resolve kind =>
    rw [HostUse.step, ObjectHost.resolve]
    split_ifs
    · exact h
    · exact ⟨h.missing_eq, h.eq_all⟩
  | release cls => exact ⟨h.missing_eq, h.eq_all⟩
  | construct cls value => exact ⟨(snd_construct s.host cls value).2.trans h.missing_eq, h.eq_all⟩

/-- **A run.**  So does every run. -/
theorem run (h : s.Sound host) (steps : List Step) : (s.run steps).Sound host := by
  induction steps generalizing s with
  | nil => exact h
  | cons c steps ih => exact ih (h.step c)

end Sound

/-- **One step.**  A host counts the classes that are out, but never below zero. -/
theorem liveClasses_step (h : s.Sound host) (c : Step) :
    ((s.step c).host.liveClasses : ℤ)
      = max 0 (s.host.liveClasses + ((s.step c).balance - s.balance)) := by
  cases c with
  | resolveAll =>
    rw [step]
    cases hmissing : s.host.missing with
    | some kind =>
      rw [HostContext.resolveAll_of_missing hmissing]
      simp
    | none =>
      rw [HostContext.resolveAll_of_none hmissing]
      simp only [balance, List.length_append, List.length_singleton]
      omega
  | teardown position =>
    rw [step]
    split
    · next context hcontext =>
      obtain ⟨rfl, -⟩ := h.eq_all context (List.mem_of_getElem? hcontext)
      have hlt := (List.getElem?_eq_some_iff.mp hcontext).1
      rw [HostContext.teardown_all, balance, balance, List.length_eraseIdx_of_lt hlt]
      dsimp only
      omega
    · simp
  | resolve kind =>
    rw [step, ObjectHost.resolve]
    split_ifs
    · simp
    · simp only [balance]
      omega
  | release cls =>
    simp only [step, ObjectHost.release, balance]
    omega
  | construct cls value =>
    have hlive := (snd_construct s.host cls value).1
    simp only [step, balance]
    omega

lemma run_append_singleton (s : HostUse) (steps : List Step) (c : Step) :
    s.run (steps ++ [c]) = (s.run steps).step c :=
  List.foldl_concat ..

/-- What is given back without being out is missed by the steps, not by the host. -/
lemma balance_le_liveClasses (host : ObjectHost) (steps : List Step) :
    host.liveClasses + (run { host } steps).balance ≤ (run { host } steps).host.liveClasses := by
  induction steps using List.reverseRecOn with
  | nil => simp [run, balance]
  | append_singleton steps c ih =>
    rw [run_append_singleton, liveClasses_step ((Sound.start host).run steps)]
    omega

/-- **A run.**  A host counts what the steps leave exactly if that was never below zero. -/
theorem liveClasses_run_iff (host : ObjectHost) (steps : List Step) :
    ((run { host } steps).host.liveClasses : ℤ) = host.liveClasses + (run { host } steps).balance
      ↔ ∀ first, first <+: steps → 0 ≤ host.liveClasses + (run { host } first).balance := by
  induction steps using List.reverseRecOn with
  | nil => simp [List.prefix_nil, run, balance]
  | append_singleton steps c ih =>
    have hle := balance_le_liveClasses host steps
    have hstep := liveClasses_step ((Sound.start host).run steps) c
    rw [← run_append_singleton] at hstep
    simp only [List.prefix_concat_iff, forall_eq_or_imp, ← ih]
    omega

/-- **All classes or none.**  A host is used in any way in which at no time more classes were given back one
by one than were found.  Then it counts the classes that it had out, those found one by one less those given
back, and thirteen for every context that is not torn down.  If a class is missing, no context is resolved,
with the failure of that class, and the host is as it was; otherwise one is.  In every context the class of
a kind is the one that the host finds for it. -/
theorem classes_allOrNothing (host : ObjectHost) (steps : List Step)
    (hdirect : ∀ first, first <+: steps → (run { host } first).released ≤ (run { host } first).resolved) :
    let s := run { host } steps
    s.host.liveClasses + s.released = host.liveClasses + s.resolved + 13 * s.contexts.length
      ∧ (∀ kind, s.host.missing = some kind →
        HostContext.resolveAll s.host = (.error (.host s!"class {kind.className} not found"), s.host))
      ∧ (s.host.missing = none →
        HostContext.resolveAll s.host
          = (.ok ⟨HostKind.all⟩, { s.host with liveClasses := s.host.liveClasses + 13 }))
      ∧ ∀ context ∈ s.contexts, ∀ kind,
        context.classOf kind = .ok kind ∧ (s.host.resolve kind).1 = .ok kind := by
  intro s
  refine ⟨?_, fun kind => HostContext.resolveAll_of_missing, HostContext.resolveAll_of_none, ?_⟩
  · have hcount : (s.host.liveClasses : ℤ) = host.liveClasses + s.balance := by
      refine (liveClasses_run_iff host steps).mpr fun first hfirst => ?_
      have hle := hdirect first hfirst
      rw [balance]
      omega
    rw [balance] at hcount
    omega
  · intro context hcontext kind
    have hsound : s.Sound host := (Sound.start host).run steps
    obtain ⟨rfl, hnone⟩ := hsound.eq_all context hcontext
    refine ⟨?_, ?_⟩
    · rw [HostContext.classOf, HostKind.all_getElem_index]
    · rw [ObjectHost.resolve_of_none (hsound.missing_eq.trans hnone)]

/-- Two contexts overlap, the first of which is torn down first, around a class that is found by itself; the
host makes no objects.  A host that misses a class in the middle resolves no context and keeps its count. -/
theorem classes_allOrNothing_overlapping :
    let s := run { host := { liveClasses := 2, limit := some 0 } }
      [.resolveAll, .resolve .string, .resolveAll, .teardown 0, .construct .byte (.byte 1), .release .string,
        .resolve .date]
    let t := run { host := { liveClasses := 1, missing := some .timestamp } }
      [.resolveAll, .resolve .timestamp, .resolve .date]
    s.host.liveClasses = 2 + 1 + 13
      ∧ (∀ context ∈ s.contexts, context.classOf .bytes = .ok .bytes)
      ∧ t.host.liveClasses = 1 + 1
      ∧ HostContext.resolveAll t.host
        = (.error (.host s!"class {HostKind.timestamp.className} not found"), t.host) := by
  intro s t
  obtain ⟨hcount, -, -, hclasses⟩ := classes_allOrNothing { liveClasses := 2, limit := some 0 }
    [.resolveAll, .resolve .string, .resolveAll, .teardown 0, .construct .byte (.byte 1), .release .string,
      .resolve .date]
    (by simp only [← List.mem_inits]; decide +kernel)
  obtain ⟨hcount', hmissing, -, -⟩ := classes_allOrNothing { liveClasses := 1, missing := some .timestamp }
    [.resolveAll, .resolve .timestamp, .resolve .date] (by simp only [← List.mem_inits]; decide +kernel)
  refine ⟨?_, fun context hcontext => (hclasses context hcontext .bytes).1, ?_, hmissing .timestamp rfl⟩
  · exact Nat.add_right_cancel hcount
  · exact Nat.add_right_cancel hcount'

end HostUse

end ColumnBridge
