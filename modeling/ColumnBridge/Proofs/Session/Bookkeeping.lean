import ColumnBridge.Proofs.Engine.Outputs
import ColumnBridge.Proofs.Session.Lifecycle

/-!
Links, databases and the sessions of an engine in memory, which each keep their own books.

* `Embedding.Sound`: what holds whichever databases are used: no two open links share a session, no number
  was given out that is still to come, and an engine that does not run has no sessions;
* `Embedding.KeepsAll`: one database keeps all open links, and they have the sessions of the engine;
* `Embedding.Live`: every open link has its session;
* for each of them, what starting, stopping, connecting and closing make of it.
-/

namespace ColumnBridge

/-! ### The keys of a ledger -/

namespace Ledger

variable {κ α : Type} [DecidableEq κ] (l : Ledger κ α) (key : κ)

lemma keys_erase : (l.erase key).entries.map Prod.fst = (l.entries.map Prod.fst).filter (· ≠ key) := by
  rw [List.filter_map]
  rfl

lemma keys_modify (f : α → α) : (l.modify key f).entries.map Prod.fst = l.entries.map Prod.fst := by
  rw [modify, List.map_map]
  refine List.map_congr_left fun entry _ => ?_
  rw [Function.comp_apply]
  split_ifs <;> rfl

end Ledger

namespace Embedding

variable {w u : Embedding MemoryEngine} (db : Database) (settings : Settings)

/-- The sessions of the engine, in the order in which they were opened. -/
def sessionIds (w : Embedding MemoryEngine) : List SessionId := w.engine.sessions.entries.map Prod.fst

/-! ### What stays open and kept -/

/-- A link that is open after a database was stopped was open. -/
lemma session_of_stop {link : LinkId} {id : SessionId} (h : (db.stop w).2.session link = some id) :
    w.session link = some id := by
  cases hrun : w.engine.initialized with
  | false => rwa [db.stop_of_not_running hrun] at h
  | true =>
    rw [db.stop_of_running hrun] at h
    exact (w.session_of_closeKept h).2

lemma size_kept_stop : (db.stop w).2.kept.size = w.kept.size := by
  cases hrun : w.engine.initialized with
  | false => rw [db.stop_of_not_running hrun]
  | true =>
    rw [db.stop_of_running hrun]
    exact w.size_kept_closeKept db.id

lemma size_kept_connect : (db.connect w).2.kept.size = w.kept.size := by
  cases hrun : w.engine.initialized with
  | false => rw [db.connect_of_not_running hrun]
  | true =>
    rw [db.connect_of_running hrun]
    exact w.size_kept_openLink db.id (w.engine.lastHandle + 1)

/-- A database keeps the link of a connection that it opens, and of the others those that are open. -/
lemma keptBy_connect (hrun : w.engine.initialized = true) (hlt : db.id < w.kept.size) :
    (db.connect w).2.keptBy db.id = (w.keptBy db.id).filter w.isOpen ++ [w.links.size] := by
  rw [db.connect_of_running hrun]
  exact (w.keptBy_openLink hlt (w.engine.lastHandle + 1) db.id).trans (if_pos rfl)

/-- A link that is open after a connection was closed was open. -/
lemma session_of_close (c : Connection) {link : LinkId} {id : SessionId}
    (h : (c.close w).2.session link = some id) : w.session link = some id := by
  cases hlink : w.session c.link with
  | none => rwa [c.close_of_closed hlink] at h
  | some id =>
    rw [c.snd_close_of_open hlink] at h
    exact (w.session_of_closeLink h).2

lemma kept_close (c : Connection) : (c.close w).2.kept = w.kept := by
  cases hlink : w.session c.link with
  | none => rw [c.close_of_closed hlink]
  | some id =>
    rw [c.snd_close_of_open hlink]
    rfl

lemma initialized_close (c : Connection) :
    (c.close w).2.engine.initialized = w.engine.initialized := by
  cases hlink : w.session c.link with
  | none => rw [c.close_of_closed hlink]
  | some id => rw [c.snd_close_of_open hlink]

/-! ### Whichever databases are used -/

/-- No two open links share a session, no number was given out that is still to come, and an engine that
does not run has no sessions. -/
structure Sound (w : Embedding MemoryEngine) : Prop where
  inj : ∀ {link other id}, w.session link = some id → w.session other = some id → link = other
  le_lastHandle : ∀ {link id}, w.session link = some id → id ≤ w.engine.lastHandle
  key_le : ∀ {id}, id ∈ w.sessionIds → id ≤ w.engine.lastHandle
  no_sessions : w.engine.initialized = false → w.engine.sessions = .empty

namespace Sound

/-- Nothing can go wrong by closing links and sessions. -/
lemma of_subset (h : w.Sound) (hlast : u.engine.lastHandle = w.engine.lastHandle)
    (hsession : ∀ {link id}, u.session link = some id → w.session link = some id)
    (hids : ∀ {id}, id ∈ u.sessionIds → id ∈ w.sessionIds)
    (hstopped : u.engine.initialized = false → u.engine.sessions = .empty) : u.Sound where
  inj hlink hother := h.inj (hsession hlink) (hsession hother)
  le_lastHandle hlink := hlast ▸ h.le_lastHandle (hsession hlink)
  key_le hid := hlast ▸ h.key_le (hids hid)
  no_sessions := hstopped

lemma start (h : w.Sound) : (Database.start settings w).2.Sound := by
  rcases Database.start_cases settings w with ⟨-, hw⟩ | ⟨-, message, hw⟩ | ⟨-, hw⟩
  · rwa [hw]
  · rw [hw]
    exact h.of_subset rfl id id h.no_sessions
  · rw [hw]
    exact h.of_subset rfl id id nofun

lemma stop (h : w.Sound) : (db.stop w).2.Sound := by
  cases hrun : w.engine.initialized with
  | false => rwa [db.stop_of_not_running hrun]
  | true =>
    rw [db.stop_of_running hrun]
    exact h.of_subset rfl (fun hlink => (w.session_of_closeKept hlink).2) nofun fun _ => rfl

lemma close (h : w.Sound) (c : Connection) : (c.close w).2.Sound := by
  cases hlink : w.session c.link with
  | none => rwa [c.close_of_closed hlink]
  | some id =>
    rw [c.snd_close_of_open hlink]
    refine h.of_subset rfl (fun hlink => (w.session_of_closeLink hlink).2) (fun hid => ?_) fun hrun => ?_
    · rw [sessionIds, Ledger.keys_erase] at hid
      exact (List.mem_filter.mp hid).1
    · exact (congrArg (·.erase id) (h.no_sessions hrun)).trans rfl

/-- The number of a new session is new. -/
lemma new_not_mem (h : w.Sound) : w.engine.lastHandle + 1 ∉ w.sessionIds := fun hid =>
  absurd (h.key_le hid) (Nat.not_succ_le_self _)

/-- A new session comes after all others. -/
lemma sessionIds_connect (h : w.Sound) (hrun : w.engine.initialized = true) :
    (db.connect w).2.sessionIds = w.sessionIds ++ [w.engine.lastHandle + 1] := by
  rw [db.connect_of_running hrun]
  calc _ = (w.engine.sessions.insert (w.engine.lastHandle + 1) {}).entries.map Prod.fst :=
        Ledger.keys_modify ..
    _ = w.sessionIds ++ [w.engine.lastHandle + 1] := by
        rw [Ledger.entries_insert_of_not_mem h.new_not_mem, List.map_append]
        rfl

/-- A new link stands for the new session, and all others for what they stood for. -/
lemma session_connect (hrun : w.engine.initialized = true) (link : LinkId) :
    (db.connect w).2.session link
      = if link = w.links.size then some (w.engine.lastHandle + 1) else w.session link := by
  rw [db.connect_of_running hrun]
  exact w.session_openLink db.id _ link

/-- An open link stands for the new session, or was open. -/
lemma session_of_connect (hrun : w.engine.initialized = true) {link : LinkId} {id : SessionId}
    (h : (db.connect w).2.session link = some id) :
    link = w.links.size ∧ id = w.engine.lastHandle + 1 ∨ w.session link = some id := by
  rw [session_connect db hrun] at h
  split_ifs at h with hlink
  · exact .inl ⟨hlink, (Option.some.inj h).symm⟩
  · exact .inr h

lemma connect (h : w.Sound) : (db.connect w).2.Sound := by
  cases hrun : w.engine.initialized with
  | false => rwa [db.connect_of_not_running hrun]
  | true =>
    have hlast : (db.connect w).2.engine.lastHandle = w.engine.lastHandle + 1 := by
      rw [db.connect_of_running hrun]
      rfl
    refine ⟨?_, ?_, ?_, ?_⟩
    · intro link other id hlink hother
      -- the new session is none of those that an old link stands for
      have hnew {link : LinkId} (h' : w.session link = some (w.engine.lastHandle + 1)) : False :=
        absurd (h.le_lastHandle h') (Nat.not_succ_le_self _)
      rcases session_of_connect db hrun hlink with ⟨rfl, rfl⟩ | hold
      · rcases session_of_connect db hrun hother with ⟨rfl, -⟩ | hold'
        · rfl
        · exact (hnew hold').elim
      · rcases session_of_connect db hrun hother with ⟨rfl, rfl⟩ | hold'
        · exact (hnew hold).elim
        · exact h.inj hold hold'
    · intro link id hlink
      rw [hlast]
      rcases session_of_connect db hrun hlink with ⟨-, rfl⟩ | hold
      · exact le_rfl
      · exact (h.le_lastHandle hold).trans (Nat.le_succ _)
    · intro id hid
      rw [hlast]
      rw [h.sessionIds_connect db hrun, List.mem_append, List.mem_singleton] at hid
      rcases hid with hold | rfl
      · exact (h.key_le hold).trans (Nat.le_succ _)
      · exact le_rfl
    · rw [db.connect_of_running hrun]
      exact fun hstopped => absurd (hrun.symm.trans hstopped) nofun

end Sound

/-! ### While one database keeps all open links -/

/-- A database keeps all open links, and they have the sessions of the engine. -/
structure KeepsAll (w : Embedding MemoryEngine) (database : DatabaseId) : Prop where
  mem_keptBy : ∀ {link id}, w.session link = some id → link ∈ w.keptBy database
  openSessions_eq : w.openSessions database = w.sessionIds

namespace KeepsAll

variable {database : DatabaseId}

/-- The sessions of the engine are those of the open links. -/
lemma mem_sessionIds_iff (h : w.KeepsAll database) (id : SessionId) :
    id ∈ w.sessionIds ↔ ∃ link, w.session link = some id := by
  rw [← h.openSessions_eq, openSessions, List.mem_filterMap]
  exact exists_congr fun link => and_iff_right_of_imp h.mem_keptBy

/-- While the engine does not run, no link is open. -/
lemma session_eq_none (h : w.KeepsAll database) (hsound : w.Sound)
    (hrun : w.engine.initialized = false) (link : LinkId) : w.session link = none := by
  rw [Option.eq_none_iff_forall_ne_some]
  intro id hlink
  have hid := (h.mem_sessionIds_iff id).mpr ⟨link, hlink⟩
  rw [sessionIds, hsound.no_sessions hrun] at hid
  cases hid

/-- The open links of the database are as many as the sessions. -/
lemma countP_isOpen (h : w.KeepsAll database) :
    (w.keptBy database).countP w.isOpen = w.engine.sessionCount := by
  have hcount := congrArg List.length h.openSessions_eq
  rw [openSessions, List.length_filterMap_eq_countP, sessionIds, List.length_map] at hcount
  exact hcount

/-- A database that is just started keeps all open links, since there are none. -/
lemma addDatabase (h : w.KeepsAll database) (hsound : w.Sound) (hrun : w.engine.initialized = false) :
    w.addDatabase.KeepsAll w.kept.size := by
  have hnone : w.addDatabase.keptBy w.kept.size = [] :=
    (w.keptBy_addDatabase _).trans (w.keptBy_of_size_le le_rfl)
  have hids : w.sessionIds = [] := by
    rw [sessionIds, hsound.no_sessions hrun]
    rfl
  refine ⟨fun hlink => ?_, ?_⟩
  · cases (h.session_eq_none hsound hrun _).symm.trans hlink
  · rw [openSessions, hnone]
    exact hids.symm

lemma stop (h : w.KeepsAll db.id) : (db.stop w).2.KeepsAll db.id := by
  cases hrun : w.engine.initialized with
  | false => rwa [db.stop_of_not_running hrun]
  | true =>
    rw [db.stop_of_running hrun]
    refine ⟨fun hlink => ?_, ?_⟩
    · obtain ⟨hkept, hold⟩ := w.session_of_closeKept hlink
      exact absurd (h.mem_keptBy hold) hkept
    · change ((w.closeKept db.id).keptBy db.id).filterMap _ = []
      rw [keptBy_closeKept, if_pos rfl]
      rfl

lemma connect (h : w.KeepsAll db.id) (hsound : w.Sound) (hlt : db.id < w.kept.size) :
    (db.connect w).2.KeepsAll db.id := by
  cases hrun : w.engine.initialized with
  | false => rwa [db.connect_of_not_running hrun]
  | true =>
    have hkept := keptBy_connect db hrun hlt
    refine ⟨fun {link id} hlink => ?_, ?_⟩
    · rw [hkept, List.mem_append, List.mem_singleton, List.mem_filter]
      rcases Sound.session_of_connect db hrun hlink with ⟨rfl, -⟩ | hold
      · exact .inr rfl
      · exact .inl ⟨h.mem_keptBy hold, Option.isSome_of_eq_some hold⟩
    · rw [hsound.sessionIds_connect db hrun, openSessions, hkept, List.filterMap_append,
        ← h.openSessions_eq]
      congr 1
      · rw [List.filterMap_filter]
        refine List.filterMap_congr fun link _ => ?_
        rw [isOpen]
        cases hlink : w.session link with
        | none => rfl
        | some id =>
          rw [Sound.session_connect db hrun, if_neg (w.lt_size_of_session hlink).ne]
          exact hlink
      · rw [List.filterMap_cons_some, List.filterMap_nil]
        rw [Sound.session_connect db hrun, if_pos rfl]

lemma close (h : w.KeepsAll database) (hsound : w.Sound) (c : Connection) :
    (c.close w).2.KeepsAll database := by
  cases hlink : w.session c.link with
  | none => rwa [c.close_of_closed hlink]
  | some id =>
    rw [c.snd_close_of_open hlink]
    refine ⟨fun hopen => h.mem_keptBy (w.session_of_closeLink hopen).2, ?_⟩
    rw [sessionIds, Ledger.keys_erase]
    change (w.keptBy database).filterMap (w.closeLink c.link).session = w.sessionIds.filter (· ≠ id)
    rw [← h.openSessions_eq, openSessions, List.filter_filterMap]
    refine List.filterMap_congr fun link _ => ?_
    rw [session_closeLink]
    split_ifs with hsame
    · subst hsame
      rw [hlink, Option.filter_some, if_neg (by simp)]
    · cases hother : w.session link with
      | none => rfl
      | some other =>
        have hne : other ≠ id := fun heq => hsame (hsound.inj (heq ▸ hother) hlink)
        rw [Option.filter_some, if_pos (by simp [hne])]

end KeepsAll

/-! ### Sessions of open links -/

/-- Every open link has its session. -/
def Live (w : Embedding MemoryEngine) : Prop :=
  ∀ link id, w.session link = some id → id ∈ w.sessionIds

namespace Live

lemma start (h : w.Live) : (Database.start settings w).2.Live := by
  rcases Database.start_cases settings w with ⟨-, hw⟩ | ⟨-, message, hw⟩ | ⟨-, hw⟩
  · rwa [hw]
  · rw [hw]
    exact h
  · rw [hw]
    exact h

lemma connect (h : w.Live) (hsound : w.Sound) : (db.connect w).2.Live := by
  cases hrun : w.engine.initialized with
  | false => rwa [db.connect_of_not_running hrun]
  | true =>
    intro link id hlink
    rw [hsound.sessionIds_connect db hrun, List.mem_append, List.mem_singleton]
    rcases Sound.session_of_connect db hrun hlink with ⟨-, rfl⟩ | hold
    · exact .inr rfl
    · exact .inl (h link id hold)

lemma close (h : w.Live) (hsound : w.Sound) (c : Connection) : (c.close w).2.Live := by
  cases hlink : w.session c.link with
  | none => rwa [c.close_of_closed hlink]
  | some id =>
    rw [c.snd_close_of_open hlink]
    intro other id' hother
    obtain ⟨hne, hold⟩ := w.session_of_closeLink hother
    rw [sessionIds, Ledger.keys_erase]
    refine List.mem_filter.mpr ⟨h other id' hold, decide_eq_true fun heq => hne ?_⟩
    exact hsound.inj (heq ▸ hold) hlink

end Live

/-- Stopping a database ends all sessions, so that all open links have to be kept by it. -/
lemma live_stop_iff (hrun : w.engine.initialized = true) :
    (db.stop w).2.Live ↔ ∀ link id, w.session link = some id → link ∈ w.keptBy db.id := by
  rw [db.stop_of_running hrun]
  constructor
  · intro h link id hlink
    by_contra hkept
    have hopen : (w.closeKept db.id).session link = some id := by
      rw [session_closeKept, if_neg hkept, hlink]
    cases h link id hopen
  · intro h link id hlink
    obtain ⟨hkept, hold⟩ := w.session_of_closeKept hlink
    exact absurd (h link id hold) hkept

end Embedding

end ColumnBridge
