import ColumnBridge.Proofs.Session.Keeps
import ColumnBridge.Proofs.Session.Links
import ColumnBridge.Session.Database
import ColumnBridge.Session.Table

/-!
How the links of an embedding age, on any engine.

* `Embedding.SameLinks`: the relation that everything keeps but starting, stopping, connecting and closing;
* `Embedding.Ages`: links and databases are never taken away, a closed link stays closed, and a database
  lets go of closed links only;
* `Database.ages_start`, `ages_stop`, `ages_connect` and `Connection.ages_close`: the other four keep that.
-/

namespace ColumnBridge

namespace Embedding

variable {σ : Type}

/-- The links, and which of them each database keeps, are as before. -/
structure SameLinks (w u : Embedding σ) : Prop where
  links_eq : u.links = w.links
  kept_eq : u.kept = w.kept

/-- Links and databases are never taken away, a closed link stays closed, and a database lets go of closed
links only. -/
structure Ages (w u : Embedding σ) : Prop where
  links_le : w.links.size ≤ u.links.size
  kept_le : w.kept.size ≤ u.kept.size
  closed : ∀ link < w.links.size, w.session link = none → u.session link = none
  kept : ∀ database, ∀ link ∈ w.keptBy database, link < w.links.size → u.session link ≠ none →
    link ∈ u.keptBy database

instance : IsPreorder (Embedding σ) SameLinks where
  refl _ := ⟨rfl, rfl⟩
  trans _ _ _ h h' := ⟨h'.links_eq.trans h.links_eq, h'.kept_eq.trans h.kept_eq⟩

instance : IsPreorder (Embedding σ) Ages where
  refl _ := ⟨le_rfl, le_rfl, fun _ _ => id, fun _ _ hlink _ _ => hlink⟩
  trans w u v h h' :=
    { links_le := h.links_le.trans h'.links_le
      kept_le := h.kept_le.trans h'.kept_le
      closed := fun link hlt hnone => h'.closed link (hlt.trans_le h.links_le) (h.closed link hlt hnone)
      kept := fun database link hlink hlt hopen => by
        have hlt' := hlt.trans_le h.links_le
        have hopen' : u.session link ≠ none := fun hnone => hopen (h'.closed link hlt' hnone)
        exact h'.kept database link (h.kept database link hlink hlt hopen') hlt' hopen }

variable {w u : Embedding σ}

lemma Ages.of_sameLinks (h : SameLinks w u) : Ages w u where
  links_le := h.links_eq ▸ le_rfl
  kept_le := h.kept_eq ▸ le_rfl
  closed link _ hnone := by rwa [session, h.links_eq]
  kept database link hlink _ _ := by rwa [keptBy, h.kept_eq]

/-! ### What opens and closes links -/

lemma ages_closeLink (w : Embedding σ) (link : LinkId) : Ages w (w.closeLink link) where
  links_le := (Array.size_modify ..).ge
  kept_le := le_rfl
  closed other _ hnone := by
    rw [session_closeLink]
    split_ifs
    · rfl
    · exact hnone
  kept _ _ hother _ _ := hother

lemma ages_closeKept (w : Embedding σ) (database : DatabaseId) : Ages w (w.closeKept database) where
  links_le := by
    have hsize : ∀ (links : List LinkId) (w : Embedding σ),
        w.links.size ≤ (links.foldl closeLink w).links.size := by
      intro links
      induction links with
      | nil => exact fun _ => le_rfl
      | cons link links ih => exact fun w => (ages_closeLink w link).links_le.trans (ih _)
    exact hsize (w.keptBy database) w
  kept_le := (w.size_kept_closeKept database).ge
  closed link _ hnone := by
    rw [session_closeKept]
    split_ifs
    · rfl
    · exact hnone
  kept other link hlink _ hopen := by
    have hother : other ≠ database := by
      rintro rfl
      rw [session_closeKept, if_pos hlink] at hopen
      exact hopen rfl
    rwa [keptBy_closeKept, if_neg hother]

lemma ages_addDatabase (w : Embedding σ) : Ages w w.addDatabase where
  links_le := le_rfl
  kept_le := by
    rw [addDatabase, Array.size_push]
    exact Nat.le_succ _
  closed _ _ hnone := hnone
  kept database link hlink _ _ := by rwa [keptBy_addDatabase]

lemma ages_openLink (w : Embedding σ) (database : DatabaseId) (id : SessionId) :
    Ages w (w.openLink database id) where
  links_le := by
    rw [openLink, Array.size_push]
    exact Nat.le_succ _
  kept_le := (w.size_kept_openLink database id).ge
  closed link hlt hnone := by rwa [session_openLink, if_neg hlt.ne]
  kept other link hlink hlt hopen := by
    rw [session_openLink, if_neg hlt.ne] at hopen
    rw [keptBy, openLink, Array.getElem?_modify]
    split_ifs with hsame
    · rw [keptBy] at hlink
      cases hkept : w.kept[other]? with
      | none =>
        rw [hkept] at hlink
        cases hlink
      | some links =>
        rw [hkept] at hlink
        exact List.mem_append_left _ (List.mem_filter.mpr ⟨hlink, Option.isSome_iff_ne_none.mpr hopen⟩)
    · exact hlink

end Embedding

/-! ### Steps that leave the links alone -/

section Steps

open SessionM ColumnBridge.Embedding

variable {σ α : Type}

lemma keeps_onEngine (call : EngineM σ α) : Keeps SameLinks (onEngine call) :=
  Keeps.onEngine (Keeps.of_forall fun _ _ => trivial) fun _ => ⟨rfl, rfl⟩

lemma keeps_quietly (call : EngineM σ Unit) : Keeps SameLinks (quietly call) :=
  Keeps.quietly (Keeps.of_forall fun _ _ => trivial) fun _ => ⟨rfl, rfl⟩

lemma ages_onEngine (call : EngineM σ α) : Keeps Ages (onEngine call) :=
  (keeps_onEngine call).mono .of_sameLinks

lemma ages_quietly (call : EngineM σ Unit) : Keeps Ages (quietly call) :=
  (keeps_quietly call).mono .of_sameLinks

lemma Connection.keeps_withSession (c : Connection) (call : SessionId → EngineM σ α) :
    Keeps SameLinks (c.withSession call) := by
  refine .bind .get fun w => ?_
  split
  · exact keeps_onEngine _
  · exact .throw _

variable [StorageEngine σ]

namespace ResultSet

lemma keeps_releaseColumns (columns : List BoundColumn) :
    Keeps SameLinks (releaseColumns columns : SessionM σ Unit) := .forM (fun _ => keeps_quietly _) columns

lemma keeps_bindColumns (bound : List BoundColumn) (ds : List ColumnDescription) :
    Keeps SameLinks (bindColumns bound ds : SessionM σ (List BoundColumn)) := by
  induction ds generalizing bound with
  | nil => exact .pure _
  | cons d ds ih =>
    have hbind : Keeps SameLinks (BoundColumn.bind d : SessionM σ BoundColumn) :=
      .bind (.liftM _) fun _ => .bind (keeps_onEngine _) fun _ => .pure _
    exact .bind (.onFailure hbind (keeps_releaseColumns bound)) fun _ => ih _

lemma keeps_create (output : QueryOutput) (options : MarshalOptions) :
    Keeps SameLinks (create output options : SessionM σ ResultSet) :=
  .bind (.onFailure (keeps_bindColumns [] _) (keeps_quietly _)) fun _ => .pure _

lemma keeps_free (rs : ResultSet) : Keeps SameLinks (rs.free : SessionM σ Unit) :=
  .bind (keeps_releaseColumns _) fun _ => keeps_onEngine _

lemma keeps_drop (rs : ResultSet) : Keeps SameLinks (rs.drop : SessionM σ Unit) :=
  .bind (keeps_releaseColumns _) fun _ => keeps_quietly _

end ResultSet

namespace Connection

variable (c : Connection) (sql : String)

lemma keeps_refuse (output : QueryOutput) (e : SessionError) :
    Keeps SameLinks (refuse output e : SessionM σ α) := .bind (keeps_quietly _) fun _ => .throw e

lemma keeps_bind (output : QueryOutput) : Keeps SameLinks (c.bind output : SessionM σ ResultSet) :=
  .ite (keeps_refuse output _) (ResultSet.keeps_create output _)

lemma keeps_query : Keeps SameLinks (c.query sql : SessionM σ ResultSet) :=
  .bind (c.keeps_withSession _) fun output => .ite (c.keeps_bind output) (keeps_refuse output _)

lemma keeps_update : Keeps SameLinks (c.update sql : SessionM σ Int64) :=
  .bind (c.keeps_withSession _) fun _ => .bind (keeps_onEngine _) fun _ => .pure _

lemma keeps_prepare : Keeps SameLinks (c.prepare sql : SessionM σ PreparedStatement) := by
  refine .bind (c.keeps_withSession _) fun output => ?_
  split
  · exact .bind (c.keeps_bind output) fun _ => .pure _
  · exact keeps_refuse output _

lemma keeps_executePrepared : Keeps SameLinks (c.executePrepared sql : SessionM σ ExecOutcome) :=
  .bind (c.keeps_withSession _) fun output =>
    .ite (.bind (ResultSet.keeps_create output _) fun _ => .pure _)
      (.bind (keeps_onEngine _) fun _ => .pure _)

lemma keeps_executeAndIgnore : Keeps SameLinks (c.executeAndIgnore sql : SessionM σ Unit) :=
  .bind (c.keeps_withSession _) fun _ => keeps_onEngine _

lemma keeps_table (schema name : String) : Keeps SameLinks (c.table schema name : SessionM σ Table) :=
  .bind (c.keeps_withSession _) fun _ => .pure _

end Connection

lemma Table.keeps_append (t : Table) (arrays : List AppendArray) :
    Keeps SameLinks (t.append arrays : SessionM σ ℕ) := by
  refine .bind (t.connection.keeps_withSession _) fun columns => ?_
  refine .ite (.bind (.throw _) fun _ => ?_) ?_ <;>
  exact .bind (.liftM _) fun _ => .bind (t.connection.keeps_withSession _) fun _ => .pure _

/-! ### Starting, stopping, connecting and closing -/

namespace Database

lemma ages_start (settings : Settings) : Keeps Ages (start settings : SessionM σ Database) := by
  refine .bind .get fun w => .ite (.bind (.throw _) fun _ => ?_) ?_ <;>
  · refine .bind (ages_onEngine _) fun _ => .bind .get fun _ => ?_
    exact .bind (.modify ages_addDatabase) fun _ => .pure _

lemma ages_stop (db : Database) : Keeps Ages (db.stop : SessionM σ Unit) := by
  have hend : Keeps Ages (do
      if !isRunning (← get) then throw .notRunning
      onEngine StorageEngine.shutdown : SessionM σ Unit) :=
    .bind .get fun _ => .ite (.bind (.throw _) fun _ => ages_onEngine _) (ages_onEngine _)
  refine .bind .get fun w => .ite (.bind (.throw _) fun _ => ?_) ?_ <;>
  · refine .bind .get fun _ => .bind (.modify fun w => ages_closeKept w db.id) fun _ => ?_
    exact .bind (.forM (fun _ => ages_quietly _) _) fun _ => hend

lemma ages_connect (db : Database) : Keeps Ages (db.connect : SessionM σ Connection) := by
  refine .bind .get fun w => .ite (.bind (.throw _) fun _ => ?_) ?_ <;>
  · refine .bind (ages_onEngine _) fun id => ?_
    refine .bind (.onFailure (ages_onEngine _) (ages_quietly _)) fun _ => .bind .get fun _ => ?_
    exact .bind (.modify fun w => ages_openLink w db.id id) fun _ => .pure _

end Database

lemma Connection.ages_close (c : Connection) : Keeps Ages (c.close : SessionM σ Unit) := by
  refine .bind .get fun w => ?_
  split
  · exact .pure _
  · exact .bind (.modify fun w => ages_closeLink w c.link) fun _ => ages_onEngine _

end Steps

end ColumnBridge
