import ColumnBridge.Session.Embedding
import Mathlib.Tactic

/-!
What opening and closing does to the links of an embedding.

* `Embedding.session_closeLink`, `session_openLink`, `session_closeKept`: the session of every link;
* `Embedding.keptBy_addDatabase`, `keptBy_openLink`, `keptBy_closeKept`: what every database keeps;
* the engine is touched by none of them.
-/

namespace ColumnBridge.Embedding

variable {σ : Type} (w : Embedding σ)

/-! ### Closing a link -/

lemma session_closeLink (link other : LinkId) :
    (w.closeLink link).session other = if other = link then none else w.session other := by
  rw [session, closeLink, Array.getElem?_modify]
  split_ifs with h h' h'
  · cases w.links[other]? <;> rfl
  · exact absurd h.symm h'
  · exact absurd h'.symm h
  · rfl

/-- A link that is still open is another one, and was open. -/
lemma session_of_closeLink {link other : LinkId} {id : SessionId}
    (h : (w.closeLink link).session other = some id) : other ≠ link ∧ w.session other = some id := by
  rw [session_closeLink] at h
  split_ifs at h with hother
  exact ⟨hother, h⟩

lemma engine_foldl_closeLink (links : List LinkId) : (links.foldl closeLink w).engine = w.engine := by
  induction links generalizing w with
  | nil => rfl
  | cons link links ih => exact ih (w.closeLink link)

lemma session_foldl_closeLink (links : List LinkId) (other : LinkId) :
    (links.foldl closeLink w).session other = if other ∈ links then none else w.session other := by
  induction links generalizing w with
  | nil => exact (if_neg List.not_mem_nil).symm
  | cons link links ih =>
    rw [List.foldl_cons, ih, session_closeLink]
    by_cases hself : other = link
    · simp [hself]
    · simp [hself]

/-! ### Closing what a database keeps -/

@[simp] lemma engine_closeKept (database : DatabaseId) : (w.closeKept database).engine = w.engine :=
  engine_foldl_closeLink w _

lemma session_closeKept (database : DatabaseId) (link : LinkId) :
    (w.closeKept database).session link
      = if link ∈ w.keptBy database then none else w.session link :=
  session_foldl_closeLink w _ link

/-- A link that is still open is not kept by the database, and was open. -/
lemma session_of_closeKept {database : DatabaseId} {link : LinkId} {id : SessionId}
    (h : (w.closeKept database).session link = some id) :
    link ∉ w.keptBy database ∧ w.session link = some id := by
  rw [session_closeKept] at h
  split_ifs at h with hkept
  exact ⟨hkept, h⟩

lemma keptBy_closeKept (database other : DatabaseId) :
    (w.closeKept database).keptBy other = if other = database then [] else w.keptBy other := by
  rw [keptBy, closeKept, Array.getElem?_modify]
  split_ifs with h h' h'
  · cases w.kept[other]? <;> rfl
  · exact absurd h.symm h'
  · exact absurd h'.symm h
  · rfl

lemma size_kept_closeKept (database : DatabaseId) :
    (w.closeKept database).kept.size = w.kept.size := Array.size_modify

/-! ### New databases and links -/

/-- A new database keeps nothing, as no database did under its number. -/
lemma keptBy_addDatabase (database : DatabaseId) :
    w.addDatabase.keptBy database = w.keptBy database := by
  rw [keptBy, addDatabase, Array.getElem?_push]
  split_ifs with h
  · rw [keptBy, h, Array.getElem?_eq_none le_rfl]
    rfl
  · rfl

/-- Nothing is kept under a number that no database has. -/
lemma keptBy_of_size_le {database : DatabaseId} (h : w.kept.size ≤ database) :
    w.keptBy database = [] := by
  rw [keptBy, Array.getElem?_eq_none h]
  rfl

lemma session_openLink (database : DatabaseId) (id : SessionId) (link : LinkId) :
    (w.openLink database id).session link
      = if link = w.links.size then some id else w.session link := by
  rw [session, openLink, Array.getElem?_push]
  split_ifs with h
  · rfl
  · rfl

lemma keptBy_openLink {database : DatabaseId} (h : database < w.kept.size) (id : SessionId)
    (other : DatabaseId) :
    (w.openLink database id).keptBy other
      = if other = database then (w.keptBy database).filter w.isOpen ++ [w.links.size]
        else w.keptBy other := by
  rw [keptBy, openLink, Array.getElem?_modify]
  split_ifs with hsame hself hself
  · subst hself
    rw [keptBy, Array.getElem?_eq_getElem h]
    rfl
  · exact absurd hsame.symm hself
  · exact absurd hself.symm hsame
  · rfl

lemma size_kept_openLink (database : DatabaseId) (id : SessionId) :
    (w.openLink database id).kept.size = w.kept.size := Array.size_modify

/-- A link that was never made is not open. -/
lemma lt_size_of_session {link : LinkId} {id : SessionId} (h : w.session link = some id) :
    link < w.links.size := by
  obtain ⟨l, hl, -⟩ := Option.bind_eq_some_iff.mp h
  exact (Array.getElem?_eq_some_iff.mp hl).1

end ColumnBridge.Embedding
