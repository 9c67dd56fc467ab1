import ColumnBridge.Fetch
import ColumnBridge.Proofs.Session.Ends
import ColumnBridge.Proofs.Stored.StoreRead

/-!
Rows fetched into a flat array.

An array in pinned memory is filled in place; any other one is filled by a region that was made ready
beside it.  Slots are copied as a block where they are elements and one by one where they are converted.
The array afterwards does not show which of these was done.

* `Element.copyRun_eq`: both ways to copy a run of slots load every slot;
* `Column.exists_slotRun_iff`, `Column.slotRun_spec`: when a column has a run of slots, and which;
* `Column.fillFlat_eq`: a fill fails without a trace or writes the loaded run over the first elements;
* `Column.fillFlat_agrees`: both kinds of arrays are left alike, with what a fill gives and when.
-/

namespace ColumnBridge

/-! ### Copying a run -/

namespace Element

lemma loadEach_eq (e : Element) {slots : List e.slotKind.Slot} {values : List e.Carrier}
    (h : slots.length = values.length) : e.loadEach slots values = slots.map e.load := by
  induction slots generalizing values with
  | nil =>
    obtain rfl : values = [] := List.length_eq_zero_iff.mp h.symm
    rfl
  | cons slot slots ih =>
    cases values with
    | nil => cases h
    | cons value values => rw [loadEach, ih (Nat.succ.inj h), List.map_cons]

/-- Copying a run of slots over as many elements loads every slot, whatever the elements were. -/
lemma copyRun_eq (e : Element) {slots : Array e.slotKind.Slot} {values : Array e.Carrier}
    (h : slots.size = values.size) : e.copyRun slots values = slots.map e.load := by
  cases e with
  | boolean => rw [copyRun, loadEach_eq _ h, ← Array.toList_map]
  -- a block of slots is a block of elements
  | _ => exact (Array.map_id slots).symm

end Element

/-- A region that fits replaces the beginning of an array. -/
lemma overwrite_zero {α : Type} {array region : Array α} (h : region.size ≤ array.size) :
    overwrite array 0 region = .ok (region ++ array.extract region.size array.size) := by
  simp [overwrite, h]

/-- Behind a new beginning, an array is what it was. -/
lemma getElem?_append_extract {α : Type} {run array : Array α} {i : ℕ} (hi : run.size ≤ i) :
    (run ++ array.extract run.size array.size)[i]? = array[i]? := by
  rw [Array.getElem?_append_right hi, Array.getElem?_extract]
  split_ifs with hlt
  · rw [Nat.add_sub_cancel' hi]
  · exact (Array.getElem?_eq_none (by omega)).symm

lemma extract_append_self {α : Type} {run rest : Array α} {n : ℕ} (h : run.size = n) :
    (run ++ rest).extract 0 n = run := by
  subst h
  rw [Array.extract_append_left, Array.extract_size]

namespace Column

variable {c : Column} {e : Element} {first size : ℕ}

/-! ### Runs of slots -/

/-- A column of the type of an array keeps a slot for each of its rows. -/
lemma exists_slots (h : c.type = e.type) :
    ∃ slots, c.slots e.slotKind = .ok slots ∧ slots.size = c.count := by
  obtain ⟨type, contents, flags, hflags⟩ := c
  obtain rfl : type = e.type := h
  cases e <;> exact ⟨contents, rfl, rfl⟩

lemma window_eq_ok_iff {rows : RowRange} :
    c.window first size = .ok rows ↔ first + size ≤ c.count ∧ rows = ⟨first, first + size⟩ := by
  rw [window]
  split_ifs with h
  · rw [Except.ok.injEq, eq_comm]
    exact (and_iff_right h).symm
  · exact iff_of_false nofun fun hboth => h hboth.1

/-- A column has a run of slots if it carries the elements and has the rows. -/
lemma exists_slotRun_iff :
    (∃ run, c.slotRun e first size = .ok run) ↔ c.type = e.type ∧ first + size ≤ c.count := by
  rw [slotRun]
  split_ifs with htype
  · exact iff_of_false nofun fun h => htype h.1
  · rw [not_not] at htype
    obtain ⟨slots, hslots, -⟩ := exists_slots htype
    simp only [bind_eq_ok, window_eq_ok_iff, hslots]
    constructor
    · rintro ⟨run, rows, ⟨hrows, -⟩, -⟩
      exact ⟨htype, hrows⟩
    · rintro ⟨-, hrows⟩
      exact ⟨_, _, ⟨hrows, rfl⟩, slots, rfl, rfl⟩

/-- A run consists of the slots of its rows, one for each. -/
lemma slotRun_spec {run : Array e.slotKind.Slot} (h : c.slotRun e first size = .ok run) :
    run.size = size
      ∧ ∃ slots, c.slots e.slotKind = .ok slots ∧ run = slots.extract first (first + size) := by
  obtain ⟨htype, hrows⟩ := exists_slotRun_iff.mp ⟨run, h⟩
  obtain ⟨slots, hslots, hsize⟩ := exists_slots htype
  rw [slotRun, if_neg (not_not.mpr htype)] at h
  obtain ⟨rows, hwindow, hrun⟩ := bind_eq_ok.mp h
  obtain ⟨-, rfl⟩ := window_eq_ok_iff.mp hwindow
  rw [hslots] at hrun
  obtain rfl : slots.extract first (first + size) = run := Except.ok.inj hrun
  refine ⟨?_, slots, hslots, rfl⟩
  rw [Array.size_extract]
  omega

/-! ### Filling an array -/

/-- A fill fails and leaves the array as it was, or it writes the loaded run over the first elements.
Whether the array is pinned makes no difference. -/
theorem fillFlat_eq (c : Column) (first size : ℕ) (target : Destination e) :
    c.fillFlat e first size target =
      match c.slotRun e first size with
      | .error failure => (.error failure, target)
      | .ok run =>
        if target.values.size < size then
          (.error (.rowOutOfRange 0 size target.values.size), target)
        else
          (.ok (), { target with
            values := run.map e.load ++ target.values.extract size target.values.size }) := by
  rw [fillFlat]
  cases hrun : c.slotRun e first size with
  | error failure => exact bind_apply_of_error rfl
  | ok run =>
    have hsize := (slotRun_spec hrun).1
    rw [bind_apply_of_ok (show (liftM (Except.ok run) : FillM e _) target = (.ok run, target) from rfl),
      get_bind_apply]
    dsimp only
    split_ifs with hfull hpinned
    · rfl
    · have hview : run.size = (target.values.extract 0 size).size := by
        rw [Array.size_extract]
        omega
      rw [Element.copyRun_eq e hview]
      rfl
    · have hstaging : run.size = (Array.replicate size e.blank).size := by
        rw [Array.size_replicate, hsize]
      have hfits : (run.map e.load).size ≤ target.values.size := by
        rw [Array.size_map]
        omega
      have hregion := overwrite_zero hfits
      rw [Array.size_map, hsize] at hregion
      rw [Element.copyRun_eq e hstaging, Destination.setRegion, get_bind_apply, hregion]
      rfl

/-- An array after a fill: its first elements are loaded from the slots of the rows, and all others are
what they were. -/
structure Filled (c : Column) (e : Element) (first size : ℕ) (before after : Array e.Carrier) : Prop where
  size_eq : after.size = before.size
  loaded : ∃ slots, c.slots e.slotKind = .ok slots ∧ ∀ i < size, ∃ slot,
    slots[first + i]? = some slot ∧ after[i]? = some (e.load slot)
  kept : ∀ i, size ≤ i → after[i]? = before[i]?

lemma filled_of_slotRun {run : Array e.slotKind.Slot} (h : c.slotRun e first size = .ok run)
    {values : Array e.Carrier} (hsize : size ≤ values.size) :
    Filled c e first size values (run.map e.load ++ values.extract size values.size) := by
  obtain ⟨hrun, slots, hslots, hextract⟩ := slotRun_spec h
  have hmap : (run.map e.load).size = size := by rw [Array.size_map, hrun]
  refine ⟨?_, ⟨slots, hslots, fun i hi => ?_⟩, fun i hi => ?_⟩
  · rw [Array.size_append, hmap, Array.size_extract]
    omega
  · have hlt : i < run.size := hrun.symm ▸ hi
    have hwithin : i < min (first + size) slots.size - first := by
      rwa [hextract, Array.size_extract] at hlt
    have hslot : run[i]? = slots[first + i]? := by
      rw [hextract, Array.getElem?_extract, if_pos hwithin]
    refine ⟨run[i], hslot.symm.trans (Array.getElem?_eq_getElem hlt), ?_⟩
    rw [Array.getElem?_append_left (hmap.symm ▸ hi), Array.getElem?_map, Array.getElem?_eq_getElem hlt]
    rfl
  · rw [← hmap]
    exact getElem?_append_extract (hmap.symm ▸ hi)

/-- A column of a flat array keeps the saved elements as its slots. -/
lemma slots_ofArray {type : LogicalType} {options : MarshalOptions} {array : Array e.Carrier}
    (h : ofArray e type options array = .ok c) : c.slots e.slotKind = .ok (array.map e.save) := by
  rw [ofArray] at h
  split_ifs at h with htype
  cases h
  cases e <;> exact congrArg Except.ok List.map_toArray.symm

/-- A run of a column of a flat array loads the elements of its rows. -/
lemma map_load_of_slotRun {type : LogicalType} {options : MarshalOptions} {array : Array e.Carrier}
    (h : ofArray e type options array = .ok c) {run : Array e.slotKind.Slot}
    (hrun : c.slotRun e first size = .ok run) :
    run.map e.load = array.extract first (first + size) := by
  obtain ⟨-, slots, hslots, rfl⟩ := slotRun_spec hrun
  obtain rfl : array.map e.save = slots := Except.ok.inj ((slots_ofArray h).symm.trans hslots)
  have hloaded : e.load ∘ e.save = id := funext e.load_save
  rw [← Array.map_extract, Array.map_map, hloaded, Array.map_id]

/-! ### The two kinds of arrays -/

/-- A fill fails alike on both kinds of arrays and leaves them as they were, or it leaves the same loaded
run on both. -/
lemma fillFlat_cases (c : Column) (e : Element) (first size : ℕ) (values : Array e.Carrier) :
    (∃ failure, ¬ (c.type = e.type ∧ first + size ≤ c.count ∧ size ≤ values.size)
        ∧ ∀ pinned, c.fillFlat e first size ⟨values, pinned⟩ = (.error failure, ⟨values, pinned⟩))
      ∨ ∃ run, c.slotRun e first size = .ok run ∧ size ≤ values.size
        ∧ ∀ pinned, c.fillFlat e first size ⟨values, pinned⟩
          = (.ok (), ⟨run.map e.load ++ values.extract size values.size, pinned⟩) := by
  have hiff := @exists_slotRun_iff c e first size
  simp only [fillFlat_eq]
  cases hrun : c.slotRun e first size with
  | error failure =>
    refine .inl ⟨failure, fun hall => ?_, fun _ => rfl⟩
    obtain ⟨run, hok⟩ := hiff.mpr ⟨hall.1, hall.2.1⟩
    cases hrun.symm.trans hok
  | ok run =>
    by_cases hroom : values.size < size
    · refine .inl ⟨_, fun hall => ?_, fun _ => if_pos hroom⟩
      exact absurd hall.2.2 (Nat.not_le.mpr hroom)
    · exact .inr ⟨run, rfl, Nat.not_lt.mp hroom, fun _ => if_neg hroom⟩

/-- **In place or by regions.**  A fill gives the same result on an array that is pinned and on one that
takes regions only, and leaves the same elements.  It succeeds exactly if the column carries the elements,
has the rows, and the array has room for them; then the first elements are loaded from the slots of the
rows, nils and NaNs included, and all others stay.  If it fails, the array is as it was.  Of a column that
was built from a flat array, the first elements are those of that array, bit for bit. -/
theorem fillFlat_agrees (c : Column) (e : Element) (first size : ℕ) (values : Array e.Carrier) :
    let inPlace := c.fillFlat e first size ⟨values, true⟩
    let byRegion := c.fillFlat e first size ⟨values, false⟩
    (inPlace.1 = byRegion.1 ∧ inPlace.2.values = byRegion.2.values)
      ∧ (inPlace.1 = .ok () ↔ c.type = e.type ∧ first + size ≤ c.count ∧ size ≤ values.size)
      ∧ (inPlace.1 = .ok () → Filled c e first size values inPlace.2.values)
      ∧ (∀ failure, inPlace.1 = .error failure → inPlace.2.values = values)
      ∧ ∀ type options array, ofArray e type options array = .ok c → inPlace.1 = .ok () →
          inPlace.2.values.extract 0 size = array.extract first (first + size) := by
  intro inPlace byRegion
  rcases fillFlat_cases c e first size values with ⟨failure, hrefused, hfill⟩ | ⟨run, hrun, hroom, hfill⟩
  · rw [show inPlace = _ from hfill true, show byRegion = _ from hfill false]
    exact ⟨⟨rfl, rfl⟩, iff_of_false nofun hrefused, nofun, fun _ _ => rfl, fun _ _ _ _ => nofun⟩
  · rw [show inPlace = _ from hfill true, show byRegion = _ from hfill false]
    obtain ⟨htype, hrows⟩ := exists_slotRun_iff.mp ⟨run, hrun⟩
    refine ⟨⟨rfl, rfl⟩, iff_of_true rfl ⟨htype, hrows, hroom⟩, fun _ => filled_of_slotRun hrun hroom,
      nofun, fun type options array hbuilt _ => ?_⟩
    rw [← map_load_of_slotRun hbuilt hrun]
    exact extract_append_self (Array.size_map.trans (slotRun_spec hrun).1)

end Column

end ColumnBridge
