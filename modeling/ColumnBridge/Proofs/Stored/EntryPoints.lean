import ColumnBridge.Proofs.Fetch.Flat
import ColumnBridge.Proofs.Stored.Builder

/-!
All ways of building a column agree.

A flat array has a pass of its own, which saves the elements and asks about the type once.  Host values
and host objects are rows of the pass that serves all types.  The same values give the same column,
whichever way they come:

* `Column.ofArrayForward_eq`: the pass over an array leaves the column of its saved elements behind;
* `Column.ofValues_box`: the elements have the same column if each is boxed;
* `ObjectHost.unboxed_eq`: unboxing objects gives the rows of their values;
* `Column.entryPoints_agree`: arrays, rows, host values and host objects together.
-/

namespace ColumnBridge

variable {e : Element} {options : MarshalOptions}

/-- Unboxing objects gives the rows of their values. -/
lemma ObjectHost.unboxed_eq (host : ObjectHost) (objects : List (Option HostValue)) :
    host.unboxed objects = objects.map .ok := by
  refine List.map_congr_left fun object _ => ?_
  cases object <;> rfl

/-! ### Flat arrays -/

/-- A boxed element is stored in the slot that keeps the element. -/
lemma LogicalType.encode_box (options : MarshalOptions) (x : e.Carrier) :
    e.type.encode options (some (e.box x)) = .ok (e.storage_type ▸ e.save x) := by
  cases e <;> rfl

/-- The last element of an array is taken in with the number of those in front of it. -/
lemma ColumnBuilder.foldl_takeElement_concat (b : ColumnBuilder (.fixed e.slotKind))
    (elements : List e.Carrier) (x : e.Carrier) :
    (elements ++ [x]).zipIdx.foldl takeElement b
      = (elements.zipIdx.foldl takeElement b).pushSlot elements.length (e.save x) := by
  rw [List.zipIdx_append, List.foldl_append, Nat.zero_add]
  rfl

/-- The pass over an array keeps the saved elements. -/
lemma ColumnBuilder.keeps_foldl_takeElement (mark : HeapEntry) (ordering : NullOrdering)
    (elements : List e.Carrier) :
    (elements.zipIdx.foldl takeElement (start (.fixed e.slotKind) ordering)).Keeps mark ordering
      (elements.map e.save) := by
  induction elements using List.reverseRecOn with
  | nil => exact Keeps.start ..
  | append_singleton elements x ih =>
    have hpush := ih.pushSlot (e.save x)
    rw [List.length_map] at hpush
    rwa [foldl_takeElement_concat, List.map_append]

namespace Column

/-- A column of slots takes no memory of a heap. -/
lemma addressable_of_fixed {c : Column} {k : SlotKind} (h : c.type.storage = .fixed k) :
    c.Addressable := by
  have hzero : ∀ (s : StorageKind) (contents : s.Contents), s = .fixed k → s.heapSize contents = 0 := by
    rintro _ contents rfl
    rfl
  exact (hzero _ c.contents h).trans_lt (Nat.two_pow_pos 64)

/-- The pass over an array leaves the column of the saved elements behind, or refuses the type. -/
lemma ofArrayForward_eq (e : Element) (type : LogicalType) (options : MarshalOptions)
    (values : Array e.Carrier) :
    ofArrayForward e type options values = ofArray e type options values := by
  rw [ofArrayForward, ofArray]
  split_ifs with htype
  · subst htype
    exact (ColumnBuilder.keeps_foldl_takeElement _ _ _).finish_eq e.storage_type (Nat.two_pow_pos 64)
  · rfl

/-- Boxed elements have the column of the array. -/
lemma ofValues_box (e : Element) (options : MarshalOptions) (values : Array e.Carrier) :
    ofValues e.type options (values.toList.map fun x => some (e.box x))
      = ofArray e e.type options values := by
  have hcells : (e.storage_type ▸ (values.toList.map e.save : List (StorageKind.fixed e.slotKind).Cell)
      : List e.type.storage.Cell) = values.toList.map fun x => e.storage_type ▸ e.save x := by
    cases e <;> rfl
  rw [ofArray, if_pos rfl, ofValues_eq_ok_iff]
  refine ⟨_, ?_, rfl⟩
  rw [hcells, List.forall₂_map_left_iff, List.forall₂_map_right_iff]
  exact List.forall₂_same.mpr fun x _ => LogicalType.encode_box options x

/-! ### All ways together -/

/-- **All ways of building agree.**  An array of elements that a type takes always gives a column: the
slots are the saved elements, and the column is the one that the boxed elements have as rows, as host
values and as host objects, in one pass or not.  No other type takes the array.  Host values for any type
are built alike as they are, as rows and as objects, with the same column or the same failure; one pass
gives that failure, or that column if its heap has 64-bit addresses. -/
theorem entryPoints_agree (host : ObjectHost) (options : MarshalOptions) :
    (∀ (e : Element) (type : LogicalType) (values : Array e.Carrier), type = e.type →
        let boxed := values.toList.map fun x => some (e.box x)
        ∃ c, ofArrayForward e type options values = .ok c
          ∧ c.type = type ∧ c.slots e.slotKind = .ok (values.map e.save)
          ∧ ofValues type options boxed = .ok c
          ∧ ofObjects host type options boxed = .ok c
          ∧ build type options (boxed.map .ok) = .ok c
          ∧ buildForward type options (boxed.map .ok) = (.ok c, [])
          ∧ buildForward type options (host.unboxed boxed) = (.ok c, []))
      ∧ (∀ (e : Element) (type : LogicalType) (values : Array e.Carrier), type ≠ e.type →
          ofArrayForward e type options values = .error (e.mismatch type))
      ∧ ∀ (type : LogicalType) (values : List (Option HostValue)),
          build type options (values.map .ok) = ofValues type options values
            ∧ ofObjects host type options values = ofValues type options values
            ∧ buildForward type options (host.unboxed values)
              = buildForward type options (values.map .ok)
            ∧ (∀ failure, (buildForward type options (values.map .ok)).1 = .error failure
              ↔ ofValues type options values = .error failure)
            ∧ ∀ c, ofValues type options values = .ok c → c.Addressable →
                buildForward type options (values.map .ok) = (.ok c, []) := by
  refine ⟨?_, ?_, ?_⟩
  · rintro e _ values rfl boxed
    obtain ⟨c, hc⟩ : ∃ c, ofArray e e.type options values = .ok c := by
      rw [ofArray, if_pos rfl]
      exact ⟨_, rfl⟩
    have hvalues : ofValues e.type options boxed = .ok c := (ofValues_box e options values).trans hc
    have htype : c.type = e.type := by
      obtain ⟨cells, -, rfl⟩ := ofValues_eq_ok_iff.mp hvalues
      rfl
    have hstorage : c.type.storage = .fixed e.slotKind := by rw [htype, e.storage_type]
    have hfit : c.Addressable := addressable_of_fixed hstorage
    refine ⟨c, (ofArrayForward_eq ..).trans hc, htype, slots_ofArray hc, hvalues, ?_, hvalues,
      buildForward_of_addressable hvalues hfit, ?_⟩
    · rw [ofObjects, host.unboxed_eq]
      exact hvalues
    · rw [host.unboxed_eq]
      exact buildForward_of_addressable hvalues hfit
  · intro e type values htype
    rw [ofArrayForward, if_neg htype]
  · intro type values
    refine ⟨rfl, ?_, ?_, fun _ => fst_buildForward_eq_error_iff,
      fun _ => buildForward_of_addressable⟩
    · rw [ofObjects, host.unboxed_eq, ofValues]
    · rw [host.unboxed_eq]

/-- Integers around their nil, which takes part in no comparison, are sorted backwards, as an array and as
objects; no array of integers makes dates. -/
theorem entryPoints_agree_integers :
    (∃ c, ofArrayForward .int .int { nullOrdering := .skip } #[5, Int32.minValue, 3] = .ok c
        ∧ ofObjects {} .int { nullOrdering := .skip }
            [some (.integer 5), some (.integer Int32.minValue), some (.integer 3)] = .ok c
        ∧ c.slots (.int .w32) = .ok #[5, Int32.minValue, 3] ∧ c.flags = ⟨true, false, false, true⟩)
      ∧ ofArrayForward .int .date {} #[1] = .error (.typeMismatch "date" "int array") := by
  obtain ⟨harray, -, -⟩ := entryPoints_agree {} { nullOrdering := .skip }
  obtain ⟨c, hc, -, hslots, -, hobjects, -⟩ := harray .int .int #[5, Int32.minValue, 3] rfl
  have hsaved : (#[5, Int32.minValue, 3] : Array Int32).map (Element.save .int) = #[5, Int32.minValue, 3] :=
    Array.map_id _
  have hflags : c.flags = ⟨true, false, false, true⟩ := by
    cases hc
    rfl
  exact ⟨⟨c, hc, hobjects, hslots.trans (congrArg Except.ok hsaved), hflags⟩,
    (entryPoints_agree {} {}).2.1 .int .date #[1] nofun⟩

end Column

end ColumnBridge
