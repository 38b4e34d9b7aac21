import RouteProbe.Proofs.Table
import RouteProbe.Value

/-!
# Members of events

What holds of all members goes on to hold when others are set, dropped or added of which it holds
too (`Members.forall_mem_put` and those after it).  Above all this goes for lacking a name: whether
an event can be completed hangs on a few names that its members must not have.

A name that is set has its value, and the others keep theirs (`Members.get?_put`).  Where members
are added, those that are there come first (`Members.get?_complete`).
-/

namespace RouteProbe
namespace Members

/-- No member has the name. -/
def Lacks (ms : Members) (k : String) : Prop := ∀ m ∈ ms, m.1 ≠ k

variable {ms more : Members} {k : String}

instance (ms : Members) (k : String) : Decidable (ms.Lacks k) :=
  inferInstanceAs (Decidable (∀ m ∈ ms, m.1 ≠ k))

theorem lacks_nil (k : String) : Members.Lacks [] k := fun _ h => by cases h

theorem Lacks.find?_eq_none (h : ms.Lacks k) : ms.find? (fun m => m.1 == k) = none := by
  rw [List.find?_eq_none]
  intro m hm
  rw [beq_iff_eq]
  exact h m hm

/-- A name that no member has, has no value. -/
theorem Lacks.get?_eq_none (h : ms.Lacks k) : ms.get? k = none := by
  rw [get?, h.find?_eq_none, Option.map_none]

/-- Names that differ are not among those before them. -/
theorem lacks_of_nodup {m : String × Value} (h : (List.map (·.1) (ms ++ m :: more)).Nodup) :
    ms.Lacks m.1 := by
  intro x hx hname
  rw [List.map_append, List.nodup_append] at h
  exact h.2.2 x.1 (List.mem_map_of_mem hx) m.1 (List.mem_map_of_mem List.mem_cons_self) hname

theorem Lacks.has_eq_false (h : ms.Lacks k) : ms.has k = false := by
  rw [has, List.any_eq_false]
  intro m hm
  rw [beq_iff_eq]
  exact h m hm

/-- The value of a name that the members in front lack is among those behind. -/
theorem Lacks.get?_append (h : ms.Lacks k) (more : Members) :
    Members.get? (ms ++ more) k = more.get? k := by
  rw [get?, get?, List.find?_append, h.find?_eq_none, Option.none_or]

/-- The value of a member is found under its name if the names differ. -/
theorem get?_of_mem {m : String × Value} (hnames : (ms.map (·.1)).Nodup) (hm : m ∈ ms) :
    ms.get? m.1 = some m.2 := by
  obtain ⟨before, after, rfl⟩ := List.append_of_mem hm
  have hfirst : (m :: after).find? (fun x => x.1 == m.1) = some m :=
    List.find?_cons_of_pos (beq_self_eq_true m.1)
  rw [(lacks_of_nodup hnames).get?_append, get?, hfirst, Option.map_some]

/-- A name that no member has is set at the end. -/
theorem Lacks.put_eq (h : ms.Lacks k) (v : Value) : ms.put k v = ms ++ [(k, v)] := by
  rw [Members.put, h.has_eq_false, if_neg Bool.false_ne_true]

/-- A name that no member has can be dropped. -/
theorem Lacks.erase_eq (h : ms.Lacks k) : ms.erase k = ms := by
  rw [Members.erase, List.filter_eq_self]
  intro m hm
  rw [bne_iff_ne]
  exact h m hm

/-! ## What holds of all members -/

section

variable {P : String × Value → Prop}

/-- What holds of the members and of a new one holds of them when the new one is set. -/
theorem forall_mem_put (h : ∀ m ∈ ms, P m) {k : String} {v : Value} (hnew : P (k, v)) :
    ∀ m ∈ ms.put k v, P m := by
  unfold Members.put
  split
  · intro m hm
    obtain ⟨m', hm', rfl⟩ := List.mem_map.mp hm
    split
    · exact hnew
    · exact h m' hm'
  · intro m hm
    rcases List.mem_append.mp hm with hm | hm
    · exact h m hm
    · rw [List.mem_singleton.mp hm]
      exact hnew

theorem forall_mem_erase (h : ∀ m ∈ ms, P m) (k : String) : ∀ m ∈ ms.erase k, P m :=
  fun m hm => h m (List.mem_filter.mp hm).1

theorem forall_mem_sorted (h : ∀ m ∈ ms, P m) : ∀ m ∈ ms.sorted, P m :=
  fun m hm => h m (List.mem_mergeSort.mp hm)

theorem forall_mem_complete (h : ∀ m ∈ ms, P m) (hmore : ∀ m ∈ more, P m) :
    ∀ m ∈ ms.complete more, P m := by
  induction more generalizing ms with
  | nil => exact h
  | cons m more ih =>
      obtain ⟨hfirst, hrest⟩ := List.forall_mem_cons.mp hmore
      rw [Members.complete, List.foldl_cons]
      refine ih ?_ hrest
      split
      · exact h
      · intro n hn
        rcases List.mem_append.mp hn with hn | hn
        · exact h n hn
        · rw [List.mem_singleton.mp hn]
          exact hfirst

theorem forall_mem_update (h : ∀ m ∈ ms, P m) (hmore : ∀ m ∈ more, P m) :
    ∀ m ∈ ms.update more, P m := by
  induction more generalizing ms with
  | nil => exact h
  | cons m more ih =>
      obtain ⟨hfirst, hrest⟩ := List.forall_mem_cons.mp hmore
      rw [Members.update, List.foldl_cons]
      exact ih (forall_mem_put h hfirst) hrest

end

/-- Setting another name does not bring the name in. -/
theorem Lacks.put (h : ms.Lacks k) {k' : String} (hne : k' ≠ k) (v : Value) :
    (ms.put k' v).Lacks k := forall_mem_put h hne

theorem Lacks.erase (h : ms.Lacks k) (k' : String) : (ms.erase k').Lacks k := forall_mem_erase h k'

theorem Lacks.sorted (h : ms.Lacks k) : ms.sorted.Lacks k := forall_mem_sorted h

theorem Lacks.complete (h : ms.Lacks k) (hmore : more.Lacks k) : (ms.complete more).Lacks k :=
  forall_mem_complete h hmore

theorem Lacks.update (h : ms.Lacks k) (hmore : more.Lacks k) : (ms.update more).Lacks k :=
  forall_mem_update h hmore

/-- A name that has been dropped is gone. -/
theorem lacks_erase (ms : Members) (k : String) : (ms.erase k).Lacks k :=
  fun _ hm => bne_iff_ne.mp (List.mem_filter.mp hm).2

/-! ## Values under names -/

/-- A member has the value that is found under its name. -/
theorem mem_of_get? {v : Value} (h : ms.get? k = some v) : (k, v) ∈ ms := by
  obtain ⟨m, hm, rfl⟩ := Option.map_eq_some_iff.mp h
  have hname : m.1 = k := by simpa using List.find?_some hm
  exact hname ▸ List.mem_of_find?_eq_some hm

theorem get?_append (ms more : Members) (k : String) :
    Members.get? (ms ++ more) k = (ms.get? k).or (more.get? k) := by
  rw [get?, List.find?_append, get?, get?]
  cases ms.find? fun m => m.1 == k <;> rfl

theorem get?_cons (ms : Members) (k k' : String) (v : Value) :
    Members.get? ((k, v) :: ms) k' = if k = k' then some v else ms.get? k' := by
  rw [get?, List.find?_cons]
  by_cases hname : k = k'
  · rw [if_pos hname, beq_iff_eq.mpr hname, Option.map_some]
  · rw [if_neg hname, beq_false_of_ne hname, get?]

/-- A name that is not there is lacking. -/
theorem lacks_of_has (h : ms.has k = false) : ms.Lacks k :=
  fun m hm => by simpa using List.any_eq_false.mp h m hm

theorem has_sorted (h : ms.has k = true) : ms.sorted.has k = true := by
  obtain ⟨m, hm, hname⟩ := List.any_eq_true.mp h
  exact List.any_eq_true.mpr ⟨m, List.mem_mergeSort.mpr hm, hname⟩

/-- A name that is there has a value. -/
theorem exists_get?_of_has (h : ms.has k = true) : ∃ v, ms.get? k = some v := by
  obtain ⟨m, hfound⟩ := Option.isSome_iff_exists.mp (List.find?_isSome.mpr (List.any_eq_true.mp h))
  exact ⟨m.2, by rw [get?, hfound, Option.map_some]⟩

/-- **A name that has been set has its value, and all others keep theirs.** -/
theorem get?_put (ms : Members) (k k' : String) (v : Value) :
    (ms.put k v).get? k' = if k = k' then some v else ms.get? k' := by
  show ((setEntry ms k v).find? fun m => m.1 == k').map (·.2) = _
  rw [find?_setEntry]
  by_cases hsame : k = k'
  · rw [if_pos hsame, if_pos (beq_iff_eq.mpr hsame), Option.map_some]
  · rw [if_neg hsame, if_neg (mt beq_iff_eq.mp hsame), get?]

theorem get?_put_self (ms : Members) (k : String) (v : Value) : (ms.put k v).get? k = some v := by
  rw [get?_put, if_pos rfl]

theorem get?_put_of_ne (ms : Members) {k' : String} (h : k' ≠ k) (v : Value) :
    (ms.put k' v).get? k = ms.get? k := by
  rw [get?_put, if_neg h]

theorem get?_filter {ms : Members} {p : String × Value → Bool} {k : String}
    (h : ∀ m : String × Value, m.1 = k → p m = true) :
    Members.get? (ms.filter p) k = ms.get? k := by
  rw [get?, List.find?_filter, get?]
  congr 2
  funext m
  by_cases hname : m.1 = k
  · simp [hname, h m hname]
  · simp [hname]

/-- Dropping a name leaves the values of all others. -/
theorem get?_erase_of_ne (ms : Members) {k' : String} (h : k' ≠ k) :
    (ms.erase k').get? k = ms.get? k :=
  get?_filter fun _ hname => bne_iff_ne.mpr (hname ▸ Ne.symm h)

/-- The value of a name among members that are set, and behind those that are there. -/
theorem get?_update (ms : Members) {more : Members} (h : (more.map (·.1)).Nodup) (k : String) :
    (ms.update more).get? k = (Members.get? more k).or (ms.get? k) := by
  induction more generalizing ms with
  | nil => rfl
  | cons m more ih =>
      obtain ⟨hfirst, hrest⟩ := List.nodup_cons.mp h
      have hstep : ms.update (m :: more) = (ms.put m.1 m.2).update more := rfl
      rw [hstep, ih (ms.put m.1 m.2) hrest, get?_put, get?_cons]
      by_cases hname : m.1 = k
      · have hnone : Members.get? more k = none := Lacks.get?_eq_none fun m' hm' hname' =>
          hfirst (List.mem_map.mpr ⟨m', hm', hname'.trans hname.symm⟩)
        rw [if_pos hname, if_pos hname, hnone, Option.none_or, Option.some_or]
      · rw [if_neg hname, if_neg hname]

/-- **The value of a name among members that are there, and behind those that are added.** -/
theorem get?_complete (ms more : Members) (k : String) :
    (ms.complete more).get? k = (ms.get? k).or (more.get? k) := by
  induction more generalizing ms with
  | nil => exact Option.or_none.symm
  | cons m more ih =>
      have hstep : Members.get? (if ms.has m.1 then ms else ms ++ [m]) k =
          (ms.get? k).or (Members.get? [m] k) := by
        split
        · next hthere =>
            by_cases hname : m.1 = k
            · obtain ⟨v, hv⟩ := exists_get?_of_has (hname ▸ hthere)
              rw [hv, Option.some_or]
            · rw [get?_cons, if_neg hname]
              exact Option.or_none.symm
        · exact get?_append ms [m] k
      have hlist : m :: more = [m] ++ more := rfl
      rw [complete, List.foldl_cons, hlist, get?_append, ← Option.or_assoc, ← hstep]
      exact ih _

/-- What is there keeps its value when members are added. -/
theorem get?_complete_of_some {v : Value} (h : ms.get? k = some v) :
    (ms.complete more).get? k = some v := by
  rw [get?_complete, h, Option.some_or]

/-- What is to be added is there afterwards, with its own value or with another. -/
theorem exists_get?_complete (ms : Members) {more : Members} (h : more.has k = true) :
    ∃ v, (ms.complete more).get? k = some v := by
  obtain ⟨v, hv⟩ := exists_get?_of_has h
  rw [get?_complete, hv]
  cases ms.get? k with
  | none => exact ⟨v, rfl⟩
  | some v' => exact ⟨v', rfl⟩

/-- Names that differ go on to differ when one is set. -/
theorem nodup_put (h : (ms.map (·.1)).Nodup) (k : String) (v : Value) :
    ((ms.put k v).map (·.1)).Nodup := by
  rw [put]
  split
  · have hnames : (ms.map fun m => if m.1 == k then (k, v) else m).map (·.1) = ms.map (·.1) := by
      rw [List.map_map]
      refine List.map_congr_left fun m _ => ?_
      show (if m.1 == k then (k, v) else m).1 = m.1
      split
      · next hname => exact (beq_iff_eq.mp hname).symm
      · rfl
    rwa [hnames]
  · next hnew =>
      rw [List.map_append, List.nodup_append]
      refine ⟨h, List.nodup_cons.mpr ⟨List.not_mem_nil, List.nodup_nil⟩, fun a ha b hb hab => ?_⟩
      obtain ⟨m, hm, rfl⟩ := List.mem_map.mp ha
      rw [List.mem_singleton.mp hb] at hab
      exact lacks_of_has (Bool.eq_false_iff.mpr hnew) m hm hab

theorem nodup_update (h : (ms.map (·.1)).Nodup) (more : Members) :
    ((ms.update more).map (·.1)).Nodup := by
  induction more generalizing ms with
  | nil => exact h
  | cons m more ih => exact ih (nodup_put h m.1 m.2)

theorem nodup_complete (h : (ms.map (·.1)).Nodup) (more : Members) :
    ((ms.complete more).map (·.1)).Nodup := by
  induction more generalizing ms with
  | nil => exact h
  | cons m more ih =>
      rw [complete, List.foldl_cons]
      refine ih ?_
      split
      · exact h
      · next hnew =>
          rw [← (lacks_of_has (Bool.eq_false_iff.mpr hnew)).put_eq m.2]
          exact nodup_put h m.1 m.2

theorem nodup_sorted (h : (ms.map (·.1)).Nodup) : (ms.sorted.map (·.1)).Nodup :=
  ((List.mergeSort_perm ms _).map _).nodup_iff.mpr h

/-- Sorting does not change what is found under names that differ. -/
theorem get?_sorted (h : (ms.map (·.1)).Nodup) (k : String) : ms.sorted.get? k = ms.get? k := by
  cases hget : ms.get? k with
  | some v => exact get?_of_mem (nodup_sorted h) (List.mem_mergeSort.mpr (mem_of_get? hget))
  | none =>
      cases hsorted : ms.sorted.get? k with
      | none => rfl
      | some v =>
          have hmem : (k, v) ∈ ms := List.mem_mergeSort.mp (mem_of_get? hsorted)
          cases hget.symm.trans (get?_of_mem h hmem)

end Members
end RouteProbe
