/-!
# Tables

A table is a list of entries under names, and setting a name changes its entry in place or puts a
new one at the end.  What is found under a name then is the new entry, or what was found before
(`find?_setEntry`).

Two tables that have the same under all names but one (`AgreeBut`) go on to do so when an entry is
set in both, and an entry under that one name may be set in one of them only.
-/

namespace RouteProbe

variable {α β : Type} [BEq α]

/-- The table with an entry set. -/
def setEntry (t : List (α × β)) (k : α) (v : β) : List (α × β) :=
  if t.any fun x => x.1 == k then t.map fun x => if x.1 == k then (k, v) else x else t ++ [(k, v)]

/-- Two tables have the same under all names but one. -/
def AgreeBut (a : α) (t t' : List (α × β)) : Prop :=
  ∀ k, k ≠ a → t.find? (fun x => x.1 == k) = t'.find? fun x => x.1 == k

variable {a : α} {t t' t'' : List (α × β)}

theorem AgreeBut.refl (a : α) (t : List (α × β)) : AgreeBut a t t := fun _ _ => rfl

theorem AgreeBut.symm (h : AgreeBut a t t') : AgreeBut a t' t := fun k hk => (h k hk).symm

theorem AgreeBut.trans (h : AgreeBut a t t') (h' : AgreeBut a t' t'') : AgreeBut a t t'' :=
  fun k hk => (h k hk).trans (h' k hk)

variable [LawfulBEq α]

/-- Setting an entry in place changes what is found under its name, if anything is, and nothing
else. -/
theorem find?_map_entry (t : List (α × β)) (k k' : α) (v : β) :
    (t.map fun x => if x.1 == k then (k, v) else x).find? (fun x => x.1 == k') =
      (t.find? fun x => x.1 == k').map fun x => if x.1 == k then (k, v) else x := by
  rw [List.find?_map]
  congr 2
  funext x
  show ((if x.1 == k then (k, v) else x).1 == k') = (x.1 == k')
  split
  · next hname => rw [eq_of_beq hname]
  · rfl

/-- **What is found in a table once an entry has been set.** -/
theorem find?_setEntry (t : List (α × β)) (k k' : α) (v : β) :
    (setEntry t k v).find? (fun x => x.1 == k') =
      if k == k' then some (k, v) else t.find? fun x => x.1 == k' := by
  rw [setEntry]
  by_cases hsame : k = k'
  · subst hsame
    rw [if_pos (beq_self_eq_true k)]
    split
    · next hany =>
        obtain ⟨x, hx⟩ := Option.isSome_iff_exists.mp
          (List.find?_isSome.mpr (List.any_eq_true.mp hany))
        rw [find?_map_entry, hx, Option.map_some, if_pos (List.find?_some hx)]
    · next hany =>
        have hnone : t.find? (fun x => x.1 == k) = none := by
          rw [List.find?_eq_none]
          exact fun x hx hname => hany (List.any_eq_true.mpr ⟨x, hx, hname⟩)
        rw [List.find?_append, hnone, Option.none_or]
        exact List.find?_cons_of_pos (beq_self_eq_true k)
  · have hne : (k == k') = false := beq_false_of_ne hsame
    rw [hne, if_neg Bool.false_ne_true]
    split
    · rw [find?_map_entry]
      cases hfound : t.find? fun x => x.1 == k' with
      | none => rfl
      | some x =>
          have hname := eq_of_beq (List.find?_some (p := fun x : α × β => x.1 == k') hfound)
          have hother : ¬ (x.1 == k) = true := fun h => hsame ((eq_of_beq h).symm.trans hname)
          rw [Option.map_some, if_neg hother]
    · have hlast : ([(k, v)] : List (α × β)).find? (fun x => x.1 == k') = none :=
        List.find?_cons_of_neg (by rw [hne]; exact Bool.false_ne_true)
      rw [List.find?_append, hlast, Option.or_none]

/-- Tables go on to agree when the same entry is set in both. -/
theorem AgreeBut.setEntry (h : AgreeBut a t t') (k : α) (v : β) :
    AgreeBut a (setEntry t k v) (setEntry t' k v) := by
  intro k' hk'
  rw [find?_setEntry, find?_setEntry, h k' hk']

/-- The one name can be set in one table only. -/
theorem agreeBut_setEntry (t : List (α × β)) (a : α) (v : β) : AgreeBut a (setEntry t a v) t := by
  intro k hk
  have hne : (a == k) = false := beq_false_of_ne (Ne.symm hk)
  rw [find?_setEntry, hne, if_neg Bool.false_ne_true]

end RouteProbe
