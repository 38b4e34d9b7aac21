/-!
# Joined and divided lists

Parts are joined with a separator between them, and a list is divided at one.  The first part stands
in front of what is joined (`prefix_intercalate_cons`), every part stands in it
(`isInfix_intercalate_of_mem`), and what stands in it is a separator or stands in a part
(`mem_intercalate`); a part of what is divided stands in the whole (`isInfix_of_mem_splitOn`), and
holds no separator (`notMem_of_mem_splitOn`).
Elements can be renamed before or after dividing (`splitOnP_map`).
-/

namespace RouteProbe
namespace Text

variable {α : Type}

/-- The first of joined parts stands in front. -/
theorem prefix_intercalate_cons (sep part : List α) (parts : List (List α)) :
    part <+: sep.intercalate (part :: parts) := by
  cases parts with
  | nil =>
      have hjoined : sep.intercalate [part] = part := List.intercalate_singleton
      exact ⟨[], by rw [List.append_nil, hjoined]⟩
  | cons next parts =>
      rw [List.intercalate_cons_cons, List.append_assoc]
      exact List.prefix_append _ _

theorem intercalate_ne_nil {sep first : List α} (hfirst : first ≠ []) (more : List (List α)) :
    sep.intercalate (first :: more) ≠ [] := by
  intro hnil
  have hprefix := prefix_intercalate_cons sep first more
  rw [hnil, List.prefix_nil] at hprefix
  exact hfirst hprefix

/-- What stands in joined parts is the separator, or stands in a part. -/
theorem mem_intercalate {sep a : α} {parts : List (List α)}
    (h : a ∈ [sep].intercalate parts) : a = sep ∨ ∃ part ∈ parts, a ∈ part := by
  induction parts with
  | nil => cases h
  | cons part parts ih =>
      cases parts with
      | nil =>
          rw [List.intercalate_singleton] at h
          exact .inr ⟨part, List.mem_cons_self, h⟩
      | cons next parts =>
          rw [List.intercalate_cons_cons, List.append_assoc, List.mem_append, List.mem_append] at h
          rcases h with h | h | h
          · exact .inr ⟨part, List.mem_cons_self, h⟩
          · exact .inl (List.mem_singleton.mp h)
          · rcases ih h with hsep | ⟨later, hlater, ha⟩
            · exact .inl hsep
            · exact .inr ⟨later, List.mem_cons_of_mem part hlater, ha⟩

/-- What stands before the first separator, stands in front. -/
theorem isPrefix_of_splitOn_eq_cons [BEq α] [LawfulBEq α] {a : α} {xs part : List α}
    {parts : List (List α)} (h : xs.splitOn a = part :: parts) : part <+: xs := by
  have hjoin : [a].intercalate (xs.splitOn a) = xs := List.intercalate_splitOn a
  rw [← hjoin, h]
  exact prefix_intercalate_cons [a] part parts

/-- **Each of joined parts stands in the whole.** -/
theorem isInfix_intercalate_of_mem {sep part : List α} {parts : List (List α)}
    (h : part ∈ parts) : part <:+: sep.intercalate parts := by
  obtain ⟨i, hi⟩ := List.mem_iff_getElem?.mp h
  have hmem : part ∈ parts.intersperse sep := by
    refine List.mem_of_getElem? (i := 2 * i) ?_
    rw [List.getElem?_intersperse_two_mul, hi]
  exact List.infix_of_mem_flatten hmem

/-- A part between two separators stands in the whole. -/
theorem isInfix_of_mem_splitOn [BEq α] [LawfulBEq α] {a : α} {xs part : List α}
    (h : part ∈ xs.splitOn a) : part <:+: xs := by
  have hstands : part <:+: [a].intercalate (xs.splitOn a) := isInfix_intercalate_of_mem h
  rwa [List.intercalate_splitOn] at hstands

/-- What stands in a part that is divided off stands in the whole, and is no separator. -/
theorem mem_and_not_of_mem_splitOnP {p : α → Bool} {xs part : List α}
    (hpart : part ∈ xs.splitOnP p) {a : α} (ha : a ∈ part) : a ∈ xs ∧ p a = false := by
  induction xs generalizing part with
  | nil =>
      rw [List.splitOnP_nil, List.mem_singleton] at hpart
      rw [hpart] at ha
      cases ha
  | cons b xs ih =>
      rw [List.splitOnP_cons_eq_if_modifyHead] at hpart
      split at hpart
      · rcases List.mem_cons.mp hpart with rfl | hpart
        · cases ha
        · exact (ih hpart ha).imp_left (List.mem_cons_of_mem b)
      · next hb =>
          cases hparts : xs.splitOnP p with
          | nil => exact absurd hparts (List.splitOnP_ne_nil p xs)
          | cons first parts =>
              rw [hparts, List.modifyHead_cons] at hpart
              rcases List.mem_cons.mp hpart with rfl | hpart
              · rcases List.mem_cons.mp ha with rfl | ha
                · exact ⟨List.mem_cons_self, by simpa using hb⟩
                · exact (ih (hparts ▸ List.mem_cons_self) ha).imp_left (List.mem_cons_of_mem b)
              · exact (ih (hparts ▸ List.mem_cons_of_mem first hpart) ha).imp_left
                  (List.mem_cons_of_mem b)

theorem mem_of_mem_splitOnP {p : α → Bool} {xs part : List α} (hpart : part ∈ xs.splitOnP p)
    {a : α} (ha : a ∈ part) : a ∈ xs := (mem_and_not_of_mem_splitOnP hpart ha).1

/-- No part holds the separator. -/
theorem notMem_of_mem_splitOn [BEq α] [LawfulBEq α] {a : α} {xs part : List α}
    (h : part ∈ xs.splitOn a) : a ∉ part := by
  intro ha
  have hnot := (mem_and_not_of_mem_splitOnP h ha).2
  simp at hnot

/-- What holds no separator goes to the first of the parts behind it. -/
theorem splitOn_append_of_notMem [BEq α] [LawfulBEq α] {a : α} {front : List α} (h : a ∉ front)
    (xs : List α) : (front ++ xs).splitOn a = (xs.splitOn a).modifyHead (front ++ ·) := by
  induction front with
  | nil =>
      cases hparts : xs.splitOn a with
      | nil => rw [List.nil_append, hparts]; rfl
      | cons first parts => rw [List.nil_append, hparts]; rfl
  | cons b front ih =>
      rw [List.mem_cons, not_or] at h
      have hb : (b == a) = false := by
        rw [beq_eq_false_iff_ne]
        exact Ne.symm h.1
      rw [List.cons_append, List.splitOn, List.splitOnP_cons_eq_if_modifyHead, hb]
      rw [List.splitOn] at ih
      rw [if_neg Bool.false_ne_true, ih h.2, List.modifyHead_modifyHead]
      rfl

/-- **Dividing a list that has been renamed** is dividing the list, where the separators are those
elements that become separators. -/
theorem splitOnP_map {β : Type} (f : α → β) (p : β → Bool) (xs : List α) :
    (xs.map f).splitOnP p = (xs.splitOnP (p ∘ f)).map (List.map f) := by
  induction xs with
  | nil => rfl
  | cons a xs ih =>
      rw [List.map_cons, List.splitOnP_cons_eq_if_modifyHead, List.splitOnP_cons_eq_if_modifyHead,
        Function.comp_apply, ih]
      split
      · rfl
      · cases xs.splitOnP (p ∘ f) <;> rfl

end Text
end RouteProbe
