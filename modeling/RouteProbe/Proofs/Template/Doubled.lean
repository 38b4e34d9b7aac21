import RouteProbe.Template.Expand

/-!
# Percent signs in templates

A percent sign in a template begins a directive, and two of them stand for one.  So a text stands in
a template as it is once its percent signs are doubled (`expand_doubled`), and a text without
percent signs stands there anyway.  One that is left alone takes what is behind it for a directive:
in front of a closing parenthesis it is none, and the whole template is wrong (`expand_lone`).
-/

namespace RouteProbe
namespace Template

/-- A text with its percent signs doubled. -/
def doubled (cs : List Char) : List Char :=
  cs.flatMap fun c => if c = '%' then ['%', '%'] else [c]

@[simp] theorem doubled_nil : doubled [] = [] := rfl

@[simp] theorem doubled_percent (cs : List Char) : doubled ('%' :: cs) = '%' :: '%' :: doubled cs :=
  rfl

theorem doubled_cons {c : Char} (h : c ≠ '%') (cs : List Char) :
    doubled (c :: cs) = c :: doubled cs := by
  rw [doubled, List.flatMap_cons, if_neg h]
  rfl

theorem doubled_append (xs ys : List Char) : doubled (xs ++ ys) = doubled xs ++ doubled ys :=
  List.flatMap_append

/-- There is nothing to double where there is no percent sign. -/
theorem doubled_of_notMem {cs : List Char} (h : '%' ∉ cs) : doubled cs = cs := by
  induction cs with
  | nil => rfl
  | cons c cs ih =>
      rw [List.mem_cons, not_or] at h
      rw [doubled_cons (Ne.symm h.1), ih h.2]

/-- Up to the first percent sign, a text and its double are the same. -/
theorem takeWhile_doubled (cs : List Char) :
    (doubled cs).takeWhile (· ≠ '%') = cs.takeWhile (· ≠ '%') := by
  induction cs with
  | nil => rfl
  | cons c cs ih =>
      by_cases hc : c = '%'
      · subst hc
        rfl
      · have hpos : decide (c ≠ '%') = true := decide_eq_true hc
        rw [doubled_cons hc, List.takeWhile_cons, List.takeWhile_cons, if_pos hpos, if_pos hpos, ih]

/-- The double of what begins with the first percent sign. -/
theorem dropWhile_doubled (cs : List Char) :
    (doubled cs).dropWhile (· ≠ '%') = doubled (cs.dropWhile (· ≠ '%')) := by
  induction cs with
  | nil => rfl
  | cons c cs ih =>
      by_cases hc : c = '%'
      · subst hc
        rfl
      · have hpos : decide (c ≠ '%') = true := decide_eq_true hc
        rw [doubled_cons hc, List.dropWhile_cons, List.dropWhile_cons, if_pos hpos, if_pos hpos, ih]

/-- What begins with the first percent sign is empty or begins with it. -/
theorem dropWhile_percent (cs : List Char) :
    cs.dropWhile (· ≠ '%') = [] ∨ ∃ more, cs.dropWhile (· ≠ '%') = '%' :: more := by
  induction cs with
  | nil => exact .inl rfl
  | cons c cs ih =>
      by_cases hc : c = '%'
      · exact .inr ⟨cs, by simp [hc]⟩
      · simpa [hc] using ih

/-- A doubled text is expanded to the text, from any place on.  The induction is on the count of
directives, and each takes one percent sign of the text. -/
theorem expandFrom_doubled {a : Arguments} (ha : a.mustUseAll = false) (fuel : Nat)
    (done : List (List Char)) (index : Nat) {cs : List Char} (hfuel : cs.length < fuel) :
    expandFrom fuel done a ⟨index, doubled cs⟩ = .ok (done.reverse.flatten ++ cs) := by
  induction fuel generalizing done index cs with
  | zero => exact absurd hfuel (Nat.not_lt_zero _)
  | succ fuel ih =>
      have hsplit : cs.takeWhile (· ≠ '%') ++ cs.dropWhile (· ≠ '%') = cs :=
        List.takeWhile_append_dropWhile
      rw [expandFrom, dropWhile_doubled, takeWhile_doubled]
      obtain hnone | ⟨more, hmore⟩ := dropWhile_percent cs
      · rw [hnone, List.append_nil] at hsplit
        simp only [hnone, hsplit, ha, doubled_nil, Bool.false_and, Bool.false_eq_true, if_false,
          List.reverse_cons, List.flatten_append, List.flatten_singleton]
      · rw [hmore] at hsplit
        have hshort : more.length < fuel := by
          have hlength := congrArg List.length hsplit
          simp only [List.length_append, List.length_cons] at hlength
          omega
        simp only [hmore, doubled_percent, directive, ih _ _ hshort, List.reverse_cons,
          List.flatten_append, List.flatten_cons, List.flatten_nil, List.append_nil,
          List.append_assoc, List.singleton_append, hsplit]

/-- **A doubled text stands in a template as it is.** -/
theorem expand_doubled {a : Arguments} (ha : a.mustUseAll = false) (cs : List Char) :
    expand (doubled cs) a = .ok cs := by
  have hlength : cs.length ≤ (doubled cs).length := by
    rw [doubled, List.length_flatMap]
    induction cs with
    | nil => exact Nat.le_refl 0
    | cons c cs ih =>
        rw [List.map_cons, List.sum_cons, List.length_cons]
        split <;> simp only [List.length_cons, List.length_nil] <;> omega
  exact expandFrom_doubled ha _ [] 0 (Nat.lt_succ_of_le hlength)

/-- **A lone percent sign in front of a closing parenthesis** is a directive that there is not. -/
theorem expand_lone {cs : List Char} (h : '%' ∉ cs) {a : Arguments} (ha : a.pending ≠ []) :
    expand (cs ++ ['%', ')']) a = .error (.unknownConversion ')' (cs.length + 1)) := by
  have hplain : ∀ c ∈ cs, decide (c ≠ '%') = true := by
    intro c hc
    exact decide_eq_true fun heq => h (heq ▸ hc)
  have htake : (cs ++ ['%', ')']).takeWhile (· ≠ '%') = cs := by
    rw [List.takeWhile_append_of_pos hplain]
    exact List.append_nil cs
  have hdrop : (cs ++ ['%', ')']).dropWhile (· ≠ '%') = ['%', ')'] := by
    rw [List.dropWhile_append_of_pos hplain]
    rfl
  have hdirective : directive a ⟨0 + cs.length + 1, [')']⟩ =
      .error (.unknownConversion ')' (cs.length + 1)) := by
    obtain ⟨members, _ | ⟨v, vs⟩, mustUseAll⟩ := a
    · exact absurd rfl ha
    · rw [Nat.zero_add]
      rfl
  rw [expand, expandFrom]
  simp only [htake, hdrop, hdirective]

end Template
end RouteProbe
