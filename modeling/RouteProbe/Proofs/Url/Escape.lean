import RouteProbe.Proofs.Text.Joined
import RouteProbe.Url.Escape

/-!
# What escaping leaves

Whatever text goes in, only printable ASCII characters other than the space come out of escaping
(`isGraphic_of_mem_escape`): those that stand for themselves are of this kind in every part of a
URL, and an escape is made of a percent sign and two digits.  Escaping does not make a text empty
either, and it leaves a first character that stands for itself where it is.

What escapes are made of stands for itself wherever escapes are kept (`KeepsEscapes`), so what has
been escaped is not changed by escaping it again (`keeps_of_mem_escape`).  Escaping makes no
separators: a text falls into the same parts before and after it (`splitOn_escape`).
-/

namespace RouteProbe
namespace Url

open Text

/-- A printable ASCII character other than the space. -/
def isGraphic (c : Char) : Bool := 0x20 < c.toNat && c.toNat < 0x7f

theorem isGraphic_iff {c : Char} : isGraphic c = true ↔ 0x20 < c.toNat ∧ c.toNat < 0x7f := by
  simp [isGraphic]

/-- What holds of the 128 ASCII characters holds of every one of them. -/
theorem forall_ascii {p : Char → Prop} (h : ∀ n : Fin 0x80, p (Char.ofNat n.val)) {c : Char}
    (hc : c.toNat < 0x80) : p c := by
  have hchar := h ⟨c.toNat, hc⟩
  rw [Char.ofNat_toNat] at hchar
  exact hchar

/-- Whatever is excepted, what stands for itself is graphic. -/
theorem isGraphic_of_keepsAllBut {others : List Char} {c : Char}
    (h : keepsAllBut others c = true) : isGraphic c = true := by
  rw [keepsAllBut, Bool.and_eq_true] at h
  exact h.1

theorem isGraphic_upperHexDigit {n : Nat} (h : n < 16) : isGraphic (upperHexDigit n) = true := by
  have hall : ∀ i : Fin 16, isGraphic (upperHexDigit i.val) = true := by decide
  exact hall ⟨n, h⟩

/-- The escape of a byte is graphic. -/
theorem isGraphic_of_mem_escapeByte {b : UInt8} {c : Char} (h : c ∈ escapeByte b) :
    isGraphic c = true := by
  have hb : b.toNat < 256 := b.toNat_lt
  have hhigh : b.toNat / 16 < 16 := by omega
  have hlow : b.toNat % 16 < 16 := by omega
  simp only [escapeByte, List.mem_cons, List.not_mem_nil, or_false] at h
  rcases h with rfl | rfl | rfl
  · rfl
  · exact isGraphic_upperHexDigit hhigh
  · exact isGraphic_upperHexDigit hlow

variable {keep : Char → Bool} {c : Char} {cs : List Char}

/-- **An escaped text is graphic**, if what stands for itself is. -/
theorem isGraphic_of_mem_escape (hkeep : ∀ c, keep c = true → isGraphic c = true)
    (h : c ∈ escape keep cs) : isGraphic c = true := by
  obtain ⟨d, -, hd⟩ := List.mem_flatMap.mp h
  rw [escapeChar] at hd
  split at hd
  · next hkept =>
      rw [List.mem_singleton.mp hd]
      exact hkeep d hkept
  · obtain ⟨b, -, hb⟩ := List.mem_flatMap.mp hd
    exact isGraphic_of_mem_escapeByte hb

theorem utf8Char_ne_nil (c : Char) : utf8Char c ≠ [] := by
  unfold utf8Char
  dsimp only
  split
  · exact List.cons_ne_nil _ _
  · split
    · exact List.cons_ne_nil _ _
    · split <;> exact List.cons_ne_nil _ _

/-- Every character leaves something. -/
theorem escapeChar_ne_nil (keep : Char → Bool) (c : Char) : escapeChar keep c ≠ [] := by
  unfold escapeChar
  split
  · exact List.cons_ne_nil _ _
  · intro hnil
    rw [List.flatMap_eq_nil_iff] at hnil
    obtain ⟨b, hb⟩ := List.exists_mem_of_ne_nil _ (utf8Char_ne_nil c)
    exact List.cons_ne_nil _ _ (hnil b hb)

/-- Only the empty text is empty when it is escaped. -/
theorem escape_eq_nil_iff : escape keep cs = [] ↔ cs = [] := by
  constructor
  · intro h
    cases cs with
    | nil => rfl
    | cons c cs =>
        rw [escape, List.flatMap_cons, List.append_eq_nil_iff] at h
        exact absurd h.1 (escapeChar_ne_nil keep c)
  · rintro rfl
    rfl

/-- A first character that stands for itself stays the first. -/
theorem head?_escape (hc : keep c = true) (cs : List Char) :
    (escape keep (c :: cs)).head? = some c := by
  rw [escape, List.flatMap_cons, escapeChar, if_pos hc]
  rfl

/-! ## What has been escaped -/

/-- What escapes are made of stands for itself. -/
structure KeepsEscapes (keep : Char → Bool) : Prop where
  percent : keep '%' = true
  digit : ∀ n : Fin 16, keep (upperHexDigit n.val) = true

theorem keepsEscapes_keepsPath : KeepsEscapes keepsPath := ⟨by decide, by decide⟩

theorem keepsEscapes_keepsQuery : KeepsEscapes keepsQuery := ⟨by decide, by decide⟩

theorem KeepsEscapes.keeps_of_mem_escapeByte (h : KeepsEscapes keep) {b : UInt8}
    (hc : c ∈ escapeByte b) : keep c = true := by
  have hb : b.toNat < 256 := b.toNat_lt
  simp only [escapeByte, List.mem_cons, List.not_mem_nil, or_false] at hc
  rcases hc with rfl | rfl | rfl
  · exact h.percent
  · exact h.digit ⟨b.toNat / 16, by omega⟩
  · exact h.digit ⟨b.toNat % 16, by omega⟩

/-- **All of an escaped text stands for itself.** -/
theorem KeepsEscapes.keeps_of_mem_escape (h : KeepsEscapes keep) (hc : c ∈ escape keep cs) :
    keep c = true := by
  obtain ⟨d, -, hd⟩ := List.mem_flatMap.mp hc
  rw [escapeChar] at hd
  split at hd
  · next hkept =>
      rw [List.mem_singleton.mp hd]
      exact hkept
  · obtain ⟨b, -, hb⟩ := List.mem_flatMap.mp hd
    exact h.keeps_of_mem_escapeByte hb

/-- A character that does not stand for itself leaves a percent sign. -/
theorem percent_mem_escapeChar (hc : keep c = false) : '%' ∈ escapeChar keep c := by
  obtain ⟨b, hb⟩ := List.exists_mem_of_ne_nil _ (utf8Char_ne_nil c)
  rw [escapeChar, hc, if_neg Bool.false_ne_true]
  exact List.mem_flatMap.mpr ⟨b, hb, List.mem_cons_self⟩

/-- **A text without percent signs comes of itself only.** -/
theorem eq_of_escape_eq {ds : List Char} (h : escape keep cs = ds) (hds : '%' ∉ ds) : cs = ds := by
  have hkept : ∀ c ∈ cs, keep c = true := by
    intro c hc
    cases hkeep : keep c with
    | true => rfl
    | false =>
        have hpercent : '%' ∈ escape keep cs :=
          List.mem_flatMap.mpr ⟨c, hc, percent_mem_escapeChar hkeep⟩
        rw [h] at hpercent
        exact absurd hpercent hds
  rw [← h, escape_eq_self hkept]

/-! ## Parts -/

theorem upperHexDigit_ne_slash (n : Fin 16) : upperHexDigit n.val ≠ '/' := by
  revert n
  decide

/-- No slash is made by escaping another character. -/
theorem slash_notMem_escapeChar (hc : c ≠ '/') : '/' ∉ escapeChar keep c := by
  intro hslash
  rw [escapeChar] at hslash
  split at hslash
  · exact hc (List.mem_singleton.mp hslash).symm
  · obtain ⟨b, -, hb⟩ := List.mem_flatMap.mp hslash
    have hlt : b.toNat < 256 := b.toNat_lt
    simp only [escapeByte, List.mem_cons, List.not_mem_nil, or_false] at hb
    rcases hb with hb | hb | hb
    · exact absurd hb (by decide)
    · exact upperHexDigit_ne_slash ⟨b.toNat / 16, by omega⟩ hb.symm
    · exact upperHexDigit_ne_slash ⟨b.toNat % 16, by omega⟩ hb.symm

/-- **The parts of an escaped text are the parts of the text, escaped**, where slashes stand for
themselves. -/
theorem splitOn_escape (hslash : keep '/' = true) (cs : List Char) :
    (escape keep cs).splitOn '/' = (cs.splitOn '/').map (escape keep) := by
  have hcons (c : Char) (cs : List Char) :
      escape keep (c :: cs) = escapeChar keep c ++ escape keep cs := List.flatMap_cons
  induction cs with
  | nil => rfl
  | cons c cs ih =>
      rw [hcons]
      by_cases hc : c = '/'
      · subst hc
        have hnone : '/' ∉ ([] : List Char) := List.not_mem_nil
        have hfirst : ∀ ds : List Char, ('/' :: ds).splitOn '/' = [] :: ds.splitOn '/' :=
          List.splitOn_append_cons_self_of_not_mem hnone
        rw [escapeChar, if_pos hslash, List.singleton_append, hfirst, hfirst, ih]
        rfl
      · have hone : '/' ∉ [c] := fun hmem => hc (List.mem_singleton.mp hmem).symm
        have hsingle : (c :: cs).splitOn '/' = (cs.splitOn '/').modifyHead ([c] ++ ·) :=
          splitOn_append_of_notMem hone cs
        rw [splitOn_append_of_notMem (slash_notMem_escapeChar hc), ih, hsingle]
        cases cs.splitOn '/' with
        | nil => rfl
        | cons first parts =>
            rw [List.modifyHead_cons, List.map_cons, List.map_cons, List.modifyHead_cons,
              List.singleton_append, hcons]

end Url
end RouteProbe
