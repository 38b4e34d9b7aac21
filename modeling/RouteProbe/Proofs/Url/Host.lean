import RouteProbe.Proofs.Result
import RouteProbe.Proofs.Text.Joined
import RouteProbe.Proofs.Url.Escape
import RouteProbe.Url.Parse

/-!
# What the name of a host is made of

A text without control characters is read as a host without control characters
(`isControl_of_mem_readHost`).  For an address or an ASCII name this is plain.  A name beyond ASCII
is lowered first, which makes no control characters (`isControl_of_mem_lower`), then cut into
labels, and a label beyond ASCII is written in its ASCII characters and in digits
(`isControl_of_mem_encode`).

A name in ASCII that stands for another one stands for one that is not empty
(`ofAscii_ne_nil`).
-/

namespace RouteProbe
namespace Url

open Text

variable {c : Char} {cs : List Char}

theorem isControl_eq_false_iff : isControl c = false ↔ 0x20 ≤ c.toNat ∧ c.toNat ≠ 0x7f := by
  simp [isControl]

theorem isControl_of_isGraphic (h : isGraphic c = true) : isControl c = false := by
  rw [isGraphic_iff] at h
  exact isControl_eq_false_iff.mpr ⟨by omega, by omega⟩

theorem toNat_ofNat {n : Nat} (h : n.isValidChar) : (Char.ofNat n).toNat = n := by
  rw [Char.ofNat, dif_pos h]
  rfl

theorem isControl_ofNat {n : Nat} (hvalid : n.isValidChar) (hle : 0x20 ≤ n) (hne : n ≠ 0x7f) :
    isControl (Char.ofNat n) = false := by
  rw [isControl_eq_false_iff, toNat_ofNat hvalid]
  exact ⟨hle, hne⟩

/-! ## Lower case -/

/-- The lower forms of a run of capitals are characters, and no controls. -/
theorem lower_of_mem_capitalRuns {r : CapitalRun} (h : r ∈ capitalRuns) :
    0x20 ≤ r.lower ∧ (r.lower + (r.last - r.first) < 0x7f ∨ 0x7f < r.lower) ∧
      (r.lower + (r.last - r.first) < 0xd800 ∨
        0xdfff < r.lower ∧ r.lower + (r.last - r.first) < 0x110000) := by
  have hall : ∀ r ∈ capitalRuns, 0x20 ≤ r.lower ∧
      (r.lower + (r.last - r.first) < 0x7f ∨ 0x7f < r.lower) ∧
      (r.lower + (r.last - r.first) < 0xd800 ∨
        0xdfff < r.lower ∧ r.lower + (r.last - r.first) < 0x110000) := by decide +kernel
  exact hall r h

theorem isControl_lowerAscii (hc : isControl c = false) : isControl (lowerAscii c) = false := by
  unfold lowerAscii
  split
  · next hupper =>
      have hlow : 65 ≤ c.toNat := hupper.1
      have hhigh : c.toNat ≤ 90 := hupper.2
      exact isControl_ofNat (.inl (by omega)) (by omega) (by omega)
  · exact hc

/-- Lowering a character makes no control of it. -/
theorem isControl_of_mem_lowerChar (hc : isControl c = false) {d : Char}
    (hd : d ∈ lowerChar c) : isControl d = false := by
  unfold lowerChar at hd
  split at hd
  · rw [List.mem_singleton.mp hd]
    exact isControl_lowerAscii hc
  · split at hd
    · simp only [List.mem_cons, List.not_mem_nil, or_false] at hd
      rcases hd with rfl | rfl <;> rfl
    · split at hd
      · next r hr =>
          obtain ⟨hlow, hmark, hvalid⟩ := lower_of_mem_capitalRuns (List.mem_of_find?_eq_some hr)
          have hin := List.find?_some hr
          simp only [Bool.and_eq_true, decide_eq_true_eq, beq_iff_eq] at hin
          rw [List.mem_singleton.mp hd]
          refine isControl_ofNat ?_ (by omega) (by omega)
          rcases hvalid with hvalid | hvalid
          · exact .inl (by omega)
          · exact .inr ⟨by omega, by omega⟩
      · rw [List.mem_singleton.mp hd]
        exact hc

theorem isControl_of_mem_lowerAfter (hcs : ∀ c ∈ cs, isControl c = false) (before : List Char)
    {d : Char} (hd : d ∈ (lowerAfter before cs).flatten) : isControl d = false := by
  induction cs generalizing before with
  | nil => cases hd
  | cons c cs ih =>
      rw [lowerAfter, List.flatten_cons, List.mem_append] at hd
      rcases hd with hd | hd
      · split at hd
        · rw [List.mem_singleton.mp hd]
          rfl
        · exact isControl_of_mem_lowerChar (hcs c List.mem_cons_self) hd
      · exact ih (fun x hx => hcs x (List.mem_cons_of_mem c hx)) (c :: before) hd

/-- **Lowering a text makes no control characters.** -/
theorem isControl_of_mem_lower (hcs : ∀ c ∈ cs, isControl c = false) {d : Char}
    (hd : d ∈ lower cs) : isControl d = false := by
  unfold lower at hd
  split at hd
  · obtain ⟨c, hc, rfl⟩ := List.mem_map.mp hd
    exact isControl_lowerAscii (hcs c hc)
  · exact isControl_of_mem_lowerAfter hcs [] hd

/-! ## Labels -/

namespace Punycode

theorem isControl_digitChar {n : Nat} (h : n < 36) : isControl (digitChar n) = false := by
  have hall : ∀ i : Fin 36, isControl (digitChar i.val) = false := by decide
  exact hall ⟨n, h⟩

/-- A number is written in digits. -/
theorem isControl_of_mem_writeNumber {bias place n : Nat} {d : Char}
    (hd : d ∈ writeNumber bias place n) : isControl d = false := by
  induction n using Nat.strongRecOn generalizing place with
  | ind n ih =>
      have hle := threshold_le place bias
      rw [writeNumber] at hd
      split at hd
      · next hlt =>
          rw [List.mem_singleton.mp hd]
          exact isControl_digitChar (by omega)
      · next hge =>
          have hpos := threshold_pos place bias
          rcases List.mem_cons.mp hd with rfl | hd
          · have hmod := Nat.mod_lt (n - threshold place bias)
              (show 0 < 36 - threshold place bias by omega)
            exact isControl_digitChar (by omega)
          · have hless := Nat.div_le_self (n - threshold place bias) (36 - threshold place bias)
            exact ih _ (by omega) hd

/-- All digits so far are digits. -/
def Writing.IsClean (w : Writing) : Prop := ∀ d ∈ w.digits, isControl d = false

theorem Writing.IsClean.pass {w : Writing} (h : w.IsClean) (basic n m : Nat) :
    (w.pass basic n m).IsClean := by
  unfold Writing.pass
  split
  · exact h
  · split
    · intro d hd
      rcases List.mem_append.mp hd with hd | hd
      · exact isControl_of_mem_writeNumber (List.mem_reverse.mp hd)
      · exact h d hd
    · exact h

theorem Writing.IsClean.foldl_pass {w : Writing} (h : w.IsClean) (basic n : Nat)
    (label : List Nat) : (label.foldl (Writing.pass basic n) w).IsClean := by
  induction label generalizing w with
  | nil => exact h
  | cons m label ih => exact ih (h.pass basic n m)

theorem Writing.IsClean.round {w : Writing} (h : w.IsClean) (label : List Nat)
    (basic from' n : Nat) : (w.round label basic from' n).IsClean := by
  have hstart : Writing.IsClean { w with delta := w.delta + (n - from') * (w.count + 1) } := h
  exact hstart.foldl_pass basic n label

theorem isClean_foldl_round (label : List Nat) (basic : Nat) (ns : List Nat)
    {s : Writing × Nat} (h : s.1.IsClean) :
    (ns.foldl (fun (s : Writing × Nat) n => (s.1.round label basic s.2 n, n + 1)) s).1.IsClean := by
  induction ns generalizing s with
  | nil => exact h
  | cons n ns ih => exact ih (h.round label basic s.2 n)

/-- **A label is written in its ASCII characters, a hyphen and digits.** -/
theorem isControl_of_mem_encode {label : List Nat}
    (h : ∀ n ∈ label, n < 128 → 0x20 ≤ n ∧ n ≠ 0x7f) {d : Char} (hd : d ∈ encode label) :
    isControl d = false := by
  unfold encode at hd
  dsimp only at hd
  rcases List.mem_append.mp hd with hd | hd
  · rcases List.mem_append.mp hd with hd | hd
    · obtain ⟨n, hn, rfl⟩ := List.mem_map.mp hd
      obtain ⟨hmem, hlt⟩ := List.mem_filter.mp hn
      have hascii : n < 128 := of_decide_eq_true hlt
      obtain ⟨hle, hne⟩ := h n hmem hascii
      exact isControl_ofNat (.inl (by omega)) hle hne
    · split at hd
      · cases hd
      · rw [List.mem_singleton.mp hd]
        rfl
  · have hnone : Writing.IsClean ⟨[], 0, 72, (label.filter (· < 128)).length⟩ := by
      intro d hd
      cases hd
    exact isClean_foldl_round label _ (extended label) hnone d (List.mem_reverse.mp hd)

end Punycode

namespace Domain

/-- The ASCII form of a label without control characters has none. -/
theorem isControl_of_mem_encodeLabel {name : List Char} (hcs : ∀ c ∈ cs, isControl c = false)
    (h : encodeLabel cs = .ok name) {d : Char} (hd : d ∈ name) : isControl d = false := by
  unfold encodeLabel at h
  split at h
  · obtain ⟨_, -, h⟩ := bind_eq_ok_iff.mp h
    split at h
    · cases h
    · cases h
      exact hcs d hd
  · obtain ⟨_, -, h⟩ := bind_eq_ok_iff.mp h
    dsimp only at h
    split at h
    · cases h
    · cases h
      rcases List.mem_append.mp hd with hd | hd
      · have hmark : encodedMark.all isGraphic = true := by decide
        exact isControl_of_isGraphic (List.all_eq_true.mp hmark d hd)
      · refine Punycode.isControl_of_mem_encode ?_ hd
        intro n hn _
        obtain ⟨c, hc, rfl⟩ := List.mem_map.mp hn
        exact isControl_eq_false_iff.mp (hcs c hc)

/-- The labels of a name stand in it. -/
theorem mem_of_mem_labels {parts : List (List Char)} {dotted : Bool}
    (h : labels cs = .ok (parts, dotted)) {part : List Char} (hpart : part ∈ parts)
    (hc : c ∈ part) : c ∈ cs := by
  unfold labels at h
  split at h
  · cases h
  · split at h
    · cases h
    · dsimp only at h
      split at h
      · cases h
        exact mem_of_mem_splitOnP (List.dropLast_subset _ hpart) hc
      · cases h
        exact mem_of_mem_splitOnP hpart hc

/-- Nothing but dots stands between labels. -/
theorem exists_label_of_mem_joinLabels {parts : List (List Char)} {dotted : Bool}
    (h : c ∈ joinLabels parts dotted) : c = '.' ∨ ∃ part ∈ parts, c ∈ part := by
  unfold joinLabels at h
  rcases mem_intercalate h with hdot | ⟨part, hpart, hc⟩
  · exact .inl hdot
  · split at hpart
    · rcases List.mem_append.mp hpart with hpart | hpart
      · exact .inr ⟨part, hpart, hc⟩
      · rw [List.mem_singleton.mp hpart] at hc
        cases hc
    · exact .inr ⟨part, hpart, hc⟩

/-- **The ASCII form of a name without control characters has none.** -/
theorem isControl_of_mem_toAscii {name : List Char} (hcs : ∀ c ∈ cs, isControl c = false)
    (h : toAscii cs = .ok name) {d : Char} (hd : d ∈ name) : isControl d = false := by
  obtain ⟨⟨parts, dotted⟩, hlabels, h⟩ := bind_eq_ok_iff.mp h
  obtain ⟨encoded, hencoded, h⟩ := bind_eq_ok_iff.mp h
  dsimp only at h
  by_cases hlong : (if dotted then maxName + 1 else maxName) < (joinLabels encoded dotted).length
  · rw [if_pos hlong] at h
    cases h
  · rw [if_neg hlong] at h
    cases h
    rcases exists_label_of_mem_joinLabels hd with rfl | ⟨part, hpart, hd⟩
    · rfl
    · obtain ⟨label, hlabel, hread⟩ := exists_of_mem_mapM_ok hencoded hpart
      exact isControl_of_mem_encodeLabel
        (fun c hc => hcs c (mem_of_mem_labels hlabels hlabel hc)) hread hd

/-! ## Names that stand for others -/

theorem ne_nil_of_checkLabel {label : List Nat} (h : checkLabel label = .ok ()) : label ≠ [] := by
  rintro rfl
  cases h

/-- No label stands for an empty one. -/
theorem decodeLabel_ne_nil {label : List Nat} (h : decodeLabel cs = .ok label) : label ≠ [] := by
  unfold decodeLabel at h
  dsimp only at h
  split at h
  · split at h
    · cases h
    · split at h
      · cases h
      · split at h
        · obtain ⟨⟨⟩, hcheck, h⟩ := bind_eq_ok_iff.mp h
          cases h
          exact ne_nil_of_checkLabel hcheck
        · cases h
  · obtain ⟨⟨⟩, hcheck, h⟩ := bind_eq_ok_iff.mp h
    cases h
    exact ne_nil_of_checkLabel hcheck

/-- A name that begins with a character has a label. -/
theorem labels_ne_nil {parts : List (List Char)} {dotted : Bool} (hc : isDot c = false)
    (h : labels (c :: cs) = .ok (parts, dotted)) : parts ≠ [] := by
  have hparts : ∃ first more, (c :: cs).splitOnP isDot = (c :: first) :: more := by
    rw [List.splitOnP_cons_eq_if_modifyHead, hc]
    cases hrest : cs.splitOnP isDot with
    | nil => exact absurd hrest (List.splitOnP_ne_nil isDot cs)
    | cons first more => exact ⟨first, more, rfl⟩
  obtain ⟨first, more, hsplit⟩ := hparts
  unfold labels at h
  rw [hsplit] at h
  dsimp only at h
  split at h
  · cases h
  · split at h
    · cases h
    · split at h
      · next hlast =>
          cases h
          -- the last label is empty and the first one is not, so there are two
          cases more with
          | nil => cases hlast
          | cons next more => exact List.cons_ne_nil _ _
      · cases h
        exact List.cons_ne_nil _ _

/-- Labels that begin with one that is not empty are a name that is not empty. -/
theorem joinLabels_ne_nil {first : List Char} (hfirst : first ≠ []) (more : List (List Char))
    (dotted : Bool) : joinLabels (first :: more) dotted ≠ [] := by
  unfold joinLabels
  split
  · exact intercalate_ne_nil hfirst _
  · exact intercalate_ne_nil hfirst more

/-- **A name that is marked as standing for another one stands for one that is not empty.** -/
theorem ofAscii_ne_nil {name : List Char} (hmark : encodedMark.isPrefixOf cs = true)
    (h : ofAscii cs = .ok name) : name ≠ [] := by
  obtain ⟨⟨parts, dotted⟩, hlabels, h⟩ := bind_eq_ok_iff.mp h
  obtain ⟨decoded, hdecoded, h⟩ := bind_eq_ok_iff.mp h
  cases h
  obtain ⟨rest, rfl⟩ := List.isPrefixOf_iff_prefix.mp hmark
  cases parts with
  | nil => exact absurd rfl (labels_ne_nil rfl hlabels)
  | cons label parts =>
      rw [List.mapM_cons] at hdecoded
      obtain ⟨first, hfirst, hdecoded⟩ := bind_eq_ok_iff.mp hdecoded
      obtain ⟨more, -, hdecoded⟩ := bind_eq_ok_iff.mp hdecoded
      cases hdecoded
      have hne : first.map Char.ofNat ≠ [] := by
        rw [Ne, List.map_eq_nil_iff]
        exact decodeLabel_ne_nil hfirst
      exact joinLabels_ne_nil hne _ dotted

end Domain

/-- **What is read as a host has no control characters** if the text has none. -/
theorem isControl_of_mem_readHost {host : List Char} (hcs : ∀ c ∈ cs, isControl c = false)
    (h : readHost cs = .ok host) (hc : c ∈ host) : isControl c = false := by
  unfold readHost at h
  split at h
  · cases h
    cases hc
  · split at h
    · split at h
      · cases h
        exact hcs c hc
      · cases h
    · split at h
      · dsimp only at h
        split at h
        · cases h
          exact hcs c (List.mem_of_mem_drop (List.dropLast_subset _ hc))
        · cases h
      · split at h
        · cases h
          exact isControl_of_isGraphic
            (isGraphic_of_mem_escape (fun _ => isGraphic_of_keepsAllBut) hc)
        · split at h
          · next hname =>
              cases h
              exact Domain.isControl_of_mem_toAscii (fun _ => isControl_of_mem_lower hcs) hname hc
          · cases h

end Url
end RouteProbe
