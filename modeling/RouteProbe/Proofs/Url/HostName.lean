import RouteProbe.Proofs.Url.Reading

/-!
# Plain host names

A plain name is made of ASCII letters, digits, hyphens and dots and begins with a letter.  It can
be neither an address nor a name beyond ASCII, so it is read as itself in lower case
(`HostName.readHost_text`), and it keeps what stands behind the colon after it apart from itself
(`HostName.hostPart_text`, `HostName.portPart_text`): whatever stands there, as long as it holds no
`@`.
-/

namespace RouteProbe
namespace Url

open Text

/-- A character of a plain name. -/
def isNameChar (c : Char) : Bool := isAsciiLetter c || isAsciiDigit c || c = '-' || c = '.'

/-- A plain name of a host. -/
structure HostName where
  text : List Char
  isAsciiLetter_of_head : ∃ c ∈ text.head?, isAsciiLetter c = true
  isNameChar_of_mem : ∀ c ∈ text, isNameChar c = true

variable {c : Char} {rest : List Char}

theorem toNat_lt_of_isNameChar (h : isNameChar c = true) : c.toNat < 0x80 := by
  have hle : ∀ d e : Char, d ≤ e → e.toNat < 0x80 → d.toNat < 0x80 := fun d e hde he =>
    Nat.lt_of_le_of_lt hde he
  simp only [isNameChar, isAsciiLetter, isAsciiDigit, Bool.or_eq_true, Bool.and_eq_true,
    decide_eq_true_eq] at h
  rcases h with (((h | h) | h) | rfl) | rfl
  · exact hle c 'z' h.2 (by decide)
  · exact hle c 'Z' h.2 (by decide)
  · exact hle c '9' h.2 (by decide)
  · decide
  · decide

/-- A character of a name is none of those that divide an authority, and its lower form stands
for itself. -/
theorem isNameChar_spec (h : isNameChar c = true) :
    c ∉ ['/', '?', '#', ':', '@', '['] ∧ isGraphic c = true ∧ keepsHost (lowerAscii c) = true := by
  exact forall_ascii (p := fun c => isNameChar c = true → c ∉ ['/', '?', '#', ':', '@', '['] ∧
    isGraphic c = true ∧ keepsHost (lowerAscii c) = true) (by decide +kernel)
    (toNat_lt_of_isNameChar h) h

/-- A letter is not a digit. -/
theorem isAsciiDigit_of_isAsciiLetter (h : isAsciiLetter c = true) : isAsciiDigit c = false := by
  have hname : isNameChar c = true := by simp [isNameChar, h]
  exact forall_ascii (p := fun c => isAsciiLetter c = true → isAsciiDigit c = false)
    (by decide +kernel) (toNat_lt_of_isNameChar hname) h

namespace HostName

variable (h : HostName)

theorem text_eq : ∃ first more, h.text = first :: more ∧ isAsciiLetter first = true := by
  obtain ⟨first, hfirst, hletter⟩ := h.isAsciiLetter_of_head
  obtain ⟨more, hmore⟩ := List.head?_eq_some_iff.mp hfirst
  exact ⟨first, more, hmore, hletter⟩

/-- No character of a name divides an authority. -/
theorem notMem {mark : Char} (hmark : mark ∈ ['/', '?', '#', ':', '@', '[']) : mark ∉ h.text :=
  fun hmem => (isNameChar_spec (h.isNameChar_of_mem mark hmem)).1 hmark

/-- No character of a name ends an authority. -/
theorem notMem_authorityMarks : ∀ c ∈ h.text, c ∉ authorityMarks := by
  intro c hc hmark
  exact h.notMem (List.mem_append_left [':', '@', '['] hmark) hc

/-- A name does not look like an address. -/
theorem looksLikeIPv4_text : looksLikeIPv4 h.text = false := by
  obtain ⟨first, more, htext, hletter⟩ := h.text_eq
  have hdot : (first == '.') = false := by
    rw [beq_eq_false_iff_ne]
    rintro rfl
    exact absurd hletter (by decide)
  -- the first part begins with the letter, so it is not a number
  have hsplit : h.text.splitOn '.' = (more.splitOn '.').modifyHead (first :: ·) := by
    rw [htext, List.splitOn, List.splitOnP_cons_eq_if_modifyHead, hdot]
    rfl
  rw [looksLikeIPv4, hsplit]
  cases more.splitOn '.' with
  | nil => rfl
  | cons part parts => simp [isAsciiDigit_of_isAsciiLetter hletter]

/-- The lower case of a name stands for itself. -/
theorem keepsHost_of_mem_lower : ∀ c ∈ h.text.map lowerAscii, keepsHost c = true := by
  intro c hc
  obtain ⟨d, hd, rfl⟩ := List.mem_map.mp hc
  exact (isNameChar_spec (h.isNameChar_of_mem d hd)).2.2

/-- **A plain name is read as itself in lower case.** -/
theorem readHost_text : readHost h.text = .ok (h.text.map lowerAscii) := by
  obtain ⟨first, more, htext, hletter⟩ := h.text_eq
  have hempty : h.text.isEmpty = false := by
    rw [htext]
    rfl
  have hhead : h.text.head? ≠ some '[' := fun hhead =>
    h.notMem (by decide) (List.mem_of_head? hhead)
  have hascii : (h.text.all fun c => decide (c.toNat < 0x80)) = true := by
    rw [List.all_eq_true]
    intro c hc
    exact decide_eq_true (toNat_lt_of_isNameChar (h.isNameChar_of_mem c hc))
  rw [readHost, hempty, h.looksLikeIPv4_text, if_neg Bool.false_ne_true, if_neg Bool.false_ne_true,
    if_neg fun hbrackets => hhead hbrackets.1, if_pos hascii,
    escape_eq_self h.keepsHost_of_mem_lower]

/-- Without an `@` there is no user before a name. -/
theorem takeUser_text (hat : '@' ∉ rest) :
    takeUser (h.text ++ ':' :: rest) = ([], h.text ++ ':' :: rest) := by
  have hname : '@' ∉ h.text := h.notMem (by decide)
  have hnone : '@' ∉ h.text ++ ':' :: rest := by
    simp [hname, hat]
  rw [takeUser, if_neg (by simpa using hnone)]

theorem takeHost_text : takeHost (h.text ++ ':' :: rest) = (h.text, ':' :: rest) := by
  obtain ⟨first, more, htext, hletter⟩ := h.text_eq
  have hhead : (h.text ++ ':' :: rest).head? ≠ some '[' := by
    intro hhead
    rw [htext] at hhead
    obtain rfl := Option.some.inj hhead
    exact absurd hletter (by decide)
  rw [takeHost, if_neg fun hbrackets => hhead hbrackets.1]
  refine cutAt_append (fun c hc hmark => ?_) fun c hc => ?_
  · obtain rfl := List.mem_singleton.mp hmark
    exact h.notMem (by decide) hc
  · cases hc
    exact List.mem_singleton_self ':'

/-- The host of an authority that begins with a name and a colon. -/
theorem hostPart_text (hat : '@' ∉ rest) : hostPart (h.text ++ ':' :: rest) = h.text := by
  rw [hostPart, h.takeUser_text hat, h.takeHost_text]

/-- The port of an authority that begins with a name and a colon. -/
theorem portPart_text (hat : '@' ∉ rest) : portPart (h.text ++ ':' :: rest) = rest := by
  rw [portPart, h.takeUser_text hat, h.takeHost_text]
  rfl

end HostName
end Url
end RouteProbe
