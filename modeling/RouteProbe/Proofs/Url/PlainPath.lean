import RouteProbe.Proofs.Url.HostName
import RouteProbe.Proofs.Url.SentPath

/-!
# Plain paths

A plain path begins with a slash, is made of characters that stand for themselves and of escapes,
and has no dot segments; a query may follow.  It is in the form in which it is sent already
(`PlainPath.sent`).
-/

namespace RouteProbe
namespace Url

open Text

/-- A text of characters that are allowed and of escapes. -/
inductive IsPlain (allowed : Char → Bool) : List Char → Prop where
  | nil : IsPlain allowed []
  | char {c : Char} {cs : List Char} (hc : allowed c = true) (hcs : IsPlain allowed cs) :
      IsPlain allowed (c :: cs)
  | escape {high low : Char} {cs : List Char} (hhigh : (hexValue? high).isSome = true)
      (hlow : (hexValue? low).isSome = true) (hcs : IsPlain allowed cs) :
      IsPlain allowed ('%' :: high :: low :: cs)

/-- A character of a plain path. -/
def isPlainChar (c : Char) : Bool :=
  isAsciiLetter c || isAsciiDigit c || "-._~!$&()*+,;=:@/".toList.contains c

/-- A character of a plain query. -/
def isPlainQueryChar (c : Char) : Bool := isPlainChar c || c = '?'

/-- A plain path, and the query behind it. -/
structure PlainPath where
  path : List Char
  query : Option (List Char)
  head?_path : path.head? = some '/'
  isPlain_path : IsPlain isPlainChar path
  isPlain_query : ∀ text ∈ query, IsPlain isPlainQueryChar text
  here_notMem : ['.'] ∉ path.splitOn '/'
  up_notMem : ['.', '.'] ∉ path.splitOn '/'

/-- The path and the query as they are written. -/
def PlainPath.text (p : PlainPath) : List Char := p.path ++ markedBy '?' p.query

variable {allowed : Char → Bool} {c : Char} {cs : List Char}

/-- A plain text holds characters that are allowed and percent signs, if hexadecimal digits are
allowed. -/
theorem IsPlain.forall_mem (h : IsPlain allowed cs)
    (hhex : ∀ c, (hexValue? c).isSome = true → allowed c = true) :
    ∀ c ∈ cs, allowed c = true ∨ c = '%' := by
  induction h with
  | nil =>
      intro c hc
      cases hc
  | char hc _ ih =>
      intro d hd
      rcases List.mem_cons.mp hd with rfl | hd
      · exact .inl hc
      · exact ih d hd
  | escape hhigh hlow _ ih =>
      intro d hd
      rw [List.mem_cons, List.mem_cons, List.mem_cons] at hd
      rcases hd with rfl | rfl | rfl | hd
      · exact .inr rfl
      · exact .inl (hhex _ hhigh)
      · exact .inl (hhex _ hlow)
      · exact ih d hd

theorem isPlainChar_of_hexValue? (h : (hexValue? c).isSome = true) : isPlainChar c = true := by
  have hle : ∀ d e : Char, c ≤ d → d ≤ e → c ≤ e := fun _ _ => Char.le_trans
  unfold hexValue? at h
  split at h
  · next hdigit => simp [isPlainChar, isAsciiDigit, hdigit]
  · split at h
    · next hlower =>
        have hz : c ≤ 'z' := hle 'f' 'z' hlower.2 (by decide)
        simp [isPlainChar, isAsciiLetter, hlower.1, hz]
    · split at h
      · next hupper =>
          have hz : c ≤ 'Z' := hle 'F' 'Z' hupper.2 (by decide)
          simp [isPlainChar, isAsciiLetter, hupper.1, hz]
      · cases h

/-- Plain characters stand for themselves in a path and in a query. -/
theorem keeps_of_isPlainChar (h : isPlainChar c = true) :
    keepsPath c = true ∧ keepsQuery c = true := by
  have hmarks : ("-._~!$&()*+,;=:@/".toList.all fun d => keepsPath d && keepsQuery d) = true := by
    decide +kernel
  rw [isPlainChar, Bool.or_eq_true, List.contains_iff_mem] at h
  rcases h with h | h
  · have hname : isNameChar c = true := by simp [isNameChar, h]
    exact forall_ascii (p := fun c => isNameChar c = true → keepsPath c = true ∧
      keepsQuery c = true) (by decide +kernel) (toNat_lt_of_isNameChar hname) hname
  · exact Bool.and_eq_true_iff.mp (List.all_eq_true.mp hmarks c h)

namespace PlainPath

variable (p : PlainPath)

theorem keepsPath_of_mem : ∀ c ∈ p.path, keepsPath c = true := by
  intro c hc
  rcases p.isPlain_path.forall_mem (fun _ => isPlainChar_of_hexValue?) c hc with h | rfl
  · exact (keeps_of_isPlainChar h).1
  · decide

theorem keepsQuery_of_mem : ∀ text ∈ p.query, ∀ c ∈ text, keepsQuery c = true := by
  intro text htext c hc
  have hhex : ∀ c, (hexValue? c).isSome = true → isPlainQueryChar c = true := by
    intro c hc
    rw [isPlainQueryChar, isPlainChar_of_hexValue? hc]
    rfl
  rcases (p.isPlain_query text htext).forall_mem hhex c hc with h | rfl
  · rw [isPlainQueryChar, Bool.or_eq_true, decide_eq_true_eq] at h
    rcases h with h | rfl
    · exact (keeps_of_isPlainChar h).2
    · decide
  · decide

/-- **A plain path is in the form in which it is sent.** -/
def sent : SentPath where
  path := p.path
  query := p.query
  head?_path := p.head?_path
  keepsPath_of_mem := p.keepsPath_of_mem
  keepsQuery_of_mem := p.keepsQuery_of_mem
  here_notMem := p.here_notMem
  up_notMem := p.up_notMem

end PlainPath
end Url
end RouteProbe
