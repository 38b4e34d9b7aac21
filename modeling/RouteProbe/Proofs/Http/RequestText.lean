import RouteProbe.Http.Request
import RouteProbe.Proofs.Http.Line
import RouteProbe.Proofs.Text.Digits
import RouteProbe.Proofs.Url.Escape

/-!
# Requests as they are written

The head of a request is a block of lines: the line of the request, five fields that are always
there, and the credentials if there are any.  `RequestText` is what stands in these lines, with
the reasons why it cannot stand anywhere else: the target is a path without blanks, and what is
asked for and on whose behalf is printable ASCII.

So each of the texts is one line (`RequestText.isPrintableAscii_of_mem_line`), and the only empty
line is the one at the end (`RequestText.eq_nil_of_bytes_eq`): nothing that is asked for makes a
second request, or a body, out of a request.
-/

namespace RouteProbe
namespace Http

open Text Url

theorem isPrintableAscii_of_isGraphic {c : Char} (h : isGraphic c = true) :
    isPrintableAscii c = true := by
  rw [isGraphic_iff] at h
  have hlow : 0x20 ≤ c.toNat := by omega
  simp [isPrintableAscii, hlow, h.2]

/-- A printable character is a byte of a line. -/
theorem isLineByte_byte {c : Char} (h : isPrintableAscii c = true) :
    isLineByte (byte c) = true := by
  have hall : ∀ n : Fin 0x7f, 0x20 ≤ n.val → isLineByte (UInt8.ofNat n.val) = true := by
    decide +kernel
  rw [isPrintableAscii, Bool.and_eq_true, decide_eq_true_eq, decide_eq_true_eq] at h
  exact hall ⟨c.toNat, h.2⟩ h.1

/-! ## Lines -/

/-- The lines of a request. -/
def requestLines (target host : List Char) (credentials : Option (List Char)) :
    List (List Char) :=
  ["GET ".toList ++ target ++ " HTTP/1.1".toList,
    "Host: ".toList ++ host,
    "Accept: */*".toList,
    "Accept-Encoding: gzip, deflate".toList,
    "Connection: keep-alive".toList,
    "User-Agent: python-httpx/0.28.1".toList] ++
    match credentials with
    | some text => ["Authorization: Basic ".toList ++ text]
    | none => []

/-- The bytes of a request: every line has its end, and there is an empty one behind them. -/
def requestBytes (target host : List Char) (credentials : Option (List Char)) : List UInt8 :=
  ((requestLines target host credentials).flatMap (· ++ "\r\n".toList) ++ "\r\n".toList).map byte

/-- The fields of a request are its lines behind the first. -/
theorem Request.lines_eq (r : Request) :
    requestLines r.target r.host r.credentials =
      ("GET ".toList ++ r.target ++ " HTTP/1.1".toList) ::
        r.fields.map fun f => f.1 ++ [':', ' '] ++ f.2 := by
  obtain ⟨target, host, credentials⟩ := r
  cases credentials <;> rfl

/-- A first line and others, each with its end. -/
theorem flatMap_lines {α : Type} (first ending : List Char) (fs : List α) (write : α → List Char) :
    first ++ ending ++ fs.flatMap (fun f => write f ++ ending) ++ ending =
      (first :: fs.map write).flatMap (· ++ ending) ++ ending := by
  rw [List.flatMap_cons, List.flatMap_map]

/-- **A request is written in these lines.** -/
theorem Request.bytes_eq (r : Request) :
    r.bytes = requestBytes r.target r.host r.credentials := by
  refine congrArg (List.map byte) ?_
  rw [Request.lines_eq]
  exact flatMap_lines _ "\r\n".toList r.fields _

/-- What a request says, in a form in which it can say nothing else. -/
structure RequestText where
  target : List Char
  host : List Char
  credentials : Option (List Char)
  head?_target : target.head? = some '/'
  isGraphic_of_mem_target : ∀ c ∈ target, isGraphic c = true
  host_ne_nil : host ≠ []
  isPrintableAscii_of_mem_host : ∀ c ∈ host, isPrintableAscii c = true
  isGraphic_of_mem_credentials : ∀ text ∈ credentials, ∀ c ∈ text, isGraphic c = true

namespace RequestText

/-- The lines of the request. -/
def lines (r : RequestText) : List (List Char) := requestLines r.target r.host r.credentials

/-- The bytes of the request. -/
def bytes (r : RequestText) : List UInt8 := requestBytes r.target r.host r.credentials

variable {r : RequestText}

/-- **Each line of a request is one**: it is not empty, and there is no line end in it. -/
theorem isPrintableAscii_of_mem_line {line : List Char} (h : line ∈ r.lines) :
    line ≠ [] ∧ ∀ c ∈ line, isPrintableAscii c = true := by
  have hfixed : ∀ cs ∈ ["Accept: */*".toList, "Accept-Encoding: gzip, deflate".toList,
      "Connection: keep-alive".toList, "User-Agent: python-httpx/0.28.1".toList],
      cs ≠ [] ∧ cs.all isPrintableAscii = true := by decide +kernel
  have hmarks : ∀ cs ∈ ["GET ".toList, " HTTP/1.1".toList, "Host: ".toList,
      "Authorization: Basic ".toList], cs.all isPrintableAscii = true := by decide +kernel
  rcases List.mem_append.mp h with h | h
  · rw [List.mem_cons, List.mem_cons] at h
    rcases h with rfl | rfl | h
    · refine ⟨List.cons_ne_nil _ _, fun c hc => ?_⟩
      rcases List.mem_append.mp hc with hc | hc
      · rcases List.mem_append.mp hc with hc | hc
        · exact List.all_eq_true.mp (hmarks _ (by simp)) c hc
        · exact isPrintableAscii_of_isGraphic (r.isGraphic_of_mem_target c hc)
      · exact List.all_eq_true.mp (hmarks _ (by simp)) c hc
    · refine ⟨List.cons_ne_nil _ _, fun c hc => ?_⟩
      rcases List.mem_append.mp hc with hc | hc
      · exact List.all_eq_true.mp (hmarks _ (by simp)) c hc
      · exact r.isPrintableAscii_of_mem_host c hc
    · obtain ⟨hne, hprinted⟩ := hfixed line h
      exact ⟨hne, List.all_eq_true.mp hprinted⟩
  · cases hcredentials : r.credentials with
    | none =>
        rw [hcredentials] at h
        cases h
    | some text =>
        rw [hcredentials] at h
        obtain rfl := List.mem_singleton.mp h
        refine ⟨List.cons_ne_nil _ _, fun c hc => ?_⟩
        rcases List.mem_append.mp hc with hc | hc
        · exact List.all_eq_true.mp (hmarks _ (by simp)) c hc
        · exact isPrintableAscii_of_isGraphic
            (r.isGraphic_of_mem_credentials text hcredentials c hc)

/-- Texts that are lines make a block. -/
theorem exists_block {texts : List (List Char)}
    (h : ∀ text ∈ texts, text ≠ [] ∧ ∀ c ∈ text, isPrintableAscii c = true) :
    ∃ lines : List Line, (texts.flatMap (· ++ "\r\n".toList) ++ "\r\n".toList).map byte =
      blockBytes lines true := by
  induction texts with
  | nil => exact ⟨[], rfl⟩
  | cons text texts ih =>
      obtain ⟨hne, hprinted⟩ := h text List.mem_cons_self
      obtain ⟨lines, hlines⟩ := ih fun t ht => h t (List.mem_cons_of_mem text ht)
      have hbytes : ∀ b ∈ text.map byte, isLineByte b = true := by
        intro b hb
        obtain ⟨c, hc, rfl⟩ := List.mem_map.mp hb
        exact isLineByte_byte (hprinted c hc)
      refine ⟨⟨text.map byte, true, by simpa using hne, hbytes⟩ :: lines, ?_⟩
      rw [blockBytes_cons, ← hlines, List.flatMap_cons, List.append_assoc, List.map_append,
        List.map_append]
      rfl

/-- **There is no empty line in a request but the one at its end.** -/
theorem eq_nil_of_bytes_eq {front behind : List UInt8}
    (h : r.bytes = front ++ [cr, lf, cr, lf] ++ behind) : behind = [] := by
  obtain ⟨lines, hlines⟩ := exists_block fun _ => r.isPrintableAscii_of_mem_line
  exact eq_nil_of_blockBytes_eq (hlines.symm.trans h)

end RequestText

/-! ## What numbers and credentials are written in -/

/-- The digits of a number are graphic. -/
theorem isGraphic_of_mem_intText {n : Int} {c : Char} (h : c ∈ intText n) :
    isGraphic c = true := by
  have hdigit : ∀ i : Fin 10, isGraphic i.val.digitChar = true := by decide
  have hnat : ∀ m, c ∈ natText m → isGraphic c = true := by
    intro m hm
    obtain ⟨i, rfl⟩ := exists_digit_of_mem_toDigits (by decide) hm
    exact hdigit i
  cases n with
  | ofNat m => exact hnat m h
  | negSucc m =>
      rcases List.mem_cons.mp h with rfl | h
      · rfl
      · exact hnat (m + 1) h

namespace Base64

theorem isGraphic_digit (n : Nat) : isGraphic (digit n) = true := by
  have hall : ∀ i : Fin 63, isGraphic (digit i.val) = true := by decide +kernel
  by_cases h : n < 63
  · exact hall ⟨n, h⟩
  · have hslash : digit n = '/' := by
      unfold digit
      rw [if_neg (by omega), if_neg (by omega), if_neg (by omega), if_neg (by omega)]
    rw [hslash]
    rfl

/-- **Bytes are written in graphic characters.** -/
theorem isGraphic_of_mem_encode {bs : List UInt8} {c : Char} (h : c ∈ encode bs) :
    isGraphic c = true := by
  induction bs using encode.induct with
  | case1 a b d rest ih =>
      simp only [encode, List.mem_cons] at h
      rcases h with rfl | rfl | rfl | rfl | h
      · exact isGraphic_digit _
      · exact isGraphic_digit _
      · exact isGraphic_digit _
      · exact isGraphic_digit _
      · exact ih h
  | case2 a b =>
      simp only [encode, List.mem_cons, List.not_mem_nil, or_false] at h
      rcases h with rfl | rfl | rfl | rfl
      · exact isGraphic_digit _
      · exact isGraphic_digit _
      · exact isGraphic_digit _
      · rfl
  | case3 a =>
      simp only [encode, List.mem_cons, List.not_mem_nil, or_false] at h
      rcases h with rfl | rfl | rfl | rfl
      · exact isGraphic_digit _
      · exact isGraphic_digit _
      · rfl
      · rfl
  | case4 => cases h

end Base64
end Http
end RouteProbe
