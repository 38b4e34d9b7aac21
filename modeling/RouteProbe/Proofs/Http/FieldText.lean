import RouteProbe.Proofs.Http.Line
import RouteProbe.Proofs.Text.Digits

/-!
# Fields as they are written

A field is written as its name, a colon and a value, and the value may go on in lines that
begin with a blank.  Reading the lines gives the name and the value without the blanks
around it, each continuation standing behind one space (`Field.ofLines_fieldLines`).

The fields also announce how the body is framed.  `Announces` says what it means for them to
do so, by the values under the two names that count, and `Framing.ofFields_of_announces` that
this is what is read off them, in whatever order the fields stand.  Every length can be announced
(`FieldText.announces_ofLength`).
-/

namespace RouteProbe
namespace Http

open Text

theorem isVisible_of_isNameByte {b : UInt8} :
    Field.isNameByte b = true → isVisible b = true :=
  forall_byte (p := fun b => Field.isNameByte b = true → isVisible b = true)
    (by decide +kernel) b

theorem isPadding_of_isVisible {b : UInt8} : isVisible b = true → isPadding b = false :=
  forall_byte (p := fun b => isVisible b = true → isPadding b = false) (by decide +kernel) b

theorem isLineByte_of_isNameByte {b : UInt8} (h : Field.isNameByte b = true) :
    isLineByte b = true := by
  rw [isLineByte, isVisible_of_isNameByte h, Bool.true_or]

theorem isPadding_of_isNameByte {b : UInt8} (h : Field.isNameByte b = true) :
    isPadding b = false := isPadding_of_isVisible (isVisible_of_isNameByte h)

/-- The bytes of an ASCII text. -/
def asciiBytes (s : String) : List UInt8 := s.toList.map byte

/-- Bytes without the blanks around them. -/
def trimPadding (bs : List UInt8) : List UInt8 := dropEndWhile isPadding (bs.dropWhile isPadding)

theorem mem_of_mem_trimPadding {b : UInt8} {bs : List UInt8} (h : b ∈ trimPadding bs) :
    b ∈ bs := by
  rw [trimPadding, dropEndWhile, List.mem_reverse] at h
  have hdrop := (List.dropWhile_sublist isPadding).mem h
  exact (List.dropWhile_sublist isPadding).mem (List.mem_reverse.mp hdrop)

/-- A line that continues the one before it, as it is written. -/
structure Fold extends Line where
  startsWithPadding : (text.head?.map isPadding).getD false = true

/-- A field as it is written: the name, what stands behind the colon in its line, and the
lines that continue it. -/
structure FieldText where
  name : List UInt8
  content : List UInt8
  withReturn : Bool
  folds : List Fold
  name_ne_nil : name ≠ []
  isNameByte_of_mem : ∀ b ∈ name, Field.isNameByte b = true
  isLineByte_of_mem : ∀ b ∈ content, isLineByte b = true

namespace FieldText

/-- The line with the name. -/
def firstLine (t : FieldText) : Line where
  text := t.name ++ byte ':' :: t.content
  withReturn := t.withReturn
  text_ne_nil := List.append_ne_nil_of_left_ne_nil t.name_ne_nil _
  isLineByte_of_mem := by
    intro b hb
    rw [List.mem_append, List.mem_cons] at hb
    rcases hb with hb | rfl | hb
    · exact isLineByte_of_isNameByte (t.isNameByte_of_mem b hb)
    · decide
    · exact t.isLineByte_of_mem b hb

/-- The lines of a field. -/
def lines (t : FieldText) : List Line := t.firstLine :: t.folds.map Fold.toLine

/-- What stands behind the colon once the lines are put together. -/
def unfolded (t : FieldText) : List UInt8 :=
  t.content ++ t.folds.flatMap fun f => 32 :: f.text.dropWhile isPadding

/-- The field that is meant. -/
def field (t : FieldText) : Field := ⟨t.name, trimPadding t.unfolded⟩

theorem isLineByte_of_mem_unfolded (t : FieldText) {b : UInt8} (h : b ∈ t.unfolded) :
    isLineByte b = true := by
  rw [unfolded, List.mem_append, List.mem_flatMap] at h
  rcases h with h | ⟨f, -, h⟩
  · exact t.isLineByte_of_mem b h
  · rcases List.mem_cons.mp h with rfl | h
    · decide
    · exact f.isLineByte_of_mem b ((List.dropWhile_sublist isPadding).mem h)

/-- The line with the name continues no other one. -/
theorem firstLine_startsWithPadding (t : FieldText) :
    (t.firstLine.text.head?.map isPadding).getD false = false := by
  obtain ⟨b, more, hname⟩ := List.exists_cons_of_ne_nil t.name_ne_nil
  have hb : isPadding b = false :=
    isPadding_of_isNameByte (t.isNameByte_of_mem b (by simp [hname]))
  simp [firstLine, hname, hb]

end FieldText

namespace Field

/-- A line whose parts are put together is read as its field. -/
theorem ofLine_unfolded (t : FieldText) :
    ofLine (t.name ++ byte ':' :: t.unfolded) = .ok t.field := by
  have hcolon : isNameByte (byte ':') = false := by decide +kernel
  have htake : (t.name ++ byte ':' :: t.unfolded).takeWhile isNameByte = t.name := by
    rw [List.takeWhile_append_of_pos t.isNameByte_of_mem,
      List.takeWhile_cons_of_neg (by simp [hcolon]), List.append_nil]
  have hdrop : (t.name ++ byte ':' :: t.unfolded).dropWhile isNameByte =
      58 :: t.unfolded := by
    rw [List.dropWhile_append_of_pos t.isNameByte_of_mem,
      List.dropWhile_cons_of_neg (by simp [hcolon])]
    rfl
  have hname : t.name.isEmpty = false := List.isEmpty_eq_false_iff.mpr t.name_ne_nil
  have hvalue : (trimPadding t.unfolded).all (fun b => isVisible b || isPadding b) = true :=
    List.all_eq_true.mpr fun b hb => t.isLineByte_of_mem_unfolded (mem_of_mem_trimPadding hb)
  rw [ofLine, htake, hdrop]
  simp only [hname, Bool.not_false, Bool.true_and]
  rw [← trimPadding, if_pos hvalue]
  rfl

end Field

/-! ## Putting lines together -/

/-- Continuations are put behind the line before them. -/
theorem unfoldAfter_folds (folds : List Fold) (current : List UInt8)
    (lines : List (List UInt8)) :
    unfoldAfter current (folds.map (·.text) ++ lines) =
      unfoldAfter (current ++ folds.flatMap fun f => 32 :: f.text.dropWhile isPadding) lines := by
  induction folds generalizing current with
  | nil => simp
  | cons f folds ih =>
      rw [List.map_cons, List.cons_append, unfoldAfter, if_pos f.startsWithPadding, ih]
      simp

/-- The texts of the lines of fields. -/
def fieldLines (ts : List FieldText) : List (List UInt8) :=
  (ts.flatMap FieldText.lines).map Line.text

@[simp] theorem fieldLines_nil : fieldLines [] = [] := rfl

theorem fieldLines_cons (t : FieldText) (ts : List FieldText) :
    fieldLines (t :: ts) = t.firstLine.text :: (t.folds.map (·.text) ++ fieldLines ts) := by
  simp [fieldLines, FieldText.lines]

/-- Behind the line of a field come its continuations, and then the other fields. -/
theorem unfoldAfter_fieldLines (t : FieldText) (ts : List FieldText) :
    unfoldAfter t.firstLine.text (t.folds.map (·.text) ++ fieldLines ts) =
      (t :: ts).map fun t => t.name ++ byte ':' :: t.unfolded := by
  induction ts generalizing t with
  | nil =>
      rw [unfoldAfter_folds, fieldLines_nil]
      simp [unfoldAfter, FieldText.firstLine, FieldText.unfolded]
  | cons u ts ih =>
      rw [unfoldAfter_folds, fieldLines_cons, unfoldAfter,
        if_neg (by simp [u.firstLine_startsWithPadding]), ih u]
      simp [FieldText.firstLine, FieldText.unfolded]

theorem unfoldLines_fieldLines (ts : List FieldText) :
    unfoldLines (fieldLines ts) = .ok (ts.map fun t => t.name ++ byte ':' :: t.unfolded) := by
  cases ts with
  | nil => rfl
  | cons t ts =>
      rw [fieldLines_cons, unfoldLines, if_neg (by simp [t.firstLine_startsWithPadding]),
        unfoldAfter_fieldLines]

/-- **The lines of fields are read as the fields that are meant.** -/
theorem Field.ofLines_fieldLines (ts : List FieldText) :
    Field.ofLines (fieldLines ts) = .ok (ts.map FieldText.field) := by
  have hmap : (ts.map fun t => t.name ++ byte ':' :: t.unfolded).mapM Field.ofLine =
      (.ok (ts.map FieldText.field) : Except ProtocolError (List Field)) := by
    induction ts with
    | nil => rfl
    | cons t ts ih => rw [List.map_cons, List.mapM_cons, Field.ofLine_unfolded, ih]; rfl
  rw [Field.ofLines, unfoldLines_fieldLines]
  exact hmap

/-! ## What the fields announce -/

/-- A value that names a length by `digits`, once or several times over. -/
structure NamesLength (digits value : List UInt8) : Prop where
  digits_ne_nil : digits ≠ []
  isDigit_of_mem : ∀ b ∈ digits, (byte '0' ≤ b && b ≤ byte '9') = true
  length_le : digits.length ≤ Framing.maxDigits
  eq_of_mem : ∀ item ∈ value.splitOn (byte ','), trimPadding item = digits

/-- A value that names the coding by chunks, in letters of either case. -/
def NamesChunks (value : List UInt8) : Prop :=
  value.map Field.lowerByte = "chunked".toList.map byte

/-- What fields announce about the body.  Lengths have to agree, the coding by chunks may be
named once, and it goes before a length. -/
inductive Announces (fields : List Field) : Framing → Prop where
  | chunked (digits value : List UInt8)
      (lengths : ∀ v ∈ valuesOf "content-length" fields, NamesLength digits v)
      (codings : valuesOf "transfer-encoding" fields = [value])
      (chunks : NamesChunks value) :
      Announces fields .chunked
  | counted (digits : List UInt8)
      (named : valuesOf "content-length" fields ≠ [])
      (lengths : ∀ v ∈ valuesOf "content-length" fields, NamesLength digits v)
      (codings : valuesOf "transfer-encoding" fields = []) :
      Announces fields (.counted (decimalNumber (ofLatin1 digits)))
  | untilEnd (unnamed : valuesOf "content-length" fields = [])
      (codings : valuesOf "transfer-encoding" fields = []) :
      Announces fields .untilEnd

/-- A list of one element, perhaps several times over, has that element alone. -/
theorem eraseDups_eq_singleton {α : Type} [BEq α] [LawfulBEq α] {a : α} {xs : List α}
    (hne : xs ≠ []) (h : ∀ x ∈ xs, x = a) : xs.eraseDups = [a] := by
  obtain ⟨x, more, rfl⟩ := List.exists_cons_of_ne_nil hne
  have hnone : more.filter (fun b => !b == x) = [] := by
    rw [List.filter_eq_nil_iff]
    intro b hb
    rw [h b (List.mem_cons_of_mem x hb), h x List.mem_cons_self]
    simp
  rw [List.eraseDups_cons, hnone, List.eraseDups_nil, h x List.mem_cons_self]

namespace Framing

/-- The length that a value names. -/
theorem lengthText_of_namesLength {digits value : List UInt8} (h : NamesLength digits value) :
    lengthText value = .ok digits := by
  have htexts : ((value.splitOn (byte ',')).map fun t =>
      dropEndWhile isPadding (t.dropWhile isPadding)).eraseDups = [digits] := by
    refine eraseDups_eq_singleton (by simp [List.splitOn_ne_nil]) ?_
    intro x hx
    obtain ⟨item, hitem, rfl⟩ := List.mem_map.mp hx
    exact h.eq_of_mem item hitem
  have hne : digits.isEmpty = false := List.isEmpty_eq_false_iff.mpr h.digits_ne_nil
  have hdigits : digits.all (fun b => byte '0' ≤ b && b ≤ byte '9') = true :=
    List.all_eq_true.mpr h.isDigit_of_mem
  have hlength : decide (digits.length ≤ maxDigits) = true := decide_eq_true h.length_le
  simp only [lengthText, htexts, hne, hdigits, hlength, Bool.not_false, Bool.and_self, if_true]

/-- A field with a length adds it to what is announced, unless another one is known. -/
theorem add_of_length {digits : List UInt8} {f : Field} {a : Announced}
    (hname : f.isNamed "content-length" = true) (hvalue : NamesLength digits f.value)
    (hknown : a.length = none ∨ a.length = some digits) :
    a.add f = .ok { a with length := some digits } := by
  have hget : a.length.getD digits = digits := by rcases hknown with h | h <;> rw [h] <;> rfl
  simp only [Announced.add, hname, if_true, lengthText_of_namesLength hvalue, hget]

/-- A field with a coding adds the chunks to it, once. -/
theorem add_of_coding {f : Field} {a : Announced} (hother : f.isNamed "content-length" = false)
    (hname : f.isNamed "transfer-encoding" = true) (hvalue : NamesChunks f.value)
    (honce : a.chunks = false) : a.add f = .ok { a with chunks := true } := by
  have hlower : f.value.map Field.lowerByte = "chunked".toList.map byte := hvalue
  simp only [Announced.add, hother, hname, honce, hlower, if_true, Bool.false_eq_true, if_false]

/-- Other fields add nothing. -/
theorem add_of_other {f : Field} {a : Announced} (hlength : f.isNamed "content-length" = false)
    (hcoding : f.isNamed "transfer-encoding" = false) : a.add f = .ok a := by
  simp only [Announced.add, hlength, hcoding, Bool.false_eq_true, if_false]

/-- No field has both names. -/
theorem isNamed_coding_of_length {f : Field} (h : f.isNamed "content-length" = true) :
    f.isNamed "transfer-encoding" = false := by
  rw [Field.isNamed, beq_iff_eq] at h
  rw [Field.isNamed, h]
  decide +kernel

theorem valuesOf_cons_of_isNamed {name : String} {f : Field} (h : f.isNamed name = true)
    (fields : List Field) : valuesOf name (f :: fields) = f.value :: valuesOf name fields := by
  rw [valuesOf, List.filter_cons_of_pos h, List.map_cons, valuesOf]

theorem valuesOf_cons_of_not_isNamed {name : String} {f : Field} (h : f.isNamed name = false)
    (fields : List Field) : valuesOf name (f :: fields) = valuesOf name fields := by
  rw [valuesOf, List.filter_cons_of_neg (by simp [h]), valuesOf]

theorem valuesOf_append (name : String) (fields more : List Field) :
    valuesOf name (fields ++ more) = valuesOf name fields ++ valuesOf name more := by
  rw [valuesOf, List.filter_append, List.map_append, valuesOf, valuesOf]

/-- Lengths that agree are all taken into account as one, and chunks as one as well.  What is
known before the fields is `some digits` or nothing, so the step is the same for all. -/
theorem foldlM_add {digits : List UInt8} (fields : List Field) (a : Announced)
    (hknown : a.length = none ∨ a.length = some digits)
    (hlengths : ∀ v ∈ valuesOf "content-length" fields, NamesLength digits v)
    (hcodings : ∀ v ∈ valuesOf "transfer-encoding" fields, NamesChunks v)
    (honce : (valuesOf "transfer-encoding" fields).length + (if a.chunks then 1 else 0) ≤ 1) :
    fields.foldlM Announced.add a =
      .ok ⟨if valuesOf "content-length" fields = [] then a.length else some digits,
        a.chunks || decide (valuesOf "transfer-encoding" fields ≠ [])⟩ := by
  induction fields generalizing a with
  | nil => simp [valuesOf, pure, Except.pure]
  | cons f fields ih =>
      rw [List.foldlM_cons]
      cases hlength : f.isNamed "content-length" with
      | true =>
          have hcoding := isNamed_coding_of_length hlength
          rw [valuesOf_cons_of_isNamed hlength] at hlengths ⊢
          rw [valuesOf_cons_of_not_isNamed hcoding] at hcodings honce ⊢
          rw [add_of_length hlength (hlengths _ List.mem_cons_self) hknown]
          have hrest := ih { a with length := some digits } (.inr rfl)
            (fun v hv => hlengths v (List.mem_cons_of_mem _ hv)) hcodings honce
          simpa [bind, Except.bind] using hrest
      | false =>
          rw [valuesOf_cons_of_not_isNamed hlength] at hlengths ⊢
          cases hcoding : f.isNamed "transfer-encoding" with
          | true =>
              rw [valuesOf_cons_of_isNamed hcoding] at hcodings honce ⊢
              -- the one coding there is, is this one
              have hchunks : a.chunks = false := by
                cases h : a.chunks <;> simp [h] at honce ⊢
              have hnil : valuesOf "transfer-encoding" fields = [] := by
                rw [List.length_cons] at honce
                rw [← List.length_eq_zero_iff]
                omega
              rw [add_of_coding hlength hcoding (hcodings _ List.mem_cons_self) hchunks]
              have hrest := ih { a with chunks := true } hknown hlengths (by simp [hnil])
                (by simp [hnil])
              simpa [bind, Except.bind, hnil] using hrest
          | false =>
              rw [valuesOf_cons_of_not_isNamed hcoding] at hcodings honce ⊢
              rw [add_of_other hlength hcoding]
              exact ih a hknown hlengths hcodings honce

/-- **What the fields announce is what is read off them.** -/
theorem ofFields_of_announces {fields : List Field} {framing : Framing}
    (h : Announces fields framing) : ofFields fields = .ok framing := by
  cases h with
  | chunked digits value lengths codings chunks =>
      have hfold := foldlM_add fields ⟨none, false⟩ (.inl rfl) lengths
        (by simpa [codings] using chunks) (by simp [codings])
      simp only [codings] at hfold
      simp only [ofFields, hfold]
      simp
  | counted digits named lengths codings =>
      have hfold := foldlM_add fields ⟨none, false⟩ (.inl rfl) lengths
        (by simp [codings]) (by simp [codings])
      simp only [codings, if_neg named] at hfold
      simp only [ofFields, hfold]
      simp
  | untilEnd unnamed codings =>
      have hlengths : ∀ v ∈ valuesOf "content-length" fields, NamesLength [] v := by
        simp [unnamed]
      have hfold := foldlM_add fields ⟨none, false⟩ (.inl rfl) hlengths
        (by simp [codings]) (by simp [codings])
      simp only [codings, unnamed, if_true] at hfold
      simp only [ofFields, hfold]
      simp

end Framing

/-! ## Announcing a length -/

theorem trimPadding_of_forall {bs : List UInt8} (h : ∀ b ∈ bs, isPadding b = false) :
    trimPadding bs = bs := by
  have hdrop (cs : List UInt8) (hcs : ∀ b ∈ cs, isPadding b = false) :
      cs.dropWhile isPadding = cs := by
    cases cs with
    | nil => rfl
    | cons b cs =>
        rw [List.dropWhile_cons_of_neg]
        simp [hcs b List.mem_cons_self]
  rw [trimPadding, hdrop bs h, dropEndWhile, hdrop, List.reverse_reverse]
  intro b hb
  exact h b (List.mem_reverse.mp hb)

namespace FieldText

/-- The digits of a length as bytes. -/
def lengthBytes (n : Nat) : List UInt8 := (Nat.toDigits 10 n).map byte

theorem isDigit_of_mem_lengthBytes {n : Nat} {b : UInt8} (h : b ∈ lengthBytes n) :
    (byte '0' ≤ b && b ≤ byte '9') = true := by
  have hall : ∀ i : Fin 10, (byte '0' ≤ byte i.val.digitChar &&
      byte i.val.digitChar ≤ byte '9') = true := by decide
  obtain ⟨c, hc, rfl⟩ := List.mem_map.mp h
  obtain ⟨i, rfl⟩ := exists_digit_of_mem_toDigits (by decide) hc
  exact hall i

theorem isVisible_of_isDigit {b : UInt8} :
    (byte '0' ≤ b && b ≤ byte '9') = true → isVisible b = true :=
  forall_byte (p := fun b => (byte '0' ≤ b && b ≤ byte '9') = true → isVisible b = true)
    (by decide +kernel) b

/-- The field that announces a length. -/
def ofLength (n : Nat) : FieldText where
  name := asciiBytes "Content-Length"
  content := lengthBytes n
  withReturn := true
  folds := []
  name_ne_nil := by decide
  isNameByte_of_mem := by decide +kernel
  isLineByte_of_mem := by
    intro b hb
    rw [isLineByte, isVisible_of_isDigit (isDigit_of_mem_lengthBytes hb), Bool.true_or]

/-- The value of the field is the digits and nothing else. -/
theorem field_ofLength (n : Nat) :
    (ofLength n).field = ⟨asciiBytes "Content-Length", lengthBytes n⟩ := by
  have hunfolded : (ofLength n).unfolded = lengthBytes n := List.append_nil _
  rw [field, hunfolded, trimPadding_of_forall]
  · rfl
  · intro b hb
    exact isPadding_of_isVisible (isVisible_of_isDigit (isDigit_of_mem_lengthBytes hb))

/-- The digits name the length, unless there are too many of them. -/
theorem namesLength_lengthBytes {n : Nat}
    (h : (Nat.toDigits 10 n).length ≤ Framing.maxDigits) :
    NamesLength (lengthBytes n) (lengthBytes n) where
  digits_ne_nil := by
    rw [lengthBytes, ne_eq, List.map_eq_nil_iff]
    exact Nat.toDigits_ne_nil
  isDigit_of_mem := fun _ hb => isDigit_of_mem_lengthBytes hb
  length_le := by rwa [lengthBytes, List.length_map]
  eq_of_mem := by
    intro item hitem
    have hcomma : byte ',' ∉ lengthBytes n := fun hb =>
      absurd (isDigit_of_mem_lengthBytes hb) (by decide)
    rw [List.splitOn_eq_singleton hcomma, List.mem_singleton] at hitem
    subst hitem
    refine trimPadding_of_forall fun b hb => ?_
    exact isPadding_of_isVisible (isVisible_of_isDigit (isDigit_of_mem_lengthBytes hb))

/-- **Every length can be announced**, up to those of more than `Framing.maxDigits` digits, next
to any fields that are about other things. -/
theorem announces_ofLength {n : Nat} (h : (Nat.toDigits 10 n).length ≤ Framing.maxDigits)
    {before : List Field} (hlengths : valuesOf "content-length" before = [])
    (hcodings : valuesOf "transfer-encoding" before = []) :
    Announces (before ++ [(ofLength n).field]) (.counted n) := by
  have hnames : ((ofLength n).field.isNamed "content-length") = true := by
    have hlower : (asciiBytes "Content-Length").map Field.lowerByte =
        "content-length".toList.map byte := by decide +kernel
    rw [field_ofLength, Field.isNamed, hlower, beq_self_eq_true]
  have hvalues : valuesOf "content-length" (before ++ [(ofLength n).field]) = [lengthBytes n] := by
    rw [Framing.valuesOf_append, hlengths, Framing.valuesOf_cons_of_isNamed hnames, field_ofLength]
    rfl
  have hcodings' : valuesOf "transfer-encoding" (before ++ [(ofLength n).field]) = [] := by
    rw [Framing.valuesOf_append, hcodings,
      Framing.valuesOf_cons_of_not_isNamed (Framing.isNamed_coding_of_length hnames)]
    rfl
  have hnumber : decimalNumber (ofLatin1 (lengthBytes n)) = n := by
    rw [lengthBytes, ofLatin1_map_byte_toDigits (by decide) (by decide), decimalNumber_toDigits]
  have hcounted := Announces.counted (lengthBytes n) (by simp [hvalues])
    (fun v hv => by
      rw [hvalues, List.mem_singleton] at hv
      exact hv ▸ namesLength_lengthBytes h)
    hcodings'
  rwa [hnumber] at hcounted

end FieldText

end Http
end RouteProbe
