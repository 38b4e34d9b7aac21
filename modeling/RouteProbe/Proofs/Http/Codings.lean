import Mathlib.Data.List.Basic
import RouteProbe.Http.Exchange
import RouteProbe.Proofs.Http.FieldText
import RouteProbe.Proofs.Text.Joined

/-!
# Codings that a head names

A head names codings in a list of items apart by commas, over one or several fields.  Case does not
count in a name, nor do blanks around it, and a name that is not known is passed over
(`codingNamed?`).  Items are read as text, but as long as they are ASCII text it does not matter
which text the other fields are: what a head names is told by the bytes of the items
(`Head.codings_of_listsCodings`).
-/

namespace RouteProbe
namespace Http

open Text Coding

/-- The name of a coding. -/
def codingName : Scheme → List UInt8
  | .identity => asciiBytes "identity"
  | .gzip => asciiBytes "gzip"
  | .deflate => asciiBytes "deflate"

/-- The coding that an item of a list names, if it is one that is known. -/
def codingNamed? (item : List UInt8) : Option Scheme :=
  [.gzip, .deflate, .identity].find? fun scheme =>
    codingName scheme == (trimPadding item).map Field.lowerByte

/-- The items of all lists of codings among some fields. -/
def codingItems (fields : List Field) : List (List UInt8) :=
  (valuesOf "content-encoding" fields).flatMap fun value => value.splitOn (byte ',')

/-- A byte of ASCII text: a blank, or a character that is seen. -/
def isTextByte (b : UInt8) : Bool := isPadding b || (0x20 < b && b < 0x7f)

/-- Fields list codings in order, in ASCII text, and perhaps other names between them. -/
structure ListsCodings (fields : List Field) (schemes : List Scheme) : Prop where
  isTextByte_of_mem : ∀ item ∈ codingItems fields, ∀ b ∈ item, isTextByte b = true
  filterMap_eq : (codingItems fields).filterMap codingNamed? = schemes

/-! ## Items as text -/

/-- A byte of ASCII text is a blank in the full sense only if it is one in the narrow sense. -/
theorem isBlank_ofNat {b : UInt8} :
    isTextByte b = true → isBlank (Char.ofNat b.toNat) = isPadding b :=
  forall_byte (p := fun b => isTextByte b = true → isBlank (Char.ofNat b.toNat) = isPadding b)
    (by decide +kernel) b

theorem toNat_lt_of_isTextByte {b : UInt8} :
    isTextByte b = true → (Char.ofNat b.toNat).toNat < 0x80 ∧ b.toNat < 0x80 :=
  forall_byte (p := fun b => isTextByte b = true →
    (Char.ofNat b.toNat).toNat < 0x80 ∧ b.toNat < 0x80) (by decide +kernel) b

/-- ASCII letters are lowered as bytes or as characters. -/
theorem lowerAscii_ofNat {b : UInt8} : b.toNat < 0x80 →
    lowerAscii (Char.ofNat b.toNat) = Char.ofNat (Field.lowerByte b).toNat :=
  forall_byte (p := fun b => b.toNat < 0x80 →
    lowerAscii (Char.ofNat b.toNat) = Char.ofNat (Field.lowerByte b).toNat) (by decide +kernel) b

/-- ASCII bytes are their characters, also in UTF-8. -/
theorem ofUtf8Replacing_ascii {bs : List UInt8} (h : ∀ b ∈ bs, b.toNat < 0x80) :
    ofUtf8Replacing bs = ofLatin1 bs := by
  have hstep (bs : List UInt8) (h : ∀ b ∈ bs, b.toNat < 0x80) (read : List (Option Char)) :
      bs.foldl Utf8Decoder.step ⟨read, none⟩ =
        ⟨(bs.map fun b => some (Char.ofNat b.toNat)).reverse ++ read, none⟩ := by
    induction bs generalizing read with
    | nil => rfl
    | cons b bs ih =>
        obtain ⟨hfirst, hrest⟩ := List.forall_mem_cons.mp h
        have hlead : Utf8Decoder.step ⟨read, none⟩ b =
            ⟨some (Char.ofNat b.toNat) :: read, none⟩ := by
          simp only [Utf8Decoder.step, Utf8Decoder.lead, utf8Lead, hfirst, if_true]
        rw [List.foldl_cons, hlead, ih hrest, List.map_cons, List.reverse_cons, List.append_assoc]
        rfl
  rw [ofUtf8Replacing, utf8Scan, Utf8Decoder.start, hstep bs h, List.append_nil,
    Utf8Decoder.finish, List.reverse_reverse, List.map_map]
  rfl

/-- A value in ASCII is read in one way, whatever the other fields are. -/
theorem Head.valueText_ascii {value : List UInt8} (h : ∀ b ∈ value, b.toNat < 0x80) (head : Head) :
    head.valueText value = ofLatin1 value := by
  rw [Head.valueText, ofUtf8Replacing_ascii h, ite_self]

/-- Commas divide the text of a value as they divide its bytes. -/
theorem splitOn_ofLatin1 (value : List UInt8) :
    (ofLatin1 value).splitOn ',' = (value.splitOn (byte ',')).map ofLatin1 := by
  have hcomma : (fun c => c == ',') ∘ (fun b : UInt8 => Char.ofNat b.toNat) =
      fun b => b == byte ',' := by
    funext b
    exact forall_byte (p := fun b => (Char.ofNat b.toNat == ',') = (b == byte ','))
      (by decide +kernel) b
  show ((value.map _).splitOnP _) = _
  rw [splitOnP_map, hcomma]
  rfl

theorem dropWhile_congr {α : Type} {p q : α → Bool} {xs : List α} (h : ∀ x ∈ xs, p x = q x) :
    xs.dropWhile p = xs.dropWhile q := by
  induction xs with
  | nil => rfl
  | cons x xs ih =>
      obtain ⟨hfirst, hrest⟩ := List.forall_mem_cons.mp h
      rw [List.dropWhile_cons, List.dropWhile_cons, hfirst, ih hrest]

/-- The blanks around an item are dropped from its text as from its bytes. -/
theorem trim_ofLatin1 {item : List UInt8} (h : ∀ b ∈ item, isTextByte b = true) :
    trim (ofLatin1 item) = ofLatin1 (trimPadding item) := by
  have hdrop (bs : List UInt8) (hbs : ∀ b ∈ bs, isTextByte b = true) :
      (ofLatin1 bs).dropWhile isBlank = ofLatin1 (bs.dropWhile isPadding) := by
    have hsame : ∀ b ∈ bs, (isBlank ∘ fun b : UInt8 => Char.ofNat b.toNat) b = isPadding b :=
      fun b hb => isBlank_ofNat (hbs b hb)
    rw [ofLatin1, List.dropWhile_map, dropWhile_congr hsame]
    rfl
  have hreverse (bs : List UInt8) : (ofLatin1 bs).reverse = ofLatin1 bs.reverse :=
    List.map_reverse.symm
  rw [trim, trimEnd, trimStart, hdrop item h, dropEndWhile, hreverse, hdrop, hreverse, trimPadding,
    dropEndWhile]
  intro b hb
  exact h b ((List.dropWhile_sublist _).mem (List.mem_reverse.mp hb))

theorem lower_ofLatin1 {item : List UInt8} (h : ∀ b ∈ item, isTextByte b = true) :
    lower (ofLatin1 item) = ofLatin1 (item.map Field.lowerByte) := by
  have hascii : ∀ c ∈ ofLatin1 item, c.toNat < 0x80 := by
    intro c hc
    obtain ⟨b, hb, rfl⟩ := List.mem_map.mp hc
    exact (toNat_lt_of_isTextByte (h b hb)).1
  rw [lower_ascii hascii, ofLatin1, ofLatin1, List.map_map, List.map_map]
  refine List.map_congr_left fun b hb => ?_
  exact lowerAscii_ofNat (toNat_lt_of_isTextByte (h b hb)).2

/-- Bytes are told by their characters. -/
theorem ofLatin1_injective : Function.Injective ofLatin1 := by
  refine List.map_injective_iff.mpr fun a b hchars => ?_
  have hnumber : ∀ b : UInt8, (Char.ofNat b.toNat).toNat = b.toNat :=
    forall_byte (by decide +kernel)
  have hnumbers := congrArg Char.toNat hchars
  rw [hnumber, hnumber] at hnumbers
  exact UInt8.toNat_inj.mp hnumbers

/-- **An item of ASCII text is read as the coding that its bytes name.** -/
theorem ofName?_ofLatin1 {item : List UInt8} (h : ∀ b ∈ item, isTextByte b = true) :
    Scheme.ofName? (lower (trim (ofLatin1 item))) = codingNamed? item := by
  have htrimmed : ∀ b ∈ trimPadding item, isTextByte b = true := fun b hb =>
    h b (mem_of_mem_trimPadding hb)
  rw [trim_ofLatin1 h, lower_ofLatin1 htrimmed, codingNamed?]
  generalize (trimPadding item).map Field.lowerByte = name
  have hgzip : ofLatin1 name = "gzip".toList ↔ codingName .gzip = name :=
    (ofLatin1_injective.eq_iff' (b := codingName .gzip) rfl).trans eq_comm
  have hdeflate : ofLatin1 name = "deflate".toList ↔ codingName .deflate = name :=
    (ofLatin1_injective.eq_iff' (b := codingName .deflate) rfl).trans eq_comm
  have hidentity : ofLatin1 name = "identity".toList ↔ codingName .identity = name :=
    (ofLatin1_injective.eq_iff' (b := codingName .identity) rfl).trans eq_comm
  simp only [Scheme.ofName?, hgzip, hdeflate, hidentity, List.find?_cons, List.find?_nil]
  split
  · next hname => rw [beq_iff_eq.mpr hname]
  · next hname =>
      rw [beq_false_of_ne hname]
      split
      · next hname => rw [beq_iff_eq.mpr hname]
      · next hname =>
          rw [beq_false_of_ne hname]
          split
          · next hname => rw [beq_iff_eq.mpr hname]
          · next hname => rw [beq_false_of_ne hname]

/-- The text of a value whose items are ASCII text names what its items name. -/
theorem filterMap_valueText {value : List UInt8}
    (h : ∀ item ∈ value.splitOn (byte ','), ∀ b ∈ item, isTextByte b = true) (head : Head) :
    (((head.valueText value).splitOn ',').filterMap fun name =>
      Scheme.ofName? (lower (trim name))) = (value.splitOn (byte ',')).filterMap codingNamed? := by
  have hascii : ∀ b ∈ value, b.toNat < 0x80 := by
    intro b hb
    have hjoined : [byte ','].intercalate (value.splitOn (byte ',')) = value :=
      List.intercalate_splitOn (byte ',')
    rw [← hjoined] at hb
    rcases mem_intercalate hb with rfl | ⟨item, hitem, hb⟩
    · decide
    · exact (toNat_lt_of_isTextByte (h item hitem b hb)).2
  rw [Head.valueText_ascii hascii, splitOn_ofLatin1, List.filterMap_map]
  exact List.filterMap_congr fun item hitem => ofName?_ofLatin1 (h item hitem)

/-- **What a head names is what the bytes of its lists name**, in order. -/
theorem Head.codings_of_listsCodings {head : Head} {schemes : List Scheme}
    (h : ListsCodings head.fields schemes) : head.codings = schemes := by
  obtain ⟨htext, hnames⟩ := h
  rw [← hnames, Head.codings, codingItems, List.filterMap_flatMap, List.flatMap_def,
    List.flatMap_def]
  congr 1
  refine List.map_congr_left fun value hvalue => filterMap_valueText (fun item hitem => ?_) head
  exact htext item (List.mem_flatMap.mpr ⟨value, hvalue, hitem⟩)

end Http
end RouteProbe
