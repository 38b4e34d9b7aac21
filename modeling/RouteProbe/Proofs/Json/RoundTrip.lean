import RouteProbe.Proofs.Json.Number
import RouteProbe.Proofs.Json.Text
import RouteProbe.Proofs.Log.Members

/-!
# Reading what has been written in JSON

A value is read back as it was written (`read_write`), and it is written in printed ASCII
characters and so on one line (`isPrinted_write`).  It has to be a value that JSON has a form for:
its numbers are finite, its whole numbers are not too long, and the members of each object in it
have names that differ.  Nothing is asked of the texts in it, and nothing of its depth.

The argument goes value by value, from the inside out.  A value is read back with anything behind
it that does not go on with it, such as the end, a comma or a closing bracket
(`IsJson.isReadable`); so the values of a list and the members of an object are read back one after
the other, each bounded by the length of what is still to be read.
-/

namespace RouteProbe
namespace Json

open Text Number

/-- A value that JSON has a form for. -/
inductive IsJson : Value → Prop where
  | null : IsJson .null
  | flag (b : Bool) : IsJson (.flag b)
  | int (n : Int) (short : (decimalDigits n.natAbs).length ≤ maxDigits) : IsJson (.int n)
  | real (negative : Bool) (m : Nat) (e : Int) (isFinite : Binary64.IsFinite m e) :
      IsJson (.real (.finite negative m e))
  | text (s : String) : IsJson (.text s)
  | list (vs : List Value) (items : ∀ v ∈ vs, IsJson v) : IsJson (.list vs)
  | object (ms : Members) (names : (ms.map (·.1)).Nodup) (values : ∀ m ∈ ms, IsJson m.2) :
      IsJson (.object ms)

/-- A value that is a text or an empty list. -/
inductive IsFlat : Value → Prop where
  | text (s : String) : IsFlat (.text s)
  | nothing : IsFlat (.list [])

variable {v : Value} {vs : List Value} {m : String × Value} {ms : Members}

theorem IsFlat.isJson (h : IsFlat v) : IsJson v := by
  cases h with
  | text s => exact .text s
  | nothing => exact .list [] fun v hv => nomatch hv

/-- A value is read back with anything behind it that does not go on with it, as soon as the bound
is the length of its text. -/
structure IsReadable (v : Value) : Prop where
  begins : ∃ c cs, write v = c :: cs ∧ isSpace c = false ∧ c ≠ ']'
  reads : ∀ {fuel : Nat} {rest : List Char}, (write v).length ≤ fuel → Stops rest →
    readValue fuel (write v ++ rest) = some (v, rest)

/-- No blank stands in front of such a value. -/
theorem IsReadable.skipSpace_write (h : IsReadable v) (rest : List Char) :
    skipSpace (write v ++ rest) = write v ++ rest := by
  obtain ⟨c, cs, hwrite, hspace, -⟩ := h.begins
  rw [hwrite]
  exact List.dropWhile_cons_of_neg (Bool.eq_false_iff.mp hspace)

/-! ## Numbers -/

/-- A digit, with a sign in front of it or not, begins a value. -/
theorem exists_signText_append {c : Char} (hc : isAsciiDigit c = true) (negative : Bool)
    (cs : List Char) : ∃ d ds, signText negative ++ c :: cs = d :: ds ∧ isSpace d = false ∧
      d ≠ ']' := by
  cases negative with
  | true => exact ⟨'-', c :: cs, rfl, rfl, by decide⟩
  | false =>
      have hne (d : Char) (hd : isAsciiDigit d = false) : c ≠ d := by
        rintro rfl
        exact absurd hc (Bool.eq_false_iff.mp hd)
      refine ⟨c, cs, rfl, ?_, hne ']' rfl⟩
      simp [isSpace, hne ' ' rfl, hne '\t' rfl, hne '\n' rfl, hne '\r' rfl]

/-- A value whose text is digits that are read as it. -/
theorem isReadable_of_digits {negative : Bool} {text : List Char} (hne : text ≠ [])
    (hdigit : ∀ c ∈ text.head?, isAsciiDigit c = true) (hwrite : write v = signText negative ++ text)
    (hread : ∀ {rest : List Char}, Stops rest → readNumber negative (text ++ rest) = some (v, rest)) :
    IsReadable v := by
  obtain ⟨c, cs, rfl⟩ := List.exists_cons_of_ne_nil hne
  have hc := hdigit c rfl
  obtain ⟨d, ds, htext, hspace, hbracket⟩ := exists_signText_append hc negative cs
  refine ⟨⟨d, ds, hwrite.trans htext, hspace, hbracket⟩, fun hfuel hrest => ?_⟩
  rw [hwrite, htext, List.length_cons] at hfuel
  obtain ⟨fuel, rfl⟩ := Nat.exists_eq_add_of_le' (Nat.le_trans (Nat.le_add_left 1 _) hfuel)
  rw [hwrite, List.append_assoc, List.cons_append, readValue_eq hc]
  exact hread hrest

theorem isReadable_int {n : Int} (short : (decimalDigits n.natAbs).length ≤ maxDigits) :
    IsReadable (.int n) := by
  have hne : decimalDigits n.natAbs ≠ [] := List.ne_nil_of_length_pos Nat.length_toDigits_pos
  have hdigits : ∀ c ∈ (decimalDigits n.natAbs).head?, isAsciiDigit c = true := fun c hc =>
    areDigits_decimalDigits _ c (List.mem_of_mem_head? hc)
  have hwrite : write (.int n) = signText (n < 0) ++ decimalDigits n.natAbs := by
    cases n with
    | ofNat n => rfl
    | negSucc n =>
        rw [decide_eq_true (Int.negSucc_lt_zero n)]
        rfl
  refine isReadable_of_digits hne hdigits hwrite fun hrest => ?_
  rw [readNumber_decimalDigits short hrest]
  by_cases hneg : n < 0
  · have hvalue : -(n.natAbs : Int) = n := by omega
    rw [if_pos (decide_eq_true hneg), hvalue]
  · have hvalue : (n.natAbs : Int) = n := by omega
    rw [if_neg (by simpa using hneg), hvalue]

theorem isReadable_real (negative : Bool) {m : Nat} {e : Int}
    (isFinite : Binary64.IsFinite m e) : IsReadable (.real (.finite negative m e)) := by
  obtain ⟨x, hreal, htext, hread⟩ := Binary64.exists_numeral negative isFinite
  have hne : x.text ≠ [] := List.append_ne_nil_of_left_ne_nil x.isWhole.nonempty _
  have hhead : x.text.head? = x.whole.head? := List.head?_append_of_ne_nil _ x.isWhole.nonempty
  have hdigit : ∀ c ∈ x.text.head?, isAsciiDigit c = true := fun c hc =>
    x.isWhole.areDigits c (List.mem_of_mem_head? (hhead ▸ hc))
  refine isReadable_of_digits hne hdigit htext fun hrest => ?_
  rw [readNumber_numeral hreal hrest, hread]

/-! ## Lists -/

/-- The values behind the first one, each with the comma before it. -/
theorem writeItems_cons_cons (v w : Value) (vs : List Value) :
    writeItems (v :: w :: vs) = write v ++ ',' :: ' ' :: writeItems (w :: vs) := rfl

/-- **The values of a list are read back** behind those that have been read before. -/
theorem readItems_writeItems (hread : ∀ x ∈ v :: vs, IsReadable x) (before : List Value)
    {fuel : Nat} (hfuel : (writeItems (v :: vs)).length < fuel) (rest : List Char) :
    readItems fuel before (writeItems (v :: vs) ++ ']' :: rest) =
      some (.list (before.reverse ++ v :: vs), rest) := by
  have hv := hread v List.mem_cons_self
  obtain ⟨fuel, rfl⟩ := Nat.exists_eq_add_of_le' (Nat.le_trans (Nat.le_add_left 1 _) hfuel)
  induction vs generalizing v before fuel with
  | nil =>
      have htext : writeItems [v] = write v := List.append_nil _
      have hend : skipSpace (']' :: rest) = ']' :: rest := rfl
      rw [htext] at hfuel ⊢
      rw [readItems.eq_2, hv.reads (Nat.le_of_lt_succ hfuel) (.bracket rest)]
      simp only [hend, List.reverse_cons]
  | cons w vs ih =>
      have hw := hread w (List.mem_cons_of_mem v List.mem_cons_self)
      have hmore : ∀ x ∈ w :: vs, IsReadable x := fun x hx => hread x (List.mem_cons_of_mem v hx)
      have hcomma (cs : List Char) : skipSpace (',' :: cs) = ',' :: cs := rfl
      have hblank : skipSpace (' ' :: (writeItems (w :: vs) ++ ']' :: rest)) =
          writeItems (w :: vs) ++ ']' :: rest := by
        show skipSpace (writeItems (w :: vs) ++ ']' :: rest) = _
        rw [writeItems, List.append_assoc, hw.skipSpace_write]
      rw [writeItems_cons_cons] at hfuel ⊢
      rw [List.length_append, List.length_cons, List.length_cons] at hfuel
      rw [List.append_assoc, List.cons_append, List.cons_append, readItems.eq_2,
        hv.reads (by omega) (.comma _)]
      simp only [hcomma, hblank]
      obtain ⟨fuel, rfl⟩ := Nat.exists_eq_add_of_le' (show 1 ≤ fuel by omega)
      rw [ih hmore (v :: before) hw fuel (by omega), List.reverse_cons, List.append_assoc]
      rfl

theorem isReadable_list (hread : ∀ x ∈ vs, IsReadable x) : IsReadable (.list vs) := by
  refine ⟨⟨'[', _, rfl, rfl, by decide⟩, fun {fuel rest} hfuel hrest => ?_⟩
  cases vs with
  | nil =>
      obtain ⟨fuel, rfl⟩ := Nat.exists_eq_add_of_le' (Nat.le_trans (Nat.le_add_left 1 1) hfuel)
      rfl
  | cons v vs =>
      have hv := hread v List.mem_cons_self
      have htext : write (.list (v :: vs)) ++ rest =
          '[' :: (writeItems (v :: vs) ++ ']' :: rest) := by
        show '[' :: (writeItems (v :: vs) ++ [']'] ++ rest) = _
        rw [List.append_assoc]
        rfl
      have hlength : (write (.list (v :: vs))).length = (writeItems (v :: vs)).length + 2 := by
        show ('[' :: (writeItems (v :: vs) ++ [']'])).length = _
        rw [List.length_cons, List.length_append]
        rfl
      obtain ⟨fuel, rfl⟩ := Nat.exists_eq_add_of_le' (show 1 ≤ fuel by omega)
      have hbound : (writeItems (v :: vs)).length < fuel := by omega
      have hitems := readItems_writeItems hread [] hbound rest
      obtain ⟨c, cs, hwrite, hspace, hbracket⟩ := hv.begins
      obtain ⟨tail, htail⟩ : ∃ tail, writeItems (v :: vs) ++ ']' :: rest = c :: tail := by
        rw [writeItems, hwrite]
        exact ⟨_, rfl⟩
      have hstart : skipSpace (c :: tail) = c :: tail :=
        List.dropWhile_cons_of_neg (Bool.eq_false_iff.mp hspace)
      rw [htext, htail, readValue.eq_2]
      rw [htail] at hitems
      simp only [hstart]
      split
      · next hend => exact absurd (List.cons.inj hend).1 hbracket
      · exact hitems

/-! ## Objects -/

/-- A member as it is read: its name, and its value behind a colon. -/
theorem writeMember_append (m : String × Value) (rest : List Char) :
    writeMember m ++ rest =
      '\x22' :: (m.1.toList.flatMap writeChar ++ [doubleQuote] ++
        ':' :: ' ' :: (write m.2 ++ rest)) := by
  obtain ⟨k, v⟩ := m
  show (writeText k.toList ++ ':' :: ' ' :: write v) ++ rest = _
  rw [List.append_assoc]
  rfl

theorem length_write_lt (m : String × Value) : (write m.2).length < (writeMember m).length := by
  obtain ⟨k, v⟩ := m
  show (write v).length < (writeText k.toList ++ ':' :: ' ' :: write v).length
  rw [List.length_append, List.length_cons, List.length_cons]
  omega

theorem writeMembers_cons_cons (m n : String × Value) (ms : Members) :
    writeMembers (m :: n :: ms) = writeMember m ++ ',' :: ' ' :: writeMembers (n :: ms) := rfl

/-- The last member of an object. -/
theorem readMembers_last (hm : IsReadable m.2) {fuel : Nat} (hfuel : (writeMember m).length ≤ fuel)
    (before : Members) (rest : List Char) :
    readMembers (fuel + 1) before (writeMember m ++ '\x7d' :: rest) =
      some (.object (before.put m.1 m.2), rest) := by
  have hcolon (cs : List Char) : skipSpace (':' :: cs) = ':' :: cs := rfl
  have hbrace (cs : List Char) : skipSpace ('\x7d' :: cs) = '\x7d' :: cs := rfl
  have hblank (cs : List Char) : skipSpace (' ' :: (write m.2 ++ cs)) = write m.2 ++ cs :=
    hm.skipSpace_write cs
  have hvalue := hm.reads ((length_write_lt m).le.trans hfuel) (.brace rest)
  rw [writeMember_append, readMembers.eq_2, readText_writeText]
  simp only [hcolon, hblank, hvalue, hbrace, String.ofList_toList]

/-- A member with another one behind it. -/
theorem readMembers_comma (hm : IsReadable m.2) {fuel : Nat} (hfuel : (writeMember m).length ≤ fuel)
    (before : Members) (rest : List Char) :
    readMembers (fuel + 1) before (writeMember m ++ ',' :: rest) =
      readMembers fuel (before.put m.1 m.2) (skipSpace rest) := by
  have hcolon (cs : List Char) : skipSpace (':' :: cs) = ':' :: cs := rfl
  have hcomma (cs : List Char) : skipSpace (',' :: cs) = ',' :: cs := rfl
  have hblank (cs : List Char) : skipSpace (' ' :: (write m.2 ++ cs)) = write m.2 ++ cs :=
    hm.skipSpace_write cs
  have hvalue := hm.reads ((length_write_lt m).le.trans hfuel) (.comma rest)
  rw [writeMember_append, readMembers.eq_2, readText_writeText]
  simp only [hcolon, hblank, hvalue, hcomma, String.ofList_toList]

/-- **The members of an object are read back** behind those that have been read before. -/
theorem readMembers_writeMembers (hread : ∀ x ∈ m :: ms, IsReadable x.2) (before : Members)
    (hnames : ((before ++ m :: ms).map (·.1)).Nodup) {fuel : Nat}
    (hfuel : (writeMembers (m :: ms)).length < fuel) (rest : List Char) :
    readMembers fuel before (writeMembers (m :: ms) ++ '\x7d' :: rest) =
      some (.object (before ++ m :: ms), rest) := by
  have hm := hread m List.mem_cons_self
  obtain ⟨fuel, rfl⟩ := Nat.exists_eq_add_of_le' (Nat.le_trans (Nat.le_add_left 1 _) hfuel)
  have hput := (Members.lacks_of_nodup hnames).put_eq m.2
  induction ms generalizing m before fuel with
  | nil =>
      have htext : writeMembers [m] = writeMember m := List.append_nil _
      rw [htext] at hfuel ⊢
      rw [readMembers_last hm (Nat.le_of_lt_succ hfuel), hput]
  | cons n ms ih =>
      have hmore : ∀ x ∈ n :: ms, IsReadable x.2 := fun x hx => hread x (List.mem_cons_of_mem m hx)
      have hblank : skipSpace (' ' :: (writeMembers (n :: ms) ++ '\x7d' :: rest)) =
          writeMembers (n :: ms) ++ '\x7d' :: rest := by
        show skipSpace (writeMembers (n :: ms) ++ '\x7d' :: rest) = _
        rw [writeMembers, List.append_assoc, writeMember_append]
        rfl
      have hbefore : before ++ m :: n :: ms = (before ++ [m]) ++ n :: ms := by
        rw [List.append_assoc, List.singleton_append]
      rw [hbefore] at hnames
      rw [writeMembers_cons_cons] at hfuel ⊢
      rw [List.length_append, List.length_cons, List.length_cons] at hfuel
      rw [List.append_assoc, List.cons_append, List.cons_append,
        readMembers_comma hm (by omega), hblank, hput]
      obtain ⟨fuel, rfl⟩ := Nat.exists_eq_add_of_le' (show 1 ≤ fuel by omega)
      rw [ih hmore (before ++ [m]) hnames (hmore n List.mem_cons_self) fuel (by omega)
        ((Members.lacks_of_nodup hnames).put_eq n.2), hbefore]

theorem isReadable_object (hread : ∀ x ∈ ms, IsReadable x.2) (hnames : (ms.map (·.1)).Nodup) :
    IsReadable (.object ms) := by
  refine ⟨⟨'\x7b', _, rfl, rfl, by decide⟩, fun {fuel rest} hfuel hrest => ?_⟩
  cases ms with
  | nil =>
      obtain ⟨fuel, rfl⟩ := Nat.exists_eq_add_of_le' (Nat.le_trans (Nat.le_add_left 1 1) hfuel)
      rfl
  | cons m ms =>
      have htext : write (.object (m :: ms)) ++ rest =
          '\x7b' :: (writeMembers (m :: ms) ++ '\x7d' :: rest) := by
        show '\x7b' :: (writeMembers (m :: ms) ++ ['\x7d'] ++ rest) = _
        rw [List.append_assoc]
        rfl
      have hlength : (write (.object (m :: ms))).length = (writeMembers (m :: ms)).length + 2 := by
        show ('\x7b' :: (writeMembers (m :: ms) ++ ['\x7d'])).length = _
        rw [List.length_cons, List.length_append]
        rfl
      obtain ⟨fuel, rfl⟩ := Nat.exists_eq_add_of_le' (show 1 ≤ fuel by omega)
      have hbound : (writeMembers (m :: ms)).length < fuel := by omega
      have hmembers := readMembers_writeMembers hread [] hnames hbound rest
      obtain ⟨tail, htail⟩ : ∃ tail, writeMembers (m :: ms) ++ '\x7d' :: rest = '\x22' :: tail :=
        ⟨_, (List.append_assoc _ _ _).trans (writeMember_append m _)⟩
      rw [htail] at hmembers
      rw [htext, htail, readValue.eq_3]
      exact hmembers

/-! ## Values -/

/-- **A value is read back with anything behind it that does not go on with it.** -/
theorem IsJson.isReadable (h : IsJson v) : IsReadable v := by
  have hword {v : Value} (c : Char) (cs : List Char) (hwrite : write v = c :: cs)
      (hbegins : isSpace c = false ∧ c ≠ ']')
      (hread : ∀ fuel rest, readValue (fuel + 1) (write v ++ rest) = some (v, rest)) :
      IsReadable v := by
    refine ⟨⟨c, cs, hwrite, hbegins⟩, fun {fuel rest} hfuel _ => ?_⟩
    rw [hwrite, List.length_cons] at hfuel
    obtain ⟨fuel, rfl⟩ := Nat.exists_eq_add_of_le' (Nat.le_trans (Nat.le_add_left 1 _) hfuel)
    exact hread fuel rest
  induction h with
  | null => exact hword 'n' _ rfl (by decide) fun fuel rest => rfl
  | flag b =>
      cases b with
      | false => exact hword 'f' _ rfl (by decide) fun fuel rest => rfl
      | true => exact hword 't' _ rfl (by decide) fun fuel rest => rfl
  | int n short => exact isReadable_int short
  | real negative m e isFinite => exact isReadable_real negative isFinite
  | text s =>
      refine hword '\x22' _ rfl (by decide) fun fuel rest => ?_
      show readValue (fuel + 1)
        ('\x22' :: (s.toList.flatMap writeChar ++ [doubleQuote] ++ rest)) = _
      rw [readValue.eq_4, readText_writeText]
      simp only [Option.map_some, String.ofList_toList]
  | list vs items ih => exact isReadable_list ih
  | object ms names values ih => exact isReadable_object ih names

/-- **A value is read back as it was written.** -/
theorem read_write (h : IsJson v) : read (write v) = some v := by
  have hreadable := h.isReadable
  have hstart := hreadable.skipSpace_write []
  rw [List.append_nil] at hstart
  have hbound : (write v).length ≤ 2 * (write v).length + 2 := by omega
  have hread := hreadable.reads hbound .nothing
  rw [List.append_nil] at hread
  rw [read, hstart, hread]
  rfl

/-! ## Printed characters -/

theorem isPrinted_of_areDigits {ds : List Char} (h : AreDigits ds) : IsPrinted ds := by
  intro c hc
  have hdigit := h c hc
  rw [isAsciiDigit, Bool.and_eq_true, decide_eq_true_eq, decide_eq_true_eq] at hdigit
  have hlow : (0x30 : Nat) ≤ c.toNat := hdigit.1
  have hhigh : c.toNat ≤ 0x39 := hdigit.2
  rw [isPrintableAscii, Bool.and_eq_true, decide_eq_true_eq, decide_eq_true_eq]
  omega

theorem isPrinted_signText (negative : Bool) : IsPrinted (signText negative) := by
  cases negative <;> decide

theorem isPrinted_numeral (x : Numeral) : IsPrinted x.text := by
  have hwhole := isPrinted_of_areDigits x.isWhole.areDigits
  have hmore : IsPrinted (Numeral.fractionText x.more) := by
    cases hdigits : x.more with
    | nil => exact isPrinted_nil
    | cons d ds => exact (isPrinted_of_areDigits (hdigits ▸ x.areDigits)).cons (by decide)
  have hexponent : IsPrinted (Numeral.exponentTail x.exponent) := by
    cases x.exponent with
    | none => exact isPrinted_nil
    | some e =>
        obtain ⟨ds, htext, hds, -⟩ := exists_exponentText e
        have hsign : isPrintableAscii (if e < 0 then '-' else '+') = true := by
          split <;> decide
        show IsPrinted ('e' :: exponentText e)
        rw [htext]
        exact ((isPrinted_of_areDigits hds).cons hsign).cons (by decide)
  exact hwhole.append (hmore.append hexponent)

theorem isPrinted_writeMoreItems (h : ∀ x ∈ vs, IsPrinted (write x)) :
    IsPrinted (writeMoreItems vs) := by
  induction vs with
  | nil => exact isPrinted_nil
  | cons v vs ih =>
      have hv := h v List.mem_cons_self
      have hvs := ih fun x hx => h x (List.mem_cons_of_mem v hx)
      exact ((hv.append hvs).cons (by decide)).cons (by decide)

theorem isPrinted_writeMember (h : IsPrinted (write m.2)) : IsPrinted (writeMember m) := by
  obtain ⟨k, v⟩ := m
  exact (isPrinted_writeText k.toList).append ((h.cons (by decide)).cons (by decide))

theorem isPrinted_writeMoreMembers (h : ∀ x ∈ ms, IsPrinted (write x.2)) :
    IsPrinted (writeMoreMembers ms) := by
  induction ms with
  | nil => exact isPrinted_nil
  | cons m ms ih =>
      have hm := isPrinted_writeMember (h m List.mem_cons_self)
      have hms := ih fun x hx => h x (List.mem_cons_of_mem m hx)
      exact ((hm.append hms).cons (by decide)).cons (by decide)

/-- **A value is written in printed characters**, whatever is in its texts. -/
theorem isPrinted_write (h : IsJson v) : IsPrinted (write v) := by
  induction h with
  | null => decide
  | flag b => cases b <;> decide
  | int n short =>
      cases n with
      | ofNat n => exact isPrinted_of_areDigits (areDigits_decimalDigits n)
      | negSucc n => exact (isPrinted_of_areDigits (areDigits_decimalDigits (n + 1))).cons (by decide)
  | real negative m e isFinite =>
      obtain ⟨x, -, htext, -⟩ := Binary64.exists_numeral negative isFinite
      show IsPrinted (Binary64.finite negative m e).text
      rw [htext]
      exact (isPrinted_signText negative).append (isPrinted_numeral x)
  | text s => exact isPrinted_writeText s.toList
  | list vs items ih =>
      cases vs with
      | nil => decide
      | cons v vs =>
          have hv := ih v List.mem_cons_self
          have hvs := isPrinted_writeMoreItems fun x hx => ih x (List.mem_cons_of_mem v hx)
          exact ((hv.append hvs).cons (by decide)).append (by decide)
  | object ms names values ih =>
      cases ms with
      | nil => decide
      | cons m ms =>
          have hm := isPrinted_writeMember (ih m List.mem_cons_self)
          have hms := isPrinted_writeMoreMembers fun x hx => ih x (List.mem_cons_of_mem m hx)
          exact ((hm.append hms).cons (by decide)).append (by decide)

end Json
end RouteProbe
