import RouteProbe.Proofs.Table
import RouteProbe.Settings.EnvFile

/-!
# Names that a file of settings does not refer to

The values of a file may refer to names that were given before and to variables, so what the file
gives to one name can hang on any other.  It does not hang on a name that none of its values refers
to: such a name can have any value as a variable, or none, and can be given anything anywhere in the
file, and the other names are given what they were (`EnvFile.agreeBut_bindings`).
-/

namespace RouteProbe
namespace EnvFile

/-- A statement gives something to another name than this. -/
def Statement.bindsAnother (n : List Char) : Statement → Bool
  | .binding k _ => k != n
  | _ => false

/-- A statement refers to a name in the value that it gives. -/
def Statement.RefersTo (n : List Char) : Statement → Prop
  | .binding _ (some v) => ∃ fallback, Atom.reference n fallback ∈ atoms v
  | _ => False

variable {n : List Char} {world world' : List (List Char × List Char)} {bs bs' : Bindings}
  {ss ss' : List Statement}

/-- A part of a value that does not refer to the name has the same text. -/
theorem Atom.text_eq (hworld : AgreeBut n world world') (hbs : AgreeBut n bs bs') {a : Atom}
    (ha : ∀ fallback, a ≠ .reference n fallback) : a.text world bs = a.text world' bs' := by
  cases a with
  | literal c => rfl
  | reference k fallback =>
      have hk : k ≠ n := by
        rintro rfl
        exact ha fallback rfl
      rw [Atom.text, Atom.text, hbs k hk, hworld k hk]

/-- The texts of all parts of such a value together. -/
theorem flatMap_text_eq (hworld : AgreeBut n world world') (hbs : AgreeBut n bs bs')
    {v : List Char} (hv : ¬ ∃ fallback, Atom.reference n fallback ∈ atoms v) :
    (atoms v).flatMap (Atom.text world bs) = (atoms v).flatMap (Atom.text world' bs') := by
  rw [List.flatMap_def, List.flatMap_def]
  congr 1
  refine List.map_congr_left fun a ha => Atom.text_eq hworld hbs fun fallback hreference => ?_
  exact hv ⟨fallback, hreference ▸ ha⟩

theorem agreeBut_bind (hworld : AgreeBut n world world') (hbs : AgreeBut n bs bs') {t : Statement}
    (ht : ¬ t.RefersTo n) : AgreeBut n (bind world bs t) (bind world' bs' t) := by
  cases t with
  | nothing => exact hbs
  | malformed line => exact hbs
  | binding k value =>
      cases value with
      | none => exact hbs.setEntry k none
      | some v =>
          have htext := flatMap_text_eq hworld hbs ht
          rw [bind, bind, Option.map_some, Option.map_some, htext]
          exact hbs.setEntry k _

/-- A statement that gives nothing to another name leaves the other names as they were. -/
theorem agreeBut_bind_self (world : List (List Char × List Char)) (bs : Bindings) {t : Statement}
    (ht : t.bindsAnother n = false) : AgreeBut n (bind world bs t) bs := by
  cases t with
  | nothing => exact AgreeBut.refl n bs
  | malformed line => exact AgreeBut.refl n bs
  | binding k value =>
      obtain rfl : k = n := by simpa [Statement.bindsAnother] using ht
      exact agreeBut_setEntry bs k _

/-- The statements that give something to other names do not need the others. -/
theorem agreeBut_foldl_filter (hworld : AgreeBut n world world') (hbs : AgreeBut n bs bs')
    (hss : ∀ t ∈ ss, t.bindsAnother n = true → ¬ t.RefersTo n) :
    AgreeBut n (ss.foldl (bind world) bs)
      ((ss.filter (Statement.bindsAnother n)).foldl (bind world') bs') := by
  induction ss generalizing bs bs' with
  | nil => exact hbs
  | cons t ss ih =>
      obtain ⟨hfirst, hrest⟩ := List.forall_mem_cons.mp hss
      cases ht : t.bindsAnother n with
      | true =>
          rw [List.filter_cons_of_pos ht]
          exact ih (agreeBut_bind hworld hbs (hfirst ht)) hrest
      | false =>
          rw [List.filter_cons_of_neg (Bool.eq_false_iff.mp ht)]
          exact ih ((agreeBut_bind_self world bs ht).trans hbs) hrest

/-- **A file gives the same to all names but one**, whatever is said of that one, if its values do
not refer to it. -/
theorem agreeBut_bindings (hworld : AgreeBut n world world')
    (hsame : ss.filter (Statement.bindsAnother n) = ss'.filter (Statement.bindsAnother n))
    (hss : ∀ t ∈ ss, t.bindsAnother n = true → ¬ t.RefersTo n) :
    AgreeBut n (bindings world ss) (bindings world' ss') := by
  have hss' : ∀ t ∈ ss', t.bindsAnother n = true → ¬ t.RefersTo n := by
    intro t ht hbinds
    have hmem : t ∈ ss.filter (Statement.bindsAnother n) := by
      rw [hsame]
      exact List.mem_filter.mpr ⟨ht, hbinds⟩
    exact hss t (List.mem_filter.mp hmem).1 hbinds
  have hempty := AgreeBut.refl n ([] : Bindings)
  have hfirst := agreeBut_foldl_filter hworld hempty hss
  have hsecond := agreeBut_foldl_filter (AgreeBut.refl n world') hempty hss'
  rw [← hsame] at hsecond
  exact hfirst.trans hsecond.symm

end EnvFile
end RouteProbe
