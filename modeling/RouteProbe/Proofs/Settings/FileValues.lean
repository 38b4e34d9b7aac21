import RouteProbe.Proofs.Settings.FileLines
import RouteProbe.Proofs.Settings.Precedence

/-!
# What a file of plain lines gives

A file of plain lines gives to a name the value in the last line that has one for it, as it stands
there (`PlainFile.text?_file`).  So settings that are loaded from such a file alone are those that
come of giving these values outright (`PlainFile.load_result`), and the lines that cannot be read
are reported, one number for each (`PlainFile.length_unread`).
-/

namespace RouteProbe
namespace EnvFile

open Text

/-! ## Values -/

/-- A value without dollar signs has no references. -/
theorem atoms_eq_map {cs : List Char} (h : ∀ c ∈ cs, c ≠ '$') : atoms cs = cs.map .literal := by
  rw [atoms]
  induction cs with
  | nil => rfl
  | cons c cs ih =>
      obtain ⟨hfirst, hothers⟩ := List.forall_mem_cons.mp h
      rw [List.length_cons, atomsFrom, if_neg hfirst, ih hothers]
      rfl

/-- So it is its own text. -/
theorem Assignment.flatMap_text (a : Assignment) (world : List (List Char × List Char))
    (bs : Bindings) : (atoms a.value).flatMap (Atom.text world bs) = a.value := by
  have hplain : ∀ c ∈ a.value, c ≠ '$' := by
    intro c hc
    have hchar := a.isValueChar_of_mem c hc
    simp only [isValueChar, Bool.and_eq_true, decide_eq_true_eq] at hchar
    exact hchar.2
  rw [atoms_eq_map hplain, List.flatMap_map]
  show a.value.flatMap (fun c => [c]) = _
  rw [List.flatMap_singleton']

/-- The value that a content gives to a name. -/
def Content.value? (n : List Char) : Content → Option (List Char)
  | .assignment a => if a.name.text = n then some a.value else none
  | _ => none

/-- The value that a line gives to a name. -/
def Line.value? (n : List Char) (l : Line) : Option (List Char) := l.content.bind (Content.value? n)

/-- The value that is given to a name last. -/
def lastValue? (n : List Char) (ls : List Line) : Option (List Char) :=
  (ls.filterMap (Line.value? n)).getLast?

theorem lastValue?_cons (n : List Char) (l : Line) (ls : List Line) :
    lastValue? n (l :: ls) = (lastValue? n ls).or (l.value? n) := by
  rw [lastValue?, lastValue?, List.filterMap_cons]
  cases l.value? n with
  | none => rw [Option.or_none]
  | some v =>
      rw [List.getLast?_cons]
      cases (ls.filterMap (Line.value? n)).getLast? <;> rfl

variable {world : List (List Char × List Char)}

/-- What is found once the statement of a content has been taken into account. -/
theorem find?_bind_statement (bs : Bindings) (start : Nat) (k : Content) (n : List Char) :
    (bind world bs (k.statement start)).find? (fun b => b.1 == n) =
      ((k.value? n).map fun v => (n, some v)).or (bs.find? fun b => b.1 == n) := by
  cases k with
  | assignment a =>
      rw [Content.statement, bind, Option.map_some, a.flatMap_text, Content.value?]
      refine (find?_setEntry bs a.name.text n (some a.value)).trans ?_
      by_cases hname : a.name.text = n
      · rw [if_pos (beq_iff_eq.mpr hname), if_pos hname, hname]
        rfl
      · rw [if_neg (fun h => hname (beq_iff_eq.mp h)), if_neg hname]
        rfl
  | _ => rfl

/-- **The last line that gives a value to a name counts**, and if there is none, what was given
before. -/
theorem find?_foldl_bind (ls : List Line) (bs : Bindings) (start line : Nat) (n : List Char) :
    ((told start line ls).foldl (bind world) bs).find? (fun b => b.1 == n) =
      ((lastValue? n ls).map fun v => (n, some v)).or (bs.find? fun b => b.1 == n) := by
  induction ls generalizing bs start line with
  | nil => rfl
  | cons l ls ih =>
      rw [told, lastValue?_cons, Line.value?]
      cases l.content with
      | none => rw [ih, Option.bind_none, Option.or_none]
      | some k =>
          rw [List.foldl_cons, ih, find?_bind_statement, ← Option.or_assoc, ← Option.map_or,
            Option.bind_some]

/-- Statements that say nothing give nothing. -/
theorem bindings_significant (ss : List Statement) :
    bindings world (significant ss) = bindings world ss := by
  rw [bindings, bindings, significant, List.foldl_filter]
  congr 1
  funext bs t
  cases t <;> rfl

/-! ## Lines that cannot be read -/

theorem malformedLines_significant (ss : List Statement) :
    malformedLines (significant ss) = malformedLines ss := by
  rw [malformedLines, malformedLines, significant, List.filterMap_filter]
  congr 1
  funext t
  cases t <;> rfl

/-- **Every line that cannot be read is reported once**, and no other line is. -/
theorem length_malformedLines_told (ls : List Line) (start line : Nat) :
    (malformedLines (told start line ls)).length = ls.countP Line.isScrap := by
  induction ls generalizing start line with
  | nil => rfl
  | cons l ls ih =>
      rw [told, List.countP_cons, Line.isScrap]
      cases l.content with
      | none => exact ih _ _
      | some k =>
          cases k with
          | scrap s => exact congrArg (· + 1) (ih _ _)
          | _ => exact ih _ _

namespace PlainFile

/-- The value that a file gives to a name. -/
def value? (f : PlainFile) (n : String) : Option (List Char) := lastValue? n.toList f.lines

/-- The numbers under which the lines of a file are reported that cannot be read. -/
def unread (f : PlainFile) : List Nat := malformedLines (told 1 1 f.lines)

/-- A file, and the variables. -/
def among (f : PlainFile) (vars : List (String × String)) : Surroundings :=
  ⟨vars, some (String.ofList f.text)⟩

variable (f : PlainFile) (vars : List (String × String))

theorem statements_among : (f.among vars).statements = statements f.text := by
  show statements (String.ofList f.text).toList = _
  rw [String.toList_ofList]

theorem malformedLines_among : malformedLines (f.among vars).statements = f.unread := by
  rw [statements_among, ← malformedLines_significant, f.significant_statements,
    malformedLines_significant, unread]

theorem length_unread : f.unread.length = f.lines.countP Line.isScrap :=
  length_malformedLines_told _ _ _

/-- **A file gives to each name what its last line for it says.** -/
theorem text?_file (n : String) :
    (f.among vars).text? .file n = (f.value? n).map String.ofList := by
  rw [Surroundings.text?, statements_among, ← bindings_significant, f.significant_statements,
    bindings_significant, bindings, find?_foldl_bind, value?]
  cases lastValue? n.toList f.lines <;> rfl

/-! ## Settings -/

/-- The values that a file gives to settings; the list among them is written in JSON. -/
def given (f : PlainFile) (field : Settings.Field) : Option Value :=
  (f.value? field.name).bind fun v => Settings.readField field (String.ofList v)

variable {f vars}

/-- The list of modules is a list where it is written last. -/
def ListsModules (f : PlainFile) : Prop :=
  ∀ v, f.value? Settings.Field.noisyModules.name = some v → ∃ vs, Json.read v = some (.list vs)

/-- No variable is a setting. -/
def NoSetting (vars : List (String × String)) : Prop :=
  ∀ field : Settings.Field, Surroundings.get? ⟨vars, none⟩ field.name = none

theorem listsModules_among (hlists : f.ListsModules) (hvars : NoSetting vars) :
    (f.among vars).ListsModules := by
  intro place s hs
  cases place with
  | environment => cases hs.symm.trans (hvars .noisyModules)
  | file =>
      rw [text?_file] at hs
      obtain ⟨v, hv, rfl⟩ := Option.map_eq_some_iff.mp hs
      rw [String.toList_ofList]
      exact hlists v hv

/-- **Loading from a file of plain lines comes to the same as giving its values outright**, where no
variable is a setting. -/
theorem load_result (hlists : f.ListsModules) (hvars : NoSetting vars) :
    (Settings.load [] (f.among vars)).result =
      (Settings.load (Settings.tabulate f.given) ⟨[], none⟩).result := by
  have hvalues : Settings.firstValue [] (f.among vars) = f.given := by
    funext field
    have hnone : Settings.placeValue? (f.among vars) .environment field = none :=
      congrArg (Option.bind · (Settings.readField field)) (hvars field)
    rw [Settings.firstValue, hnone, Settings.placeValue?, text?_file, Option.bind_map]
    rfl
  have hnames : (([] : Members).map (·.1)).Nodup := List.nodup_nil
  rw [Settings.load_eq_of_firstValues hnames (listsModules_among hlists hvars), hvalues]

end PlainFile
end EnvFile
end RouteProbe
