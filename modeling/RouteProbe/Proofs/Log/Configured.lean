import RouteProbe.Log.Description
import RouteProbe.Log.System

/-!
# The root of a configured log

A plan has a line for the root, which is under the empty name, and one line for each noisy module
(`Plan.exists_entries`).  The lines stand under names in one table and are carried out in turn on
one tree, so there are two ways to lose the root's: a module with the empty name takes its place in
the table, and a module with the name of the root comes after it on the tree.  Nothing else does,
whatever the tree was before: `System.root_asked_and_set` says what is asked of the root and what it
is set to, for all settings.
-/

namespace RouteProbe
namespace Log

/-- The name of a level in capitals is its label. -/
theorem Level.toUpper_name (l : Level) : l.name.toUpper = l.label := by
  cases l <;> decide +kernel

namespace Plan

/-- Asking for quiet under a name, in a table whose other lines ask for the same. -/
theorem put_noisyEntry (e : Entry) (names : List String) (lib : String) :
    put (("", e) :: names.map (·, noisyEntry)) lib noisyEntry =
      ("", if lib = "" then noisyEntry else e) ::
        (if lib = "" ∨ lib ∈ names then names else names ++ [lib]).map (·, noisyEntry) := by
  have hsame : (names.map (·, noisyEntry)).map
      (fun x : String × Entry => if x.1 == lib then (lib, noisyEntry) else x) =
        names.map (·, noisyEntry) := by
    rw [List.map_map]
    refine List.map_congr_left fun name _ => ?_
    show (if name == lib then (lib, noisyEntry) else (name, noisyEntry)) = (name, noisyEntry)
    by_cases hname : name = lib
    · rw [hname, beq_self_eq_true, if_pos rfl]
    · rw [beq_false_of_ne hname, if_neg Bool.false_ne_true]
  have hany : ((("", e) :: names.map (·, noisyEntry)).any fun x : String × Entry => x.1 == lib) =
      ("" == lib || names.contains lib) := by
    rw [List.any_cons, List.any_map, List.contains_eq_any_beq]
    simp only [Function.comp_def, BEq.comm]
  rw [put, hany]
  by_cases hempty : lib = ""
  · subst hempty
    rw [beq_self_eq_true, Bool.true_or, if_pos rfl, List.map_cons, hsame, if_pos rfl,
      if_pos (Or.inl rfl)]
    rfl
  · have hfirst : ("" == lib) = false := beq_false_of_ne (Ne.symm hempty)
    rw [hfirst, Bool.false_or, if_neg hempty]
    by_cases hmem : lib ∈ names
    · rw [List.contains_iff_mem.mpr hmem, if_pos rfl, List.map_cons, hsame,
        if_pos (Or.inr hmem), hfirst]
      rfl
    · rw [if_neg (fun h => hmem (List.contains_iff_mem.mp h)), if_neg (not_or.mpr ⟨hempty, hmem⟩),
        List.map_append, List.cons_append]
      rfl

/-- Asking for quiet under several names. -/
theorem exists_foldl_put (libs : List String) (e : Entry) (names : List String) :
    ∃ more : List String,
      libs.foldl (fun es name => put es name noisyEntry) (("", e) :: names.map (·, noisyEntry)) =
        ("", if "" ∈ libs then noisyEntry else e) :: more.map (·, noisyEntry) ∧
      ∀ name, name ∈ more ↔ name ∈ names ∨ name ∈ libs ∧ name ≠ "" := by
  -- A module with the empty name changes the first line and adds none, so both the first line and
  -- the names behind it vary in the induction.
  induction libs generalizing e names with
  | nil => exact ⟨names, by simp, by simp⟩
  | cons lib libs ih =>
      obtain ⟨more, heq, hmore⟩ := ih (if lib = "" then noisyEntry else e)
        (if lib = "" ∨ lib ∈ names then names else names ++ [lib])
      rw [List.foldl_cons, put_noisyEntry]
      refine ⟨more, heq.trans ?_, fun name => (hmore name).trans ?_⟩
      · by_cases hempty : lib = ""
        · simp [hempty]
        · simp [hempty, Ne.symm hempty]
      · by_cases hknown : lib = "" ∨ lib ∈ names
        · rw [if_pos hknown, List.mem_cons]
          grind
        · rw [if_neg hknown, List.mem_append, List.mem_singleton, List.mem_cons]
          grind

/-- **The lines of a plan**: the root's first, and then one for each noisy module.  A module with
the empty name has none of its own and takes the root's. -/
theorem exists_entries (s : Settings) :
    ∃ names : List String,
      (ofSettings s).entries =
        ("", if "" ∈ s.noisyModules then noisyEntry else rootEntry s.logLevel) ::
          names.map (·, noisyEntry) ∧
      ∀ name, name ∈ names ↔ name ∈ s.noisyModules ∧ name ≠ "" := by
  obtain ⟨names, heq, hnames⟩ :=
    exists_foldl_put s.noisyModules (rootEntry s.logLevel) []
  exact ⟨names, heq, fun name => (hnames name).trans (by simp)⟩

end Plan

/-- A root that is kept quiet like a noisy module: it takes warnings only and has no handler. -/
def Root.quiet : Root := ⟨Level.warning.weight, false, none⟩

/-- The root that settings ask for: it has their level, and the one handler. -/
def Root.ofSettings (s : Settings) : Root :=
  ⟨s.logLevel.weight, true, some ⟨s.logLevel, s.environment⟩⟩

namespace Tree

/-- Using a logger does not touch the root. -/
theorem root_use (t : Tree) (n : Name) : (t.use n).root = t.root := by
  rw [use]
  split <;> rfl

/-- A logger that has been used is there. -/
theorem use_use (t : Tree) (n : Name) : (t.use n).use n = t.use n := by
  by_cases hthere : (n.isRoot || t.has n) = true
  · have huse : t.use n = t := if_pos hthere
    rw [huse, huse]
  · have hnew : (t.add n).has n = true := by
      rw [has, List.any_eq_true]
      exact ⟨(n, .fresh (n.above.find? t.has)), List.mem_append_right _ List.mem_cons_self,
        beq_self_eq_true n⟩
    have huse : t.use n = t.add n := if_neg hthere
    rw [huse, use, hnew, Bool.or_true, if_pos rfl]

theorem root_setUp_of_isRoot (h : Handler) (t : Tree) {n : Name} (hn : n.isRoot = true)
    (e : Entry) : (t.setUp h n e).root =
      ⟨e.level.weight, e.propagate, if e.handled then some h else none⟩ := by
  rw [setUp, if_pos hn]

theorem root_setUp_of_not_isRoot (h : Handler) (t : Tree) {n : Name} (hn : n.isRoot = false)
    (e : Entry) : (t.setUp h n e).root = t.root := by
  rw [setUp, hn]
  exact root_use t n

theorem isRoot_toList_iff (name : String) :
    Name.isRoot name.toList = true ↔ name = "" ∨ name = "root" := by
  rw [Name.isRoot, Bool.or_eq_true, List.isEmpty_iff, beq_iff_eq, Name.root, String.toList_inj]
  simp

/-- A noisy module with the name of the root quiets the root. -/
theorem root_foldl_setUp (h : Handler) (t : Tree) {names : List String} (hnames : "" ∉ names) :
    ((names.map (·, Plan.noisyEntry)).foldl (fun acc x => acc.setUp h x.1.toList x.2) t).root =
      if "root" ∈ names then .quiet else t.root := by
  induction names generalizing t with
  | nil => simp
  | cons name names ih =>
      obtain ⟨hempty, hrest⟩ := not_or.mp (mt List.mem_cons.mpr hnames)
      rw [List.map_cons, List.foldl_cons, ih _ hrest]
      by_cases hroot : name = "root"
      · subst hroot
        rw [root_setUp_of_isRoot h t (by decide)]
        simp [Root.quiet, Plan.noisyEntry]
      · have hother : Name.isRoot name.toList = false := by
          rw [← Bool.not_eq_true, isRoot_toList_iff]
          exact not_or.mpr ⟨Ne.symm hempty, hroot⟩
        rw [root_setUp_of_not_isRoot h t hother]
        simp [Ne.symm hroot]

/-- **The root of a configured tree** is the one that the settings ask for, unless a noisy module
has one of the root's names; then it is quiet. -/
theorem root_configure (t : Tree) (s : Settings) :
    (t.configure (.ofSettings s)).root =
      if "" ∈ s.noisyModules ∨ "root" ∈ s.noisyModules then .quiet else .ofSettings s := by
  obtain ⟨names, heq, hnames⟩ := Plan.exists_entries s
  have hempty : "" ∉ names := fun h => ((hnames "").mp h).2 rfl
  have hroot : "root" ∈ names ↔ "root" ∈ s.noisyModules := (hnames "root").trans (by simp)
  have hfirst : Name.isRoot "".toList = true := rfl
  show (((Plan.ofSettings s).entries.foldl _ t).change _ _).root = _
  rw [change, heq, List.foldl_cons, root_foldl_setUp _ _ hempty,
    root_setUp_of_isRoot _ t hfirst]
  -- The empty name has quieted the root before the other lines are carried out; the root's own name
  -- quiets it among them.
  by_cases hnoisyEmpty : "" ∈ s.noisyModules
  · simp [hnoisyEmpty, Root.quiet, Plan.noisyEntry]
  · by_cases hnoisyRoot : "root" ∈ s.noisyModules
    · simp [hnoisyRoot, hroot]
    · simp [hnoisyEmpty, hnoisyRoot, hroot, Root.ofSettings, Plan.rootEntry, Plan.ofSettings]

end Tree

/-- The entries of a table of members that are made from the lines of a plan. -/
theorem get?_map_entries (es : List (String × Entry)) (name : String) :
    Members.get? (es.map fun x => (x.1, Plan.entryValue x.2)) name =
      (es.find? fun x => x.1 == name).map fun x => Plan.entryValue x.2 := by
  rw [Members.get?, List.find?_map, Option.map_map]
  rfl

/-- **What is asked of the root, and what it is set to.**  The table that describes the plan of some
settings has the handler and their level, in capitals, in the line of the root exactly if no noisy
module has the empty name; and configuring any log as they ask leaves the root with the one handler
and that level exactly if none has the root's own name either.  Otherwise the root is treated as a
noisy module. -/
theorem System.root_asked_and_set (log : System) (s : Settings) :
    (∃ table : Members,
      Members.get? (Plan.ofSettings s).describe "loggers" = some (.object table) ∧
      table.get? "" = some (if "" ∈ s.noisyModules then
          .object [("level", .text "WARNING"), ("propagate", .flag false)]
        else
          .object [("handlers", .list [.text "console"]), ("level", .text s.logLevel.name.toUpper),
            ("propagate", .flag true)])) ∧
      (log.configure s).tree.root =
        if "" ∈ s.noisyModules ∨ "root" ∈ s.noisyModules then .quiet else .ofSettings s := by
  obtain ⟨names, heq, -⟩ := Plan.exists_entries s
  refine ⟨⟨_, rfl, ?_⟩, Tree.root_configure log.tree s⟩
  rw [get?_map_entries, heq, Level.toUpper_name]
  show some (Plan.entryValue (if _ then _ else _)) = _
  split <;> rfl

/-- **The root does not keep its handler and its level for all lists of noisy modules**: not if one
has the empty name. -/
theorem System.not_forall_root_configure :
    ¬ ∀ (log : System) (s : Settings), (log.configure s).tree.root = .ofSettings s := by
  intro hall
  have hquiet : (initial.configure { Settings.default with noisyModules := [""] }).tree.root =
      .quiet := rfl
  cases hquiet.symm.trans (hall initial { Settings.default with noisyModules := [""] })

end Log
end RouteProbe
