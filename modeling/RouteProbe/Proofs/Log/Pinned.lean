import RouteProbe.Proofs.Log.Once
import RouteProbe.Proofs.Log.Spared

/-!
# A log that follows settings

A log that has been configured follows its latest settings (`System.Follows`): events go through its
tree, its root is as they ask, and their noisy modules are pinned, so that each of them takes
warnings only and keeps them from the root.  Configuring makes a log follow (`follows_configure`),
and using loggers does not change it (`Follows.use`).

A pinned logger has no handler to write to, so what it takes is written in the plain form
(`Tree.Pins.level_and_outlet`).  Only its own place in the tree is pinned; what stands below it has
its level from there.
-/

namespace RouteProbe
namespace Log

/-- The root as some settings ask for it; a noisy module with one of its names quiets it. -/
def Root.asked (s : Settings) : Root :=
  if "" ∈ s.noisyModules ∨ "root" ∈ s.noisyModules then .quiet else .ofSettings s

namespace Tree

/-- A logger is pinned: it takes warnings only and keeps them from the root. -/
def Pins (t : Tree) (n : Name) : Prop :=
  ∃ l, t.get? n = some l ∧ l.level = Level.warning.weight ∧ l.propagate = false

variable {t : Tree} {n : Name}

/-- Loggers that are changed in their places are found in them. -/
theorem get?_map (ls : List (Name × Logger)) (f : Name × Logger → Logger) (n : Name) :
    ((ls.map fun x => (x.1, f x)).find? fun x => x.1 == n).map (·.2) =
      (ls.find? fun x => x.1 == n).map f := by
  rw [List.find?_map, Option.map_map]
  rfl

/-- A logger that is there stays there when one is used, with another parent at most. -/
theorem exists_get?_use {l : Logger} (h : t.get? n = some l) (m : Name) :
    ∃ l', (t.use m).get? n = some l' ∧ l'.level = l.level ∧ l'.propagate = l.propagate := by
  rw [use]
  split
  · exact ⟨l, h, rfl, rfl⟩
  · obtain ⟨x, hx, rfl⟩ := Option.map_eq_some_iff.mp h
    obtain ⟨hlevel, hpropagate⟩ := passUnder_plain m x.1 x.2
    refine ⟨passUnder m x.1 x.2, ?_, hlevel, hpropagate⟩
    have hmoved := get?_map t.loggers (fun x => passUnder m x.1 x.2) n
    rw [hx, Option.map_some] at hmoved
    obtain ⟨y, hy, hvalue⟩ := Option.map_eq_some_iff.mp hmoved
    rw [add, get?, List.find?_append, hy, Option.some_or, Option.map_some, hvalue]

/-- A logger is there once it has been used. -/
theorem has_use_self (t : Tree) (hn : n.isRoot = false) : (t.use n).has n = true := by
  rw [use, hn, Bool.false_or]
  split
  · next h => exact h
  · rw [has, List.any_eq_true]
    exact ⟨_, List.mem_append_right _ List.mem_cons_self, beq_self_eq_true n⟩

theorem exists_get?_of_has (h : t.has n = true) : ∃ l, t.get? n = some l := by
  obtain ⟨x, hx⟩ := Option.isSome_iff_exists.mp (List.find?_isSome.mpr (List.any_eq_true.mp h))
  exact ⟨x.2, by rw [get?, hx, Option.map_some]⟩

theorem get?_change (t : Tree) (picked : Name → Bool) (f : Logger → Logger) (n : Name) :
    (t.change picked f).get? n = (t.get? n).map fun l => if picked n then f l else l := by
  have hlist : (t.change picked f).loggers =
      t.loggers.map fun x => (x.1, if picked x.1 then f x.2 else x.2) := by
    refine List.map_congr_left fun x _ => ?_
    split <;> rfl
  rw [get?, hlist, get?_map t.loggers (fun x => if picked x.1 then f x.2 else x.2), get?,
    Option.map_map]
  cases hfound : t.loggers.find? fun x => x.1 == n with
  | none => rfl
  | some x =>
      have hname : x.1 = n := by simpa using List.find?_some hfound
      rw [← hname]
      rfl

theorem Pins.use (h : t.Pins n) (m : Name) : (t.use m).Pins n := by
  obtain ⟨l, hget, hlevel, hpropagate⟩ := h
  obtain ⟨l', hget', hlevel', hpropagate'⟩ := exists_get?_use hget m
  exact ⟨l', hget', hlevel'.trans hlevel, hpropagate'.trans hpropagate⟩

/-- Setting up a noisy module pins it. -/
theorem pins_setUp (t : Tree) (h : Handler) (hn : n.isRoot = false) :
    (t.setUp h n Plan.noisyEntry).Pins n := by
  obtain ⟨l, hget⟩ := exists_get?_of_has (t.has_use_self hn)
  rw [setUp, hn, if_neg Bool.false_ne_true]
  refine ⟨_, (get?_change _ _ _ n).trans (by rw [hget, Option.map_some]), ?_⟩
  rw [if_pos (beq_self_eq_true n)]
  exact ⟨rfl, rfl⟩

/-- What is pinned stays so while noisy modules are set up. -/
theorem Pins.setUp (hpins : t.Pins n) (hn : n.isRoot = false) (h : Handler) (m : Name) :
    (t.setUp h m Plan.noisyEntry).Pins n := by
  by_cases hroot : m.isRoot = true
  · rw [Tree.setUp, if_pos hroot]
    exact hpins
  · by_cases hsame : m = n
    · rw [hsame]
      exact pins_setUp t h hn
    · obtain ⟨l, hget, hlevel, hpropagate⟩ := hpins.use m
      rw [Tree.setUp, if_neg hroot]
      refine ⟨l, (get?_change _ _ _ n).trans ?_, hlevel, hpropagate⟩
      rw [hget, Option.map_some, if_neg (by simpa using Ne.symm hsame)]

theorem Pins.foldl_setUp (hpins : t.Pins n) (hn : n.isRoot = false) (h : Handler)
    (names : List String) :
    ((names.map (·, Plan.noisyEntry)).foldl
      (fun acc x => acc.setUp h x.1.toList x.2) t).Pins n :=
  foldl_noisy_induction (P := fun t => t.Pins n) h hpins fun _ name _ ht =>
    ht.setUp hn h name.toList

/-- The noisy modules of a plan are pinned when it is carried out. -/
theorem pins_foldl_setUp (t : Tree) (h : Handler) {names : List String} {name : String}
    (hmem : name ∈ names) (hn : Name.isRoot name.toList = false) :
    ((names.map (·, Plan.noisyEntry)).foldl
      (fun acc x => acc.setUp h x.1.toList x.2) t).Pins name.toList := by
  induction names generalizing t with
  | nil => cases hmem
  | cons first names ih =>
      rcases List.mem_cons.mp hmem with rfl | hmem
      · exact (pins_setUp t h hn).foldl_setUp hn h names
      · exact ih (t.setUp h first.toList Plan.noisyEntry) hmem

/-- **Configuring a log pins its noisy modules**, whatever the tree was before. -/
theorem pins_configure (t : Tree) (s : Settings) {n : Name} (hmem : n ∈ noisyNames s)
    (hn : n.isRoot = false) : (t.configure (.ofSettings s)).Pins n := by
  obtain ⟨name, hname, rfl⟩ := List.mem_map.mp hmem
  obtain ⟨names, heq, hnames⟩ := Plan.exists_entries s
  have hne : name ≠ "" := by
    rintro rfl
    cases hn
  have hthere : name ∈ names := (hnames name).mpr ⟨hname, hne⟩
  have hplanned : (Plan.ofSettings s).names.contains name.toList = true := by
    rw [List.contains_iff_mem, Plan.names, heq]
    refine List.mem_cons_of_mem _ (List.mem_map.mpr ⟨(name, Plan.noisyEntry), ?_, rfl⟩)
    exact List.mem_map_of_mem hthere
  rw [Tree.configure, heq, List.foldl_cons]
  obtain ⟨l, hget, hlevel, hpropagate⟩ := pins_foldl_setUp
    (t.setUp (Plan.ofSettings s).handler "".toList _) (Plan.ofSettings s).handler hthere hn
  -- Clearing passes over the names of the plan.
  refine ⟨l, (get?_change _ _ _ _).trans ?_, hlevel, hpropagate⟩
  rw [hget, Option.map_some, isCleared, hplanned, Bool.not_true, Bool.and_false, Bool.false_and,
    if_neg Bool.false_ne_true]

/-! ## What a pinned logger writes -/

/-- The way up from a logger starts at the logger. -/
theorem exists_chainFrom {l : Logger} (h : t.get? n = some l) (fuel : Nat) :
    ∃ more, t.chainFrom (fuel + 1) n = l :: more := by
  rw [chainFrom, h]
  dsimp only
  split <;> exact ⟨_, rfl⟩

/-- A pinned logger takes warnings, and writes them in the plain form. -/
theorem Pins.level_and_outlet (h : t.Pins n) (hn : n.isRoot = false) :
    t.effectiveLevel n = Level.warning.weight ∧ t.outlet n = .plain := by
  obtain ⟨l, hget, hlevel, hpropagate⟩ := h
  obtain ⟨more, hchain⟩ : ∃ more, t.chain n = l :: more := by
    rw [chain, hn, if_neg Bool.false_ne_true]
    exact exists_chainFrom hget n.length
  refine ⟨?_, ?_⟩
  · rw [effectiveLevel, hchain, List.map_cons, hlevel]
    rfl
  · have hreach : t.reachesRoot n = false := by
      rw [reachesRoot, hchain, List.all_cons, hpropagate, Bool.false_and]
    rw [outlet, hreach, if_neg Bool.false_ne_true]

end Tree

namespace System

/-- A log follows some settings. -/
structure Follows (s : System) (settings : Settings) : Prop where
  routed : s.routed = true
  root : s.tree.root = .asked settings
  pinned : ∀ n ∈ noisyNames settings, n.isRoot = false → s.tree.Pins n

variable {s : System} {settings : Settings}

/-- **A log that is configured follows the settings.** -/
theorem follows_configure (s : System) (settings : Settings) :
    (s.configure settings).Follows settings where
  routed := rfl
  root := Tree.root_configure s.tree settings
  pinned _ hmem hn := Tree.pins_configure s.tree settings hmem hn

theorem Follows.use (h : s.Follows settings) (n : Name) :
    { s with tree := s.tree.use n }.Follows settings where
  routed := h.routed
  root := (s.tree.root_use n).trans h.root
  pinned m hmem hm := (h.pinned m hmem hm).use n

/-- A noisy module with a name of the root quiets it. -/
theorem Follows.root_eq_quiet (h : s.Follows settings) {n : Name} (hmem : n ∈ noisyNames settings)
    (hn : n.isRoot = true) : s.tree.root = .quiet := by
  obtain ⟨name, hname, rfl⟩ := List.mem_map.mp hmem
  refine h.root.trans (if_pos ?_)
  rcases (Tree.isRoot_toList_iff name).mp hn with rfl | rfl
  · exact .inl hname
  · exact .inr hname

end System
end Log
end RouteProbe
