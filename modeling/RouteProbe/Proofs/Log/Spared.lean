import RouteProbe.Proofs.Log.Configured
import RouteProbe.Proofs.Log.Shown

/-!
# Loggers beyond the noisy modules

Configuring a log says something about its noisy modules and takes back what was said of loggers
below them, and using a logger puts it into the tree with nothing said about it.  So a logger that
is neither one of the modules nor below one never has anything said about it (`Tree.Spares`),
however often the log is configured and in whatever order loggers come into the tree.

What a logger has comes from those above it, and those have names that end at a dot in its own
(`Name.isBelow_of_mem_above`): they are beyond the modules as well.  Such a logger therefore has the
level of the root and feeds the handler of the root (`Tree.Spares.feeds`).
-/

namespace RouteProbe
namespace Log

namespace Name

/-- What comes before a dot, backwards, stands behind the dot. -/
theorem isSuffix_of_mem_reversedAbove {cs r : List Char} (h : r ∈ reversedAbove cs) :
    ('.' :: r) <:+ cs := by
  fun_induction reversedAbove cs with
  | case1 d cs ih =>
      rcases List.mem_cons.mp h with rfl | h
      · exact List.suffix_rfl
      · exact (ih h).trans ((List.suffix_cons d cs).trans (List.suffix_cons '.' (d :: cs)))
  | case2 c d cs _ ih => exact (ih h).trans (List.suffix_cons c (d :: cs))
  | case3 => cases h

/-- **A name stands below all the names above it.** -/
theorem isBelow_of_mem_above {n m : Name} (h : m ∈ n.above) : n.isBelow m = true := by
  obtain ⟨r, hr, rfl⟩ := List.mem_map.mp h
  have hsuffix := List.reverse_prefix.mpr (isSuffix_of_mem_reversedAbove hr)
  rw [List.reverse_cons, List.reverse_reverse] at hsuffix
  exact List.isPrefixOf_iff_prefix.mpr hsuffix

theorem isBelow_trans {n m k : Name} (h : n.isBelow m = true) (h' : m.isBelow k = true) :
    n.isBelow k = true := by
  have hfirst : (k ++ ['.']) <+: m ++ ['.'] :=
    (List.isPrefixOf_iff_prefix.mp h').trans (List.prefix_append m ['.'])
  exact List.isPrefixOf_iff_prefix.mpr (hfirst.trans (List.isPrefixOf_iff_prefix.mp h))

/-- A name is that of one of some modules, or stands below one. -/
def IsWithin (n : Name) (modules : List Name) : Prop := ∃ m ∈ modules, n = m ∨ n.isBelow m = true

instance (n : Name) (modules : List Name) : Decidable (n.IsWithin modules) :=
  inferInstanceAs (Decidable (∃ m ∈ modules, n = m ∨ n.isBelow m = true))

/-- What a name beyond some modules stands below is beyond them too. -/
theorem IsWithin.of_isBelow {n m : Name} {modules : List Name} (hm : n.isBelow m = true)
    (h : m.IsWithin modules) : n.IsWithin modules := by
  obtain ⟨x, hx, hwithin⟩ := h
  refine ⟨x, hx, .inr ?_⟩
  rcases hwithin with rfl | hx'
  · exact hm
  · exact isBelow_trans hm hx'

theorem IsWithin.mono {n : Name} {modules modules' : List Name} (h : n.IsWithin modules)
    (hsub : modules ⊆ modules') : n.IsWithin modules' := by
  obtain ⟨m, hm, hwithin⟩ := h
  exact ⟨m, hsub hm, hwithin⟩

end Name

/-- The noisy modules of some settings, as names of loggers. -/
def noisyNames (s : Settings) : List Name := s.noisyModules.map String.toList

namespace Tree

/-- The loggers of a tree stand below the names above them, and nothing has been said about those
beyond some modules. -/
structure Spares (t : Tree) (modules : List Name) : Prop where
  parent : ∀ x ∈ t.loggers, ∀ m, x.2.parent = some m → m ∈ x.1.above
  plain : ∀ x ∈ t.loggers, ¬ x.1.IsWithin modules → x.2.level = 0 ∧ x.2.propagate = true

variable {t : Tree} {modules : List Name}

theorem spares_initial : initial.Spares modules where
  parent _ hx := by cases hx
  plain _ hx := by cases hx

/-- Of more modules less is spared. -/
theorem Spares.mono (h : t.Spares modules) {modules' : List Name} (hsub : modules ⊆ modules') :
    t.Spares modules' where
  parent := h.parent
  plain x hx hbeyond := h.plain x hx fun hwithin => hbeyond (hwithin.mono hsub)

/-- A logger that passes under a new one has something new above it only if that is above it by
name. -/
theorem mem_above_of_passUnder {new n m : Name} {l : Logger}
    (hparent : ∀ m, l.parent = some m → m ∈ n.above) (h : (passUnder new n l).parent = some m) :
    m ∈ n.above := by
  rw [passUnder] at h
  split at h
  · next habove =>
      rw [Bool.and_eq_true] at habove
      cases h
      exact List.contains_iff_mem.mp habove.1
  · exact hparent m h

theorem passUnder_plain (new n : Name) (l : Logger) :
    (passUnder new n l).level = l.level ∧ (passUnder new n l).propagate = l.propagate := by
  rw [passUnder]
  split <;> exact ⟨rfl, rfl⟩

/-- The loggers of a tree that one has been put into: those it had, and the new one below the
nearest of them. -/
theorem mem_loggers_add {n : Name} {x : Name × Logger} (h : x ∈ (t.add n).loggers) :
    (∃ y ∈ t.loggers, x = (y.1, passUnder n y.1 y.2)) ∨
      x = (n, .fresh (n.above.find? t.has)) := by
  rcases List.mem_append.mp h with h | h
  · obtain ⟨y, hy, rfl⟩ := List.mem_map.mp h
    exact .inl ⟨y, hy, rfl⟩
  · exact .inr (List.mem_singleton.mp h)

theorem mem_loggers_change {picked : Name → Bool} {f : Logger → Logger} {x : Name × Logger}
    (h : x ∈ (t.change picked f).loggers) :
    ∃ y ∈ t.loggers, x = (y.1, if picked y.1 then f y.2 else y.2) := by
  obtain ⟨y, hy, rfl⟩ := List.mem_map.mp h
  refine ⟨y, hy, ?_⟩
  split <;> rfl

/-- **Using a logger says nothing about any.** -/
theorem Spares.use (h : t.Spares modules) (n : Name) : (t.use n).Spares modules := by
  rw [Tree.use]
  split
  · exact h
  · refine ⟨fun x hx => ?_, fun x hx hbeyond => ?_⟩
    -- A logger that was there stands below the new one only if its name does.
    · rcases mem_loggers_add hx with ⟨y, hy, rfl⟩ | rfl
      · exact fun m => mem_above_of_passUnder (h.parent y hy)
      · exact fun m hm => List.mem_of_find?_eq_some hm
    · rcases mem_loggers_add hx with ⟨y, hy, rfl⟩ | rfl
      · obtain ⟨hlevel, hpropagate⟩ := passUnder_plain n y.1 y.2
        obtain ⟨hlevel', hpropagate'⟩ := h.plain y hy hbeyond
        exact ⟨hlevel.trans hlevel', hpropagate.trans hpropagate'⟩
      · exact ⟨rfl, rfl⟩

/-- Loggers can be changed as long as they stay where they are, and as long as the change says
nothing about those beyond the modules. -/
theorem Spares.change (h : t.Spares modules) {picked : Name → Bool} {f : Logger → Logger}
    (hparent : ∀ l, (f l).parent = l.parent)
    (hplain : ∀ n l, picked n = true → ¬ n.IsWithin modules →
      (f l).level = 0 ∧ (f l).propagate = true) : (t.change picked f).Spares modules := by
  refine ⟨fun x hx m hm => ?_, fun x hx hbeyond => ?_⟩
  all_goals obtain ⟨y, hy, rfl⟩ := mem_loggers_change hx
  · refine h.parent y hy m (Eq.trans ?_ hm)
    show y.2.parent = (if picked y.1 then f y.2 else y.2).parent
    split
    · exact (hparent y.2).symm
    · rfl
  · show (if picked y.1 then f y.2 else y.2).level = 0 ∧
      (if picked y.1 then f y.2 else y.2).propagate = true
    split
    · next hpicked => exact hplain y.1 y.2 hpicked hbeyond
    · exact h.plain y hy hbeyond

/-- What holds of a tree, and goes on to hold when a noisy module is set up, holds when several
are. -/
theorem foldl_noisy_induction {P : Tree → Prop} (handler : Handler) {names : List String} (h : P t)
    (hset : ∀ t, ∀ name ∈ names, P t → P (t.setUp handler name.toList Plan.noisyEntry)) :
    P ((names.map (·, Plan.noisyEntry)).foldl
      (fun acc x => acc.setUp handler x.1.toList x.2) t) := by
  induction names generalizing t with
  | nil => exact h
  | cons name names ih =>
      obtain ⟨hfirst, hrest⟩ := List.forall_mem_cons.mp fun name hname t => hset t name hname
      exact ih (hfirst t h) fun t name hname => hrest name hname t

/-- **Configuring a tree step by step.**  What holds of a tree goes on to hold when it is
configured, if it does when the root is set, when loggers are used, when a noisy module is pinned,
and when what was said of loggers is taken back. -/
theorem configure_induction {P : Tree → Prop} {s : Settings} (h : P t)
    (hroot : ∀ t root, P t → P { t with root := root }) (huse : ∀ t n, P t → P (t.use n))
    (hpin : ∀ t, ∀ n ∈ noisyNames s, P t → P (t.change (· == n) fun l =>
      { l with level := Level.warning.weight, propagate := false }))
    (hclear : ∀ t picked, P t → P (t.change picked fun l =>
      { l with level := 0, propagate := true })) : P (t.configure (.ofSettings s)) := by
  obtain ⟨names, heq, hnames⟩ := Plan.exists_entries s
  rw [Tree.configure, heq, List.foldl_cons]
  refine hclear _ _ (foldl_noisy_induction _ (hroot t _ h) fun t name hname ht => ?_)
  rw [setUp]
  split
  · exact hroot t _ ht
  · have hnoisy : name.toList ∈ noisyNames s := List.mem_map_of_mem ((hnames name).mp hname).1
    exact hpin _ _ hnoisy (huse t _ ht)

/-- **Configuring a log spares the loggers beyond its noisy modules.** -/
theorem Spares.configure (h : t.Spares modules) {s : Settings}
    (hnoisy : noisyNames s ⊆ modules) : (t.configure (.ofSettings s)).Spares modules := by
  refine configure_induction (P := fun t => t.Spares modules) h ?_ ?_ ?_ ?_
  · exact fun _ _ ht => ⟨ht.parent, ht.plain⟩
  · exact fun _ n ht => ht.use n
  · refine fun _ n hn ht => ht.change (fun _ => rfl) fun m _ hpicked hbeyond => ?_
    exact absurd ⟨n, hnoisy hn, .inl (beq_iff_eq.mp hpicked)⟩ hbeyond
  · exact fun _ _ ht => ht.change (fun _ => rfl) fun _ _ _ _ => ⟨rfl, rfl⟩

/-! ## What such loggers have from above -/

theorem mem_of_get? {n : Name} {l : Logger} (h : t.get? n = some l) : (n, l) ∈ t.loggers := by
  obtain ⟨x, hx, rfl⟩ := Option.map_eq_some_iff.mp h
  have hname : x.1 = n := by simpa using List.find?_some hx
  rw [← hname]
  exact List.mem_of_find?_eq_some hx

/-- The loggers on the way up from a name have names that it is or stands below. -/
theorem exists_of_mem_chain
    (hparent : ∀ x ∈ t.loggers, ∀ m, x.2.parent = some m → m ∈ x.1.above) {n : Name} {l : Logger}
    (hl : l ∈ t.chain n) : ∃ m, (m, l) ∈ t.loggers ∧ (m = n ∨ n.isBelow m = true) := by
  have hall : ∀ fuel n, l ∈ t.chainFrom fuel n →
      ∃ m, (m, l) ∈ t.loggers ∧ (m = n ∨ n.isBelow m = true) := by
    intro fuel
    induction fuel with
    | zero => exact fun _ hl => nomatch hl
    | succ fuel ih =>
        intro n hl
        rw [chainFrom] at hl
        cases hget : t.get? n with
        | none =>
            rw [hget] at hl
            cases hl
        | some first =>
            have hmem := mem_of_get? hget
            simp only [hget] at hl
            cases habove : first.parent with
            | none =>
                rw [habove] at hl
                rw [List.mem_singleton.mp hl]
                exact ⟨n, hmem, .inl rfl⟩
            | some k =>
                rw [habove] at hl
                rcases List.mem_cons.mp hl with rfl | hl
                · exact ⟨n, hmem, .inl rfl⟩
                · obtain ⟨m, hm, hway⟩ := ih k hl
                  have hk := Name.isBelow_of_mem_above (hparent _ hmem k habove)
                  refine ⟨m, hm, .inr ?_⟩
                  rcases hway with rfl | hway
                  · exact hk
                  · exact Name.isBelow_trans hk hway
  rw [chain] at hl
  split at hl
  · cases hl
  · exact hall _ n hl

/-- **A logger beyond the modules feeds the handler of the root**, and has the level of the root. -/
theorem Spares.feeds (h : t.Spares modules) {n : Name} (hn : ¬ n.IsWithin modules)
    {handler : Handler} (hlevel : t.root.level = handler.level.weight)
    (hhandler : t.root.handler = some handler) : t.Feeds n handler := by
  have hplain : ∀ l ∈ t.chain n, l.level = 0 ∧ l.propagate = true := by
    intro l hl
    obtain ⟨m, hm, hway⟩ := exists_of_mem_chain h.parent hl
    refine h.plain _ hm fun hwithin => hn ?_
    rcases hway with rfl | hway
    · exact hwithin
    · exact hwithin.of_isBelow hway
  refine ⟨?_, ?_⟩
  · have hnone : ((t.chain n).map Logger.level).find? (· ≠ 0) = none := by
      rw [List.find?_eq_none]
      intro w hw
      obtain ⟨l, hl, rfl⟩ := List.mem_map.mp hw
      simp [(hplain l hl).1]
    rw [effectiveLevel, hnone, Option.getD_none, hlevel]
  · have hreaches : t.reachesRoot n = true := by
      rw [reachesRoot, List.all_eq_true]
      exact fun l hl => (hplain l hl).2
    rw [outlet, hreaches, if_pos rfl, hhandler]

/-! ## Settings that a log is configured with in turn -/

variable {asked : List Settings}

/-- Nothing is said about the loggers beyond the noisy modules of all settings so far when the next
are configured. -/
theorem Spares.configure_asked (h : t.Spares (asked.flatMap noisyNames)) (settings : Settings) :
    (t.configure (.ofSettings settings)).Spares ((asked ++ [settings]).flatMap noisyNames) := by
  rw [List.flatMap_append, List.flatMap_singleton]
  exact (h.mono (List.subset_append_left _ _)).configure (List.subset_append_right _ _)

/-- **A logger beyond the noisy modules of all settings so far feeds the handler of those that the
root is as they ask.** -/
theorem Spares.feeds_asked (h : t.Spares (asked.flatMap noisyNames)) {settings : Settings}
    (hroot : t.root = .ofSettings settings) {n : Name}
    (hbeyond : ∀ settings ∈ asked, ¬ n.IsWithin (noisyNames settings)) :
    t.Feeds n ⟨settings.logLevel, settings.environment⟩ := by
  refine h.feeds (fun hwithin => ?_) ?_ ?_
  · obtain ⟨m, hm, hbelow⟩ := hwithin
    obtain ⟨settings', hmem, hm⟩ := List.mem_flatMap.mp hm
    exact hbeyond settings' hmem ⟨m, hm, hbelow⟩
  · rw [hroot]
    rfl
  · rw [hroot]
    rfl

end Tree
end Log
end RouteProbe
