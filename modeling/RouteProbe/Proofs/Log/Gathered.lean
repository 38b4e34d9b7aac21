import RouteProbe.Proofs.Log.Pinned

/-!
# Where loggers stand

A logger stands below the nearest one that has a name above its own, and it may have come into the
tree before that one or after it.  If it came first, it is put below the other when that comes, but
not if it stands below a nearer one already.  Which is nearer is told by the beginnings of names,
and the root goes by its own: so a logger stays under the root when one comes whose name the name of
the root begins with.

A name is above those that go on after it with an odd number of dots (`Name.IsRightBelow`), because
of two dots in a row only one is used.  What lasts is that what stands above a logger begins with
each name that the logger is right below (`Tree.IsGrown.gathered`).  So a logger on the way up
leaves the names that begin with another one, before it comes to that, for two reasons only: it is
not right below that, or it stands under the root whose own name begins with that
(`Tree.IsGrown.leaves`).  If none leaves them, the way up leads through the logger of that name
(`Tree.IsGrown.mem_chainFrom`).

All that is ever said of the level of a logger is that it takes warnings only.  So a logger takes
warnings only if this was said of one on its way up, and writes them in the plain form if that one
keeps them from the root (`Tree.IsGrown.level_and_outlet_of_pins`).
-/

namespace RouteProbe
namespace Log

namespace Name

/-- A name goes on after another one with an odd number of dots. -/
def IsRightBelow (n m : Name) : Prop :=
  ∃ k rest, n = m ++ (List.replicate (2 * k + 1) '.' ++ rest) ∧ rest.head? ≠ some '.'

variable {n m lib : Name}

/-- A name that goes on after another one with one dot, and with no second one behind it. -/
theorem isRightBelow_of_dot {rest : List Char} (h : rest.head? ≠ some '.') :
    IsRightBelow (lib ++ '.' :: rest) lib := ⟨0, rest, rfl, h⟩

theorem isPrefix_of_isBelow (h : n.isBelow m = true) : m <+: n :=
  (List.prefix_append m ['.']).trans (List.isPrefixOf_iff_prefix.mp h)

theorem length_lt_of_mem_above (h : m ∈ n.above) : m.length < n.length := by
  have hle := (List.isPrefixOf_iff_prefix.mp (isBelow_of_mem_above h)).length_le
  rw [List.length_append, List.length_singleton] at hle
  exact hle

theorem length_lt_of_isBelow (h : n.isBelow lib = true) : lib.length < n.length := by
  have hle := (List.isPrefixOf_iff_prefix.mp h).length_le
  rw [List.length_append, List.length_singleton] at hle
  exact hle

theorem IsRightBelow.isBelow (h : n.IsRightBelow lib) : n.isBelow lib = true := by
  obtain ⟨k, rest, rfl, -⟩ := h
  rw [isBelow, List.isPrefixOf_iff_prefix, List.replicate_succ]
  exact (List.prefix_append_right_inj lib).mpr (List.prefix_append ['.'] _)

/-- The names of the root have no dots in them. -/
theorem isRoot_eq_false_of_isBelow (h : n.isBelow lib = true) : n.isRoot = false := by
  obtain ⟨rest, rfl⟩ := List.isPrefixOf_iff_prefix.mp h
  have hdot : '.' ∈ lib ++ ['.'] ++ rest := by simp
  rw [← Bool.not_eq_true, isRoot, Bool.or_eq_true, List.isEmpty_iff, beq_iff_eq]
  rintro (hempty | hroot)
  · rw [hempty] at hdot
    cases hdot
  · rw [hroot] at hdot
    exact absurd hdot (by decide)

/-- Of the dots behind a name, backwards, every other one is used. -/
theorem mem_reversedAbove_dots {ys : List Char} (hys : ys ≠ []) :
    ∀ k, ys ∈ reversedAbove (List.replicate (2 * k + 1) '.' ++ ys)
  | 0 => by
      obtain ⟨d, ds, rfl⟩ := List.exists_cons_of_ne_nil hys
      exact List.mem_cons_self
  | k + 1 => List.mem_cons_of_mem _ (mem_reversedAbove_dots hys k)

/-- So the first of them is if their number is odd: what comes before it is above. -/
theorem mem_reversedAbove {ys : List Char} (hys : ys ≠ []) (k : Nat) :
    ∀ xs : List Char, xs.getLast? ≠ some '.' →
      ys ∈ reversedAbove (xs ++ (List.replicate (2 * k + 1) '.' ++ ys))
  | [], _ => mem_reversedAbove_dots hys k
  | [c], hxs => by
      have hdot : c ≠ '.' := fun h => hxs (congrArg some h)
      rw [List.singleton_append, List.replicate_succ, List.cons_append, reversedAbove, if_neg hdot]
      exact mem_reversedAbove_dots hys k
  | c :: d :: cs, hxs => by
      rw [List.cons_append, List.cons_append, reversedAbove]
      split
      · refine List.mem_cons_of_mem _ (mem_reversedAbove hys k cs fun h => hxs ?_)
        rw [List.getLast?_cons, List.getLast?_cons, h]
        rfl
      · refine mem_reversedAbove hys k (d :: cs) fun h => hxs ?_
        rw [List.getLast?_cons, h]
        rfl

/-- **A name stands above those that are right below it.** -/
theorem IsRightBelow.mem_above (h : n.IsRightBelow lib) (hlib : lib ≠ []) : lib ∈ n.above := by
  obtain ⟨k, rest, rfl, hrest⟩ := h
  refine List.mem_map.mpr ⟨lib.reverse, ?_, List.reverse_reverse lib⟩
  rw [List.reverse_append, List.reverse_append, List.reverse_replicate, List.append_assoc]
  refine mem_reversedAbove (by simpa using hlib) k rest.reverse ?_
  rwa [List.getLast?_reverse]

/-- What is above a name that is below another one, and begins with that, is that one or is below it
too. -/
theorem isBelow_of_isPrefix (h : n.isBelow lib = true) (hm : n.isBelow m = true)
    (hlib : lib <+: m) : m = lib ∨ m.isBelow lib = true := by
  obtain ⟨q, rfl⟩ := hlib
  cases q with
  | nil => exact .inl (List.append_nil lib)
  | cons c q =>
      refine .inr (List.isPrefixOf_iff_prefix.mpr ?_)
      refine List.prefix_of_prefix_length_le (List.isPrefixOf_iff_prefix.mp h)
        (isPrefix_of_isBelow hm) ?_
      rw [List.length_append, List.length_append, List.length_singleton, List.length_cons]
      omega

/-- What goes on after a name with one dot only is right below it, and so is what is above it and
below that name. -/
theorem isRightBelow_of_isBelow {rest : List Char} (hrest : rest.head? ≠ some '.')
    (hm : m = lib ++ '.' :: rest ∨ Name.isBelow (lib ++ '.' :: rest) m = true)
    (hlib : m.isBelow lib = true) : m.IsRightBelow lib := by
  rcases hm with rfl | hm
  · exact isRightBelow_of_dot hrest
  · obtain ⟨q, rfl⟩ := List.isPrefixOf_iff_prefix.mp hlib
    obtain ⟨t, ht⟩ := List.isPrefixOf_iff_prefix.mp hm
    have hq : q ++ '.' :: t = rest := by simpa using ht
    have hhead : q.head? ≠ some '.' := fun hdot => hrest <| by
      rw [← hq, List.head?_append, hdot, Option.some_or]
    rw [List.append_assoc]
    exact isRightBelow_of_dot hhead

/-- The names above a name are the shorter the farther they are. -/
theorem pairwise_above (n : Name) : n.above.Pairwise fun m m' => m'.length < m.length := by
  have hlength {cs r : List Char} (hr : r ∈ reversedAbove cs) : r.length < cs.length :=
    (isSuffix_of_mem_reversedAbove hr).length_le
  rw [above, List.pairwise_map]
  simp only [List.length_reverse]
  generalize n.reverse = cs
  fun_induction reversedAbove cs with
  | case1 d cs ih =>
      exact List.pairwise_cons.mpr ⟨fun r hr => (hlength hr).trans (Nat.lt_succ_self _), ih⟩
  | case2 c d cs _ ih => exact ih
  | case3 => exact .nil

/-- Of the names above a name, the nearest one that is picked begins with the others that are. -/
theorem isPrefix_of_find?_above {picked : Name → Bool} (hfind : n.above.find? picked = some m)
    (hlib : lib ∈ n.above) (hpicked : picked lib = true) : lib <+: m := by
  obtain ⟨-, before, after, hlist, hbefore⟩ := List.find?_eq_some_iff_append.mp hfind
  have hsorted := n.pairwise_above
  have hle : lib.length ≤ m.length := by
    rw [hlist] at hlib hsorted
    rcases List.mem_append.mp hlib with hfirst | hlater
    · have hnot := hbefore lib hfirst
      rw [hpicked] at hnot
      cases hnot
    · rcases List.mem_cons.mp hlater with rfl | hafter
      · exact Nat.le_refl _
      · have hrest := (List.pairwise_append.mp hsorted).2.1
        exact (List.rel_of_pairwise_cons hrest hafter).le
  have hm := List.mem_of_find?_eq_some hfind
  exact List.prefix_of_prefix_length_le (isPrefix_of_isBelow (isBelow_of_mem_above hlib))
    (isPrefix_of_isBelow (isBelow_of_mem_above hm)) hle

end Name

namespace Tree

variable {t : Tree} {n m lib : Name}

theorem has_iff : t.has n = true ↔ ∃ x ∈ t.loggers, x.1 = n := by
  simp only [has, List.any_eq_true, beq_iff_eq]

/-- Loggers of a tree that has grown by the use of loggers and been configured.  Each of them stands
below one of the tree or below the root, and of its level nothing is said but that it takes warnings
only. -/
structure IsGrown (t : Tree) : Prop where
  above : ∀ x ∈ t.loggers, ∀ m, x.2.parent = some m → m ∈ x.1.above ∧ t.has m = true
  gathered : ∀ lib, t.has lib = true → ∀ x ∈ t.loggers, x.1.IsRightBelow lib →
    lib <+: x.2.parent.getD Name.root
  level : ∀ x ∈ t.loggers, x.2.level = 0 ∨ x.2.level = Level.warning.weight

theorem isGrown_initial : initial.IsGrown where
  above _ hx := by cases hx
  gathered _ _ _ hx := by cases hx
  level _ hx := by cases hx

theorem has_add : (t.add n).has m = true ↔ t.has m = true ∨ n = m := by
  simp only [has, add, List.any_append, List.any_map, List.any_cons, List.any_nil, Bool.or_false,
    Bool.or_eq_true, beq_iff_eq]
  rfl

/-- What a logger has above it once another one has been put into the tree: that one, unless what it
had begins with its name, or else what it had. -/
theorem parent_passUnder (new n : Name) (l : Logger) :
    (passUnder new n l).parent = some new ∧ new ∈ n.above ∧
        ¬ new <+: l.parent.getD Name.root ∨
      (passUnder new n l).parent = l.parent ∧
        (new ∈ n.above → new <+: l.parent.getD Name.root) := by
  rw [passUnder]
  split
  · next h =>
      rw [Bool.and_eq_true, List.contains_iff_mem, Bool.not_eq_true', ← Bool.not_eq_true,
        List.isPrefixOf_iff_prefix] at h
      exact .inl ⟨rfl, h.1, h.2⟩
  · next h =>
      refine .inr ⟨rfl, fun hnew => ?_⟩
      simpa [List.contains_iff_mem, hnew] using h

/-- **What is above a logger when another one comes into the tree begins with each name that it is
right below.**  With the new one, since the logger is put below that unless it stands below a nearer
one; with one that was there, since the logger leaves what it stands below for a nearer one only. -/
theorem IsGrown.gathered_passUnder (h : t.IsGrown) {x : Name × Logger} (hx : x ∈ t.loggers)
    (hlib : t.has lib = true ∨ n = lib) (hbelow : x.1.IsRightBelow lib) (hne : lib ≠ []) :
    lib <+: (passUnder n x.1 x.2).parent.getD Name.root := by
  have hself := hbelow.mem_above hne
  rcases parent_passUnder n x.1 x.2 with ⟨hparent, hmem, hnearer⟩ | ⟨hparent, hstays⟩
  · rw [hparent, Option.getD_some]
    rcases hlib with hlib | rfl
    · have hcompare := List.prefix_or_prefix_of_prefix
        (Name.isPrefix_of_isBelow (Name.isBelow_of_mem_above hself))
        (Name.isPrefix_of_isBelow (Name.isBelow_of_mem_above hmem))
      exact hcompare.resolve_right fun hshort =>
        hnearer (hshort.trans (h.gathered lib hlib x hx hbelow))
    · exact List.prefix_rfl
  · rw [hparent]
    rcases hlib with hlib | rfl
    · exact h.gathered lib hlib x hx hbelow
    · exact hstays hself

/-- **Putting a new logger into the tree has the tree grow.** -/
theorem IsGrown.add (h : t.IsGrown) (n : Name) : (t.add n).IsGrown where
  above x hx m hm := by
    rcases mem_loggers_add hx with ⟨y, hy, rfl⟩ | rfl
    · rcases parent_passUnder n y.1 y.2 with ⟨hparent, hmem, -⟩ | ⟨hparent, -⟩
      · cases hm.symm.trans hparent
        exact ⟨hmem, has_add.mpr (.inr rfl)⟩
      · obtain ⟨habove, hthere⟩ := h.above y hy m (hparent.symm.trans hm)
        exact ⟨habove, has_add.mpr (.inl hthere)⟩
    · exact ⟨List.mem_of_find?_eq_some hm, has_add.mpr (.inl (List.find?_some hm))⟩
  gathered lib hlib x hx hbelow := by
    by_cases hne : lib = []
    · rw [hne]
      exact List.nil_prefix
    rcases mem_loggers_add hx with ⟨y, hy, rfl⟩ | rfl
    · exact h.gathered_passUnder hy (has_add.mp hlib) hbelow hne
    · have hthere : t.has lib = true := (has_add.mp hlib).resolve_right fun hsame =>
        absurd (Name.length_lt_of_isBelow hbelow.isBelow) (by rw [hsame]; exact Nat.lt_irrefl _)
      have hself := hbelow.mem_above hne
      obtain ⟨m, hfind⟩ := Option.isSome_iff_exists.mp
        (List.find?_isSome.mpr ⟨lib, hself, hthere⟩)
      show lib <+: (n.above.find? t.has).getD Name.root
      rw [hfind]
      exact Name.isPrefix_of_find?_above hfind hself hthere
  level x hx := by
    rcases mem_loggers_add hx with ⟨y, hy, rfl⟩ | rfl
    · rw [(passUnder_plain n y.1 y.2).1]
      exact h.level y hy
    · exact .inl rfl

theorem IsGrown.use (h : t.IsGrown) (n : Name) : (t.use n).IsGrown := by
  rw [Tree.use]
  split
  · exact h
  · exact h.add n

theorem has_change {picked : Name → Bool} {f : Logger → Logger} :
    (t.change picked f).has m = t.has m := by
  rw [has, change, List.any_map]
  refine congrArg (fun p => t.loggers.any p) (funext fun x => ?_)
  show ((if picked x.1 then (x.1, f x.2) else x).1 == m) = (x.1 == m)
  split <;> rfl

theorem parent_of_change {picked : Name → Bool} {f : Logger → Logger}
    (hparent : ∀ l, (f l).parent = l.parent) (y : Name × Logger) :
    (if picked y.1 then f y.2 else y.2).parent = y.2.parent := by
  split
  · exact hparent y.2
  · rfl

/-- Loggers that stay where they are can be told to take warnings only, or what those above them
take. -/
theorem IsGrown.change (h : t.IsGrown) {picked : Name → Bool} {f : Logger → Logger}
    (hparent : ∀ l, (f l).parent = l.parent)
    (hlevel : ∀ l, (f l).level = 0 ∨ (f l).level = Level.warning.weight) :
    (t.change picked f).IsGrown := by
  refine ⟨fun x hx m hm => ?_, fun lib hlib x hx hbelow => ?_, fun x hx => ?_⟩
  all_goals obtain ⟨y, hy, rfl⟩ := mem_loggers_change hx
  · rw [has_change]
    exact h.above y hy m ((parent_of_change hparent y).symm.trans hm)
  · rw [has_change] at hlib
    show lib <+: (if picked y.1 then f y.2 else y.2).parent.getD Name.root
    rw [parent_of_change hparent]
    exact h.gathered lib hlib y hy hbelow
  · show (if picked y.1 then f y.2 else y.2).level = 0 ∨ _
    split
    · exact hlevel y.2
    · exact h.level y hy

/-- **Configuring a tree has it grow.** -/
theorem IsGrown.configure (h : t.IsGrown) (s : Settings) :
    (t.configure (.ofSettings s)).IsGrown := by
  refine configure_induction (P := IsGrown) h ?_ ?_ ?_ ?_
  · exact fun _ _ ht => ⟨ht.above, ht.gathered, ht.level⟩
  · exact fun _ n ht => ht.use n
  · exact fun _ _ _ ht => ht.change (fun _ => rfl) fun _ => .inr rfl
  · exact fun _ _ ht => ht.change (fun _ => rfl) fun _ => .inl rfl

/-! ## The way up -/

/-- The way up from a name leads to a logger of a tree. -/
inductive LeadsTo (t : Tree) : Name → Name × Logger → Prop where
  | here {n : Name} {l : Logger} (there : t.get? n = some l) : LeadsTo t n (n, l)
  | up {n p : Name} {l : Logger} {x : Name × Logger} (there : t.get? n = some l)
      (parent : l.parent = some p) (later : LeadsTo t p x) : LeadsTo t n x

/-- A logger with a name below another one, and with nothing above it that begins with that one. -/
def Leaves (x : Name × Logger) (lib : Name) : Prop :=
  x.1.isBelow lib = true ∧ ∀ p, x.2.parent = some p → ¬ lib <+: p

/-- The way up from a name leaves the names that begin with another one. -/
def Strays (t : Tree) (n lib : Name) : Prop := ∃ x, t.LeadsTo n x ∧ Leaves x lib

theorem LeadsTo.mem {x : Name × Logger} (h : t.LeadsTo n x) : x ∈ t.loggers := by
  induction h with
  | here there => exact mem_of_get? there
  | up _ _ _ ih => exact ih

/-- The way up leads to names that the first one is below. -/
theorem LeadsTo.isBelow (hgrown : t.IsGrown) {x : Name × Logger} (h : t.LeadsTo n x) :
    x.1 = n ∨ n.isBelow x.1 = true := by
  induction h with
  | here _ => exact .inl rfl
  | up there parent _ ih =>
      have hbelow := Name.isBelow_of_mem_above (hgrown.above _ (mem_of_get? there) _ parent).1
      rcases ih with hself | hother
      · exact .inr (hself ▸ hbelow)
      · exact .inr (Name.isBelow_trans hbelow hother)

/-- **Why a logger leaves the names that begin with another one**: it goes on after that with an
even number of dots, or it stands under the root and the root's name begins with that. -/
theorem IsGrown.leaves (h : t.IsGrown) (hlib : t.has lib = true) {x : Name × Logger}
    (hx : x ∈ t.loggers) (hleaves : Leaves x lib) :
    ¬ x.1.IsRightBelow lib ∨ lib <+: Name.root ∧ x.2.parent = none := by
  refine Classical.or_iff_not_imp_left.mpr fun hright => ?_
  have hbegins := h.gathered lib hlib x hx (Classical.not_not.mp hright)
  cases hparent : x.2.parent with
  | none =>
      rw [hparent] at hbegins
      exact ⟨hbegins, rfl⟩
  | some p =>
      rw [hparent] at hbegins
      exact absurd hbegins (hleaves.2 p hparent)

/-- **A name that goes on after another one with one dot does not stray**, unless the name of the
root begins with that. -/
theorem IsGrown.not_strays (h : t.IsGrown) (hlib : t.has lib = true) (hroot : ¬ lib <+: Name.root)
    {rest : List Char} (hrest : rest.head? ≠ some '.') : ¬ t.Strays (lib ++ '.' :: rest) lib := by
  rintro ⟨x, hleads, hleaves⟩
  have hright := Name.isRightBelow_of_isBelow hrest (hleads.isBelow h) hleaves.1
  rcases h.leaves hlib hleads.mem hleaves with hnot | ⟨hbegins, -⟩
  · exact hnot hright
  · exact hroot hbegins

/-- **The way up leads through the logger whose name begins the others**, unless it strays. -/
theorem IsGrown.mem_chainFrom (h : t.IsGrown) {l : Logger} (hlib : t.get? lib = some l)
    (hthere : t.has n = true) (hbelow : n.isBelow lib = true) (hway : ¬ t.Strays n lib) {fuel : Nat}
    (hfuel : n.length < fuel) : l ∈ t.chainFrom fuel n := by
  -- Names get shorter on the way up, but not shorter than the one they begin with.
  induction fuel generalizing n with
  | zero => cases hfuel
  | succ fuel ih =>
      obtain ⟨x, hx⟩ := exists_get?_of_has hthere
      have hstays : ¬ Leaves (n, x) lib := fun hleaves => hway ⟨_, .here hx, hleaves⟩
      obtain ⟨p, hparent, hbegins⟩ : ∃ p, x.parent = some p ∧ lib <+: p := by
        by_contra hnone
        exact hstays ⟨hbelow, fun p hp hbegins => hnone ⟨p, hp, hbegins⟩⟩
      obtain ⟨habove, hp⟩ := h.above _ (mem_of_get? hx) p hparent
      have hshorter : p.length < n.length := Name.length_lt_of_mem_above habove
      rw [chainFrom, hx]
      dsimp only
      rw [hparent]
      refine List.mem_cons_of_mem _ ?_
      rcases Name.isBelow_of_isPrefix hbelow (Name.isBelow_of_mem_above habove) hbegins with
        rfl | hnext
      · obtain ⟨fuel, rfl⟩ := Nat.exists_eq_add_one.mpr (show 0 < fuel by omega)
        obtain ⟨more, hchain⟩ := exists_chainFrom hlib fuel
        rw [hchain]
        exact List.mem_cons_self
      · have hnextWay : ¬ t.Strays p lib := by
          rintro ⟨y, hleads, hleaves⟩
          exact hway ⟨y, .up hx hparent hleads, hleaves⟩
        exact ih hp hnext hnextWay (by omega)

/-! ## Levels -/

/-- Where each level is none or one that the root has, or one on the way up, that one counts. -/
theorem effectiveLevel_of_chain {weight : Int} (hweight : weight ≠ 0)
    (hall : ∀ l ∈ t.chain n, l.level = 0 ∨ l.level = weight)
    (hone : t.root.level = weight ∨ ∃ l ∈ t.chain n, l.level = weight) :
    t.effectiveLevel n = weight := by
  rw [effectiveLevel]
  cases hfind : ((t.chain n).map Logger.level).find? (· ≠ 0) with
  | none =>
      refine hone.resolve_right ?_
      rintro ⟨l, hl, rfl⟩
      have hzero := List.find?_eq_none.mp hfind l.level (List.mem_map_of_mem hl)
      exact hzero (decide_eq_true hweight)
  | some w =>
      obtain ⟨l, hl, rfl⟩ := List.mem_map.mp (List.mem_of_find?_eq_some hfind)
      have hnonzero : l.level ≠ 0 := by simpa using List.find?_some hfind
      exact (hall l hl).resolve_left hnonzero

/-- No level of a logger on the way up is another one than that of warnings. -/
theorem IsGrown.level_of_mem_chain (h : t.IsGrown) : ∀ l ∈ t.chain n,
    l.level = 0 ∨ l.level = Level.warning.weight := by
  intro l hl
  have hparent : ∀ x ∈ t.loggers, ∀ m, x.2.parent = some m → m ∈ x.1.above :=
    fun x hx m hm => (h.above x hx m hm).1
  obtain ⟨m, hm, -⟩ := exists_of_mem_chain hparent hl
  exact h.level _ hm

/-- **Under a quiet root every logger takes warnings only**, and writes them in the plain form. -/
theorem IsGrown.level_and_outlet_of_root (h : t.IsGrown) (hroot : t.root = .quiet) (n : Name) :
    t.effectiveLevel n = Level.warning.weight ∧ t.outlet n = .plain := by
  have hlevel : t.root.level = Level.warning.weight := by rw [hroot]; rfl
  refine ⟨effectiveLevel_of_chain (by decide) h.level_of_mem_chain (.inl hlevel), ?_⟩
  rw [outlet, hroot]
  split <;> rfl

/-- **Below a pinned logger every logger takes warnings only**, and writes them in the plain form,
unless it strays. -/
theorem IsGrown.level_and_outlet_of_pins (h : t.IsGrown) (hpins : t.Pins lib)
    (hthere : t.has n = true) (hbelow : n.isBelow lib = true) (hway : ¬ t.Strays n lib) :
    t.effectiveLevel n = Level.warning.weight ∧ t.outlet n = .plain := by
  obtain ⟨l, hget, hlevel, hpropagate⟩ := hpins
  have hmem : l ∈ t.chain n := by
    rw [chain, Name.isRoot_eq_false_of_isBelow hbelow, if_neg Bool.false_ne_true]
    exact h.mem_chainFrom hget hthere hbelow hway (Nat.lt_succ_self _)
  refine ⟨effectiveLevel_of_chain (by decide) h.level_of_mem_chain (.inr ⟨l, hmem, hlevel⟩), ?_⟩
  have hreach : t.reachesRoot n = false := List.all_eq_false.mpr ⟨l, hmem, by simp [hpropagate]⟩
  rw [outlet, hreach, if_neg Bool.false_ne_true]

theorem Pins.has (h : t.Pins n) : t.has n = true := by
  obtain ⟨l, hget, -⟩ := h
  exact has_iff.mpr ⟨_, mem_of_get? hget, rfl⟩

/-- The loggers that a noisy module keeps to warnings: all of them if it has a name of the root, and
else its own, and those with a name below the module's that do not stray once they have been
used. -/
def IsQuieted (t : Tree) (n lib : Name) : Prop :=
  lib.isRoot = true ∨ n = lib ∨ n.isBelow lib = true ∧ ¬ (t.use n).Strays n lib

end Tree

/-- A noisy module keeps a logger to warnings whose name goes on after its own with one dot, unless
the name of the root begins with the module's. -/
theorem System.Follows.isQuieted_of_dot {s : System} {settings : Settings}
    (h : s.Follows settings) (hgrown : s.tree.IsGrown) {lib : Name}
    (hlib : lib ∈ noisyNames settings) (hroot : ¬ lib <+: Name.root) {rest : List Char}
    (hrest : rest.head? ≠ some '.') : s.tree.IsQuieted (lib ++ '.' :: rest) lib := by
  have hother : lib.isRoot = false := by
    rw [← Bool.not_eq_true, Name.isRoot, Bool.or_eq_true, List.isEmpty_iff, beq_iff_eq]
    rintro (rfl | rfl)
    · exact hroot List.nil_prefix
    · exact hroot List.prefix_rfl
  have hthere := ((h.use (lib ++ '.' :: rest)).pinned lib hlib hother).has
  exact .inr (.inr ⟨(Name.isRightBelow_of_dot hrest).isBelow,
    (hgrown.use _).not_strays hthere hroot hrest⟩)

/-- **The loggers that a noisy module keeps to warnings take warnings only**, in a log that follows
the settings, and write them in the plain form. -/
theorem System.Follows.level_and_outlet_use {s : System} {settings : Settings}
    (h : s.Follows settings) (hgrown : s.tree.IsGrown) {n lib : Name}
    (hlib : lib ∈ noisyNames settings) (hn : s.tree.IsQuieted n lib) :
    (s.tree.use n).effectiveLevel n = Level.warning.weight ∧
      (s.tree.use n).outlet n = .plain := by
  have hused := h.use n
  by_cases hroot : lib.isRoot = true
  · exact (hgrown.use n).level_and_outlet_of_root (hused.root_eq_quiet hlib hroot) n
  · have hother := Bool.eq_false_iff.mpr hroot
    have hpins := hused.pinned lib hlib hother
    rcases hn.resolve_left hroot with rfl | ⟨hbelow, hway⟩
    · exact hpins.level_and_outlet hother
    · exact (hgrown.use n).level_and_outlet_of_pins hpins
        (s.tree.has_use_self (Name.isRoot_eq_false_of_isBelow hbelow)) hbelow hway

end Log
end RouteProbe
