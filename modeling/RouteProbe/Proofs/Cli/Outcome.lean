import RouteProbe.Cli.Outcome
import RouteProbe.Proofs.Result
import RouteProbe.Proofs.Template.Doubled

/-!
# Every command line comes to an end

A command line should come to a request for a host that has a text, or to an end with 0 or 2
(`Outcome.IsOrderly`).  There are exactly two ways in which it does not (`isOrderly_outcome_iff`).
The text about the host is a template in which the default host stands as it is, so a help that is
asked for cannot be written if the template is wrong; and the mark `--` attached to the option for
the host leaves the request without a host.  The first cannot happen if the default host has no
percent sign, and could not if its percent signs were doubled; one percent sign at the end of the
host is enough for it (`outcome_of_lone`).

What stops the taking of arguments depends only on how they are read, and not on what is known on
the way (`take_eq_error_iff`), and so does the host that is given (`host_of_take`).
-/

namespace RouteProbe
namespace Cli

/-- Arguments with what they are read as. -/
abbrev Readings := List (Argument × Reading)

/-! ## What stops the taking -/

/-- What first stops the taking of arguments, if anything does. -/
def firstStop : Readings → Option Stop
  | [] => none
  | (_, .short attached) :: _ => some (shortHelpStop attached)
  | (_, .long .help none) :: _ => some .help
  | (_, .long .help (some value)) :: _ => some (.wrong (.unusedValue .help value))
  | (_, .long .host none) :: (_, .operand) :: more => firstStop more
  | (_, .long .host none) :: _ => some (.wrong (.missingValue .host))
  | (_, .long .host (some _)) :: more => firstStop more
  | (_, .operand) :: more => firstStop more
  | (_, .optionsEnd) :: more => firstStop more
  | (_, .unknown) :: more => firstStop more

/-- **What stops the taking does not depend on what is known**: the first stop is the error, and
without one there is none. -/
theorem take_eq_error_iff (p : Progress) (rs : Readings) (s : Stop) :
    take p rs = .error s ↔ firstStop rs = some s := by
  fun_induction take p rs with
  | case1 => simp [firstStop]
  | case3 | case4 | case5 => simp [firstStop]
  | case8 _ _ rest halone =>
      rw [firstStop, Except.error.injEq, Option.some.injEq]
      exact halone
  -- in all other cases an argument is passed, whatever it changes
  | case2 _ _ _ ih | case6 _ _ _ _ ih | case7 _ _ _ _ ih | case9 _ _ _ _ _ ih
  | case10 _ _ _ _ _ ih | case11 _ _ _ _ _ ih | case12 _ _ _ _ _ ih | case13 _ _ _ _ _ ih
  | case14 _ _ _ _ _ ih | case15 _ _ _ _ _ ih | case16 _ _ _ _ _ ih => simpa [firstStop] using ih

/-- The reading asks for help, and nothing is wrong with it. -/
def Reading.IsHelp : Reading → Prop
  | .long .help none => True
  | .short attached => shortHelpStop attached = .help
  | _ => False

theorem firstStop_of_isHelp {r : Reading} (h : r.IsHelp) (a : Argument) (after : Readings) :
    firstStop ((a, r) :: after) = some .help := by
  match r, h with
  | .long .help none, _ => rfl
  | .short attached, h => exact congrArg some h

/-- Where nothing stops, what is behind it stops. -/
theorem firstStop_append {before : Readings} (h : firstStop before = none) (after : Readings) :
    firstStop (before ++ after) = firstStop after := by
  fun_induction firstStop before with
  | case1 => rfl
  | case2 | case3 | case4 | case6 => cases h
  | case5 _ _ _ ih | case7 _ _ _ ih | case8 _ _ ih | case9 _ _ ih | case10 _ _ ih => exact ih h

/-- Help is what first stops if and only if a reading asks for it and nothing stops before. -/
theorem firstStop_eq_help_iff (rs : Readings) :
    firstStop rs = some .help ↔
      ∃ before a r after, rs = before ++ (a, r) :: after ∧ firstStop before = none ∧ r.IsHelp := by
  constructor
  · intro h
    fun_induction firstStop rs with
    | case1 => cases h
    | case2 a attached after => exact ⟨[], a, _, after, rfl, rfl, Option.some.inj h⟩
    | case3 a after => exact ⟨[], a, _, after, rfl, rfl, trivial⟩
    | case4 | case6 => cases h
    | case5 a b more ih =>
        obtain ⟨before, c, r, after, rfl, hbefore, hhelp⟩ := ih h
        exact ⟨_ :: _ :: before, c, r, after, rfl, hbefore, hhelp⟩
    | case7 _ _ more ih | case8 _ more ih | case9 _ more ih | case10 _ more ih =>
        obtain ⟨before, c, r, after, rfl, hbefore, hhelp⟩ := ih h
        exact ⟨_ :: before, c, r, after, rfl, hbefore, hhelp⟩
  · rintro ⟨before, a, r, after, rfl, hbefore, hhelp⟩
    rw [firstStop_append hbefore, firstStop_of_isHelp hhelp]

/-! ## The host that is given -/

/-- The hosts that are given, in order. -/
def hostsIn : Readings → List HostChoice
  | [] => []
  | (_, .long .host (some value)) :: more => .ofAttached value :: hostsIn more
  | (_, .long .host none) :: (a, .operand) :: more => .named a :: hostsIn more
  | _ :: more => hostsIn more

/-- **The host that counts is the last one**, and what is known before only counts if there is
none. -/
theorem host_of_take {p q : Progress} {rs : Readings} (h : take p rs = .ok q) :
    q.host = (hostsIn rs).getLast?.or p.host := by
  fun_induction take p rs with
  | case1 => exact (congrArg Progress.host (Except.ok.inj h)).symm
  | case3 | case4 | case5 | case8 => cases h
  | case6 _ _ value more ih | case7 _ _ value more ih =>
      rw [ih h, hostsIn, List.getLast?_cons]
      cases (hostsIn more).getLast? <;> rfl
  | case2 _ _ _ ih | case9 _ _ _ _ _ ih | case10 _ _ _ _ _ ih | case11 _ _ _ _ _ ih
  | case12 _ _ _ _ _ ih | case13 _ _ _ _ _ ih | case14 _ _ _ _ _ ih | case15 _ _ _ _ _ ih
  | case16 _ _ _ _ _ ih => simpa [hostsIn] using ih h

/-- The host that the arguments give, if they can be read and give one. -/
def hostGiven (as : List Argument) : Option HostChoice :=
  match readAll as with
  | .ok rs => (hostsIn rs).getLast?
  | .error _ => none

/-! ## What is asked for -/

/-- The arguments ask for help: all of them can be read, one of them asks for it, and nothing in
front of that one stops. -/
def AsksHelp (as : List Argument) : Prop :=
  ∃ before a r after, readAll as = .ok (before ++ (a, r) :: after) ∧ firstStop before = none ∧
    r.IsHelp

/-- What is read and taken is what a request is made of. -/
theorem take_of_request {defaultHost : List Char} {as : List Argument} {r : Request}
    (h : request defaultHost as = .ok r) :
    ∃ rs p, readAll as = .ok rs ∧ take .start rs = .ok p ∧
      r.host = p.host.getD (.named defaultHost) := by
  obtain ⟨rs, hread, h⟩ := bind_eq_ok_iff.mp h
  obtain ⟨p, htake, h⟩ := bind_eq_ok_iff.mp h
  refine ⟨rs, p, mapError_eq_ok_iff.mp hread, htake, ?_⟩
  split at h
  · rw [← Except.ok.inj h]
  · cases h

/-- **Help is asked for**, whatever the default host is, if an argument asks for it and nothing
stops before. -/
theorem request_eq_help_iff (defaultHost : List Char) (as : List Argument) :
    request defaultHost as = .error .help ↔ AsksHelp as := by
  constructor
  · intro h
    obtain hread | ⟨rs, hread, h⟩ := bind_eq_error_iff.mp h
    · obtain ⟨e, -, he⟩ := mapError_eq_error_iff.mp hread
      cases he
    obtain htake | ⟨p, -, h⟩ := bind_eq_error_iff.mp h
    · obtain ⟨before, a, r, after, rfl, hstop⟩ :=
        (firstStop_eq_help_iff rs).mp ((take_eq_error_iff .start rs .help).mp htake)
      exact ⟨before, a, r, after, mapError_eq_ok_iff.mp hread, hstop⟩
    · split at h <;> cases h
  · rintro ⟨before, a, r, after, hread, hstop⟩
    have hfirst := (firstStop_eq_help_iff _).mpr ⟨before, a, r, after, rfl, hstop⟩
    exact bind_eq_error_iff.mpr (.inr ⟨_, mapError_eq_ok_iff.mpr hread,
      bind_eq_error_iff.mpr (.inl ((take_eq_error_iff .start _ .help).mpr hfirst))⟩)

/-- A request is for the host that the arguments give, or for the default. -/
theorem host_of_request {defaultHost : List Char} {as : List Argument} {r : Request}
    (h : request defaultHost as = .ok r) :
    r.host = (hostGiven as).getD (.named defaultHost) := by
  obtain ⟨rs, p, hread, htake, hhost⟩ := take_of_request h
  have hstart : Progress.start.host = none := rfl
  rw [hhost, host_of_take htake, hostGiven, hread, hstart, Option.or_none]

/-! ## When the help can be written -/

/-- The text about the host can be written. -/
def CanShow (defaultHost : List Char) : Prop :=
  ∃ text, Template.expand (hostTemplate defaultHost) (.ofMembers (hostMembers defaultHost)) =
    .ok text

/-- The help can be written if the text about the host can. -/
theorem help_eq_error_iff (width : Int) (defaultHost : List Char) (e : TemplateError) :
    help width defaultHost = .error e ↔
      Template.expand (hostTemplate defaultHost) (.ofMembers (hostMembers defaultHost)) =
        .error e := by
  rw [help]
  cases Template.expand (hostTemplate defaultHost) (.ofMembers (hostMembers defaultHost)) with
  | error e' => rfl
  | ok text => exact ⟨nofun, nofun⟩

/-- The words in front of the host have no percent sign. -/
theorem notMem_hostStart : '%' ∉ "collector address (default: ".toList := by decide

/-- The template of a doubled host is doubled itself. -/
theorem hostTemplate_doubled (defaultHost : List Char) :
    hostTemplate (Template.doubled defaultHost) = Template.doubled (hostTemplate defaultHost) := by
  have hend : '%' ∉ [')'] := by decide
  unfold hostTemplate
  rw [Template.doubled_append, Template.doubled_append,
    Template.doubled_of_notMem notMem_hostStart, Template.doubled_of_notMem hend]

/-- **Doubled percent signs are shown as they are**, so nothing can go wrong with them. -/
theorem canShow_doubled (defaultHost : List Char) : CanShow (Template.doubled defaultHost) := by
  rw [CanShow, hostTemplate_doubled]
  exact ⟨_, Template.expand_doubled rfl _⟩

/-- A host without percent signs can be shown. -/
theorem canShow_of_notMem {defaultHost : List Char} (h : '%' ∉ defaultHost) :
    CanShow defaultHost := by
  have hshow := canShow_doubled defaultHost
  rwa [Template.doubled_of_notMem h] at hshow

/-- A host with one percent sign, at its end, makes the template wrong. -/
theorem expand_hostTemplate_of_lone {host : List Char} (h : '%' ∉ host) (a : Template.Arguments)
    (ha : a.pending ≠ []) :
    Template.expand (hostTemplate (host ++ ['%'])) a =
      .error (.unknownConversion ')' (host.length + 29)) := by
  have hplain : '%' ∉ "collector address (default: ".toList ++ host := by
    rw [List.mem_append, not_or]
    exact ⟨notMem_hostStart, h⟩
  have htemplate : hostTemplate (host ++ ['%']) =
      "collector address (default: ".toList ++ host ++ ['%', ')'] := by
    unfold hostTemplate
    simp only [List.append_assoc, List.cons_append, List.nil_append]
  rw [htemplate, Template.expand_lone hplain ha, List.length_append]
  have hlength : "collector address (default: ".toList.length = 28 := rfl
  rw [hlength, Nat.add_comm 28, Nat.add_assoc]

/-! ## What a command line comes to -/

/-- The arguments come to what they should: a request for a host with a text, or an end, which is 0
with nothing on standard error if help is asked for, and 2 with nothing on standard output if it is
not. -/
def Outcome.IsOrderly (as : List Argument) : Outcome → Prop
  | .asked r => ∃ text, r.host = .named text
  | .exit code out err =>
      code = 0 ∧ AsksHelp as ∧ err = [] ∨ code = 2 ∧ ¬ AsksHelp as ∧ out = []
  | .failed _ => False

/-- The command line fails with an error of the template if help is asked for, and only then. -/
theorem outcome_eq_failed_iff (width : Int) (defaultHost : List Char) (as : List Argument)
    (e : TemplateError) :
    outcome width defaultHost as = .failed e ↔
      AsksHelp as ∧ Template.expand (hostTemplate defaultHost)
        (.ofMembers (hostMembers defaultHost)) = .error e := by
  rw [← request_eq_help_iff defaultHost, ← help_eq_error_iff width, outcome]
  split
  next r hr => simp [hr]
  next hhelp =>
    rw [hhelp]
    cases help width defaultHost <;> simp
  next e' hwrong => simp [hwrong]

/-- What help fails with where the default host ends in a lone percent sign. -/
theorem outcome_of_lone (width : Int) {host : List Char} (h : '%' ∉ host) {as : List Argument}
    (hhelp : AsksHelp as) :
    outcome width (host ++ ['%']) as = .failed (.unknownConversion ')' (host.length + 29)) :=
  (outcome_eq_failed_iff width _ as _).mpr
    ⟨hhelp, expand_hostTemplate_of_lone h _ (List.cons_ne_nil _ _)⟩

/-- Nothing fails exactly if the text about the host can be written where help is asked for. -/
theorem forall_ne_failed_iff (width : Int) (defaultHost : List Char) (as : List Argument) :
    (∀ e, outcome width defaultHost as ≠ .failed e) ↔ (AsksHelp as → CanShow defaultHost) := by
  simp only [ne_eq, outcome_eq_failed_iff, not_and]
  constructor
  · intro h hhelp
    cases hexpand : Template.expand (hostTemplate defaultHost)
        (.ofMembers (hostMembers defaultHost)) with
    | ok text => exact ⟨text, hexpand⟩
    | error e => exact absurd hexpand (h e hhelp)
  · intro h e hhelp hexpand
    obtain ⟨text, htext⟩ := h hhelp
    rw [hexpand] at htext
    cases htext

theorem outcome_eq_asked_iff (width : Int) (defaultHost : List Char) (as : List Argument)
    (r : Request) :
    outcome width defaultHost as = .asked r ↔ request defaultHost as = .ok r := by
  rw [outcome]
  split
  next r' hr => simp [hr]
  next hhelp =>
    rw [hhelp]
    cases help width defaultHost <;> simp
  next e hwrong => simp [hwrong]

/-- Every end is in good order. -/
theorem isOrderly_of_exit {width : Int} {defaultHost : List Char} {as : List Argument} {code : Nat}
    {out err : List Char} (h : outcome width defaultHost as = .exit code out err) :
    (Outcome.exit code out err).IsOrderly as := by
  have hhelp := request_eq_help_iff defaultHost as
  rw [outcome] at h
  split at h
  next => cases h
  next hrequest =>
    split at h
    next =>
      cases h
      exact .inl ⟨rfl, hhelp.mp hrequest, rfl⟩
    next => cases h
  next hrequest =>
    have hnone : ¬ AsksHelp as := by
      rw [← hhelp, hrequest]
      exact nofun
    cases h
    exact .inr ⟨rfl, hnone, rfl⟩

/-- A request is in good order unless the arguments leave it without a host. -/
theorem isOrderly_asked_iff {defaultHost : List Char} {as : List Argument} {r : Request}
    (h : request defaultHost as = .ok r) :
    (Outcome.asked r).IsOrderly as ↔ hostGiven as ≠ some .nothing := by
  rw [Outcome.IsOrderly, host_of_request h]
  match hostGiven as with
  | none => simp
  | some (.named text) => simp
  | some .nothing => simp

/-- **When a command line comes to what it should**: exactly if the text about the host can be
written where help is asked for, and a request is not left without a host.  Without percent signs in
the default host nothing fails, and nothing would if they were doubled; with a lone one at its end,
every help does. -/
theorem isOrderly_outcome_iff (width : Int) (defaultHost : List Char) (as : List Argument) :
    ((outcome width defaultHost as).IsOrderly as ↔
      (AsksHelp as → CanShow defaultHost) ∧
        ∀ r, outcome width defaultHost as = .asked r → hostGiven as ≠ some .nothing) ∧
    ('%' ∉ defaultHost → ∀ e, outcome width defaultHost as ≠ .failed e) ∧
    (∀ e, outcome width (Template.doubled defaultHost) as ≠ .failed e) ∧
    ∀ host, '%' ∉ host → defaultHost = host ++ ['%'] → AsksHelp as →
      outcome width defaultHost as = .failed (.unknownConversion ')' (host.length + 29)) := by
  have hshow := forall_ne_failed_iff width defaultHost as
  refine ⟨?_, fun hplain => hshow.mpr fun _ => canShow_of_notMem hplain,
    (forall_ne_failed_iff width _ as).mpr fun _ => canShow_doubled defaultHost, ?_⟩
  · rw [← hshow]
    cases ho : outcome width defaultHost as with
    | asked r =>
        rw [isOrderly_asked_iff ((outcome_eq_asked_iff width defaultHost as r).mp ho)]
        exact ⟨fun h => ⟨nofun, fun _ _ => h⟩, fun h => h.2 r rfl⟩
    | exit code out err => exact ⟨fun _ => ⟨nofun, nofun⟩, fun _ => isOrderly_of_exit ho⟩
    | failed e => exact ⟨False.elim, fun h => h.1 e rfl⟩
  · rintro host hplain rfl hhelp
    exact outcome_of_lone width hplain hhelp

/-- A help that cannot be written, because the default host ends in a percent sign. -/
theorem not_forall_isOrderly_outcome :
    ¬ ∀ (width : Int) (defaultHost : List Char) (as : List Argument),
      (outcome width defaultHost as).IsOrderly as := by
  intro h
  have hplain : '%' ∉ "100".toList := by decide
  have hhelp : AsksHelp ["-h".toList] := ⟨[], _, .short none, [], rfl, rfl, rfl⟩
  have horderly := h 78 ("100".toList ++ ['%']) ["-h".toList]
  rw [outcome_of_lone 78 hplain hhelp] at horderly
  exact horderly

end Cli

end RouteProbe
