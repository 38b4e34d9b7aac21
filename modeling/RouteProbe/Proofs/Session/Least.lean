import RouteProbe.Proofs.Session.Asked

/-!
# The least that is written

What a logger is given, an event or a record, is written by the handler of the root or, where there
is none, in the plain form.  The handler has the level of the settings and writes nothing below it;
the plain form has the level of warnings, whatever the settings are.

A noisy module has no handler, since it keeps its records from the root and has none of its own.  So
the level of the settings bounds all that is written exactly if it is that of warnings or below, or
if there are no noisy modules (`least_written`).  Where it is above, warnings of noisy modules are
written in spite of it (`not_forall_keepsTo`).
-/

namespace RouteProbe

open Log

namespace Log

variable {s : System} {stamp : List Char}

/-- The method of an event that goes through the tree is the one that the call names. -/
theorem Call.ofName?_of_routedEvent {c : Call} {m : Method} {ms : Members}
    (h : c.routedEvent = .ok (m, ms)) : Method.ofName? c.method = some m := by
  rw [Call.routedEvent] at h
  split at h
  · cases h
  · next m' hm' =>
      obtain ⟨_, -, h⟩ := bind_eq_ok_iff.mp h
      obtain ⟨_, -, h⟩ := bind_eq_ok_iff.mp h
      cases h
      exact hm'

/-- **No event is written that the outlet of its logger does not take.** -/
theorem System.written_event_of_lt (hrouted : s.routed = true) {c : Call} {m : Method}
    (hm : Method.ofName? c.method = some m)
    (hlt : m.level.weight < ((s.tree.use c.logger).outlet c.logger).leastWeight) :
    (s.event stamp c).written = .none := by
  have hdone {log : System} {result : Except CallError Written}
      (h : ∀ w, result = .ok w → w = .none) : (log.done result).written = .none := by
    cases result with
    | error e => rfl
    | ok w => exact h w rfl
  rw [event]
  split
  · rfl
  · rw [if_pos hrouted]
    refine hdone fun w hw => ?_
    obtain ⟨⟨m', ms⟩, hevent, hroute⟩ := bind_eq_ok_iff.mp hw
    obtain rfl := Option.some.inj (hm.symm.trans (Call.ofName?_of_routedEvent hevent))
    have hroute := mapError_eq_ok_iff.mp hroute
    rw [route] at hroute
    split at hroute
    · dsimp only at hroute
      cases hcomplete : complete ⟨s.context, shownName c.logger, m.level.name, stamp⟩
          c.arguments ms with
      | error e => rw [hcomplete] at hroute; cases hroute
      | ok done =>
          rw [hcomplete] at hroute
          cases hroute
          exact if_pos hlt
    · cases hroute
      rfl

/-- **No record is written that the outlet of its logger does not take.** -/
theorem System.written_record_of_lt {n : Name} {weight : Int}
    (hlt : weight < ((s.tree.use n).outlet n).leastWeight) (template : Value)
    (arguments : List Value) : (s.record stamp n weight template arguments).2 = .none := by
  rw [record]
  dsimp only
  split
  · exact if_pos hlt
  · rfl

/-- A record without arguments, on a logger that takes warnings and has no handler, is written as
its message alone, if it is a warning at least. -/
theorem System.record_of_plain {n : Name}
    (hplain : (s.tree.use n).effectiveLevel n = Level.warning.weight ∧
      (s.tree.use n).outlet n = .plain) (weight : Int) (template : Value) :
    (s.record stamp n weight template []).2 =
      if Level.warning.weight ≤ weight then .errLine template.plainText else .none := by
  obtain ⟨hlevel, houtlet⟩ := hplain
  by_cases htaken : Level.warning.weight ≤ weight
  · have hpos : (0 : Int) < Level.warning.weight := by decide
    have henabled : (s.tree.use n).isEnabled n weight = true := by
      rw [Tree.isEnabled, hlevel, Bool.and_eq_true, decide_eq_true_eq, decide_eq_true_eq]
      exact ⟨Int.lt_of_lt_of_le hpos htaken, htaken⟩
    rw [record, if_pos htaken]
    simp only [henabled, if_true, houtlet]
    exact if_neg (Int.not_lt.mpr htaken)
  · rw [if_neg htaken]
    refine written_record_of_lt ?_ template []
    rw [houtlet]
    exact Int.not_le.mp htaken

/-- An outlet is the plain form or the one handler. -/
theorem Tree.leastWeight_outlet {t : Tree} {settings : Settings} (hroot : t.root = .asked settings)
    (n : Name) : (t.outlet n).leastWeight = Level.warning.weight ∨
      (t.outlet n).leastWeight = settings.logLevel.weight := by
  rw [outlet, hroot, Root.asked]
  split
  · split
    · next h heq =>
        split at heq
        · cases heq
        · cases heq
          exact .inr rfl
    · exact .inl rfl
  · exact .inl rfl

end Log

namespace Session

/-- A step gives a logger something of a weight: an event of a level, or a record. -/
inductive Step.Gives : Step → Name → Int → Prop where
  | event {c : Call} {m : Method} (method : Method.ofName? c.method = some m) :
      Gives (.event c) c.logger m.level.weight
  | record (n : Name) (weight : Int) (template : Value) (arguments : List Value) :
      Gives (.record n weight template arguments) n weight

/-- A step writes nothing that it is given. -/
def WritesNothing (s : Session) (stamp : List Char) (t : Step) : Prop :=
  ∃ result, (s.step stamp t).2 = .logged result .none

/-- Nothing below a level is written, whatever logger is given it. -/
def KeepsTo (s : Session) (level : Level) : Prop :=
  ∀ stamp t n weight, t.Gives n weight → weight < level.weight → s.WritesNothing stamp t

variable {s : Session} {stamp : List Char} {t : Step} {n : Name} {weight : Int}

/-- What the outlet of a logger does not take is not written. -/
theorem Step.Gives.writesNothing (hgives : t.Gives n weight) (hrouted : s.log.routed = true)
    (hlt : weight < ((s.log.tree.use n).outlet n).leastWeight) : s.WritesNothing stamp t := by
  cases hgives with
  | @event c m method =>
      refine ⟨(s.log.event stamp c).result, ?_⟩
      show Answer.logged (s.log.event stamp c).result (s.log.event stamp c).written = _
      rw [System.written_event_of_lt hrouted method hlt]
  | record n weight template arguments =>
      refine ⟨.ok (), ?_⟩
      show Answer.logged (.ok ()) (s.log.record stamp n weight template arguments).2 = _
      rw [System.written_record_of_lt hlt]

/-- **The least that is written.**  Take a session that has been asked once to configure its log, by
whatever history.  What a logger is given below the level of the settings, through either entry, is
not written if it is below warnings, and neither if no noisy module has a name of the root and the
logger is none of the modules and stands below none.  But a record without arguments on a noisy
module is written exactly if it is a warning at least, whatever the level of the settings is.  So
that level bounds all that is written if and only if it is the level of warnings or below it, or
there are no noisy modules. -/
theorem least_written (w : Surroundings) {history : History} {settings : Settings}
    (hasked : history.asked (start w) = [settings]) :
    let s := (start w).after history
    (∀ stamp t n weight, t.Gives n weight → weight < settings.logLevel.weight →
      (weight < Level.warning.weight ∨ LeavesRoot settings ∧ ¬ n.IsWithin (noisyNames settings)) →
      s.WritesNothing stamp t) ∧
    (∀ stamp, ∀ n ∈ noisyNames settings, ∀ weight template,
      (s.step stamp (.record n weight template [])).2 = .logged (.ok ())
        (if Level.warning.weight ≤ weight then .errLine template.plainText else .none)) ∧
    (s.KeepsTo settings.logLevel ↔
      settings.logLevel.weight ≤ Level.warning.weight ∨ settings.noisyModules = []) := by
  intro s
  have hpast : System.Past [settings] s.log := hasked ▸ past_after_start w history
  have h := hpast.hasAsked
  have hfollows := h.latest settings rfl
  have hbound : ∀ stamp t n weight, t.Gives n weight → weight < settings.logLevel.weight →
      (weight < Level.warning.weight ∨ LeavesRoot settings ∧ ¬ n.IsWithin (noisyNames settings)) →
      s.WritesNothing stamp t := by
    intro stamp t n weight hgives hlow hcase
    refine hgives.writesNothing hfollows.routed ?_
    rcases hcase with hquiet | ⟨hleaves, hbeyond⟩
    · rcases Tree.leastWeight_outlet (hfollows.use n).root n with hleast | hleast
      · rwa [hleast]
      · rwa [hleast]
    · have hfeeds := h.feeds rfl hleaves fun settings' hmem =>
        List.mem_singleton.mp hmem ▸ hbeyond
      rw [hfeeds.outlet]
      exact hlow
  have hnoisy : ∀ stamp, ∀ n ∈ noisyNames settings, ∀ weight template,
      (s.step stamp (.record n weight template [])).2 = .logged (.ok ())
        (if Level.warning.weight ≤ weight then .errLine template.plainText else .none) := by
    intro stamp n hn weight template
    show Answer.logged (.ok ()) (s.log.record stamp n weight template []).2 = _
    rw [System.record_of_plain (hfollows.level_and_outlet_use hpast.isGrown hn (.inr (.inl rfl)))]
  refine ⟨hbound, hnoisy, fun hkeeps => ?_, fun hcase stamp t n weight hgives hlow => ?_⟩
  · -- A warning of a noisy module would be written.
    by_contra hnot
    obtain ⟨hlevel, hmodules⟩ := not_or.mp hnot
    obtain ⟨name, names, hlist⟩ := List.exists_cons_of_ne_nil hmodules
    have hn : name.toList ∈ noisyNames settings :=
      List.mem_map_of_mem (hlist ▸ List.mem_cons_self)
    obtain ⟨result, hnone⟩ := hkeeps [] _ name.toList Level.warning.weight
      (.record name.toList Level.warning.weight (.text "") []) (Int.not_le.mp hlevel)
    rw [hnoisy [] name.toList hn, if_pos (Int.le_refl _)] at hnone
    cases hnone
  · refine hbound stamp t n weight hgives hlow ?_
    rcases hcase with hlevel | hmodules
    · exact .inl (Int.lt_of_lt_of_le hlow hlevel)
    · refine .inr ⟨?_, ?_⟩
      · rw [LeavesRoot, hmodules]
        exact ⟨List.not_mem_nil, List.not_mem_nil⟩
      · rintro ⟨m, hm, -⟩
        rw [noisyNames, hmodules] at hm
        cases hm

/-- A history that asks for critical events only, after a logger below a noisy module has been used
and something has been bound. -/
def criticalHistory : History :=
  [([], .record "httpx.pool".toList 20 (.text "early") []), ([], .bind [("job", .int 7)]),
    ([], .configure [("LOG_LEVEL", .text "critical")])]

/-- A warning of a noisy module is written after this history, and no warning is of a logger beyond
the modules. -/
theorem least_written_critical :
    let s := (start ⟨[], none⟩).after criticalHistory
    (s.step [] (.record "httpx".toList 30 (.text "a%b") [])).2 =
        .logged (.ok ()) (.errLine "a%b".toList) ∧
      s.WritesNothing [] (.record "httpxy".toList 30 (.text "a%b") []) ∧
      ¬ s.KeepsTo .critical := by
  have hasked : criticalHistory.asked (start ⟨[], none⟩) =
      [{ Settings.default with logLevel := .critical }] := rfl
  obtain ⟨hbound, hnoisy, hkeeps⟩ := least_written ⟨[], none⟩ hasked
  refine ⟨hnoisy [] "httpx".toList (by decide) 30 (.text "a%b"), ?_, fun h => ?_⟩
  · exact hbound [] _ "httpxy".toList 30 (.record _ 30 (.text "a%b") []) (by decide)
      (.inr ⟨by decide, by decide⟩)
  · exact absurd (hkeeps.mp h) (by decide)

/-- **The level of the settings does not bound all that is written**: a warning of a noisy module is
written where the level is critical. -/
theorem not_forall_keepsTo :
    ¬ ∀ (w : Surroundings) (history : History) (settings : Settings),
      history.asked (start w) = [settings] →
        ((start w).after history).KeepsTo settings.logLevel := by
  intro hall
  have hkeeps := hall ⟨[], none⟩ [([], .configure [("LOG_LEVEL", .text "critical")])]
    { Settings.default with logLevel := .critical } rfl
  obtain ⟨result, hnone⟩ := hkeeps [] _ "httpx".toList 30 (.record _ 30 (.text "x") []) (by decide)
  have hwritten : (((start ⟨[], none⟩).after
      [([], .configure [("LOG_LEVEL", .text "critical")])]).step []
        (.record "httpx".toList 30 (.text "x") [])).2 = .logged (.ok ()) (.errLine ['x']) := rfl
  cases hwritten.symm.trans hnone

end Session
end RouteProbe
