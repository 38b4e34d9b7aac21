import RouteProbe.Proofs.Log.Configured
import RouteProbe.Proofs.Log.Routed
import RouteProbe.Session.Step

/-!
# Histories of sessions

A session comes out of a history, which is the steps that it has taken, each at its time
(`Session.after`).  Two things can be said of every history at once.  The surroundings change in
the steps that change them and in no other (`surroundings_after`).  And whatever is said in a
session, by an event, a query or a complaint about the file of settings, has loggers come into the
tree and leaves all else as it was (`Session.LogsTo`): the settings that are kept, what is bound for
all events, and the root of the log.
-/

namespace RouteProbe
namespace Session

open Log

/-- Steps in turn, each with its time. -/
abbrev History := List (List Char × Step)

/-- The session after some steps, with queries going through a client. -/
def after (s : Session) (history : History) (client : Client := .plain) : Session :=
  history.foldl (fun s t => (s.step t.1 t.2 client).1) s

variable {s s' s'' : Session} {client : Client}

theorem after_cons (s : Session) (t : List Char × Step) (history : History) :
    s.after (t :: history) client = (s.step t.1 t.2 client).1.after history client := rfl

theorem after_append (s : Session) (old recent : History) :
    s.after (old ++ recent) client = (s.after old client).after recent client :=
  List.foldl_append

/-! ## What saying something leaves as it was -/

/-- From the first session to the second loggers of some names have been used, and nothing else has
happened. -/
def LogsTo (s s' : Session) : Prop :=
  ∃ names : List Name,
    s' = { s with log := { s.log with tree := names.foldl Tree.use s.log.tree } }

theorem LogsTo.refl (s : Session) : s.LogsTo s := ⟨[], rfl⟩

theorem LogsTo.trans (h : s.LogsTo s') (h' : s'.LogsTo s'') : s.LogsTo s'' := by
  obtain ⟨names, rfl⟩ := h
  obtain ⟨names', rfl⟩ := h'
  exact ⟨names ++ names', by rw [List.foldl_append]⟩

theorem LogsTo.use (s : Session) (n : Name) :
    s.LogsTo { s with log := { s.log with tree := s.log.tree.use n } } := ⟨[n], rfl⟩

theorem LogsTo.surroundings (h : s.LogsTo s') : s'.surroundings = s.surroundings := by
  obtain ⟨names, rfl⟩ := h
  rfl

theorem LogsTo.kept (h : s.LogsTo s') : s'.kept = s.kept := by
  obtain ⟨names, rfl⟩ := h
  rfl

theorem LogsTo.context (h : s.LogsTo s') : s'.log.context = s.log.context := by
  obtain ⟨names, rfl⟩ := h
  rfl

theorem LogsTo.routed (h : s.LogsTo s') : s'.log.routed = s.log.routed := by
  obtain ⟨names, rfl⟩ := h
  rfl

/-- What holds of the tree and goes on to hold when a logger is used still holds of it. -/
theorem LogsTo.tree {P : Tree → Prop} (h : s.LogsTo s') (hstart : P s.log.tree)
    (huse : ∀ t n, P t → P (t.use n)) : P s'.log.tree := by
  obtain ⟨names, rfl⟩ := h
  show P (names.foldl Tree.use s.log.tree)
  induction names generalizing s with
  | nil => exact hstart
  | cons n names ih =>
      exact ih (s := { s with log := { s.log with tree := s.log.tree.use n } }) (huse _ n hstart)

theorem LogsTo.root (h : s.LogsTo s') : s'.log.tree.root = s.log.tree.root :=
  h.tree (P := fun t => t.root = s.log.tree.root) rfl fun t n ht => (t.root_use n).trans ht

theorem logsTo_record (s : Session) (stamp : List Char) (n : Name) (weight : Int)
    (template : Value) (arguments : List Value) :
    s.LogsTo { s with log := (s.log.record stamp n weight template arguments).1 } := by
  rw [System.record]
  dsimp only
  split
  · exact LogsTo.use s n
  · exact LogsTo.use s n

theorem logsTo_event (s : Session) (stamp : List Char) (c : Call) :
    s.LogsTo (s.event stamp c).session := by
  show s.LogsTo { s with log := (s.log.event stamp c).system }
  rw [System.event]
  split
  · exact LogsTo.refl s
  · split
    · rw [System.system_done]
      exact LogsTo.use s c.logger
    · rw [System.system_done]
      exact LogsTo.refl s

theorem logsTo_complain (s : Session) (stamp : List Char) (lines : List Nat) :
    s.LogsTo (s.complain stamp lines).1 := by
  induction lines generalizing s with
  | nil => exact LogsTo.refl s
  | cons line lines ih => exact (logsTo_record s stamp fileLogger _ _ []).trans (ih _)

theorem logsTo_load (s : Session) (stamp : List Char) (given : Members) :
    s.LogsTo (s.load stamp given).session := logsTo_complain s stamp _

/-- Asking for the settings that are kept may keep some, besides. -/
theorem exists_logsTo_keptSettings (s : Session) (stamp : List Char) :
    ∃ s' kept loads, s.LogsTo s' ∧ (s.keptSettings stamp).session = { s' with kept, loads } := by
  rw [keptSettings]
  split
  · exact ⟨s, s.kept, s.loads, LogsTo.refl s, rfl⟩
  · dsimp only
    split
    · exact ⟨_, _, _, logsTo_load s stamp [], rfl⟩
    · exact ⟨_, _, _, logsTo_load s stamp [], rfl⟩

theorem context_keptSettings (s : Session) (stamp : List Char) :
    (s.keptSettings stamp).session.log.context = s.log.context := by
  obtain ⟨s', kept, loads, hlogs, heq⟩ := exists_logsTo_keptSettings s stamp
  rw [heq]
  exact hlogs.context

theorem logsTo_say (s : Session) (stamp : List Char) (n : Notice) :
    s.LogsTo (s.say stamp n).session := by
  cases n with
  | event level text ms => exact logsTo_event s stamp _
  | exchanged text => exact logsTo_record s stamp clientLogger _ _ []
  | traced logger text => exact logsTo_record s stamp logger _ _ []
  | warned text => exact LogsTo.refl s

theorem logsTo_sayAll (s : Session) (stamp : List Char) (ns : List Notice) :
    s.LogsTo (s.sayAll stamp ns).session := by
  induction ns generalizing s with
  | nil => exact LogsTo.refl s
  | cons n ns ih =>
      rw [sayAll]
      dsimp only
      split
      · exact logsTo_say s stamp n
      · exact (logsTo_say s stamp n).trans (ih _)

/-- **A query in a session leaves nothing but loggers that have been used.** -/
theorem logsTo_query (s : Session) (stamp host path : List Char) (script : Network.Script) :
    s.LogsTo (s.query stamp host path script client).session := by
  have hfirst := logsTo_sayAll s stamp
    ((client s.surroundings.vars host path script).notices.take 1)
  have hmore := hfirst.trans (logsTo_sayAll _ stamp
    ((client s.surroundings.vars host path script).notices.drop 1))
  rw [query]
  dsimp only
  split
  · exact hfirst
  · split
    · exact hmore
    · exact hmore

/-- A run of the command binds the host before it makes its query. -/
theorem logsTo_runRequest (s : Session) (stamp : List Char) (before : Written) (r : Cli.Request)
    (script : Network.Script) :
    LogsTo { s with log := s.log.bind [(hostKey, hostValue r.host)] }
      (s.runRequest stamp before r script client).session := by
  have hquery : LogsTo _ (Session.query _ stamp (hostText r.host) r.path script client).session :=
    logsTo_query { s with log := s.log.bind [(hostKey, hostValue r.host)] } stamp _ _ script
  rw [runRequest]
  dsimp only
  split
  · exact hquery
  · split
    · exact hquery
    · split
      · exact hquery.trans (logsTo_event _ stamp _)
      · exact hquery.trans (logsTo_event _ stamp _)

/-! ## Surroundings -/

/-- The surroundings after a step. -/
def Step.surroundings (w : Surroundings) : Step → Surroundings
  | .setVariables changes => changes.foldl (fun w c => w.set c.1 c.2) w
  | .setFile text => { w with file := text }
  | _ => w

/-- The surroundings after a history. -/
def History.surroundings (w : Surroundings) (history : History) : Surroundings :=
  history.foldl (fun w t => t.2.surroundings w) w

theorem surroundings_keptSettings (s : Session) (stamp : List Char) :
    (s.keptSettings stamp).session.surroundings = s.surroundings := by
  obtain ⟨s', kept, loads, hlogs, heq⟩ := exists_logsTo_keptSettings s stamp
  rw [heq]
  exact hlogs.surroundings

theorem surroundings_run (s : Session) (stamp : List Char) (arguments : List Cli.Argument)
    (script : Network.Script) :
    (s.run stamp arguments script client).session.surroundings = s.surroundings := by
  have hkept := surroundings_keptSettings s stamp
  rw [run]
  dsimp only
  split
  · exact hkept
  · split
    · split <;> exact hkept
    · exact hkept
    · exact (logsTo_runRequest _ stamp _ _ script).surroundings.trans hkept

theorem surroundings_step (s : Session) (stamp : List Char) (t : Step) :
    (s.step stamp t client).1.surroundings = t.surroundings s.surroundings := by
  cases t with
  | setVariables changes => rfl
  | setFile text => rfl
  | settings given => exact (logsTo_load s stamp given).surroundings
  | keptSettings =>
      rw [step, serve]
      split <;> exact surroundings_keptSettings s stamp
  | forget => rfl
  | describe given => exact (logsTo_load s stamp given).surroundings
  | configure given =>
      rw [step, configure]
      dsimp only
      split <;> exact (logsTo_load s stamp given).surroundings
  | event call => exact (logsTo_event s stamp call).surroundings
  | record logger weight template arguments => rfl
  | loggers names => rfl
  | bind ms => rfl
  | clear => rfl
  | context => rfl
  | query host path script => exact (logsTo_query s stamp host path script).surroundings
  | command arguments script => exact surroundings_run s stamp arguments script

/-- **The surroundings after a history** are what its steps have made of those before it. -/
theorem surroundings_after (s : Session) (history : History) :
    (s.after history client).surroundings = History.surroundings s.surroundings history := by
  induction history generalizing s with
  | nil => rfl
  | cons t history ih => rw [after_cons, ih, surroundings_step]; rfl

end Session
end RouteProbe
