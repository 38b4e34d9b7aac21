import RouteProbe.Proofs.Log.Routed
import RouteProbe.Proofs.Query.Client
import RouteProbe.Session.Basic

/-!
# What a query says in a session

A session makes a query through a client and logs what is said, and logging could fail.  It does not
fail when the log is ready: the members of every notice of a query have names that are not reserved
(`isPlain_of_mem_notices`), and a record of the client has no members, so each of them is logged,
and what comes of the query in the session is what comes of it by itself (`query_through`).

Nothing of this is written to standard output.
-/

namespace RouteProbe

open Log

/-- A notice whose members have no reserved names. -/
def Notice.IsPlain : Notice → Prop
  | .event _ _ ms => ∀ k ∈ reservedKeys, ms.Lacks k
  | _ => True

/-- Members under certain names lack all others. -/
theorem lacks_of_names {ms : Members} (names : List String) {reserved : List String}
    (hnames : ms.map (·.1) = names) (h : ∀ k ∈ reserved, k ∉ names) :
    ∀ k ∈ reserved, ms.Lacks k := by
  intro k hk m hm hkey
  rw [← hnames] at h
  exact h k hk (hkey ▸ List.mem_map_of_mem hm)

/-- **No notice of a query has a reserved name among its members.** -/
theorem isPlain_of_mem_notices {host path : List Char} {script : Network.Script} {n : Notice}
    (h : n ∈ (Query.run host path script).notices) : n.IsPlain := by
  rcases Query.cases_of_mem_notices h with rfl | ⟨text, rfl⟩ | ⟨e, -, rfl⟩ | ⟨e, -, rfl⟩
  · exact lacks_of_names ["url"] rfl (by decide)
  · trivial
  · exact lacks_of_names ["url", "status"] rfl (by decide)
  · exact lacks_of_names ["url"] rfl (by decide)

/-- Neither has one of a client that annotates what a query says. -/
theorem Report.Annotates.isPlain {host path : List Char} {script : Network.Script} {r : Report}
    (h : r.Annotates (Query.run host path script)) {n : Notice} (hn : n ∈ r.notices) :
    n.IsPlain := by
  rcases h.cases hn with hn | ⟨logger, text, rfl, -⟩ | ⟨text, rfl⟩
  · exact isPlain_of_mem_notices hn
  · trivial
  · trivial

namespace Session

variable {s : Session}

/-- An event without arguments is plain if its members are. -/
theorem isPlain_eventCall (logger : Name) (level : Level) (text : List Char) {ms : Members}
    (h : ∀ k ∈ reservedKeys, ms.Lacks k) : (eventCall logger level text ms).IsPlain := by
  obtain ⟨m, hm, -, herror⟩ := exists_method_of_level level
  exact ⟨⟨m, hm, herror⟩, ⟨_, rfl⟩, rfl, rfl, h⟩

/-- What is said has been logged, and the log is ready for more. -/
structure Said.IsDone (said : Said) : Prop where
  result : said.result = .ok ()
  isReady : said.session.log.IsReady
  out : said.written.out = []

/-- A log that is ready takes every plain event. -/
theorem isDone_event (hs : s.log.IsReady) (stamp : List Char) {c : Call} (hc : c.IsPlain) :
    (s.event stamp c).IsDone :=
  ⟨System.event_of_isPlain hs stamp hc, hs.event stamp c, System.out_event hs.routed stamp c⟩

/-- A log that is ready takes every plain notice. -/
theorem isDone_say (hs : s.log.IsReady) (stamp : List Char) {n : Notice} (hn : n.IsPlain) :
    (s.say stamp n).IsDone := by
  cases n with
  | event level text ms => exact isDone_event hs stamp (isPlain_eventCall queryLogger level text hn)
  | exchanged text => exact ⟨rfl, hs.record stamp _ _ _ _, System.out_record _ _ _ _ _ _⟩
  | traced logger text => exact ⟨rfl, hs.record stamp _ _ _ _, System.out_record _ _ _ _ _ _⟩
  | warned text => exact ⟨rfl, hs, rfl⟩

/-- **A log that is ready takes plain notices, one after the other.** -/
theorem isDone_sayAll (hs : s.log.IsReady) (stamp : List Char) {ns : List Notice}
    (hns : ∀ n ∈ ns, n.IsPlain) : (s.sayAll stamp ns).IsDone := by
  induction ns generalizing s with
  | nil => exact ⟨rfl, hs, rfl⟩
  | cons n ns ih =>
      obtain ⟨hresult, hready, hout⟩ := isDone_say hs stamp (hns n List.mem_cons_self)
      have hrest := ih hready fun m hm => hns m (List.mem_cons_of_mem n hm)
      rw [sayAll]
      simp only [hresult]
      refine ⟨hrest.result, hrest.isReady, ?_⟩
      rw [Written.out_append, hout, hrest.out]
      rfl

/-- **In a session whose log is ready, a query comes to what it comes to by itself**, through every
client that annotates it, and writes nothing to standard output. -/
theorem query_through (hs : s.log.IsReady) (stamp : List Char) {host path : List Char}
    {script : Network.Script} {client : Client}
    (hclient : (client s.surroundings.vars host path script).Annotates
      (Query.run host path script)) :
    (s.query stamp host path script client).result =
        (Query.run host path script).result.mapError .query ∧
      (s.query stamp host path script client).trace = (Query.run host path script).trace ∧
      (s.query stamp host path script client).session.log.IsReady ∧
      (s.query stamp host path script client).written.out = [] := by
  have hfirst : (s.sayAll stamp
      ((client s.surroundings.vars host path script).notices.take 1)).IsDone :=
    isDone_sayAll hs stamp fun n hn => hclient.isPlain (List.mem_of_mem_take hn)
  have hmore : (Session.sayAll _ stamp
      ((client s.surroundings.vars host path script).notices.drop 1)).IsDone :=
    isDone_sayAll hfirst.isReady stamp fun n hn => hclient.isPlain (List.mem_of_mem_drop hn)
  simp only [query, hfirst.result, hmore.result, hclient.result, hclient.trace]
  refine ⟨trivial, trivial, hmore.isReady, ?_⟩
  rw [Written.out_append, hfirst.out, hmore.out]
  rfl

end Session
end RouteProbe
