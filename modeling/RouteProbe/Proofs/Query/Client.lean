import RouteProbe.Proofs.Query.Notices
import RouteProbe.Query.Client

/-!
# Clients that go straight

The plain client goes straight, because all that a query says is its own
(`Client.goesStraight_plain`).  A client that goes straight says what a query says, and each of its
other notices is a record on one of its own loggers, or a warning (`Report.Annotates.cases`).

The variables count.  A client can go through a proxy where one of them tells it to, and it goes
straight all the same, because it does where none of them does (`Client.goesStraight_through`).
-/

namespace RouteProbe

open Network

/-! ## What is a query's own -/

variable {host path : List Char} {script : Script} {n : Notice}

/-- **All that a query says is its own.** -/
theorem Query.isOwn_of_mem_notices (h : n ∈ (Query.run host path script).notices) :
    n.isOwn = true := by
  rcases Query.cases_of_mem_notices h with rfl | ⟨text, rfl⟩ | ⟨e, -, rfl⟩ | ⟨e, -, rfl⟩ <;> rfl

/-! ## Reports of clients -/

/-- A query is its own report, with nothing added. -/
theorem Client.annotates_plain (vars : List (String × String)) (host path : List Char)
    (script : Script) :
    (Client.plain vars host path script).Annotates (Query.run host path script) where
  result := rfl
  trace := rfl
  own := List.filter_eq_self.mpr fun _ => Query.isOwn_of_mem_notices
  records := fun _ _ h => by cases Query.isOwn_of_mem_notices h

theorem Client.goesStraight_plain : Client.plain.GoesStraight :=
  fun vars host path script _ => Client.annotates_plain vars host path script

/-- A client that goes through a proxy at a place if a variable tells it where to go, and asks there
for what it is asked for. -/
def Client.through (proxy : List Char × Int) : Client := fun vars host path script =>
  let q := Query.run host path script
  if IsDirect vars then q
  else { q with trace := { q.trace with connects := q.trace.connects.map fun _ => proxy } }

theorem Client.goesStraight_through (proxy : List Char × Int) :
    (Client.through proxy).GoesStraight := by
  intro vars host path script hdirect
  rw [Client.through]
  dsimp only
  rw [if_pos hdirect]
  exact Client.annotates_plain vars host path script

/-- **What such a report says** is said in the other one, or it is a record on one of the client's
loggers, or a warning. -/
theorem Report.Annotates.cases {r q : Report} (h : r.Annotates q) (hn : n ∈ r.notices) :
    n ∈ q.notices ∨
      (∃ logger text, n = .traced logger text ∧ logger ∈ Client.recordLoggers) ∨
      ∃ text, n = .warned text := by
  cases n with
  | event level text ms => exact .inl (h.own ▸ List.mem_filter.mpr ⟨hn, rfl⟩)
  | exchanged text => exact .inl (h.own ▸ List.mem_filter.mpr ⟨hn, rfl⟩)
  | traced logger text => exact .inr (.inl ⟨logger, text, rfl, h.records logger text hn⟩)
  | warned text => exact .inr (.inr ⟨text, rfl⟩)

end RouteProbe
