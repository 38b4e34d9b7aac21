import RouteProbe.Proofs.Json.RoundTrip
import RouteProbe.Proofs.Log.Routed

/-!
# What an event is completed to

An event that has ordinary members goes through completion untouched: its members stay in front,
its text stands behind them, and then come what is bound for all events, the logger, the level and
the time (`complete_eq`).  Ordinary are members whose names differ and are none of those that
completion or a handler looks for, and whose values are texts or empty lists.
-/

namespace RouteProbe

open Text

namespace Log

/-- The names under which completion says where, how and when an event was said. -/
def sourceKeys : List String := ["logger", "level", "timestamp"]

/-- Where, how and when an event was said, as members. -/
def sourceMembers (c : Circumstances) : Members :=
  [("logger", .text (String.ofList c.logger)), ("level", .text c.level),
    ("timestamp", .text (String.ofList c.stamp))]

/-- What comes behind the members of an event when it is completed. -/
def completion (c : Circumstances) (text : String) : Members :=
  (textKey, .text text) :: c.context.sorted ++ sourceMembers c

/-- Values that are no bytes stay as they are. -/
theorem decodeBytes_of_isJson {ms : Members} (h : ∀ m ∈ ms, Json.IsJson m.2) :
    decodeBytes ms = ms := by
  rw [decodeBytes, List.map_congr_left, List.map_id]
  rintro ⟨k, v⟩ hm
  cases h _ hm <;> rfl

theorem describeError_of_lacks {ms : Members} (h : ms.Lacks "exc_info") :
    describeError ms = ms := by
  simp only [describeError, h.get?_eq_none, h.erase_eq]

variable {c : Circumstances} {ms : Members} {text : String}

/-- What is put into an event when it is completed: what is bound for all events and is not there
yet, and where, how and when it was said. -/
def filled (c : Circumstances) (ms : Members) : Members :=
  (ms.complete c.context.sorted).update (sourceMembers c)

theorem completed_eq_filled (c : Circumstances) (ms : Members) :
    completed c ms = decodeBytes (describeError ((filled c ms).erase "stack_info")) := rfl

/-- What holds of an event, of what is bound for all events and of what is put in holds of the
event when it is filled. -/
theorem forall_mem_filled {P : String × Value → Prop} (hms : ∀ m ∈ ms, P m)
    (hcontext : ∀ m ∈ c.context, P m) (hsource : ∀ m ∈ sourceMembers c, P m) :
    ∀ m ∈ filled c ms, P m :=
  Members.forall_mem_update
    (Members.forall_mem_complete hms (Members.forall_mem_sorted hcontext)) hsource

theorem nodup_sourceMembers (c : Circumstances) : ((sourceMembers c).map (·.1)).Nodup :=
  show sourceKeys.Nodup by decide

theorem isFlat_sourceMembers : ∀ m ∈ sourceMembers c, Json.IsFlat m.2 := by
  simp only [sourceMembers, List.forall_mem_cons]
  exact ⟨.text _, .text _, .text _, fun m hm => nomatch hm⟩

theorem lacks_sourceMembers {k : String} (h : k ∉ sourceKeys) :
    (sourceMembers c).Lacks k := by
  rintro m hm rfl
  exact h (List.mem_map_of_mem (f := Prod.fst) hm)

/-- A name is in a filled event for where, how and when it was said, or for itself, or it is bound
for all events. -/
theorem get?_filled (hnames : (c.context.map (·.1)).Nodup) (ms : Members) (k : String) :
    (filled c ms).get? k =
      ((sourceMembers c).get? k).or ((ms.get? k).or (c.context.get? k)) := by
  rw [filled, Members.get?_update _ (nodup_sourceMembers c), Members.get?_complete,
    Members.get?_sorted hnames]

end Log
end RouteProbe
