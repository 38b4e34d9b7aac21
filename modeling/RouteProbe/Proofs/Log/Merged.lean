import RouteProbe.Proofs.Log.Once

/-!
# Events that are merged from several places

The members of an event come from three places: the call, what was bound to its logger, and what is
bound for all events.  They are merged one after the other, each in its own way, so that the order
of the merged members hangs on where each of them has come from.  A line on a terminal does not:
it has places for some names, and the others stand in it sorted by name, so that only what is found
under each name counts (`Console.render_eq_of_perm`).

So two members lists are compared by what is found in them (`Members.Alike`), which every step of
completion preserves (`alike_completed`), and two events are written as the same line if the members
of the three places together are the same, in whatever order and from whichever place
(`Handler.render_eq_of_perm`).
-/

namespace RouteProbe

open Text

namespace Members

/-- The same is found under every name. -/
def Alike (ms ms' : Members) : Prop := ∀ k, ms.get? k = ms'.get? k

variable {ms ms' : Members}

/-- What is found under names that differ is what is there. -/
theorem get?_eq_some_iff (hnames : (ms.map (·.1)).Nodup) {k : String} {v : Value} :
    ms.get? k = some v ↔ (k, v) ∈ ms :=
  ⟨mem_of_get?, fun hm => get?_of_mem hnames hm⟩

/-- What is found does not hang on the order of members whose names differ. -/
theorem alike_of_perm (h : ms.Perm ms') (hnames : (ms.map (·.1)).Nodup) : ms.Alike ms' := by
  have hnames' := (h.map (·.1)).nodup_iff.mp hnames
  intro k
  refine Option.ext fun v => ?_
  rw [get?_eq_some_iff hnames, get?_eq_some_iff hnames', h.mem_iff]

/-- Members whose names differ are told by what is found, but for their order. -/
theorem Alike.perm (h : ms.Alike ms') (hnames : (ms.map (·.1)).Nodup)
    (hnames' : (ms'.map (·.1)).Nodup) : ms.Perm ms' := by
  rw [List.perm_ext_iff_of_nodup (List.Nodup.of_map _ hnames) (List.Nodup.of_map _ hnames')]
  rintro ⟨k, v⟩
  rw [← get?_eq_some_iff hnames, ← get?_eq_some_iff hnames', h k]

/-- **Sorting by name undoes every reordering** of members whose names differ. -/
theorem sorted_eq_of_perm (h : ms.Perm ms') (hnames : (ms.map (·.1)).Nodup) :
    ms.sorted = ms'.sorted := by
  have hpairwise (ms : Members) : ms.sorted.Pairwise fun a b => !(b.1 < a.1) := by
    refine List.pairwise_mergeSort (fun a b c hab hbc => ?_) (fun a b => ?_) ms
    · rw [Bool.not_eq_true', decide_eq_false_iff_not, String.not_lt] at hab hbc ⊢
      exact String.le_trans hab hbc
    · rw [Bool.or_eq_true, Bool.not_eq_true', Bool.not_eq_true', decide_eq_false_iff_not,
        decide_eq_false_iff_not, String.not_lt, String.not_lt]
      exact String.le_total a.1 b.1
  have hperm : ms.sorted.Perm ms'.sorted :=
    ((List.mergeSort_perm ms _).trans h).trans (List.mergeSort_perm ms' _).symm
  refine List.Perm.eq_of_pairwise (fun a b ha hb hab hba => ?_) (hpairwise ms) (hpairwise ms') hperm
  rw [Bool.not_eq_true', decide_eq_false_iff_not, String.not_lt] at hab hba
  -- Of two members with the same name there is only one.
  have hname : a.1 = b.1 := String.le_antisymm hab hba
  have ha' := get?_of_mem (nodup_sorted hnames) ha
  have hb' := get?_of_mem (nodup_sorted hnames) (hperm.mem_iff.mpr hb)
  rw [hname, hb'] at ha'
  exact Prod.ext hname (Option.some.inj ha').symm

theorem get?_erase (ms : Members) (k k' : String) :
    (ms.erase k).get? k' = if k = k' then none else ms.get? k' := by
  by_cases hname : k = k'
  · rw [if_pos hname, ← hname, (lacks_erase ms k).get?_eq_none]
  · rw [if_neg hname, get?_erase_of_ne ms hname]

theorem Alike.erase (h : ms.Alike ms') (k : String) : (ms.erase k).Alike (ms'.erase k) := by
  intro k'
  rw [get?_erase, get?_erase, h k']

theorem Alike.put (h : ms.Alike ms') (k : String) (v : Value) :
    (ms.put k v).Alike (ms'.put k v) := by
  intro k'
  rw [get?_put, get?_put, h k']

theorem nodup_filter (h : (ms.map (·.1)).Nodup) (p : String × Value → Bool) :
    ((ms.filter p).map (·.1)).Nodup := (List.filter_sublist.map _).nodup h

end Members

namespace Log

open Members

variable {ms ms' : Members}

/-! ## Completion -/

theorem alike_describeError (h : ms.Alike ms') : (describeError ms).Alike (describeError ms') := by
  have herased := h.erase "exc_info"
  rw [describeError, describeError, h "exc_info"]
  split
  · exact herased.put _ _
  · exact herased

theorem alike_decodeBytes (h : ms.Alike ms') : (decodeBytes ms).Alike (decodeBytes ms') := by
  intro k
  rw [get?_decodeBytes, get?_decodeBytes, h k]

/-- **Completion does not hang on what comes with an event and what is bound for all events**, but
on what is found in the one or else in the other. -/
theorem alike_completed {c c' : Circumstances} (hsource : sourceMembers c = sourceMembers c')
    (hcontext : (c.context.map (·.1)).Nodup) (hcontext' : (c'.context.map (·.1)).Nodup)
    (h : ∀ k, (ms.get? k).or (c.context.get? k) = (ms'.get? k).or (c'.context.get? k)) :
    (completed c ms).Alike (completed c' ms') := by
  have hfilled : (filled c ms).Alike (filled c' ms') := by
    intro k
    rw [get?_filled hcontext, get?_filled hcontext', hsource, h k]
  rw [completed_eq_filled, completed_eq_filled]
  exact alike_decodeBytes (alike_describeError (hfilled.erase "stack_info"))

theorem nodup_completed_names (hnames : (ms.map (·.1)).Nodup) (c : Circumstances) :
    ((completed c ms).map (·.1)).Nodup := by
  have hfilled := nodup_update (nodup_complete hnames c.context.sorted) (sourceMembers c)
  have hdescribed : ((describeError ((filled c ms).erase "stack_info")).map (·.1)).Nodup := by
    have herased := nodup_filter (nodup_filter hfilled (·.1 != "stack_info")) (·.1 != "exc_info")
    rw [describeError]
    split
    · exact nodup_put herased _ _
    · exact herased
  rw [completed_eq_filled, map_fst_decodeBytes]
  exact hdescribed

/-! ## Lines on a terminal -/

namespace Console

theorem notNull_eq (h : ms.Alike ms') (k : String) : notNull ms k = notNull ms' k := by
  rw [notNull, notNull, h k]

theorem parts_eq_of_perm (h : ms.Perm ms') (hnames : (ms.map (·.1)).Nodup) (p : Palette) :
    parts p ms = parts p ms' := by
  have halike := alike_of_perm h hnames
  have hplaced : ((columns p).filterMap fun c => (ms.get? c.1).map c.2) =
      (columns p).filterMap fun c => (ms'.get? c.1).map c.2 := by
    refine List.filterMap_congr fun c _ => ?_
    rw [halike c.1]
  have hothers := sorted_eq_of_perm (h.filter fun m => !(columns p).any fun c => c.1 == m.1)
    (nodup_filter hnames _)
  rw [parts, parts, hplaced, hothers]

/-- **A line on a terminal does not hang on the order of members** whose names differ. -/
theorem render_eq_of_perm (h : ms.Perm ms') (hnames : (ms.map (·.1)).Nodup) (p : Palette) :
    render p ms = render p ms' := by
  have halike := alike_of_perm h hnames
  have hparts := parts_eq_of_perm (h.filter fun m => !ownLineKeys.contains m.1)
    (nodup_filter hnames _) p
  rw [render, render, hparts, notNull_eq halike, notNull_eq halike, notNull_eq halike]

end Console

/-! ## Where members come from -/

/-- The names that a merged event leaves to the way that it goes: those that are reserved, and those
of an error and of a stack at hand. -/
def heldKeys : List String := reservedKeys ++ ["exc_info", "stack_info"]

/-- The members that an event is merged from: those of the call, those that were bound to its
logger, and those that are bound for all events. -/
def Call.sources (call : Call) (context : Members) : Members :=
  call.members ++ call.bound ++ context

theorem Call.forall_mem_sources (call : Call) {context : Members} {P : String × Value → Prop} :
    (∀ x ∈ call.sources context, P x) ↔
      (∀ x ∈ call.members, P x) ∧ (∀ x ∈ call.bound, P x) ∧ ∀ x ∈ context, P x := by
  rw [sources, List.forall_mem_append, List.forall_mem_append, and_assoc]

/-- A call without positional arguments, each of whose names comes from one place only and is not
held. -/
structure Call.Merges (call : Call) (m : Method) (context : Members) : Prop where
  method : Method.ofName? call.method = some m
  arguments : call.arguments = []
  names : ((call.sources context).map (·.1)).Nodup
  lacks : ∀ k ∈ heldKeys, (call.sources context).Lacks k

/-- What a call says itself: its text, and that there is an error at hand. -/
def saidMembers (m : Method) (text : Value) : Members :=
  (match text with
    | .null => []
    | v => [(textKey, v)]) ++ if m.withError then [("exc_info", .flag true)] else []

namespace Call.Merges

variable {call call' : Call} {m : Method} {context context' : Members}

theorem lacks_members (h : call.Merges m context) : ∀ k ∈ heldKeys, call.members.Lacks k :=
  fun k hk => (call.forall_mem_sources.mp (h.lacks k hk)).1

theorem lacks_bound (h : call.Merges m context) : ∀ k ∈ heldKeys, call.bound.Lacks k :=
  fun k hk => (call.forall_mem_sources.mp (h.lacks k hk)).2.1

theorem lacks_context (h : call.Merges m context) : ∀ k ∈ heldKeys, context.Lacks k :=
  fun k hk => (call.forall_mem_sources.mp (h.lacks k hk)).2.2

/-- Another call with the same members, in whatever order they come and from whichever place, can be
merged as well. -/
theorem of_perm (h : call.Merges m context) (hmethod : call'.method = call.method)
    (harguments : call'.arguments = [])
    (hperm : (call.sources context).Perm (call'.sources context')) : call'.Merges m context' where
  method := hmethod ▸ h.method
  arguments := harguments
  names := (hperm.map (·.1)).nodup_iff.mp h.names
  lacks k hk x hx := h.lacks k hk x (hperm.mem_iff.mpr hx)

theorem nodup_members (h : call.Merges m context) : (call.members.map (·.1)).Nodup := by
  have hnames := h.names
  rw [sources, List.append_assoc, List.map_append] at hnames
  exact hnames.of_append_left

theorem nodup_bound (h : call.Merges m context) : (call.bound.map (·.1)).Nodup := by
  have hnames := h.names
  rw [sources, List.map_append, List.map_append] at hnames
  exact hnames.of_append_left.of_append_right

theorem nodup_context (h : call.Merges m context) : (context.map (·.1)).Nodup := by
  have hnames := h.names
  rw [sources, List.map_append] at hnames
  exact hnames.of_append_right

/-- What is found in the event of a call: what it says itself, what came with it, and what was bound
to its logger. -/
theorem get?_event (h : call.Merges m context) (text : Value) (k : String) :
    (call.event m text).get? k =
      ((saidMembers m text).get? k).or ((call.members.get? k).or (call.bound.get? k)) := by
  have hupdate := get?_update call.bound h.nodup_members k
  have hnone : call.members.has "exc_info" = false :=
    (h.lacks_members "exc_info" (by decide)).has_eq_false
  have hmarked : Members.get? (if m.withError && !call.members.has "exc_info" then
      (call.bound.update call.members).put "exc_info" (.flag true)
      else call.bound.update call.members) k =
      (Members.get? (if m.withError then [("exc_info", .flag true)] else []) k).or
        ((call.members.get? k).or (call.bound.get? k)) := by
    rw [hnone, Bool.not_false, Bool.and_true]
    cases m.withError with
    | true =>
        rw [if_pos rfl, if_pos rfl, get?_put, get?_cons, hupdate]
        split <;> rfl
    | false => exact hupdate
  have htold (v : Value) : (Members.put (if m.withError && !call.members.has "exc_info" then
      (call.bound.update call.members).put "exc_info" (.flag true)
      else call.bound.update call.members) textKey v).get? k =
      (Members.get? ((textKey, v) :: if m.withError then [("exc_info", .flag true)] else []) k).or
        ((call.members.get? k).or (call.bound.get? k)) := by
    rw [get?_put, get?_cons, hmarked]
    split <;> rfl
  cases text with
  | null => exact hmarked
  | _ => exact htold _

/-- **What is found in an event and what is bound for all events**, taken together, is what the call
says itself and what it is merged from. -/
theorem get?_event_or (h : call.Merges m context) (text : Value) (k : String) :
    ((call.event m text).get? k).or (context.get? k) =
      ((saidMembers m text).get? k).or ((call.sources context).get? k) := by
  rw [h.get?_event, sources, get?_append, get?_append, Option.or_assoc]

theorem nodup_event (h : call.Merges m context) (text : Value) :
    ((call.event m text).map (·.1)).Nodup := by
  have hmerged := nodup_update h.nodup_bound call.members
  have hmarked : (List.map (·.1) (if m.withError && !call.members.has "exc_info" then
      (call.bound.update call.members).put "exc_info" (.flag true)
      else call.bound.update call.members)).Nodup := by
    split
    · exact nodup_put hmerged _ _
    · exact hmerged
  cases text with
  | null => exact hmarked
  | _ => exact nodup_put hmarked _ _

end Call.Merges

variable {call call' : Call} {m : Method} {context context' : Members} {h : Handler}

/-- **The line of an event hangs on the merged members only**: it is the same if these are the same,
in whatever order they come and from whichever place. -/
theorem Handler.render_eq_of_perm (hdevelopment : h.environment = .development)
    (hcall : call.Merges m context) (hcall' : call'.Merges m context')
    (hperm : (call.sources context).Perm (call'.sources context')) (text : Value) (logger : Name)
    (level : String) (stamp : List Char) :
    h.render (completed ⟨context, logger, level, stamp⟩ (call.event m text)) =
      h.render (completed ⟨context', logger, level, stamp⟩ (call'.event m text)) := by
  have hsources := alike_of_perm hperm hcall.names
  have halike : (completed ⟨context, logger, level, stamp⟩ (call.event m text)).Alike
      (completed ⟨context', logger, level, stamp⟩ (call'.event m text)) := by
    refine alike_completed rfl hcall.nodup_context hcall'.nodup_context fun k => ?_
    rw [hcall.get?_event_or, hcall'.get?_event_or, hsources k]
  have hnames := nodup_completed_names (hcall.nodup_event text) ⟨context, logger, level, stamp⟩
  have hnames' := nodup_completed_names (hcall'.nodup_event text) ⟨context', logger, level, stamp⟩
  have hsent := ((halike.perm hnames hnames').filter (·.1 != recordKey)).filter (·.1 != originKey)
  rw [render, render, hdevelopment]
  exact Console.render_eq_of_perm hsent (nodup_filter (nodup_filter hnames _) _) .coloured

/-- **An event that is merged comes to the handler that its logger feeds**, if that takes its
level. -/
theorem System.event_of_merges {s : System} (hrouted : s.routed = true)
    (hcall : call.Merges m s.context) (stamp : List Char)
    (hfeeds : (s.tree.use call.logger).Feeds call.logger h)
    (htaken : h.level.weight ≤ m.level.weight) :
    (s.event stamp call).result = .ok () ∧
      (s.event stamp call).written = .ofLine (h.render
        (completed ⟨s.context, shownName call.logger, m.level.name, stamp⟩
          (call.event m call.text))) := by
  have hreserved : ∀ k ∈ reservedKeys, k ∈ heldKeys := fun k hk => List.mem_append_left _ hk
  have hkept : ∀ k ∈ keptKeys, k ∈ heldKeys := by decide
  have hevent := event_of_lacks hrouted (fun k hk => hcall.lacks_context k (hkept k hk)) stamp
    hcall.method hcall.arguments (fun k hk => hcall.lacks_members k (hreserved k hk))
    (fun k hk => hcall.lacks_bound k (hreserved k hk)) hfeeds
  rw [if_pos htaken] at hevent
  exact hevent

/-! ## One line -/

namespace Console

/-- The names whose values stand in a line as they are. -/
def placedKeys : List String := ["timestamp", "level", textKey, "logger", "logger_name"]

/-- The parts of a line have no line end if the names have none, and the values that stand in it as
they are. -/
theorem isOneLine_parts (hnames : ∀ x ∈ ms, IsOneLine x.1.toList)
    (hplaced : ∀ k ∈ placedKeys, ∀ v, ms.get? k = some v → IsOneLine v.plainText) :
    ∀ part ∈ parts .coloured ms, IsOneLine part := by
  rw [parts]
  refine List.forall_mem_append.mpr ⟨fun part hpart => ?_, fun part hpart => ?_⟩
  · obtain ⟨c, hc, hpart⟩ := List.mem_filterMap.mp hpart
    obtain ⟨v, hv, rfl⟩ := Option.map_eq_some_iff.mp hpart
    have hvalue (hk : c.1 ∈ placedKeys) : IsOneLine v.plainText := hplaced c.1 hk v hv
    simp only [columns, List.mem_cons, List.not_mem_nil, or_false] at hc
    rcases hc with rfl | rfl | rfl | rfl | rfl | rfl
    · exact isOneLine_memberPart (m := ("", v)) isOneLine_nil
    · exact isOneLine_timePart (hvalue (by decide))
    · exact isOneLine_levelPart (hvalue (by decide))
    · exact isOneLine_textPart (hvalue (by decide))
    · exact isOneLine_loggerPart (hvalue (by decide))
    · exact isOneLine_loggerPart (hvalue (by decide))
  · obtain ⟨m, hm, rfl⟩ := List.mem_map.mp hpart
    exact isOneLine_memberPart (hnames m (List.mem_filter.mp (List.mem_mergeSort.mp hm)).1)

end Console

section

variable {c : Circumstances}
  (herror : ∀ kind message, (filled c ms).get? "exc_info" ≠ some (.error kind message))

include herror

/-- Where there is no error to describe, completion fills an event, drops two names and reads bytes
as text. -/
theorem completed_of_no_error :
    completed c ms = decodeBytes (((filled c ms).erase "stack_info").erase "exc_info") := by
  have hkept : ((filled c ms).erase "stack_info").get? "exc_info" =
      (filled c ms).get? "exc_info" := get?_erase_of_ne _ (by decide)
  rw [completed_eq_filled, describeError, hkept]
  split
  · next kind message heq => exact absurd heq (herror kind message)
  · rfl

/-- Its names are those of its members, of what is bound for all events, and of where, how and when
it was said. -/
theorem forall_name_completed {P : String → Prop} (hms : ∀ x ∈ ms, P x.1)
    (hcontext : ∀ x ∈ c.context, P x.1) (hsource : ∀ k ∈ sourceKeys, P k) :
    ∀ x ∈ completed c ms, P x.1 ∧ x.1 ≠ "exc_info" := by
  have hfilled := forall_mem_filled hms hcontext fun x hx =>
    hsource x.1 (List.mem_map_of_mem (f := Prod.fst) hx)
  rw [completed_of_no_error herror]
  exact forall_name_decodeBytes (P := fun k => P k ∧ k ≠ "exc_info") fun x hx =>
    ⟨forall_mem_erase (forall_mem_erase hfilled _) _ x hx, lacks_erase _ _ x hx⟩

/-- What is found in it is what it has been filled with. -/
theorem get?_completed {k : String} (hstack : "stack_info" ≠ k) (hmark : "exc_info" ≠ k) :
    (completed c ms).get? k = ((filled c ms).get? k).map decodedValue := by
  rw [completed_of_no_error herror, get?_decodeBytes, get?_erase_of_ne _ hmark,
    get?_erase_of_ne _ hstack]

end

/-- A call says its text and that there is an error at hand, and nothing else. -/
theorem eq_of_mem_saidMembers {text : Value} {x : String × Value} (hx : x ∈ saidMembers m text) :
    x = (textKey, text) ∨ x = ("exc_info", .flag true) := by
  rcases List.mem_append.mp hx with hx | hx
  · cases text with
    | null => cases hx
    | _ => exact .inl (List.mem_singleton.mp hx)
  · cases hmark : m.withError with
    | true =>
        rw [hmark, if_pos rfl] at hx
        exact .inr (List.mem_singleton.mp hx)
    | false =>
        rw [hmark, if_neg Bool.false_ne_true] at hx
        cases hx

/-- The names that a merged event must not have to be shown on one line, beside those that are held:
those that follow on lines of their own, and one whose value stands in the line as it is. -/
def unshownKeys : List String := ["stack", "exception", "logger_name"]

/-- The text of an event, as it is shown. -/
def shownText (text : Value) : List Char := (decodedValue text).plainText

namespace Call.Merges

variable {text : Value} {logger : Name} {level : String} {stamp : List Char}

/-- What is found in the event of a call once it is filled: where, how and when it was said, what
the call says itself, and what it is merged from. -/
theorem get?_filled_event (hcall : call.Merges m context) (k : String) :
    (filled ⟨context, logger, level, stamp⟩ (call.event m text)).get? k =
      ((sourceMembers ⟨context, logger, level, stamp⟩).get? k).or
        (((saidMembers m text).get? k).or ((call.sources context).get? k)) := by
  rw [get?_filled hcall.nodup_context, hcall.get?_event_or]

/-- An error at hand is marked, and no error is carried. -/
theorem no_error (hcall : call.Merges m context) (kind : ErrorKind) (message : String) :
    (filled ⟨context, logger, level, stamp⟩ (call.event m text)).get? "exc_info" ≠
      some (.error kind message) := by
  intro hget
  have hsource := (lacks_sourceMembers (c := ⟨context, logger, level, stamp⟩) (k := "exc_info")
    (by decide)).get?_eq_none
  have hsources := (hcall.lacks "exc_info" (by decide)).get?_eq_none
  rw [hcall.get?_filled_event, hsource, Option.none_or, hsources, Option.or_none] at hget
  rcases eq_of_mem_saidMembers (mem_of_get? hget) with hsaid | hsaid
  · exact absurd (congrArg Prod.fst hsaid) (by decide : "exc_info" ≠ textKey)
  · cases congrArg Prod.snd hsaid

/-- What holds of the names that an event is merged from, of those that are put into it, and of that
of its text holds of its names when it is completed. -/
theorem forall_name (hcall : call.Merges m context) {P : String → Prop}
    (hsources : ∀ x ∈ call.sources context, P x.1) (hmark : P "exc_info") (htext : P textKey)
    (hsource : ∀ k ∈ sourceKeys, P k) :
    ∀ x ∈ completed ⟨context, logger, level, stamp⟩ (call.event m text),
      P x.1 ∧ x.1 ≠ "exc_info" := by
  obtain ⟨hmembers, hbound, hcontext⟩ :=
    (call.forall_mem_sources (P := fun x => P x.1)).mp hsources
  exact forall_name_completed hcall.no_error (call.forall_mem_event m hmembers hbound hmark htext)
    hcontext hsource

/-- Nothing is left in a completed event that would go on a line of its own. -/
theorem lacks_ownLine (hcall : call.Merges m context)
    (hlacks : ∀ k ∈ unshownKeys, (call.sources context).Lacks k) :
    ∀ k ∈ Console.ownLineKeys,
      Members.Lacks (completed ⟨context, logger, level, stamp⟩ (call.event m text)) k := by
  have hkeys : ∀ k ∈ Console.ownLineKeys, k = "exc_info" ∨
      k ∈ unshownKeys ∧ "exc_info" ≠ k ∧ textKey ≠ k ∧ ∀ k' ∈ sourceKeys, k' ≠ k := by decide
  intro k hk x hx
  rcases hkeys k hk with rfl | ⟨hunshown, hmark, htext, hsource⟩
  · exact (hcall.forall_name (P := fun _ => True) (fun _ _ => trivial) trivial trivial
      (fun _ _ => trivial) x hx).2
  · exact (hcall.forall_name (P := (· ≠ k)) (hlacks k hunshown) hmark htext hsource x hx).1

/-- The values that stand in a line as they are have no line end. -/
theorem isOneLine_placed (hcall : call.Merges m context)
    (hname : (call.sources context).Lacks "logger_name") (htext : IsOneLine (shownText text))
    (hlogger : IsOneLine logger) (hlevel : IsOneLine level.toList) (hstamp : IsOneLine stamp)
    {k : String} (hk : k ∈ Console.placedKeys) {v : Value}
    (hv : (completed ⟨context, logger, level, stamp⟩ (call.event m text)).get? k = some v) :
    IsOneLine v.plainText := by
  have hkept : ∀ k ∈ Console.placedKeys, "stack_info" ≠ k ∧ "exc_info" ≠ k := by decide
  rw [get?_completed hcall.no_error (hkept k hk).1 (hkept k hk).2, hcall.get?_filled_event] at hv
  obtain ⟨w, hw, rfl⟩ := Option.map_eq_some_iff.mp hv
  rcases Option.or_eq_some_iff.mp hw with hput | ⟨hnone, hother⟩
  · rcases List.mem_cons.mp (mem_of_get? hput) with heq | hmem
    · cases heq
      show IsOneLine (String.ofList logger).toList
      rwa [String.toList_ofList]
    · rcases List.mem_cons.mp hmem with heq | hmem
      · cases heq
        exact hlevel
      · cases List.mem_singleton.mp hmem
        show IsOneLine (String.ofList stamp).toList
        rwa [String.toList_ofList]
  · rcases Option.or_eq_some_iff.mp hother with hsaid | ⟨-, hsources⟩
    · rcases eq_of_mem_saidMembers (mem_of_get? hsaid) with heq | heq
      · cases heq
        exact htext
      · cases heq
        exact absurd rfl (hkept _ hk).2
    · -- Of the places, one has no member in the sources, and the others have been filled.
      have hmem := mem_of_get? hsources
      simp only [Console.placedKeys, List.mem_cons, List.not_mem_nil, or_false] at hk
      rcases hk with rfl | rfl | rfl | rfl | rfl
      · cases hnone
      · cases hnone
      · exact absurd rfl (hcall.lacks textKey (by decide) _ hmem)
      · cases hnone
      · exact absurd rfl (hname _ hmem)

end Call.Merges

/-- **A merged event is shown on one line** if its text, its logger and its names have no line end,
whatever its values are. -/
theorem Handler.exists_oneLine (hdevelopment : h.environment = .development)
    (hcall : call.Merges m context) (hlacks : ∀ k ∈ unshownKeys, (call.sources context).Lacks k)
    (hnames : ∀ x ∈ call.sources context, IsOneLine x.1.toList) {text : Value}
    (htext : IsOneLine (shownText text)) {logger : Name} (hlogger : IsOneLine logger)
    {level : String} (hlevel : IsOneLine level.toList) {stamp : List Char}
    (hstamp : IsOneLine stamp) :
    ∃ line, h.render (completed ⟨context, logger, level, stamp⟩ (call.event m text)) = .ok line ∧
      IsOneLine line := by
  let ms := completed ⟨context, logger, level, stamp⟩ (call.event m text)
  have hown : ∀ k ∈ Console.ownLineKeys, ((ms.erase recordKey).erase originKey).Lacks k :=
    fun k hk => ((hcall.lacks_ownLine hlacks k hk).erase recordKey).erase originKey
  have hsource : ∀ k ∈ sourceKeys, IsOneLine k.toList := by decide
  have hname : ∀ x ∈ ms, IsOneLine x.1.toList := fun x hx =>
    (hcall.forall_name (P := fun k => IsOneLine k.toList) hnames (by decide) (by decide) hsource
      x hx).1
  have hrender : h.render ms = Console.render .coloured ((ms.erase recordKey).erase originKey) := by
    rw [render, hdevelopment]
  refine ⟨_, hrender.trans (Console.render_of_lacks hown .coloured), ?_⟩
  refine Console.isOneLine_joinParts (Console.isOneLine_parts
    (forall_mem_erase (forall_mem_erase hname _) _) fun k hk v hv => ?_)
  have hkept : ∀ k ∈ Console.placedKeys, originKey ≠ k ∧ recordKey ≠ k := by decide
  rw [get?_erase_of_ne _ (hkept k hk).1, get?_erase_of_ne _ (hkept k hk).2] at hv
  exact hcall.isOneLine_placed (hlacks "logger_name" (by decide)) htext hlogger hlevel hstamp hk hv

end Log
end RouteProbe
