import RouteProbe.Proofs.Log.Shown

/-!
# Written once

A logger that feeds a handler writes what it takes as one line of the handler, and nothing else: an
event whose values are texts (`System.event_of_says`), and every record without arguments
(`System.record_of_feeds`).  Nothing can go wrong on the way.  An event can be completed since none
of its names is reserved, and a handler can make its line since the values that would stand on lines
of their own are texts; no value is an error, so that none is described.

The line is what the handler makes of the event, so it is there once, and the text of the event
stands in it.
-/

namespace RouteProbe

open Text

namespace Members

/-- Texts under names that are not reserved. -/
structure IsTextual (ms : Members) : Prop where
  text : ∀ m ∈ ms, ∃ s, m.2 = .text s
  lacks : ∀ k ∈ Log.reservedKeys, ms.Lacks k

/-- The members of an event on its way to a handler: all but its text are texts. -/
def IsWorded (ms : Members) : Prop := ∀ m ∈ ms, m.1 = Log.textKey ∨ ∃ s, m.2 = .text s

variable {ms more : Members}

theorem isTextual_nil : Members.IsTextual [] :=
  ⟨List.forall_mem_nil _, fun k _ => lacks_nil k⟩

theorem IsTextual.update (h : ms.IsTextual) (hmore : more.IsTextual) :
    (ms.update more).IsTextual where
  text := forall_mem_update h.text hmore.text
  lacks k hk := (h.lacks k hk).update (hmore.lacks k hk)

theorem IsTextual.erase (h : ms.IsTextual) (k : String) : (ms.erase k).IsTextual where
  text := forall_mem_erase h.text k
  lacks k' hk := (h.lacks k' hk).erase k

theorem IsTextual.lacks_kept (h : ms.IsTextual) : ∀ k ∈ Log.keptKeys, ms.Lacks k :=
  fun k hk => h.lacks k (List.mem_append_right _ hk)

theorem IsTextual.isWorded (h : ms.IsTextual) : ms.IsWorded := fun m hm => .inr (h.text m hm)

theorem IsWorded.put (h : ms.IsWorded) (k s : String) : (ms.put k (.text s)).IsWorded :=
  forall_mem_put h (.inr ⟨s, rfl⟩)

/-- A value that is found under another name than that of the text is a text. -/
theorem IsWorded.exists_of_get? (h : ms.IsWorded) {k : String} (hk : k ≠ Log.textKey) {v : Value}
    (hv : ms.get? k = some v) : ∃ s, v = .text s := (h _ (mem_of_get? hv)).resolve_left hk

end Members

namespace Log

/-! ## Completion -/

theorem describeError_of_isWorded {ms : Members} (h : ms.IsWorded) :
    describeError ms = ms.erase "exc_info" := by
  rw [describeError]
  cases hget : ms.get? "exc_info" with
  | none => rfl
  | some v =>
      obtain ⟨s, rfl⟩ := h.exists_of_get? (by decide) hget
      rfl

/-- A member whose bytes are read as text. -/
def decodeMember (m : String × Value) : String × Value :=
  match m.2 with
  | .bytes bs => (m.1, .text (String.ofList (ofUtf8Replacing bs)))
  | _ => m

theorem decodeBytes_eq_map (ms : Members) : decodeBytes ms = ms.map decodeMember := rfl

theorem exists_of_mem_decodeBytes {ms : Members} {m : String × Value} (h : m ∈ decodeBytes ms) :
    ∃ m' ∈ ms, decodeMember m' = m := List.mem_map.mp h

/-- Reading bytes as text keeps names. -/
theorem fst_decodeMember (m : String × Value) : (decodeMember m).1 = m.1 := by
  rw [decodeMember]
  split <;> rfl

/-- Reading bytes as text makes nothing but texts. -/
theorem decodeMember_or (m : String × Value) :
    decodeMember m = m ∨ ∃ s, (decodeMember m).2 = .text s := by
  rw [decodeMember]
  split
  · exact .inr ⟨_, rfl⟩
  · exact .inl rfl

theorem map_fst_decodeBytes (ms : Members) : (decodeBytes ms).map (·.1) = ms.map (·.1) := by
  rw [decodeBytes_eq_map, List.map_map]
  exact List.map_congr_left fun m _ => fst_decodeMember m

/-- What holds of all names holds of them when bytes are read as text. -/
theorem forall_name_decodeBytes {P : String → Prop} {ms : Members} (h : ∀ m ∈ ms, P m.1) :
    ∀ m ∈ decodeBytes ms, P m.1 := by
  intro m hm
  obtain ⟨m', hm', rfl⟩ := exists_of_mem_decodeBytes hm
  rw [fst_decodeMember]
  exact h m' hm'

theorem lacks_decodeBytes {ms : Members} {k : String} (h : ms.Lacks k) : (decodeBytes ms).Lacks k :=
  forall_name_decodeBytes (P := (· ≠ k)) h

/-- A value, read as text if it is bytes. -/
def decodedValue : Value → Value
  | .bytes bs => .text (String.ofList (ofUtf8Replacing bs))
  | v => v

theorem decodeMember_eq (m : String × Value) : decodeMember m = (m.1, decodedValue m.2) := by
  obtain ⟨k, v⟩ := m
  cases v <;> rfl

theorem get?_decodeBytes (ms : Members) (k : String) :
    (decodeBytes ms).get? k = (ms.get? k).map decodedValue := by
  have hname : ((fun m : String × Value => m.1 == k) ∘ decodeMember) = fun m => m.1 == k :=
    funext fun m => congrArg (· == k) (fst_decodeMember m)
  rw [Members.get?, decodeBytes_eq_map, List.find?_map, hname, Members.get?]
  cases ms.find? fun m => m.1 == k with
  | none => rfl
  | some m => exact congrArg (fun m : String × Value => some m.2) (decodeMember_eq m)

variable {c : Circumstances} {ms : Members}

/-- A text alone is under no name that is kept. -/
theorem lacks_message (text : String) {k : String} (hk : k ∈ keptKeys) :
    Members.Lacks [(textKey, .text text)] k := by
  intro m hm
  rw [List.mem_singleton.mp hm]
  exact textKey_ne hk

/-- An event whose values are texts is completed to one that a handler can write: its values are
texts, it has no error, and its text is what it was. -/
theorem completed_of_isWorded (h : ms.IsWorded) (hcontext : c.context.IsTextual) :
    (completed c ms).IsWorded ∧ (completed c ms).Lacks "exc_info" ∧
      ∀ s, ms.get? textKey = some (.text s) →
        (completed c ms).get? textKey = some (.text s) := by
  have hbound : (ms.complete c.context.sorted).IsWorded :=
    Members.forall_mem_complete h (Members.forall_mem_sorted hcontext.isWorded)
  have htimed := Members.forall_mem_erase (((hbound.put "logger" (String.ofList c.logger)).put
    "level" c.level).put "timestamp" (String.ofList c.stamp)) "stack_info"
  rw [completed, describeError_of_isWorded htimed]
  refine ⟨fun m hm => ?_, lacks_decodeBytes (Members.lacks_erase _ _), fun s hs => ?_⟩
  · obtain ⟨m', hm', rfl⟩ := exists_of_mem_decodeBytes hm
    rcases decodeMember_or m' with hsame | htext
    · rw [hsame]
      exact Members.forall_mem_erase htimed "exc_info" m' hm'
    · exact .inr htext
  · rw [get?_decodeBytes, Members.get?_erase_of_ne _ (by decide),
      Members.get?_erase_of_ne _ (by decide), Members.get?_put_of_ne _ (by decide),
      Members.get?_put_of_ne _ (by decide), Members.get?_put_of_ne _ (by decide),
      Members.get?_complete_of_some hs]
    rfl

/-! ## The line of a handler -/

/-- The form in which the text of an event stands in a line: as a member for a program, and filled
up to its column on a terminal. -/
def textForm : Environment → String → List Char
  | .ci, s => Json.writeMember (textKey, .text s)
  | .development, s => Console.textPart .coloured (.text s)

/-- Every member stands in what is written of an object. -/
theorem isInfix_write {m : String × Value} (hm : m ∈ ms) :
    Json.writeMember m <:+: Json.write (.object ms) := by
  have hmore {ms : Members} (hm : m ∈ ms) : Json.writeMember m <:+: Json.writeMoreMembers ms := by
    induction ms with
    | nil => cases hm
    | cons m' ms ih =>
        show _ <:+: ',' :: ' ' :: (Json.writeMember m' ++ Json.writeMoreMembers ms)
        rcases List.mem_cons.mp hm with rfl | hm
        · exact ⟨[',', ' '], Json.writeMoreMembers ms, by simp⟩
        · exact (ih hm).trans (List.suffix_append (',' :: ' ' :: Json.writeMember m') _).isInfix
  have hall : Json.writeMember m <:+: Json.writeMembers ms := by
    cases ms with
    | nil => cases hm
    | cons m' ms =>
        show _ <:+: Json.writeMember m' ++ Json.writeMoreMembers ms
        rcases List.mem_cons.mp hm with rfl | hm
        · exact (List.prefix_append _ _).isInfix
        · exact (hmore hm).trans (List.suffix_append _ _).isInfix
  show _ <:+: '\x7b' :: (Json.writeMembers ms ++ ['\x7d'])
  exact hall.trans ⟨['\x7b'], ['\x7d'], by simp⟩

namespace Console

/-- A part that ends in no blank stands in the line. -/
theorem isInfix_joinParts {parts : List (List Char)} {x : List Char} {e : Char} (he : e ≠ ' ')
    (h : x ++ [e] ∈ parts) : x ++ [e] <:+: joinParts parts := by
  have hkept : x ++ [e] ∈ parts.filter fun cs => !cs.isEmpty :=
    List.mem_filter.mpr ⟨h, by simp⟩
  obtain ⟨before, after, hjoined⟩ :
      x ++ [e] <:+: [' '].intercalate (parts.filter fun cs => !cs.isEmpty) :=
    isInfix_intercalate_of_mem hkept
  -- Only blanks are taken off the end, and the part ends in none: what is taken off is behind it.
  have hend := dropEndWhile_append_cons (p := fun c => decide (c = ' ')) (decide_eq_false he)
    (before ++ x) after
  have hassoc (rest : List Char) : before ++ (x ++ [e]) ++ rest = (before ++ x) ++ e :: rest := by
    simp only [List.append_assoc, List.singleton_append]
  rw [joinParts, ← hjoined]
  exact ⟨before, dropEndWhile (fun c => decide (c = ' ')) after, by rw [hassoc, hassoc, hend]⟩

/-- A value that stands on lines of its own can be written if it is a text. -/
theorem exists_ownLine (h : ms.IsWorded) {k : String} (hk : k ≠ textKey) {v : Value}
    (hv : notNull ms k = some v) : ∃ cs, ownLine v = .ok cs := by
  rw [notNull] at hv
  split at hv
  · cases hv
  · cases hv
  · next hget =>
      cases hv
      obtain ⟨s, rfl⟩ := h.exists_of_get? hk hget
      exact ⟨_, rfl⟩

/-- **An event whose values are texts can be written on a terminal**, with its text in its place. -/
theorem exists_render (h : ms.IsWorded) (herror : ms.Lacks "exc_info") {s : String}
    (htext : ms.get? textKey = some (.text s)) :
    ∃ line, render .coloured ms = .ok line ∧ textPart .coloured (.text s) <:+: line := by
  have hnone : notNull ms "exc_info" = none := by rw [notNull, herror.get?_eq_none]
  have hmore : ∃ more, render .coloured ms = .ok
      (joinParts (parts .coloured (ms.filter fun m => !ownLineKeys.contains m.1)) ++ more) := by
    rw [render]
    simp only [hnone, Option.filter_none, Option.isSome_none, Bool.false_or, List.append_assoc]
    cases hstack : notNull ms "stack" with
    | none =>
        cases htrouble : notNull ms "exception" with
        | none => exact ⟨_, rfl⟩
        | some v =>
            obtain ⟨cs, hcs⟩ := exists_ownLine h (by decide) htrouble
            simp only [hcs]
            exact ⟨_, rfl⟩
    | some v =>
        obtain ⟨cs, hcs⟩ := exists_ownLine h (by decide) hstack
        simp only [hcs]
        cases htrouble : notNull ms "exception" with
        | none => exact ⟨_, rfl⟩
        | some v' =>
            obtain ⟨cs', hcs'⟩ := exists_ownLine h (by decide) htrouble
            simp only [hcs']
            exact ⟨_, rfl⟩
  obtain ⟨more, hrender⟩ := hmore
  refine ⟨_, hrender, ?_⟩
  have hplace : textPart .coloured (.text s) ∈
      parts .coloured (ms.filter fun m => !ownLineKeys.contains m.1) := by
    have hkept : Members.get? (ms.filter fun m => !ownLineKeys.contains m.1) textKey =
        some (.text s) := by
      rw [Members.get?_filter fun m hname => by rw [hname]; rfl]
      exact htext
    refine List.mem_append_left _ (List.mem_filterMap.mpr ⟨(textKey, textPart .coloured), ?_, ?_⟩)
    · simp [columns]
    · rw [hkept]
      rfl
  obtain ⟨x, hx⟩ := exists_textPart s
  rw [hx] at hplace ⊢
  exact (isInfix_joinParts (by decide) hplace).trans (List.prefix_append _ more).isInfix

end Console

/-- **A handler makes a line of an event whose values are texts**, and its text stands in the
line. -/
theorem Handler.exists_line_of_isWorded (h : Handler) (hms : ms.IsWorded)
    (herror : ms.Lacks "exc_info") {s : String} (htext : ms.get? textKey = some (.text s)) :
    ∃ line, h.render ms = .ok line ∧ textForm h.environment s <:+: line := by
  have hsent : ((ms.erase recordKey).erase originKey).IsWorded :=
    Members.forall_mem_erase (Members.forall_mem_erase hms recordKey) originKey
  have hkept : ((ms.erase recordKey).erase originKey).get? textKey = some (.text s) := by
    rw [Members.get?_erase_of_ne _ (by decide), Members.get?_erase_of_ne _ (by decide)]
    exact htext
  rw [Handler.render]
  cases h.environment with
  | ci => exact ⟨_, rfl, isInfix_write (Members.mem_of_get? hkept)⟩
  | development =>
      exact Console.exists_render hsent ((herror.erase recordKey).erase originKey) hkept

/-! ## What is written -/

variable {h : Handler} {s : System} {line : List Char}

/-- What a handler takes, the loggers that feed it take as well, so it is the handler's level alone
that counts. -/
theorem Tree.Feeds.write_eq {t : Tree} {n : Name} (hfeeds : t.Feeds n h) (weight : Int)
    (write : Tree.Outlet → Written) {written : Written} (hwrite : h.level.weight ≤ weight →
      write (.handler h) = written) :
    (if t.isEnabled n weight then write (t.outlet n) else .none) =
      if h.level.weight ≤ weight then written else .none := by
  rw [hfeeds.outlet]
  by_cases htaken : h.level.weight ≤ weight
  · rw [if_pos ((hfeeds.isEnabled_iff weight).mpr htaken), if_pos htaken, hwrite htaken]
  · rw [if_neg fun henabled => htaken ((hfeeds.isEnabled_iff weight).mp henabled), if_neg htaken]

/-- An event of a level that tells a text, without arguments, and whose members have no reserved
names, as have those that were bound to the logger. -/
structure Call.Tells (c : Call) (level : Level) (text : String) : Prop where
  method : ∃ m, Method.ofName? c.method = some m ∧ m.level = level ∧ m.withError = false
  text : c.text = .text text
  arguments : c.arguments = []
  members : ∀ k ∈ reservedKeys, c.members.Lacks k
  bound : ∀ k ∈ reservedKeys, c.bound.Lacks k

/-- An event of a level that says a text, without arguments, and whose members are texts, as are
those that were bound to the logger. -/
structure Call.Says (c : Call) (level : Level) (text : String) : Prop where
  method : c.method = level.name
  text : c.text = .text text
  arguments : c.arguments = []
  members : c.members.IsTextual
  bound : c.bound.IsTextual

theorem Call.Says.tells {c : Call} {level : Level} {text : String} (hc : c.Says level text) :
    c.Tells level text where
  method := hc.method ▸ exists_method_of_level level
  text := hc.text
  arguments := hc.arguments
  members := hc.members.lacks
  bound := hc.bound.lacks

/-- What holds of the members of a call, of those that were bound to its logger, of the mark of an
error at hand and of the text holds of the members of its event. -/
theorem Call.forall_mem_event {P : String × Value → Prop} {c : Call} (m : Method) {text : Value}
    (hmembers : ∀ x ∈ c.members, P x) (hbound : ∀ x ∈ c.bound, P x)
    (hmark : P ("exc_info", .flag true)) (htext : P (textKey, text)) :
    ∀ x ∈ c.event m text, P x := by
  have hmerged := Members.forall_mem_update hbound hmembers
  have hmarked : ∀ x ∈ (if m.withError && !c.members.has "exc_info" then
      (c.bound.update c.members).put "exc_info" (.flag true) else c.bound.update c.members),
      P x := by
    split
    · exact Members.forall_mem_put hmerged hmark
    · exact hmerged
  cases text with
  | null => exact hmarked
  | _ => exact Members.forall_mem_put hmarked htext

namespace System

/-- **An event without arguments comes to the handler that its logger feeds**, if none of its names
is reserved and the handler takes its level. -/
theorem event_of_lacks (hrouted : s.routed = true) (hcontext : ∀ k ∈ keptKeys, s.context.Lacks k)
    (stamp : List Char) {c : Call} {m : Method} (hm : Method.ofName? c.method = some m)
    (harguments : c.arguments = []) (hmembers : ∀ k ∈ reservedKeys, c.members.Lacks k)
    (hbound : ∀ k ∈ reservedKeys, c.bound.Lacks k)
    (hfeeds : (s.tree.use c.logger).Feeds c.logger h) :
    (s.event stamp c).result = .ok () ∧
      (s.event stamp c).written =
        if h.level.weight ≤ m.level.weight then
          .ofLine (h.render (completed ⟨s.context, shownName c.logger, m.level.name, stamp⟩
            (c.event m c.text)))
        else .none := by
  have hcheck : c.checkBound = .ok () := checkNames_of_lacks fun k hk =>
    hbound k (List.mem_append_left _ (List.mem_cons_of_mem _
      (List.mem_singleton.mp hk ▸ List.mem_cons_self)))
  have hevent := Call.routedEvent_of_lacks hm hmembers
  have hmark : ∀ k ∈ keptKeys, "exc_info" ≠ k := by decide
  have hlacks : ∀ k ∈ keptKeys, (c.event m c.text).Lacks k := fun k hk =>
    Call.forall_mem_event m (hmembers k (List.mem_append_right _ hk))
      (hbound k (List.mem_append_right _ hk)) (hmark k hk) (textKey_ne hk)
  have hcomplete := complete_of_lacks
    (c := ⟨s.context, shownName c.logger, m.level.name, stamp⟩) hlacks hcontext
  rw [event_of_complete hrouted hcheck hevent harguments hcomplete]
  exact ⟨rfl, hfeeds.write_eq m.level.weight (·.writeEvent m.level.weight _)
    fun htaken => if_neg (Int.not_lt.mpr htaken)⟩

/-- **What is told comes to the handler that its logger feeds**, if the handler takes its level. -/
theorem event_of_tells (hrouted : s.routed = true) (hcontext : ∀ k ∈ keptKeys, s.context.Lacks k)
    (stamp : List Char) {c : Call} {level : Level} {text : String} (hc : c.Tells level text)
    (hfeeds : (s.tree.use c.logger).Feeds c.logger h) :
    (s.event stamp c).result = .ok () ∧
      (s.event stamp c).written =
        if h.level.weight ≤ level.weight then
          .ofLine (h.render (completed ⟨s.context, shownName c.logger, level.name, stamp⟩
            ((c.bound.update c.members).put textKey (.text text))))
        else .none := by
  obtain ⟨m, hm, rfl, herror⟩ := hc.method
  have hevent := event_of_lacks hrouted hcontext stamp hm hc.arguments hc.members hc.bound hfeeds
  rw [hc.text, Call.event_of_text herror] at hevent
  exact hevent

/-- **An event is written once**, if the handler that its logger feeds takes its level, and not at
all if not. -/
theorem event_of_says (hrouted : s.routed = true) (hcontext : s.context.IsTextual)
    (stamp : List Char) {c : Call} {level : Level} {text : String} (hc : c.Says level text)
    (hfeeds : (s.tree.use c.logger).Feeds c.logger h) :
    ∃ line,
      h.render (completed ⟨s.context, shownName c.logger, level.name, stamp⟩
        ((c.bound.update c.members).put textKey (.text text))) = .ok line ∧
      textForm h.environment text <:+: line ∧
      (s.event stamp c).result = .ok () ∧
      (s.event stamp c).written =
        if h.level.weight ≤ level.weight then .errLine line else .none := by
  have hworded := (hc.bound.update hc.members).isWorded.put textKey text
  obtain ⟨hdone, hnone, hkept⟩ := completed_of_isWorded
    (c := ⟨s.context, shownName c.logger, level.name, stamp⟩) hworded hcontext
  obtain ⟨line, hrender, hinfix⟩ := h.exists_line_of_isWorded hdone hnone
    (hkept text (Members.get?_put_self _ _ _))
  obtain ⟨hresult, hwritten⟩ :=
    event_of_tells hrouted hcontext.lacks_kept stamp hc.tells hfeeds
  rw [hrender] at hwritten
  exact ⟨line, hrender, hinfix, hresult, hwritten⟩

/-- **A record without arguments comes to the handler that its logger feeds**, if the handler takes
its weight. -/
theorem record_of_no_arguments (stamp : List Char) (n : Name) (weight : Int) (template : Value)
    (hfeeds : (s.tree.use n).Feeds n h) :
    (s.record stamp n weight template []).2 =
      if h.level.weight ≤ weight then
        .ofLine (h.renderRecord ⟨s.context, shownName n, weightName weight, stamp⟩
          template.plainText)
      else .none := by
  have hwrite (htaken : h.level.weight ≤ weight) :
      (Tree.Outlet.handler h).writeRecord ⟨s.context, shownName n, weightName weight, stamp⟩ weight
        (recordText template []) = .ofLine (h.renderRecord
          ⟨s.context, shownName n, weightName weight, stamp⟩ template.plainText) :=
    if_neg (Int.not_lt.mpr htaken)
  rw [← hfeeds.write_eq weight (·.writeRecord _ weight _) hwrite, record]
  dsimp only
  split <;> rfl

/-- **A record without arguments is written once**, if the handler that its logger feeds takes its
weight, and not at all if not. -/
theorem record_of_feeds (hcontext : s.context.IsTextual) (stamp : List Char) (n : Name)
    (weight : Int) (template : Value) (hfeeds : (s.tree.use n).Feeds n h) :
    ∃ line,
      h.renderRecord ⟨s.context, shownName n, weightName weight, stamp⟩ template.plainText =
        .ok line ∧
      textForm h.environment (String.ofList template.plainText) <:+: line ∧
      (s.record stamp n weight template []).2 =
        if h.level.weight ≤ weight then .errLine line else .none := by
  have hsent := (hcontext.erase recordKey).erase originKey
  have hworded : Members.IsWorded
      [(textKey, .text (String.ofList template.plainText))] := fun m hm =>
    .inr ⟨String.ofList template.plainText, by rw [List.mem_singleton.mp hm]⟩
  obtain ⟨hdone, hnone, hkept⟩ := completed_of_isWorded
    (c := ⟨(s.context.erase recordKey).erase originKey, shownName n, weightName weight, stamp⟩)
    hworded hsent
  obtain ⟨line, hrender, hinfix⟩ := h.exists_line_of_isWorded hdone hnone
    (hkept _ (Members.get?_cons [] _ _ _))
  have hline : h.renderRecord ⟨s.context, shownName n, weightName weight, stamp⟩
      template.plainText = .ok line :=
    bind_eq_ok_iff.mpr ⟨_, complete_of_lacks (fun _ => lacks_message _) hsent.lacks_kept, hrender⟩
  have hwritten := record_of_no_arguments stamp n weight template hfeeds
  rw [hline] at hwritten
  exact ⟨line, hline, hinfix, hwritten⟩

end System
end Log
end RouteProbe
