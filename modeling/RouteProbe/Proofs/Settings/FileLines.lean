import Mathlib.Data.List.TakeDrop
import Mathlib.Data.List.TakeWhile
import RouteProbe.Settings.EnvFile

/-!
# Lines of a file of settings

A file is read as one text, and the reader goes over line ends where it likes: blanks in front of a
statement may be lines of blanks, and what cannot be read is left behind as it goes.  So it is not
plain that a line that is blank, a comment or malformed leaves its neighbours alone.

It does where every line is of a plain kind (`Line`): the statements of the file then are those of
its lines in turn (`PlainFile.significant_statements`).  A line that cannot be read is reported by
the number of the first line in the run of blank lines in front of it, for there its statement
starts.

One line is taken as a whole whatever stands behind its end (`firstTaken_content`), and the run
follows by induction on the lines, with the blanks that are not yet taken in front of them.
-/

namespace RouteProbe
namespace EnvFile

open Text

variable {cs rest : List Char}

/-! ## Where taking stops -/

/-- A text does not go on with a character of a kind. -/
def Stops (p : Char → Bool) (cs : List Char) : Prop := ∀ c ∈ cs.head?, p c = false

/-- A text goes on with a line end, or not at all. -/
def AtLineEnd (cs : List Char) : Prop := ∀ c ∈ cs.head?, c = '\n'

section

variable {p : Char → Bool}

theorem Stops.takeWhile_eq (h : Stops p cs) : cs.takeWhile p = [] := by
  cases cs with
  | nil => rfl
  | cons c cs => exact List.takeWhile_cons_of_neg (by simp [h c rfl])

theorem Stops.dropWhile_eq (h : Stops p cs) : cs.dropWhile p = cs := by
  cases cs with
  | nil => rfl
  | cons c cs => exact List.dropWhile_cons_of_neg (by simp [h c rfl])

/-- What is dropped is what stands before a stop. -/
theorem dropWhile_append_of_stops (hcs : ∀ c ∈ cs, p c = true) (h : Stops p rest) :
    (cs ++ rest).dropWhile p = rest := by
  rw [List.dropWhile_append_of_pos hcs, h.dropWhile_eq]

/-- What is taken is what stands before a stop. -/
theorem span_append_of_stops (hcs : ∀ c ∈ cs, p c = true) (h : Stops p rest) :
    (cs ++ rest).span p = (cs, rest) := by
  rw [List.span_eq_takeWhile_dropWhile, List.takeWhile_append_of_pos hcs, h.takeWhile_eq,
    List.append_nil, dropWhile_append_of_stops hcs h]

theorem stops_cons {c : Char} (h : p c = false) : Stops p (c :: cs) := by
  rintro _ ⟨⟩
  exact h

/-- A text that begins with characters of one kind does not go on with one of another kind. -/
theorem stops_append {q : Char → Bool} (hne : cs ≠ []) (hcs : ∀ c ∈ cs, q c = true)
    (h : ∀ c, q c = true → p c = false) : Stops p (cs ++ rest) := by
  cases cs with
  | nil => exact absurd rfl hne
  | cons c cs => exact stops_cons (h c (hcs c List.mem_cons_self))

theorem AtLineEnd.stops (h : AtLineEnd rest) (hp : p '\n' = false) : Stops p rest :=
  fun c hc => h c hc ▸ hp

end

theorem atLineEnd_cons (cs : List Char) : AtLineEnd ('\n' :: cs) := by
  rintro _ ⟨⟩
  rfl

theorem isInnerBlank_of_isBlank_eq_false {c : Char} (h : isBlank c = false) :
    isInnerBlank c = false := by
  simp [isInnerBlank, h]

theorem isBlank_of_isInnerBlank {c : Char} (h : isInnerBlank c = true) : isBlank c = true := by
  simp only [isInnerBlank, Bool.and_eq_true] at h
  exact h.1.1

theorem isInLine_of_isInnerBlank {c : Char} (h : isInnerBlank c = true) : isInLine c = true := by
  simp only [isInnerBlank, Bool.and_eq_true] at h
  simp only [isInLine, Bool.and_eq_true]
  exact ⟨h.1.2, h.2⟩

/-- Both line ends are blanks. -/
theorem isInLine_of_isBlank_eq_false {c : Char} (h : isBlank c = false) : isInLine c = true := by
  simp only [isInLine, Bool.and_eq_true, decide_eq_true_eq]
  constructor <;> rintro rfl <;> exact absurd h (by decide)

theorem isBlank_of_isNameChar {c : Char} (h : isNameChar c = true) : isBlank c = false := by
  simp only [isNameChar, Bool.and_eq_true, Bool.not_eq_true'] at h
  exact h.2

/-! ## Plain lines -/

/-- A word: a name that is written without quotes. -/
structure Word where
  text : List Char
  text_ne_nil : text ≠ []
  isNameChar_of_mem : ∀ c ∈ text, isNameChar c = true
  unquoted : text.head? ≠ some singleQuote

/-- A character that stands for itself anywhere in a value: no blank, and none that can begin a
comment or a reference. -/
def isValueChar (c : Char) : Bool := !isBlank c && c ≠ '#' && c ≠ '$'

/-- A line that gives a value to a name. -/
structure Assignment where
  exported : Bool
  name : Word
  value : List Char
  isValueChar_of_mem : ∀ c ∈ value, isValueChar c = true
  unquoted : value.head? ≠ some singleQuote ∧ value.head? ≠ some doubleQuote

/-- A line that cannot be read: a word, blanks, and something that can neither follow a name nor
begin a comment. -/
structure Scrap where
  word : Word
  gap : List Char
  next : Char
  others : List Char
  word_ne_export : word.text ≠ exportWord
  gap_ne_nil : gap ≠ []
  isInnerBlank_of_mem : ∀ c ∈ gap, isInnerBlank c = true
  isBlank_next : isBlank next = false
  next_ne : next ≠ '=' ∧ next ≠ '#'
  isInLine_of_mem : ∀ c ∈ others, isInLine c = true

/-- What a line has behind its indentation, if it has anything. -/
inductive Content where
  | comment (cs : List Char) (h : ∀ c ∈ cs, isInLine c = true)
  | assignment (a : Assignment)
  | scrap (s : Scrap)

/-- A line of a plain kind: blanks, and its content unless it is blank. -/
structure Line where
  indent : List Char
  content : Option Content
  isInnerBlank_of_mem : ∀ c ∈ indent, isInnerBlank c = true

/-- A line that begins with its content. -/
def Line.unindented (k : Content) : Line := ⟨[], some k, List.forall_mem_nil _⟩

/-- The text of an assignment. -/
def Assignment.text (a : Assignment) : List Char :=
  (if a.exported then exportWord ++ [' '] else []) ++ (a.name.text ++ '=' :: a.value)

/-- What stands behind the word of a line that cannot be read, without the blanks. -/
def Scrap.stuck (s : Scrap) : List Char := s.next :: s.others

/-- The text of a line that cannot be read. -/
def Scrap.text (s : Scrap) : List Char := s.word.text ++ (s.gap ++ s.stuck)

/-- The text of a content. -/
def Content.text : Content → List Char
  | .comment cs _ => '#' :: cs
  | .assignment a => a.text
  | .scrap s => s.text

/-- The text of a line, without its end. -/
def Line.text (l : Line) : List Char := l.indent ++ l.content.elim [] Content.text

/-- The statement that a content makes; what cannot be read is reported by the number `start`. -/
def Content.statement (start : Nat) : Content → Statement
  | .comment _ _ => .nothing
  | .assignment a => .binding a.name.text (some a.value)
  | .scrap _ => .malformed start

/-- A content cannot be read. -/
def Content.isScrap : Content → Bool
  | .scrap _ => true
  | _ => false

/-- A line cannot be read. -/
def Line.isScrap (l : Line) : Bool := l.content.any Content.isScrap

theorem Assignment.isBlank_of_mem (a : Assignment) : ∀ c ∈ a.value, isBlank c = false := by
  intro c hc
  have hchar := a.isValueChar_of_mem c hc
  simp only [isValueChar, Bool.and_eq_true, Bool.not_eq_true'] at hchar
  exact hchar.1.1

theorem Scrap.isInLine_of_mem_stuck (s : Scrap) : ∀ c ∈ s.stuck, isInLine c = true :=
  List.forall_mem_cons.mpr ⟨isInLine_of_isBlank_eq_false s.isBlank_next, s.isInLine_of_mem⟩

/-! ## Taking one line -/

/-- A name ends where a character cannot be in it. -/
theorem Word.takeName_append (w : Word) (h : Stops isNameChar rest) :
    takeName (w.text ++ rest) = some (some w.text, rest) := by
  have hspan := span_append_of_stops w.isNameChar_of_mem h
  obtain ⟨c, cs, hcs⟩ := List.exists_cons_of_ne_nil w.text_ne_nil
  have hc := w.isNameChar_of_mem c (hcs ▸ List.mem_cons_self)
  have hquote := w.unquoted
  rw [hcs] at hspan hquote ⊢
  unfold takeName
  split
  · next heq =>
      cases heq
      exact absurd hc (by decide)
  · next heq =>
      cases heq
      exact absurd rfl hquote
  · rw [hspan]
    rfl

/-- The word that may begin a statement is left where it is a name, or the beginning of one. -/
theorem Word.skipExport_append (w : Word) (h : Stops isNameChar rest)
    (hexport : w.text = exportWord → Stops isInnerBlank rest) :
    skipExport (w.text ++ rest) = w.text ++ rest := by
  rw [skipExport]
  refine if_neg fun hskip => ?_
  obtain ⟨hbegins, hblank⟩ := Bool.and_eq_true_iff.mp hskip
  -- The letters of the word are characters of names, so all of them stand before the stop.
  obtain ⟨others, hothers⟩ : exportWord <+: w.text := by
    obtain ⟨behind, hbehind⟩ := List.isPrefixOf_iff_prefix.mp hbegins
    have htake := congrArg (List.takeWhile isNameChar) hbehind
    rw [List.takeWhile_append_of_pos w.isNameChar_of_mem, h.takeWhile_eq, List.append_nil,
      List.takeWhile_append_of_pos (List.all_eq_true.mp rfl)] at htake
    exact ⟨_, htake⟩
  rw [← hothers, List.append_assoc, List.drop_left] at hblank
  cases others with
  | nil =>
      have hstop := hexport (by rw [← hothers, List.append_nil])
      cases rest with
      | nil => exact absurd hblank (by decide)
      | cons c more => exact absurd hblank (by simp [hstop c rfl])
  | cons c others =>
      have hc := w.isNameChar_of_mem c (hothers ▸ List.mem_append_right _ List.mem_cons_self)
      have hinner := isInnerBlank_of_isBlank_eq_false (isBlank_of_isNameChar hc)
      exact absurd hblank (by simp [hinner])

/-- It is left out before a blank. -/
theorem Word.skipExport_exported (w : Word) :
    skipExport (exportWord ++ [' '] ++ (w.text ++ rest)) = w.text ++ rest := by
  have hstop : Stops isInnerBlank (w.text ++ rest) :=
    stops_append w.text_ne_nil w.isNameChar_of_mem fun c hc =>
      isInnerBlank_of_isBlank_eq_false (isBlank_of_isNameChar hc)
  have hdrop : (exportWord ++ [' '] ++ (w.text ++ rest)).drop exportWord.length =
      [' '] ++ (w.text ++ rest) := by
    rw [List.append_assoc, List.drop_left]
  have hprefix : exportWord.isPrefixOf (exportWord ++ [' '] ++ (w.text ++ rest)) = true := by
    rw [List.isPrefixOf_iff_prefix, List.append_assoc]
    exact List.prefix_append _ _
  rw [skipExport, hdrop, hprefix]
  exact (if_pos rfl).trans
    (dropWhile_append_of_stops (List.forall_mem_singleton.mpr rfl) hstop)

theorem Assignment.skipExport_text (a : Assignment) :
    skipExport (a.text ++ rest) = a.name.text ++ '=' :: (a.value ++ rest) := by
  cases hexported : a.exported with
  | true =>
      rw [Assignment.text, hexported, if_pos rfl, List.append_assoc, List.append_assoc a.name.text]
      exact a.name.skipExport_exported
  | false =>
      rw [Assignment.text, hexported, if_neg Bool.false_ne_true, List.nil_append, List.append_assoc]
      exact a.name.skipExport_append (stops_cons rfl) fun _ => stops_cons rfl

/-- Without a comment sign there is no comment. -/
theorem beforeComment_eq (h : ∀ c ∈ cs, c ≠ '#') (previous : Char) :
    beforeComment previous cs = cs := by
  induction cs generalizing previous with
  | nil => rfl
  | cons c cs ih =>
      obtain ⟨hfirst, hrest⟩ := List.forall_mem_cons.mp h
      rw [beforeComment, if_neg (by simp [hfirst]), ih hrest]

/-- A text without blanks has none at its end. -/
theorem trimEnd_eq (h : ∀ c ∈ cs, isBlank c = false) : trimEnd cs = cs := by
  rw [trimEnd, dropEndWhile]
  have hstop : Stops isBlank cs.reverse := fun c hc =>
    h c (List.mem_reverse.mp (List.mem_of_mem_head? hc))
  rw [hstop.dropWhile_eq, List.reverse_reverse]

/-- **A plain value is taken as it is**, up to the end of its line. -/
theorem Assignment.takeValue_append (a : Assignment) (h : AtLineEnd rest) :
    takeValue (a.value ++ rest) = some (a.value, rest) := by
  have hblank := a.isBlank_of_mem
  have hcomment : ∀ c ∈ a.value, c ≠ '#' := by
    intro c hc
    have hchar := a.isValueChar_of_mem c hc
    simp only [isValueChar, Bool.and_eq_true, decide_eq_true_eq] at hchar
    exact hchar.1.2
  have hdrop : (a.value ++ rest).dropWhile isInnerBlank = a.value ++ rest := by
    refine Stops.dropWhile_eq fun c hc => ?_
    rw [List.head?_append, Option.mem_def, Option.or_eq_some_iff] at hc
    rcases hc with hvalue | ⟨-, hrest⟩
    · exact isInnerBlank_of_isBlank_eq_false (hblank c (List.mem_of_mem_head? hvalue))
    · exact h.stops rfl c hrest
  have hspan : (a.value ++ rest).span isInLine = (a.value, rest) :=
    span_append_of_stops (fun c hc => isInLine_of_isBlank_eq_false (hblank c hc)) (h.stops rfl)
  have hquote {q : Char} (hq : a.value.head? ≠ some q) (hne : q ≠ '\n') (more : List Char) :
      a.value ++ rest ≠ q :: more := by
    intro heq
    have hhead : (a.value ++ rest).head? = some q := congrArg List.head? heq
    rw [List.head?_append, Option.or_eq_some_iff] at hhead
    rcases hhead with hvalue | ⟨-, hrest⟩
    · exact hq hvalue
    · exact hne (h q hrest)
  rw [takeValue, hdrop]
  dsimp only
  split
  · next more heq => exact absurd heq (hquote a.unquoted.1 (by decide) more)
  · next more heq => exact absurd heq (hquote a.unquoted.2 (by decide) more)
  · rw [hspan]
    dsimp only
    rw [beforeComment_eq hcomment, trimEnd_eq hblank]

theorem skipComment_of_atLineEnd (h : AtLineEnd rest) : skipComment rest = rest := by
  rw [skipComment, (h.stops rfl).dropWhile_eq]
  refine if_neg fun hcomment => ?_
  exact absurd (h '#' hcomment) (by decide)

/-- What is taken off a text first: a statement, by the number of its line, and the text behind. -/
def firstTaken (cs : List Char) : (Nat → Statement) × List Char :=
  match takeStatement cs with
  | .ok (statement, rest) => (fun _ => statement, rest)
  | .error stuck => (.malformed, skipLine stuck)

theorem Assignment.takeStatement_append (a : Assignment) (h : AtLineEnd rest) :
    takeStatement (a.text ++ rest) = .ok (.binding a.name.text (some a.value), rest.drop 1) := by
  have hname : takeName (a.name.text ++ '=' :: (a.value ++ rest)) =
      some (some a.name.text, '=' :: (a.value ++ rest)) := a.name.takeName_append (stops_cons rfl)
  have hequals : ('=' :: (a.value ++ rest)).dropWhile isInnerBlank = '=' :: (a.value ++ rest) :=
    Stops.dropWhile_eq (stops_cons rfl)
  rw [takeStatement, a.skipExport_text, hname]
  dsimp only
  rw [hequals]
  simp only [a.takeValue_append h, Option.map_some]
  rw [skipComment_of_atLineEnd h]
  cases rest with
  | nil => rfl
  | cons c more =>
      obtain rfl := h c rfl
      rfl

/-- Without an equals sign behind its name a statement has no value.  It is taken up to its comment,
unless something stands there that is none. -/
theorem takeStatement_unvalued {name : Option (List Char)} {behind more : List Char} {c : Char}
    (hname : takeName (skipExport cs) = some (name, behind))
    (hbehind : behind.dropWhile isInnerBlank = c :: more) (hc : c ≠ '=') :
    takeStatement cs =
      if (skipComment (c :: more)).head?.any isInLine then .error (skipComment (c :: more))
      else .ok (name.elim .nothing (.binding · none), (skipComment (c :: more)).drop 1) := by
  rw [takeStatement, hname]
  dsimp only
  rw [hbehind]
  split
  · next heq =>
      split at heq
      · next hequals => exact absurd (List.cons.inj hequals).1 hc
      · cases heq
  · next heq =>
      split at heq
      · next hequals => exact absurd (List.cons.inj hequals).1 hc
      · cases heq
        cases skipComment (c :: more) <;> rfl

theorem takeStatement_comment (hcs : ∀ c ∈ cs, isInLine c = true) (h : AtLineEnd rest) :
    takeStatement ('#' :: cs ++ rest) = .ok (.nothing, rest.drop 1) := by
  have hname : takeName (skipExport ('#' :: cs ++ rest)) = some (none, '#' :: cs ++ rest) := rfl
  have hblank : ('#' :: cs ++ rest).dropWhile isInnerBlank = '#' :: (cs ++ rest) :=
    Stops.dropWhile_eq (stops_cons rfl)
  have hskip : skipComment ('#' :: (cs ++ rest)) = rest := by
    rw [skipComment, ← List.cons_append, hblank, ← List.cons_append]
    refine (if_pos rfl).trans (dropWhile_append_of_stops ?_ (h.stops rfl))
    exact List.forall_mem_cons.mpr ⟨rfl, hcs⟩
  rw [takeStatement_unvalued hname hblank (by decide), hskip]
  cases rest with
  | nil => rfl
  | cons c more =>
      obtain rfl := h c rfl
      rfl

theorem Scrap.takeStatement_append (s : Scrap) :
    takeStatement (s.text ++ rest) = .error (s.stuck ++ rest) := by
  have hinner := isInnerBlank_of_isBlank_eq_false s.isBlank_next
  have hstop : Stops isNameChar (s.gap ++ (s.stuck ++ rest)) :=
    stops_append s.gap_ne_nil s.isInnerBlank_of_mem fun c hc => by
      simp [isNameChar, isBlank_of_isInnerBlank hc]
  have hname : takeName (skipExport (s.text ++ rest)) =
      some (some s.word.text, s.gap ++ (s.stuck ++ rest)) := by
    rw [Scrap.text, List.append_assoc, List.append_assoc,
      s.word.skipExport_append hstop fun heq => absurd heq s.word_ne_export,
      s.word.takeName_append hstop]
  have hgap : (s.gap ++ (s.stuck ++ rest)).dropWhile isInnerBlank = s.stuck ++ rest :=
    dropWhile_append_of_stops s.isInnerBlank_of_mem (stops_cons hinner)
  have hcomment : skipComment (s.stuck ++ rest) = s.stuck ++ rest := by
    rw [skipComment, Scrap.stuck, List.cons_append, Stops.dropWhile_eq (stops_cons hinner)]
    exact if_neg fun hsign => s.next_ne.2 (Option.some.inj hsign)
  rw [Scrap.stuck, List.cons_append] at hgap hcomment
  rw [takeStatement_unvalued hname hgap s.next_ne.1, hcomment]
  exact if_pos (isInLine_of_isBlank_eq_false s.isBlank_next)

/-- A line that cannot be read is left behind. -/
theorem Scrap.skipLine_stuck (s : Scrap) (h : AtLineEnd rest) :
    skipLine (s.stuck ++ rest) = rest.drop 1 := by
  rw [skipLine, dropWhile_append_of_stops s.isInLine_of_mem_stuck (h.stops rfl)]

/-- **A content is taken as a whole**, with the end of its line, whatever stands behind that. -/
theorem firstTaken_content (k : Content) (h : AtLineEnd rest) :
    firstTaken (k.text ++ rest) = (fun start => k.statement start, rest.drop 1) := by
  rw [firstTaken]
  cases k with
  | comment cs hcs =>
      rw [Content.text, takeStatement_comment hcs h]
      rfl
  | assignment a =>
      rw [Content.text, a.takeStatement_append h]
      rfl
  | scrap s =>
      rw [Content.text, s.takeStatement_append]
      show (Statement.malformed, skipLine (s.stuck ++ rest)) = _
      rw [s.skipLine_stuck h]
      rfl

/-- A content is not empty. -/
theorem Content.text_ne_nil (k : Content) : k.text ≠ [] := by
  cases k with
  | comment cs hcs => exact List.cons_ne_nil _ _
  | assignment a => simp [Content.text, Assignment.text]
  | scrap s => simp [Content.text, Scrap.text, Scrap.stuck]

/-- A content does not begin with a blank. -/
theorem Content.stops_text (k : Content) : Stops isBlank (k.text ++ rest) := by
  have hword (w : Word) (behind : List Char) : Stops isBlank (w.text ++ behind) :=
    stops_append w.text_ne_nil w.isNameChar_of_mem fun _ => isBlank_of_isNameChar
  cases k with
  | comment cs hcs => exact stops_cons rfl
  | assignment a =>
      rw [Content.text, Assignment.text, List.append_assoc, List.append_assoc]
      cases a.exported with
      | true => exact stops_cons rfl
      | false => exact hword a.name _
  | scrap s =>
      rw [Content.text, Scrap.text, List.append_assoc]
      exact hword s.word _

/-- A content has no line end in it. -/
theorem Content.isInLine_of_mem (k : Content) : ∀ c ∈ k.text, isInLine c = true := by
  have hword (w : Word) : ∀ c ∈ w.text, isInLine c = true := fun c hc =>
    isInLine_of_isBlank_eq_false (isBlank_of_isNameChar (w.isNameChar_of_mem c hc))
  cases k with
  | comment cs hcs => exact List.forall_mem_cons.mpr ⟨rfl, hcs⟩
  | assignment a =>
      have hvalue : ∀ c ∈ a.value, isInLine c = true := fun c hc =>
        isInLine_of_isBlank_eq_false (a.isBlank_of_mem c hc)
      rw [Content.text, Assignment.text]
      refine List.forall_mem_append.mpr ⟨?_, ?_⟩
      · cases a.exported <;> exact List.all_eq_true.mp rfl
      · exact List.forall_mem_append.mpr ⟨hword a.name, List.forall_mem_cons.mpr ⟨rfl, hvalue⟩⟩
  | scrap s =>
      have hgap : ∀ c ∈ s.gap, isInLine c = true := fun c hc =>
        isInLine_of_isInnerBlank (s.isInnerBlank_of_mem c hc)
      exact List.forall_mem_append.mpr
        ⟨hword s.word, List.forall_mem_append.mpr ⟨hgap, s.isInLine_of_mem_stuck⟩⟩

/-- Nor has a line. -/
theorem Line.isInLine_of_mem (l : Line) : ∀ c ∈ l.text, isInLine c = true := by
  refine List.forall_mem_append.mpr ⟨fun c hc => ?_, ?_⟩
  · exact isInLine_of_isInnerBlank (l.isInnerBlank_of_mem c hc)
  · cases l.content with
    | none => exact List.forall_mem_nil _
    | some k => exact k.isInLine_of_mem

theorem count_eq_zero (h : ∀ c ∈ cs, isInLine c = true) : cs.count '\n' = 0 :=
  List.count_eq_zero.mpr fun hmem => absurd (h _ hmem) (by decide)

/-! ## Taking lines in turn -/

/-- The statements that say something. -/
def significant (ss : List Statement) : List Statement := ss.filter (· ≠ .nothing)

/-- The statements of lines from a line on, where the run of blank lines in front of the first of
them begins with line `start`. -/
def told (start line : Nat) : List Line → List Statement
  | [] => []
  | l :: ls =>
      match l.content with
      | none => told start (line + 1) ls
      | some k => k.statement start :: told (line + 1) (line + 1) ls

/-- Lines with line feeds between them. -/
def joined : List Line → Line → List Char
  | [], last => last.text
  | l :: ls, last => l.text ++ '\n' :: joined ls last

theorem significant_cons (t : Statement) (ss : List Statement) :
    significant (t :: ss) = significant [t] ++ significant ss := List.filter_append [t] ss

@[simp] theorem statementsFrom_nil (fuel line : Nat) : statementsFrom fuel line [] = [] := by
  cases fuel <;> rfl

/-- Blanks alone say nothing. -/
theorem significant_statementsFrom_blank (fuel line : Nat) (h : ∀ c ∈ cs, isBlank c = true) :
    significant (statementsFrom fuel line cs) = [] := by
  have hdrop : cs.dropWhile isBlank = [] := List.dropWhile_eq_nil_iff.mpr h
  cases fuel with
  | zero => rfl
  | succ fuel =>
      cases cs with
      | nil => rfl
      | cons c cs =>
          rw [statementsFrom, hdrop]
          · rfl
          · exact List.cons_ne_nil c cs

theorem linesTaken_append (cs rest : List Char) : linesTaken (cs ++ rest) rest = cs.count '\n' := by
  rw [linesTaken, List.length_append, Nat.add_sub_cancel, List.take_left]

/-- **One step takes the blanks in front of a content, and the content.** -/
theorem statementsFrom_content {before : List Char} (fuel start : Nat)
    (hbefore : ∀ c ∈ before, isBlank c = true) (k : Content) (h : AtLineEnd rest) :
    statementsFrom (fuel + 1) start (before ++ (k.text ++ rest)) =
      k.statement start ::
        statementsFrom fuel (start + linesTaken (before ++ (k.text ++ rest)) (rest.drop 1))
          (rest.drop 1) := by
  have hdrop : (before ++ (k.text ++ rest)).dropWhile isBlank = k.text ++ rest :=
    dropWhile_append_of_stops hbefore k.stops_text
  have hnonempty : (k.text ++ rest).isEmpty = false := by simp [k.text_ne_nil]
  have htaken := firstTaken_content k h
  rw [firstTaken] at htaken
  rw [statementsFrom, hdrop]
  · dsimp only
    rw [hnonempty, if_neg Bool.false_ne_true]
    revert htaken
    cases takeStatement (k.text ++ rest) with
    | ok taken =>
        intro htaken
        obtain ⟨hstatement, hrest⟩ := Prod.mk.inj htaken
        dsimp only
        rw [hrest]
        exact congrArg (· :: _) (congrFun hstatement start)
    | error stuck =>
        intro htaken
        obtain ⟨hstatement, hrest⟩ := Prod.mk.inj htaken
        dsimp only
        rw [hrest]
        exact congrArg (· :: _) (congrFun hstatement start)
  · simp [k.text_ne_nil]

/-- **The statements of a text are those of its lines.**  The induction is on the lines, with the
blanks `before` them that are not taken yet. -/
theorem significant_statementsFrom {ls : List Line} {last : Line} {before : List Char}
    {fuel start : Nat} (hbefore : ∀ c ∈ before, isBlank c = true)
    (hfuel : (before ++ joined ls last).length < fuel) :
    significant (statementsFrom fuel start (before ++ joined ls last)) =
      significant (told start (start + before.count '\n') (ls ++ [last])) := by
  -- Blanks before a line go together with those that it begins with.
  have hblanks {before : List Char} (hbefore : ∀ c ∈ before, isBlank c = true) (l : Line) :
      ∀ c ∈ before ++ l.indent, isBlank c = true :=
    List.forall_mem_append.mpr ⟨hbefore, fun c hc =>
      isBlank_of_isInnerBlank (l.isInnerBlank_of_mem c hc)⟩
  induction ls generalizing before fuel start with
  | nil =>
      have hgrouped : before ++ joined [] last =
          before ++ last.indent ++ last.content.elim [] Content.text :=
        (List.append_assoc _ _ _).symm
      rw [hgrouped] at hfuel ⊢
      rw [List.nil_append, told]
      cases last.content with
      | none =>
          rw [Option.elim_none, List.append_nil,
            significant_statementsFrom_blank fuel start (hblanks hbefore last)]
          rfl
      | some k =>
          obtain ⟨fuel, rfl⟩ := Nat.exists_eq_add_one_of_ne_zero (Nat.ne_zero_of_lt hfuel)
          have hstep := statementsFrom_content fuel start (hblanks hbefore last) k
            (by nofun : AtLineEnd [])
          rw [List.append_nil, List.drop_nil, statementsFrom_nil] at hstep
          rw [Option.elim_some, hstep]
          rfl
  | cons l ls ih =>
      -- The line and its end are passed; behind them is the text of the other lines.
      have hpassed : before ++ joined (l :: ls) last =
          before ++ (l.text ++ ['\n']) ++ joined ls last := by simp [joined]
      have hcount : (before ++ (l.text ++ ['\n'])).count '\n' = before.count '\n' + 1 := by
        rw [List.count_append, List.count_append, count_eq_zero l.isInLine_of_mem]
        rfl
      rw [List.cons_append, told]
      cases hcontent : l.content with
      | none =>
          have htext : l.text = l.indent := by rw [Line.text, hcontent]; exact List.append_nil _
          have hblank : ∀ c ∈ before ++ (l.text ++ ['\n']), isBlank c = true := by
            rw [htext, ← List.append_assoc]
            exact List.forall_mem_append.mpr ⟨hblanks hbefore l, List.forall_mem_singleton.mpr rfl⟩
          rw [hpassed] at hfuel ⊢
          rw [ih hblank hfuel, hcount, Nat.add_assoc]
      | some k =>
          obtain ⟨fuel, rfl⟩ := Nat.exists_eq_add_one_of_ne_zero (Nat.ne_zero_of_lt hfuel)
          have htext : before ++ joined (l :: ls) last =
              before ++ l.indent ++ (k.text ++ '\n' :: joined ls last) := by
            rw [joined, Line.text, hcontent, Option.elim_some, List.append_assoc, List.append_assoc]
          have hstep := statementsFrom_content fuel start (hblanks hbefore l) k
            (atLineEnd_cons (joined ls last))
          have htaken : linesTaken (before ++ joined (l :: ls) last) (joined ls last) =
              before.count '\n' + 1 := by rw [hpassed, linesTaken_append, hcount]
          have hlength : ([] ++ joined ls last).length < fuel := by
            rw [hpassed] at hfuel
            simp only [List.length_append, List.length_singleton] at hfuel
            rw [List.nil_append]
            omega
          have hothers :=
            @ih [] fuel (start + before.count '\n' + 1) (List.forall_mem_nil _) hlength
          rw [List.nil_append, List.count_nil, Nat.add_zero] at hothers
          rw [← htext, List.drop_one, List.tail_cons, htaken, ← Nat.add_assoc] at hstep
          rw [hstep, significant_cons, hothers, ← significant_cons]

/-! ## Files -/

/-- The end of a line. -/
inductive LineEnd where
  | lf
  | crlf
  deriving Repr, DecidableEq

/-- The characters of a line end. -/
def LineEnd.text : LineEnd → List Char
  | .lf => ['\n']
  | .crlf => ['\r', '\n']

/-- A file of plain lines, with the line that stands behind the last line end; it is blank if the
file ends with a line end. -/
structure PlainFile where
  ended : List (Line × LineEnd)
  last : Line

namespace PlainFile

/-- The text of a file. -/
def text (f : PlainFile) : List Char :=
  f.ended.flatMap (fun l => l.1.text ++ l.2.text) ++ f.last.text

/-- The lines of a file. -/
def lines (f : PlainFile) : List Line := f.ended.map (·.1) ++ [f.last]

end PlainFile

theorem unifyLines_cons {c : Char} (hc : isInLine c = true) (cs : List Char) :
    unifyLines (c :: cs) = c :: unifyLines cs := by
  have hreturn : c ≠ '\r' := by
    rintro rfl
    exact absurd hc (by decide)
  rw [unifyLines]
  · rintro more rfl
    exact absurd rfl hreturn
  · exact hreturn

theorem unifyLines_append (h : ∀ c ∈ cs, isInLine c = true) (rest : List Char) :
    unifyLines (cs ++ rest) = cs ++ unifyLines rest := by
  induction cs with
  | nil => rfl
  | cons c cs ih =>
      obtain ⟨hfirst, hothers⟩ := List.forall_mem_cons.mp h
      rw [List.cons_append, unifyLines_cons hfirst, ih hothers]
      rfl

theorem LineEnd.unifyLines_append (e : LineEnd) (rest : List Char) :
    unifyLines (e.text ++ rest) = '\n' :: unifyLines rest := by
  cases e with
  | crlf => rfl
  | lf =>
      show unifyLines ('\n' :: rest) = _
      rw [unifyLines] <;> nofun

/-- The reader sees the lines with line feeds between them. -/
theorem PlainFile.unifyLines_text (f : PlainFile) :
    unifyLines f.text = joined (f.ended.map (·.1)) f.last := by
  obtain ⟨ended, last⟩ := f
  rw [PlainFile.text]
  induction ended with
  | nil =>
      have hlast := unifyLines_append last.isInLine_of_mem []
      rw [List.append_nil] at hlast
      exact hlast.trans (List.append_nil _)
  | cons l ls ih =>
      rw [List.flatMap_cons, List.append_assoc, List.append_assoc,
        unifyLines_append l.1.isInLine_of_mem, l.2.unifyLines_append, ih]
      rfl

/-- **The statements of a file are those of its lines**, each by itself. -/
theorem PlainFile.significant_statements (f : PlainFile) :
    significant (statements f.text) = significant (told 1 1 f.lines) := by
  rw [statements, f.unifyLines_text]
  have hbefore : ∀ c ∈ ([] : List Char), isBlank c = true := List.forall_mem_nil _
  exact significant_statementsFrom hbefore (Nat.lt_succ_self _)

end EnvFile
end RouteProbe
