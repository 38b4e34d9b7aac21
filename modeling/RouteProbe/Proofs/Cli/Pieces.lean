import RouteProbe.Cli.Outcome

/-!
# Command lines in pieces

A command line is written in pieces: a path, the option for the host with its value behind it, and
the same option with its value attached.  Pieces that cannot be taken for anything else may stand in
any order and number.  The last host counts, the only path counts, and what is not given has its
default; and if there are several paths, the command ends and names all but the first
(`outcome_pieces`).  So it does not matter how paths and hosts are mixed.

The arguments are read one by one (`readAll_append`), and what is read is taken piece by piece.  The
invariant of taking is what is known on the way: a piece changes it in one way, whatever stands
behind it (`take_readings`).  In particular an option that comes first does not use up the place of
the path.
-/

namespace RouteProbe
namespace Cli

/-- A piece of a command line: a path, a host in two arguments, or a host in one. -/
inductive Piece where
  | path (text : List Char)
  | host (text : List Char)
  | attached (text : List Char)
  deriving Repr, DecidableEq

namespace Piece

/-- The arguments of a piece. -/
def arguments : Piece → List Argument
  | .path text => [text]
  | .host text => ["--host".toList, text]
  | .attached text => ["--host=".toList ++ text]

/-- The piece is not taken for anything else: what stands alone does not begin with a hyphen, and
what is attached is not the mark that ends the options. -/
def IsPlain : Piece → Prop
  | .path text => text.head? ≠ some '-'
  | .host text => text.head? ≠ some '-'
  | .attached text => text ≠ optionsEnd

instance (p : Piece) : Decidable p.IsPlain := by
  cases p <;> exact inferInstanceAs (Decidable (_ ≠ _))

/-- The path that a piece gives. -/
def path? : Piece → Option (List Char)
  | .path text => some text
  | _ => none

/-- The host that a piece gives. -/
def host? : Piece → Option (List Char)
  | .path _ => none
  | .host text => some text
  | .attached text => some text

/-- What the arguments of a piece are read as. -/
def readings : Piece → List (Argument × Reading)
  | .path text => [(text, .operand)]
  | .host text => [("--host".toList, .long .host none), (text, .operand)]
  | .attached text => [("--host=".toList ++ text, .long .host (some text))]

end Piece

/-! ## Reading the arguments -/

/-- An argument that does not begin with a hyphen is no option. -/
theorem readArgument_of_head? {a : Argument} (h : a.head? ≠ some '-') :
    readArgument a = .ok .operand := by
  unfold readArgument
  split
  · exact absurd rfl h
  · exact absurd rfl h
  · exact absurd rfl h
  · rfl

/-- The option for the host with a value attached is split at the first equals sign. -/
theorem readArgument_attached (text : List Char) :
    readArgument ("--host=".toList ++ text) = .ok (.long .host (some text)) := rfl

theorem ne_optionsEnd_of_head? {a : Argument} (h : a.head? ≠ some '-') : a ≠ optionsEnd := by
  rintro rfl
  exact h rfl

/-- An argument that is no mark is read by itself. -/
theorem readAll_cons {a : Argument} {r : Reading} (hmark : a ≠ optionsEnd)
    (h : readArgument a = .ok r) (as : List Argument) :
    readAll (a :: as) = (readAll as).map ((a, r) :: ·) := by
  rw [readAll, if_neg hmark, h]
  cases readAll as <;> rfl

/-- **A piece is read as it is meant**, whatever stands behind it. -/
theorem readAll_append {p : Piece} (h : p.IsPlain) (as : List Argument) :
    readAll (p.arguments ++ as) = (readAll as).map (p.readings ++ ·) := by
  cases p with
  | path text => exact readAll_cons (ne_optionsEnd_of_head? h) (readArgument_of_head? h) as
  | host text =>
      have hname : readArgument "--host".toList = .ok (.long .host none) := rfl
      show readAll ("--host".toList :: text :: as) = _
      rw [readAll_cons (by decide) hname,
        readAll_cons (ne_optionsEnd_of_head? h) (readArgument_of_head? h)]
      cases readAll as <;> rfl
  | attached text => exact readAll_cons (by simp [optionsEnd]) (readArgument_attached text) as

/-- Pieces are read as they are meant. -/
theorem readAll_arguments {pieces : List Piece} (h : ∀ p ∈ pieces, p.IsPlain) :
    readAll (pieces.flatMap Piece.arguments) = .ok (pieces.flatMap Piece.readings) := by
  induction pieces with
  | nil => rfl
  | cons p pieces ih =>
      rw [List.flatMap_cons, readAll_append (h p List.mem_cons_self),
        ih fun q hq => h q (List.mem_cons_of_mem p hq)]
      rfl

/-! ## Taking what is read -/

namespace Progress

/-- What is known once a piece has been taken. -/
def pass (known : Progress) : Piece → Progress
  | .path text =>
      if known.path.isNone then { known with path := some (some text) }
      else { known with leftOver := text :: known.leftOver }
  | .host text => { known with host := some (.named text) }
  | .attached text => { known with host := some (.named text) }

end Progress

/-- No piece is read as the mark that ends the options. -/
theorem head?_readings (pieces : List Piece) (a : Argument) :
    (pieces.flatMap Piece.readings).head? ≠ some (a, .optionsEnd) := by
  cases pieces with
  | nil => simp
  | cons p pieces => cases p <;> simp [Piece.readings]

/-- An operand is the path if there is none, unless a mark stands behind it. -/
theorem take_operand (known : Progress) (text : List Char) {more : List (Argument × Reading)}
    (hmark : ∀ a, more.head? ≠ some (a, .optionsEnd)) :
    take known ((text, .operand) :: more) = take (known.pass (.path text)) more := by
  rw [take]
  · rw [Progress.pass]
    split <;> rfl
  · rintro b more' rfl
    exact hmark b rfl

/-- **Pieces are taken one by one.** -/
theorem take_readings {pieces : List Piece} (h : ∀ p ∈ pieces, p.IsPlain) (known : Progress) :
    take known (pieces.flatMap Piece.readings) = .ok (pieces.foldl Progress.pass known) := by
  induction pieces generalizing known with
  | nil => rfl
  | cons p pieces ih =>
      have hrest := ih fun q hq => h q (List.mem_cons_of_mem p hq)
      rw [List.flatMap_cons, List.foldl_cons, ← hrest]
      cases p with
      | path text => exact take_operand known text (head?_readings pieces)
      | host text => rfl
      | attached text =>
          have hattached : HostChoice.ofAttached text = .named text :=
            if_neg (h (.attached text) List.mem_cons_self)
          show take { known with host := some (.ofAttached text) } _ = _
          rw [hattached]
          rfl

/-! ## What is known in the end -/

/-- The host that counts is the last one. -/
theorem host_foldl_pass (pieces : List Piece) (known : Progress) :
    (pieces.foldl Progress.pass known).host =
      ((pieces.filterMap Piece.host?).getLast?.map .named).or known.host := by
  induction pieces generalizing known with
  | nil => rfl
  | cons p pieces ih =>
      rw [List.foldl_cons, ih]
      cases p with
      | path text =>
          have hhost : (known.pass (.path text)).host = known.host := by
            rw [Progress.pass]
            split <;> rfl
          rw [hhost]
          rfl
      | host text | attached text =>
          simp only [List.filterMap_cons, Piece.host?, List.getLast?_cons]
          cases (pieces.filterMap Piece.host?).getLast? <;> rfl

/-- Once there is a path, all others are left over. -/
theorem foldl_pass_of_path (pieces : List Piece) {known : Progress} {path : Option (List Char)}
    (h : known.path = some path) :
    (pieces.foldl Progress.pass known).path = some path ∧
      (pieces.foldl Progress.pass known).leftOver =
        (pieces.filterMap Piece.path?).reverse ++ known.leftOver := by
  induction pieces generalizing known with
  | nil => exact ⟨h, rfl⟩
  | cons p pieces ih =>
      rw [List.foldl_cons]
      cases p with
      | path text =>
          have hpass : known.pass (.path text) =
              { known with leftOver := text :: known.leftOver } := by
            rw [Progress.pass, h]
            rfl
          have hkept : (known.pass (.path text)).path = some path := by rw [hpass]; exact h
          obtain ⟨hpath, hleft⟩ := ih hkept
          refine ⟨hpath, ?_⟩
          rw [hleft, hpass]
          simp only [List.filterMap_cons, Piece.path?, List.reverse_cons, List.append_assoc,
            List.singleton_append]
      | host text => exact ih h
      | attached text => exact ih h

/-- The first path is the one that counts. -/
theorem foldl_pass_of_none (pieces : List Piece) {known : Progress} (h : known.path = none) :
    (pieces.foldl Progress.pass known).path =
        (pieces.filterMap Piece.path?).head?.map some ∧
      (pieces.foldl Progress.pass known).leftOver =
        (pieces.filterMap Piece.path?).tail.reverse ++ known.leftOver := by
  induction pieces generalizing known with
  | nil => exact ⟨h, rfl⟩
  | cons p pieces ih =>
      rw [List.foldl_cons]
      cases p with
      | path text =>
          have hpass : known.pass (.path text) = { known with path := some (some text) } := by
            rw [Progress.pass, h]
            rfl
          rw [hpass]
          exact foldl_pass_of_path pieces rfl
      | host text => exact ih h
      | attached text => exact ih h

/-! ## What the command line comes to -/

/-- The host that pieces ask for, or the default. -/
def Piece.hostOf (defaultHost : List Char) (pieces : List Piece) : List Char :=
  (pieces.filterMap Piece.host?).getLast?.getD defaultHost

/-- What is known of all arguments is what a request is made of, if nothing is left over. -/
theorem request_of_take {defaultHost : List Char} {as : List Argument}
    {rs : List (Argument × Reading)} {p : Progress} (hread : readAll as = .ok rs)
    (htake : take .start rs = .ok p) :
    request defaultHost as =
      if p.leftOver.isEmpty then
        .ok ⟨p.host.getD (.named defaultHost), (p.path.getD none).getD Route.profile.toList⟩
      else .error (.wrong (.unrecognized p.leftOver.reverse)) := by
  rw [request, hread]
  show (take .start rs >>= _) = _
  rw [htake]
  rfl

/-- What is left over of a command line in pieces is reported, and there is a request if nothing
is. -/
theorem request_pieces (defaultHost : List Char) {pieces : List Piece}
    (h : ∀ p ∈ pieces, p.IsPlain) :
    request defaultHost (pieces.flatMap Piece.arguments) =
      if (pieces.filterMap Piece.path?).tail.isEmpty then
        .ok ⟨.named (Piece.hostOf defaultHost pieces),
          (pieces.filterMap Piece.path?).head?.getD Route.profile.toList⟩
      else .error (.wrong (.unrecognized (pieces.filterMap Piece.path?).tail)) := by
  have hstart : Progress.start.path = none := rfl
  obtain ⟨hpath, hleft⟩ := foldl_pass_of_none pieces hstart
  have hhost : (pieces.foldl Progress.pass .start).host.getD (.named defaultHost) =
      .named (Piece.hostOf defaultHost pieces) := by
    rw [host_foldl_pass, Piece.hostOf]
    cases (pieces.filterMap Piece.host?).getLast? <;> rfl
  have hleft' : (pieces.foldl Progress.pass .start).leftOver =
      (pieces.filterMap Piece.path?).tail.reverse := by
    rw [hleft]
    exact List.append_nil _
  rw [request_of_take (readAll_arguments h) (take_readings h .start), hleft', hhost, hpath,
    List.isEmpty_reverse, List.reverse_reverse]
  cases (pieces.filterMap Piece.path?).head? <;> rfl

/-- **What a command line in pieces comes to**: the last host and the only path, each with its
default, or an end with 2 and nothing on standard output if there are several paths, and all of them
but the first are named.  How paths and hosts are mixed does not matter. -/
theorem outcome_pieces (width : Int) (defaultHost : List Char) {pieces : List Piece}
    (h : ∀ p ∈ pieces, p.IsPlain) :
    (outcome width defaultHost (pieces.flatMap Piece.arguments) =
      match pieces.filterMap Piece.path? with
      | [] => .asked ⟨.named (Piece.hostOf defaultHost pieces), Route.profile.toList⟩
      | [path] => .asked ⟨.named (Piece.hostOf defaultHost pieces), path⟩
      | _ :: more => .exit 2 [] (complaint width (.unrecognized more))) ∧
    ∀ mixed : List Piece, (∀ p ∈ mixed, p.IsPlain) →
      mixed.filterMap Piece.path? = pieces.filterMap Piece.path? →
      mixed.filterMap Piece.host? = pieces.filterMap Piece.host? →
      outcome width defaultHost (mixed.flatMap Piece.arguments) =
        outcome width defaultHost (pieces.flatMap Piece.arguments) := by
  refine ⟨?_, fun mixed hmixed hpaths hhosts => ?_⟩
  · rw [outcome, request_pieces defaultHost h]
    match pieces.filterMap Piece.path? with
    | [] => rfl
    | [path] => rfl
    | _ :: _ :: _ => rfl
  · rw [outcome, outcome, request_pieces defaultHost hmixed, request_pieces defaultHost h,
      Piece.hostOf, Piece.hostOf, hpaths, hhosts]

/-- A host in front of an empty path, and a last one attached behind it. -/
theorem outcome_pieces_attached :
    outcome 78 "10.0.0.7".toList ["--host".toList, [], [], "--host=--help".toList] =
      .asked ⟨.named "--help".toList, []⟩ := by
  have hplain : ∀ p ∈ [Piece.host [], .path [], .attached "--help".toList], p.IsPlain := by decide
  exact (outcome_pieces 78 "10.0.0.7".toList hplain).1

end Cli
end RouteProbe
