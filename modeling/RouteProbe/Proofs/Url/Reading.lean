import Mathlib.Data.List.TakeWhile
import Mathlib.Data.List.TakeDrop
import RouteProbe.Proofs.Result
import RouteProbe.Proofs.Url.Escape
import RouteProbe.Proofs.Url.Segments

/-!
# How a text is read as a URL

A text is cut into parts, the host and the port are read, and the path is checked; a URL is what
is put together from these (`ofParts_eq_ok_iff`, `parse_eq_ok_iff`).  A text that begins with the
scheme and two slashes is cut at the first slash, question mark or hash behind them: what stands
before is the authority, and the path is empty or begins with a slash (`ofText_http`).

So nothing that is read has a path that runs into the authority (`startsWithSlash_of_parse`).
-/

namespace RouteProbe
namespace Url

variable {p : Parts} {newHost : Option (List Char)} {u : Url} {e : UrlError}
  {cs rest : List Char} {marks : List Char}

/-! ## Cutting -/

theorem cutAt_eq (marks cs : List Char) :
    cutAt marks cs = (cs.takeWhile (fun c => !marks.contains c),
      cs.dropWhile fun c => !marks.contains c) :=
  List.span_eq_takeWhile_dropWhile _ cs

/-- What is cut off is all of a text up to the first mark. -/
theorem cutAt_append (hcs : ∀ c ∈ cs, c ∉ marks) (hrest : ∀ c ∈ rest.head?, c ∈ marks) :
    cutAt marks (cs ++ rest) = (cs, rest) := by
  have hkept : ∀ c ∈ cs, (!marks.contains c) = true := by
    intro c hc
    simpa using hcs c hc
  have hcut : rest.takeWhile (fun c => !marks.contains c) = [] ∧
      rest.dropWhile (fun c => !marks.contains c) = rest := by
    cases rest with
    | nil => exact ⟨rfl, rfl⟩
    | cons d rest =>
        have hmark : ¬ (!marks.contains d) = true := by
          simpa using hrest d rfl
        exact ⟨List.takeWhile_cons_of_neg hmark, List.dropWhile_cons_of_neg hmark⟩
  rw [cutAt_eq, List.takeWhile_append_of_pos hkept, List.dropWhile_append_of_pos hkept, hcut.1,
    hcut.2, List.append_nil]

/-- What is left begins with one of the marks. -/
theorem head?_cutAt (marks cs : List Char) : ∀ c ∈ (cutAt marks cs).2.head?, c ∈ marks := by
  intro c hc
  rw [cutAt_eq] at hc
  have hnot := List.head?_dropWhile_not (fun c => !marks.contains c) cs
  rw [Option.mem_def.mp hc] at hnot
  simpa using hnot

/-- The marks that end an authority. -/
def authorityMarks : List Char := ['/', '?', '#']

/-- The parts of a text that begins with the scheme and two slashes. -/
theorem ofText_http (rest : List Char) :
    (Parts.ofText ("http://".toList ++ rest)).scheme = "http".toList ∧
      (Parts.ofText ("http://".toList ++ rest)).authority = (cutAt authorityMarks rest).1 ∧
      StartsWithSlash (Parts.ofText ("http://".toList ++ rest)).path := by
  have hpath : StartsWithSlash (cutAt ['?', '#'] (cutAt authorityMarks rest).2).1 := by
    have hmark := head?_cutAt authorityMarks rest
    cases hbehind : (cutAt authorityMarks rest).2 with
    | nil => exact .inl rfl
    | cons c behind =>
        rw [hbehind] at hmark
        have hc : c = '/' ∨ c = '?' ∨ c = '#' := by
          simpa [authorityMarks] using hmark c rfl
        rcases hc with rfl | rfl | rfl
        · exact .inr (by rw [cutAt_eq]; rfl)
        · exact .inl (by rw [cutAt_eq]; rfl)
        · exact .inl (by rw [cutAt_eq]; rfl)
  have hscheme : takeScheme ("http://".toList ++ rest) = ("http".toList, '/' :: '/' :: rest) := rfl
  have hauthority : takeAuthority ('/' :: '/' :: rest) = cutAt authorityMarks rest := rfl
  unfold Parts.ofText
  simp only [hscheme, hauthority]
  split
  · exact ⟨rfl, rfl, hpath⟩
  · exact ⟨rfl, rfl, hpath⟩
  · exact ⟨rfl, rfl, hpath⟩

/-- **A text is cut where its parts were put together.** -/
theorem ofText_written {authority path : List Char} {query : Option (List Char)}
    (hauthority : ∀ c ∈ authority, c ∉ authorityMarks) (hslash : StartsWithSlash path)
    (hpath : ∀ c ∈ path, c ∉ ['?', '#']) (hquery : ∀ text ∈ query, '#' ∉ text) :
    Parts.ofText ("http://".toList ++ (authority ++ (path ++ markedBy '?' query))) =
      ⟨"http".toList, authority, path, query, none⟩ := by
  have hmark : ∀ c ∈ (markedBy '?' query).head?, c = '?' := by
    intro c hc
    cases query with
    | none => cases hc
    | some text => exact (Option.some.inj hc).symm
  have hbehind : ∀ c ∈ (path ++ markedBy '?' query).head?, c ∈ authorityMarks := by
    intro c hc
    rcases hslash with rfl | hslash
    · rw [hmark c hc]
      decide
    · rw [List.head?_append, hslash] at hc
      cases hc
      decide
  have hscheme : ∀ rest, takeScheme ("http://".toList ++ rest) =
      ("http".toList, '/' :: '/' :: rest) := fun _ => rfl
  have htaken : takeAuthority ('/' :: '/' :: (authority ++ (path ++ markedBy '?' query))) =
      (authority, path ++ markedBy '?' query) := cutAt_append hauthority hbehind
  have hcut : cutAt ['?', '#'] (path ++ markedBy '?' query) = (path, markedBy '?' query) :=
    cutAt_append hpath fun c hc => by
      rw [hmark c hc]
      decide
  unfold Parts.ofText
  simp only [hscheme, htaken, hcut]
  cases query with
  | none => rfl
  | some text =>
      have htext : cutAt ['#'] (text ++ []) = (text, []) :=
        cutAt_append (fun c hc hmark => hquery text rfl (List.mem_singleton.mp hmark ▸ hc))
          fun c hc => by cases hc
      rw [List.append_nil] at htext
      simp only [markedBy_some, htext]
      rfl

/-! ## Putting together -/

/-- The host of an authority, before it is read. -/
def hostPart (authority : List Char) : List Char := (takeHost (takeUser authority).2).1

/-- The port of an authority, before it is read. -/
def portPart (authority : List Char) : List Char := portText (takeHost (takeUser authority).2).2

/-- A text with an `@` in it is cut at the last one. -/
theorem exists_of_at_mem (h : '@' ∈ cs) : ∃ user rest, cs = user ++ '@' :: rest ∧ '@' ∉ rest := by
  obtain ⟨front, behind, hreverse, hfront⟩ := List.eq_append_cons_of_mem (List.mem_reverse.mpr h)
  refine ⟨behind.reverse, front.reverse, ?_, fun hmem => hfront (List.mem_reverse.mp hmem)⟩
  rw [← List.reverse_reverse cs, hreverse]
  simp

/-- The user information is what stands before the last `@`. -/
theorem takeUser_of_at (hrest : '@' ∉ rest) (user : List Char) :
    takeUser (user ++ '@' :: rest) = (user, rest) := by
  have hkept : ∀ c ∈ rest.reverse, decide (c ≠ '@') = true := by
    intro c hc
    refine decide_eq_true ?_
    rintro rfl
    exact hrest (List.mem_reverse.mp hc)
  have htaken : ((user ++ '@' :: rest).reverse.takeWhile (· ≠ '@')).reverse = rest := by
    rw [List.reverse_append, List.reverse_cons, List.append_assoc,
      List.takeWhile_append_of_pos hkept, List.singleton_append,
      List.takeWhile_cons_of_neg (by decide), List.append_nil, List.reverse_reverse]
  have hlength : (user ++ '@' :: rest).length - rest.length - 1 = user.length := by
    rw [List.length_append, List.length_cons]
    omega
  rw [takeUser, if_pos (by simp)]
  simp only [htaken, hlength, List.take_left]

/-- The host of an authority is a part of it. -/
theorem mem_of_mem_hostPart {authority : List Char} {c : Char} (h : c ∈ hostPart authority) :
    c ∈ authority := by
  have huser : ∀ d ∈ (takeUser authority).2, d ∈ authority := by
    intro d hd
    unfold takeUser at hd
    split at hd
    · exact List.mem_reverse.mp (List.takeWhile_subset _ (List.mem_reverse.mp hd))
    · exact hd
  refine huser c ?_
  unfold hostPart takeHost at h
  split at h
  · exact List.mem_of_mem_take h
  · rw [cutAt_eq] at h
    exact List.takeWhile_subset _ h

/-- There is something in front of the path. -/
def Parts.hasAuthority (p : Parts) (host : List Char) (port : Option Int) : Bool :=
  !(takeUser p.authority).1.isEmpty || !host.isEmpty || port.isSome

/-- The URL of parts whose host and port have been read. -/
def Parts.toUrl (p : Parts) (host : List Char) (port : Option Int) : Url where
  scheme := p.scheme.map Text.lowerAscii
  user := escape keepsUser (takeUser p.authority).1
  host := host
  port := port
  path := escape keepsPath
    (if !p.scheme.isEmpty || p.hasAuthority host port then normalPath p.path else p.path)
  query := p.query.map (escape keepsQuery)
  fragment := p.fragment.map (escape keepsFragment)

/-- A URL is read in three steps that can fail. -/
theorem ofParts_eq (p : Parts) (newHost : Option (List Char)) :
    ofParts p newHost = readHost (newHost.getD (hostPart p.authority)) >>= fun host =>
      readPort p.scheme (portPart p.authority) >>= fun port =>
        checkPath (!p.scheme.isEmpty) (p.hasAuthority host port) p.path >>= fun _ =>
          .ok (p.toUrl host port) := rfl

theorem ofParts_eq_ok_iff :
    ofParts p newHost = .ok u ↔
      ∃ host port, readHost (newHost.getD (hostPart p.authority)) = .ok host ∧
        readPort p.scheme (portPart p.authority) = .ok port ∧
        checkPath (!p.scheme.isEmpty) (p.hasAuthority host port) p.path = .ok () ∧
        p.toUrl host port = u := by
  rw [ofParts_eq]
  constructor
  · intro h
    obtain ⟨host, hhost, h⟩ := bind_eq_ok_iff.mp h
    obtain ⟨port, hport, h⟩ := bind_eq_ok_iff.mp h
    obtain ⟨⟨⟩, hpath, h⟩ := bind_eq_ok_iff.mp h
    exact ⟨host, port, hhost, hport, hpath, Except.ok.inj h⟩
  · rintro ⟨host, port, hhost, hport, hpath, rfl⟩
    exact bind_eq_ok_iff.mpr ⟨host, hhost, bind_eq_ok_iff.mpr ⟨port, hport,
      bind_eq_ok_iff.mpr ⟨(), hpath, rfl⟩⟩⟩

/-- A path that is empty or begins with a slash can stand behind an authority. -/
theorem checkPath_eq_ok_iff {hasScheme : Bool} {path : List Char} :
    checkPath hasScheme true path = .ok () ↔ StartsWithSlash path := by
  unfold checkPath StartsWithSlash
  simp only [List.isEmpty_iff, if_true]
  constructor
  · intro h
    split at h
    · next hslash => exact hslash
    · cases h
  · intro h
    rw [if_pos h]

/-! ## Texts that are read -/

theorem firstControl?_eq_none_iff : firstControl? cs = none ↔ ∀ c ∈ cs, isControl c = false := by
  unfold firstControl?
  constructor
  · intro h
    split at h
    · cases h
    · next hnone =>
        intro c hc
        simpa using List.dropWhile_eq_nil_iff.mp hnone c hc
  · intro h
    have hnone : cs.dropWhile (fun c => !isControl c) = [] := by
      rw [List.dropWhile_eq_nil_iff]
      intro c hc
      simp [h c hc]
    rw [hnone]

/-- A text is a URL if it is not too long, has no control characters, and its parts are read. -/
theorem parse_eq_ok_iff :
    parse cs = .ok u ↔ cs.length ≤ maxLength ∧ (∀ c ∈ cs, isControl c = false) ∧
      ofParts (Parts.ofText cs) none = .ok u := by
  rw [← firstControl?_eq_none_iff]
  unfold parse
  constructor
  · intro h
    split at h
    · cases h
    · next hlength =>
        split at h
        · cases h
        · next hnone => exact ⟨Nat.le_of_not_lt hlength, hnone, h⟩
  · rintro ⟨hlength, hnone, h⟩
    rw [if_neg (Nat.not_lt.mpr hlength), hnone]
    exact h

/-- **A URL with a host has a path that is empty or begins with a slash.** -/
theorem startsWithSlash_of_parse (h : parse cs = .ok u) (hhost : u.host ≠ []) :
    StartsWithSlash u.path := by
  obtain ⟨-, -, h⟩ := parse_eq_ok_iff.mp h
  obtain ⟨host, port, -, -, hpath, rfl⟩ := ofParts_eq_ok_iff.mp h
  have hauthority : (Parts.ofText cs).hasAuthority host port = true := by
    have hne : host.isEmpty = false := List.isEmpty_eq_false_iff.mpr hhost
    simp [Parts.hasAuthority, hne]
  rw [hauthority] at hpath
  have hslash := startsWithSlash_normalPath (checkPath_eq_ok_iff.mp hpath)
  rw [Parts.toUrl, hauthority, Bool.or_true, if_pos rfl]
  rcases hslash with hnil | hhead
  · exact .inl (escape_eq_nil_iff.mpr hnil)
  · cases hnormal : normalPath (Parts.ofText cs).path with
    | nil => exact .inl rfl
    | cons c path =>
        rw [hnormal] at hhead
        obtain rfl : c = '/' := Option.some.inj hhead
        exact .inr (head?_escape rfl path)

end Url
end RouteProbe
