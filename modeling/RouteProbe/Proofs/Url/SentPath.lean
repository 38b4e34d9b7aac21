import RouteProbe.Proofs.Url.Escape
import RouteProbe.Proofs.Url.Segments

/-!
# Paths in the form in which they are sent

A path is sent with its dot segments followed and with all other characters escaped than those that
stand for themselves, and so is the query behind it (`SentPath`).  This is a normal form: escaping
it and following its dot segments change nothing (`SentPath.escape_path`, `SentPath.escape_query`,
`SentPath.normalPath_path`), and every path that can stand behind an authority is brought into it
(`SentPath.ofRead`).

The order in which a path is brought into it matters for the second of these.  Escaping comes last,
and could make a dot segment of another one, if a dot or a slash came of it; but escapes are made of
percent signs and digits.
-/

namespace RouteProbe
namespace Url

/-- A path in the form in which it is sent, and the query behind it. -/
structure SentPath where
  path : List Char
  query : Option (List Char)
  head?_path : path.head? = some '/'
  keepsPath_of_mem : ∀ c ∈ path, keepsPath c = true
  keepsQuery_of_mem : ∀ text ∈ query, ∀ c ∈ text, keepsQuery c = true
  here_notMem : here ∉ path.splitOn '/'
  up_notMem : up ∉ path.splitOn '/'

theorem notMem_of_keepsPath {c : Char} (h : keepsPath c = true) : c ∉ ['?', '#'] := by
  intro hmem
  rw [List.mem_cons, List.mem_singleton] at hmem
  rcases hmem with rfl | rfl
  · exact absurd h (by decide)
  · exact absurd h (by decide)

namespace SentPath

/-- The path and the query as they are written. -/
def text (p : SentPath) : List Char := p.path ++ markedBy '?' p.query

section

variable (p : SentPath)

/-- **Escaping does not change what is sent as a path.** -/
theorem escape_path : escape keepsPath p.path = p.path := escape_eq_self p.keepsPath_of_mem

/-- **Escaping does not change what is sent as a query.** -/
theorem escape_query : p.query.map (escape keepsQuery) = p.query := by
  cases hquery : p.query with
  | none => rfl
  | some text => exact congrArg some (escape_eq_self (p.keepsQuery_of_mem text hquery))

/-- **Following dot segments does not change what is sent as a path**: it has none. -/
theorem normalPath_path : normalPath p.path = p.path :=
  normalPath_of_notMem p.here_notMem p.up_notMem

/-- What is sent is graphic. -/
theorem isGraphic_of_mem_text : ∀ c ∈ p.text, isGraphic c = true := by
  intro c hc
  rcases List.mem_append.mp hc with hc | hc
  · exact isGraphic_of_keepsAllBut (p.keepsPath_of_mem c hc)
  · cases hquery : p.query with
    | none =>
        rw [hquery] at hc
        cases hc
    | some text =>
        rw [hquery] at hc
        rcases List.mem_cons.mp hc with rfl | hc
        · rfl
        · exact isGraphic_of_keepsAllBut (p.keepsQuery_of_mem text hquery c hc)

/-- No mark that ends a path stands in the path. -/
theorem notMem_path : ∀ c ∈ p.path, c ∉ ['?', '#'] := fun c hc =>
  notMem_of_keepsPath (p.keepsPath_of_mem c hc)

/-- The mark that ends a query does not stand in the query. -/
theorem hash_notMem_query : ∀ text ∈ p.query, '#' ∉ text := fun text htext hmark =>
  absurd (p.keepsQuery_of_mem text htext '#' hmark) (by decide)

/-- The path is what stands before a question mark. -/
theorem takeWhile_text : p.text.takeWhile (· ≠ '?') = p.path := by
  have hpath : ∀ c ∈ p.path, decide (c ≠ '?') = true := by
    intro c hc
    have hmarks := p.notMem_path c hc
    simp only [List.mem_cons, not_or] at hmarks
    exact decide_eq_true hmarks.1
  rw [text, List.takeWhile_append_of_pos hpath]
  cases p.query with
  | none => exact List.append_nil _
  | some text => exact List.append_nil _

end

/-! ## Bringing a path into the form -/

/-- What is asked of a host for an escaped path: a slash, if there is none. -/
def orSlash (path : List Char) : List Char := if path.isEmpty then ['/'] else path

variable {path : List Char}

/-- Escaping makes no dot segments. -/
theorem notMem_escape {segment : List Char} (hplain : '%' ∉ segment)
    (h : segment ∉ path.splitOn '/') : segment ∉ (escape keepsPath path).splitOn '/' := by
  intro hmem
  rw [splitOn_escape rfl] at hmem
  obtain ⟨part, hpart, hsame⟩ := List.mem_map.mp hmem
  exact h (eq_of_escape_eq hsame hplain ▸ hpart)

theorem head?_orSlash (h : StartsWithSlash path) :
    (orSlash (escape keepsPath path)).head? = some '/' := by
  unfold orSlash
  rcases h with rfl | h
  · rfl
  · obtain ⟨more, rfl⟩ := List.head?_eq_some_iff.mp h
    exact head?_escape rfl more

/-- **Every path that can stand behind an authority, and every query, are brought into the form in
which they are sent.** -/
def ofRead (path : List Char) (query : Option (List Char)) (h : StartsWithSlash path) :
    SentPath where
  path := orSlash (escape keepsPath (normalPath path))
  query := query.map (escape keepsQuery)
  head?_path := head?_orSlash (startsWithSlash_normalPath h)
  keepsPath_of_mem := by
    intro c hc
    unfold orSlash at hc
    split at hc
    · rw [List.mem_singleton.mp hc]
      rfl
    · exact keepsEscapes_keepsPath.keeps_of_mem_escape hc
  keepsQuery_of_mem := by
    intro text htext c hc
    obtain ⟨raw, -, rfl⟩ := Option.map_eq_some_iff.mp htext
    exact keepsEscapes_keepsQuery.keeps_of_mem_escape hc
  here_notMem := by
    unfold orSlash
    split
    · decide
    · exact notMem_escape (by decide) (notMem_normalPath path).1
  up_notMem := by
    unfold orSlash
    split
    · decide
    · exact notMem_escape (by decide) (notMem_normalPath path).2

end SentPath
end Url
end RouteProbe
