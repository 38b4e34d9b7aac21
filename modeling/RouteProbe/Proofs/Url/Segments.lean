import RouteProbe.Proofs.Text.Joined
import RouteProbe.Url.Parse

/-!
# Paths with their dot segments followed

Following the dot segments of a path that begins with a slash leaves a path that begins with a
slash, or none at all (`startsWithSlash_normalPath`).  The reason is that the empty segment in
front of the first slash is never taken off: whatever the segments are, those that have been
followed stand behind an empty one (`IsRooted.foldl`).

A path whose dot segments have been followed has none (`notMem_normalPath`), and a path without dot
segments is not changed (`normalPath_of_notMem`).
-/

namespace RouteProbe
namespace Url

/-- The path is empty or begins with a slash. -/
def StartsWithSlash (path : List Char) : Prop := path = [] ∨ path.head? = some '/'

/-- Segments that have been followed, last first, with an empty one in front of all others. -/
def IsRooted (done : List (List Char)) : Prop := ∃ later, done = later ++ [[]]

variable {done : List (List Char)} {path : List Char}

theorem isRooted_followSegment (h : IsRooted done) (segment : List Char) :
    IsRooted (followSegment done segment) := by
  obtain ⟨later, rfl⟩ := h
  unfold followSegment
  split
  · exact ⟨later, rfl⟩
  · split
    · split
      · exact ⟨later, rfl⟩
      · -- there is a segment behind the first one to go up from
        next hne =>
          cases later with
          | nil => exact absurd rfl hne
          | cons s later => exact ⟨later, rfl⟩
    · exact ⟨segment :: later, rfl⟩

/-- Following segments leaves the empty one in front where it is. -/
theorem IsRooted.foldl (h : IsRooted done) (segments : List (List Char)) :
    IsRooted (segments.foldl followSegment done) := by
  induction segments generalizing done with
  | nil => exact h
  | cons segment segments ih => exact ih (isRooted_followSegment h segment)

/-- Segments behind an empty one are a path that begins with a slash, or an empty one. -/
theorem IsRooted.startsWithSlash (h : IsRooted done) :
    StartsWithSlash (['/'].intercalate done.reverse) := by
  obtain ⟨later, rfl⟩ := h
  rw [List.reverse_append, List.reverse_singleton, List.singleton_append]
  cases later.reverse with
  | nil => exact .inl rfl
  | cons s later => exact .inr rfl

/-- The segments of a path that begins with a slash begin with an empty one. -/
theorem splitOn_of_head? (h : path.head? = some '/') :
    ∃ segments, path.splitOn '/' = [] :: segments := by
  cases path with
  | nil => cases h
  | cons c path =>
      obtain rfl : c = '/' := Option.some.inj h
      have hslash : '/' ∉ ([] : List Char) := List.not_mem_nil
      exact ⟨path.splitOn '/', List.splitOn_append_cons_self_of_not_mem hslash path⟩

/-- **A path that begins with a slash still does when its dot segments have been followed**, if
there is anything left of it. -/
theorem startsWithSlash_normalPath (h : StartsWithSlash path) :
    StartsWithSlash (normalPath path) := by
  rcases h with rfl | h
  · exact .inl rfl
  · unfold normalPath
    dsimp only
    split
    · obtain ⟨segments, hsegments⟩ := splitOn_of_head? h
      have hfirst : IsRooted (followSegment [] []) := ⟨[], rfl⟩
      rw [hsegments, List.foldl_cons]
      exact (hfirst.foldl segments).startsWithSlash
    · exact .inr h

/-- What is kept of a segment is the segment itself, and it is none of the two. -/
theorem mem_followSegment {segment kept : List Char} (h : kept ∈ followSegment done segment) :
    kept ∈ done ∨ kept = segment ∧ kept ≠ here ∧ kept ≠ up := by
  unfold followSegment at h
  split at h
  · exact .inl h
  · next hhere =>
      split at h
      · split at h
        · exact .inl h
        · exact .inl (List.mem_of_mem_drop h)
      · next hup =>
          rcases List.mem_cons.mp h with rfl | h
          · exact .inr ⟨rfl, hhere, hup⟩
          · exact .inl h

/-- Following segments keeps some of them, and no dot segments. -/
theorem mem_foldl_followSegment {segments : List (List Char)} {kept : List Char}
    (h : kept ∈ segments.foldl followSegment done) :
    kept ∈ done ∨ kept ∈ segments ∧ kept ≠ here ∧ kept ≠ up := by
  induction segments generalizing done with
  | nil => exact .inl h
  | cons segment segments ih =>
      rcases ih h with hdone | ⟨hlater, hkept⟩
      · rcases mem_followSegment hdone with hdone | ⟨rfl, hkept⟩
        · exact .inl hdone
        · exact .inr ⟨List.mem_cons_self, hkept⟩
      · exact .inr ⟨List.mem_cons_of_mem segment hlater, hkept⟩

/-- **A path whose dot segments have been followed has none.** -/
theorem notMem_normalPath (path : List Char) :
    here ∉ (normalPath path).splitOn '/' ∧ up ∉ (normalPath path).splitOn '/' := by
  unfold normalPath
  dsimp only
  split
  · have hkept : ∀ part ∈ ((path.splitOn '/').foldl followSegment []).reverse,
        part ∈ path.splitOn '/' ∧ part ≠ here ∧ part ≠ up := fun part hpart =>
      (mem_foldl_followSegment (List.mem_reverse.mp hpart)).resolve_left List.not_mem_nil
    generalize ((path.splitOn '/').foldl followSegment []).reverse = parts at hkept ⊢
    by_cases hnone : parts = []
    · subst hnone
      exact ⟨by decide, by decide⟩
    · have hparts : (['/'].intercalate parts).splitOn '/' = parts :=
        List.splitOn_intercalate '/'
          (fun part hpart => Text.notMem_of_mem_splitOn (hkept part hpart).1) hnone
      rw [hparts]
      exact ⟨fun hmem => (hkept here hmem).2.1 rfl, fun hmem => (hkept up hmem).2.2 rfl⟩
  · next hdots =>
      simpa using hdots

/-- **A path without dot segments is not changed.** -/
theorem normalPath_of_notMem (hhere : here ∉ path.splitOn '/') (hup : up ∉ path.splitOn '/') :
    normalPath path = path := by
  have hnone : ((path.splitOn '/').contains here || (path.splitOn '/').contains up) = false := by
    rw [Bool.or_eq_false_iff, List.contains_eq_mem, List.contains_eq_mem, decide_eq_false_iff_not,
      decide_eq_false_iff_not]
    exact ⟨hhere, hup⟩
  rw [normalPath, hnone]
  rfl

end Url
end RouteProbe
