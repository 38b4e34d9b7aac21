import RouteProbe.Proofs.Url.Host
import RouteProbe.Proofs.Url.Reading
import RouteProbe.Route

/-!
# The URL of a path on a host

Host, port and path are put one behind the other, and what stands before the first slash, question
mark or hash behind the scheme is the authority (`Route.authority_ofText`).  If the path begins with
one of these, the authority is the host and the port; if it does not, as much of it as stands
before the first of them is a part of the authority (`Route.authority_eq`).
-/

namespace RouteProbe
namespace Route

open Text Url

variable {host path : List Char} {u : Url} {c : Char}

/-- What stands behind the scheme and the slashes. -/
def located (host path : List Char) : List Char := host ++ (":8080".toList ++ path)

theorem url_eq (host path : List Char) : url host path = "http://".toList ++ located host path := by
  have hassoc : ∀ a b c d : List Char, a ++ b ++ c ++ d = a ++ (b ++ (c ++ d)) := by
    intro a b c d
    rw [List.append_assoc, List.append_assoc]
  exact hassoc _ host ":8080".toList path

/-- The authority of the URL: the host, the port, and as much of the path as runs into it. -/
def authority (host path : List Char) : List Char := (cutAt authorityMarks (located host path)).1

theorem authority_ofText (host path : List Char) :
    (Parts.ofText (url host path)).authority = authority host path := by
  rw [url_eq]
  exact (ofText_http _).2.1

/-- As much of a path as runs into the authority. -/
def stray (path : List Char) : List Char := (cutAt authorityMarks path).1

/-- Behind a host that holds none of the marks, the stray part of the path follows the port. -/
theorem authority_eq (hhost : ∀ c ∈ host, c ∉ authorityMarks) (path : List Char) :
    authority host path = host ++ ':' :: ("8080".toList ++ stray path) := by
  have hkept : ∀ c ∈ host, (!authorityMarks.contains c) = true := by
    intro c hc
    simpa using hhost c hc
  have hport : ∀ c ∈ ":8080".toList, (!authorityMarks.contains c) = true :=
    List.all_eq_true.mp (by decide)
  rw [authority, located, stray, cutAt_eq, cutAt_eq, List.takeWhile_append_of_pos hkept,
    List.takeWhile_append_of_pos hport]
  rfl

theorem mem_url_of_mem_authority (h : c ∈ authority host path) : c ∈ url host path := by
  rw [authority, cutAt_eq] at h
  rw [url_eq]
  exact List.mem_append_right _ (List.takeWhile_subset _ h)

theorem scheme_ofText (host path : List Char) :
    (Parts.ofText (url host path)).scheme = "http".toList := by
  rw [url_eq]
  exact (ofText_http _).1

theorem scheme_of_parse_url (h : parse (url host path) = .ok u) : u.scheme = "http".toList := by
  obtain ⟨-, -, hparts⟩ := parse_eq_ok_iff.mp h
  obtain ⟨name, port, -, -, -, rfl⟩ := ofParts_eq_ok_iff.mp hparts
  rw [Parts.toUrl, scheme_ofText]
  rfl

/-- How the URL is read. -/
theorem parse_url (h : parse (url host path) = .ok u) :
    readHost (hostPart (authority host path)) = .ok u.host ∧
      u.user = escape keepsUser (takeUser (authority host path)).1 ∧
      (∃ path' : List Char, u.path = escape keepsPath path') ∧
      (∃ query : Option (List Char), u.query = query.map (escape keepsQuery)) ∧
      ∀ c ∈ authority host path, isControl c = false := by
  obtain ⟨-, hcontrol, hparts⟩ := parse_eq_ok_iff.mp h
  obtain ⟨name, port, hname, -, -, rfl⟩ := ofParts_eq_ok_iff.mp hparts
  rw [Option.getD_none, authority_ofText] at hname
  refine ⟨hname, ?_, ⟨_, rfl⟩, ⟨_, rfl⟩, fun c hc => hcontrol c (mem_url_of_mem_authority hc)⟩
  rw [← authority_ofText]
  rfl

end Route
end RouteProbe
