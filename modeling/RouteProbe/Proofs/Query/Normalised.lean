import RouteProbe.Proofs.Query.Named
import RouteProbe.Proofs.Query.Release
import RouteProbe.Proofs.Query.Sent

/-!
# Asking for what was sent

What a query asks of a host is its path in the form in which it is sent, with the query behind it.
This is a normal form, so asking for it again is asking for the same: the second query connects to
the same place and sends the same bytes (`Query.run_target`).  In particular nothing in a path, be
it many slashes, segments that go up from the root or percent signs that begin no escape, is left
over for a second round.

The fragment of a path is not sent, so the two need not come to the same result: a reply that sends
the reader on is read against the fragment that was asked for.
-/

namespace RouteProbe

open Url Route Http Network

namespace Query

variable {h : HostName} {path : List Char} {u : Url}

/-- The request for a sent path on a named host. -/
theorem bytes_named (h : HostName) (p : SentPath) :
    (Request.ofUrl (namedUrl (h.text.map Text.lowerAscii) p)).bytes =
      requestBytes p.text (h.text.map Text.lowerAscii ++ ":8080".toList) none := by
  have hcolon : ':' ∉ h.text.map Text.lowerAscii := fun hmem =>
    absurd (h.keepsHost_of_mem_lower ':' hmem) (by decide)
  have hrequest : Request.ofUrl (namedUrl (h.text.map Text.lowerAscii) p) =
      ⟨p.text, h.text.map Text.lowerAscii ++ ":8080".toList, none⟩ := by
    rw [Request.ofUrl, target_named, location_named hcolon]
    rfl
  rw [hrequest, Request.bytes_eq]

/-- What is asked for can be asked for again, if it is not too long with the host in front. -/
theorem askedUrl_target {p : SentPath} (hasked : askedUrl (url h.text path) = .ok u)
    (hsends : SendsAs u (h.text.map Text.lowerAscii) p)
    (hlength : (url h.text p.text).length ≤ maxLength) :
    askedUrl (url h.text p.text) = .ok (namedUrl (h.text.map Text.lowerAscii) p) := by
  obtain ⟨-, -, ⟨name, hname⟩, -⟩ := askedUrl_eq_ok_iff.mp hasked
  refine askedUrl_named hlength ⟨name, ?_⟩
  rw [readableHost, hsends.host_eq] at hname
  rw [readableHost]
  exact hname

/-- **What is sent of a path is in normal form.**  On a plain host, a path that begins with a slash
and is asked for goes to this host, on the port of a collector; the target that is sent for it has
no dot segments, and asking for the target goes to the same place and sends the same bytes, unless
the URL of the target is too long. -/
theorem run_target (h : HostName) (hpath : path.head? = some '/')
    (hasked : askedUrl (url h.text path) = .ok u) :
    (∀ segment ∈ (u.target.takeWhile (· ≠ '?')).splitOn '/', segment ≠ here ∧ segment ≠ up) ∧
    (∀ script,
      (run h.text path script).trace.connects = [(h.text.map Text.lowerAscii, 8080)] ∧
      (script.connect = none → script.send = none →
        (run h.text path script).trace.sent =
          requestBytes u.target (h.text.map Text.lowerAscii ++ ":8080".toList) none)) ∧
    ((url h.text u.target).length ≤ 65536 → ∀ script,
      (run h.text u.target script).trace.connects = (run h.text path script).trace.connects ∧
      (run h.text u.target script).trace.sent = (run h.text path script).trace.sent) := by
  obtain ⟨hparse, -⟩ := askedUrl_eq_ok_iff.mp hasked
  obtain ⟨p, hsends⟩ := exists_sendsAs_of_parse hpath hparse
  have hconnects := fun script => connects_run_of_askedUrl hasked script
  have hsent := fun script => sent_run_of_askedUrl hasked script
  simp only [placeOf_of_sendsAs hsends, ofUrl_of_sendsAs hsends] at hconnects hsent
  rw [hsends.target_eq]
  refine ⟨?_, fun script => ⟨hconnects script, fun hconnect hsend => ?_⟩,
    fun hlength script => ?_⟩
  · rw [p.takeWhile_text]
    intro segment hsegment
    refine ⟨?_, ?_⟩
    · rintro rfl
      exact p.here_notMem hsegment
    · rintro rfl
      exact p.up_notMem hsegment
  · rw [hsent, hconnect, hsend, if_pos ⟨rfl, rfl⟩, bytes_named]
  · have hagain := askedUrl_target hasked hsends hlength
    exact ⟨(connects_run_of_askedUrl hagain script).trans (hconnects script).symm,
      (sent_run_of_askedUrl hagain script).trans (hsent script).symm⟩

/-- A name with capitals. -/
def capitalName : HostName :=
  ⟨"Node-7.local".toList, ⟨'N', rfl, rfl⟩, List.all_eq_true.mp (by decide)⟩

/-- A path that goes up from the root, with a double slash, a lone percent sign, a letter beyond
ASCII, a query and a fragment. -/
def windingPath : List Char := "/../state//./x/../ü%?q=a b#top".toList

/-- The path and the target that is sent for it are asked for in the same bytes. -/
theorem run_target_windingPath :
    (run capitalName.text windingPath ⟨none, none, []⟩).trace.sent =
        requestBytes "/state//%C3%BC%?q=a%20b".toList "node-7.local:8080".toList none ∧
      (run capitalName.text "/state//%C3%BC%?q=a%20b".toList ⟨none, none, []⟩).trace.sent =
        requestBytes "/state//%C3%BC%?q=a%20b".toList "node-7.local:8080".toList none := by
  have hasked : askedUrl (url capitalName.text windingPath) =
      .ok ⟨"http".toList, [], "node-7.local".toList, some 8080, "/state//%C3%BC%".toList,
        some "q=a%20b".toList, some "top".toList⟩ := by decide +kernel
  have hslash : windingPath.head? = some '/' := rfl
  obtain ⟨-, hsent, hagain⟩ := run_target capitalName hslash hasked
  have hfirst := (hsent ⟨none, none, []⟩).2 rfl rfl
  exact ⟨hfirst, (hagain (by decide) ⟨none, none, []⟩).2.trans hfirst⟩

end Query
end RouteProbe
