import RouteProbe.Proofs.Query.Named
import RouteProbe.Proofs.Query.Release
import RouteProbe.Proofs.Query.Sent
import RouteProbe.Proofs.Url.PlainPath

/-!
# Plain hosts and paths

A plain name in lower case and a plain path go into the request as they are (`Query.run_verbatim`):
the connection is made to the name, on the port of a collector, and the request asks for the path
and the query letter by letter.  The URL that is put together from them is taken apart again into
them (`Route.parse_url_plain`), and none of its parts has another form in which it is sent.

One condition is left that cannot be seen from the letters: a name that begins with the mark of
names beyond ASCII must stand for one.  If it does not, nothing is asked
(`Query.not_forall_verbatim`).
-/

namespace RouteProbe

open Url Http Network

namespace Url.HostName

variable {h : HostName}

/-- The name can be shown to a reader: if it is marked as standing for another name, there is one
that it stands for. -/
def IsReadable (h : HostName) : Prop :=
  Domain.encodedMark.isPrefixOf h.text = true → ∃ name, Domain.ofAscii h.text = .ok name

/-- All letters of the name are in lower case. -/
def IsLower (h : HostName) : Prop := ∀ c ∈ h.text, ¬ ('A' ≤ c ∧ c ≤ 'Z')

instance (h : HostName) : Decidable h.IsLower := List.decidableBAll _ h.text

theorem IsLower.map_eq (hlower : h.IsLower) : h.text.map Text.lowerAscii = h.text := by
  have hsame : ∀ c ∈ h.text, Text.lowerAscii c = c := fun c hc => if_neg (hlower c hc)
  exact (List.map_congr_left hsame).trans (List.map_id h.text)

end Url.HostName

namespace Route

variable {h : HostName} {p : PlainPath}

/-- The URL of a plain path on a plain host. -/
def plainUrl (h : HostName) (p : PlainPath) : Url :=
  ⟨"http".toList, [], h.text, some 8080, p.path, p.query, none⟩

/-- **The URL of a plain path on a plain host is taken apart into the two.** -/
theorem parse_url_plain (hlower : h.IsLower) (hlength : (url h.text p.text).length ≤ maxLength) :
    parse (url h.text p.text) = .ok (plainUrl h p) := by
  have hparse := parse_url_named (h := h) (p := p.sent) hlength
  rw [hlower.map_eq] at hparse
  exact hparse

end Route

namespace Query

open Route

variable {h : HostName} {p : PlainPath}

theorem location_plain (h : HostName) (p : PlainPath) :
    (plainUrl h p).location = h.text ++ ":8080".toList :=
  location_named (h.notMem (by decide)) p.sent

theorem target_plain (h : HostName) (p : PlainPath) : (plainUrl h p).target = p.text :=
  target_named h.text p.sent

theorem isAbsolute_plain (h : HostName) (p : PlainPath) : (plainUrl h p).isAbsolute = true := by
  obtain ⟨first, more, htext, -⟩ := h.text_eq
  refine isAbsolute_named ?_ p.sent
  rw [htext]
  exact List.cons_ne_nil _ _

/-- A plain URL is asked for if its host can be shown to a reader. -/
theorem askedUrl_plain (hlower : h.IsLower) (hlength : (url h.text p.text).length ≤ maxLength)
    (hreadable : h.IsReadable) : askedUrl (url h.text p.text) = .ok (plainUrl h p) := by
  have hname : ∃ name, (plainUrl h p).readableHost = .ok name := by
    unfold readableHost
    split
    · next hmark => exact hreadable hmark
    · exact ⟨_, rfl⟩
  have hasked := askedUrl_named (h := h) (p := p.sent) hlength
  rw [hlower.map_eq] at hasked
  exact hasked hname

/-- If it cannot, that is the error the query ends in. -/
theorem askedUrl_plain_of_not_isReadable (hlower : h.IsLower)
    (hlength : (url h.text p.text).length ≤ maxLength) (hreadable : ¬ h.IsReadable) :
    ∃ e, askedUrl (url h.text p.text) = .error (.domain e) := by
  obtain ⟨hmark, hnone⟩ := Classical.not_imp.mp hreadable
  cases hname : Domain.ofAscii h.text with
  | ok name => exact absurd ⟨name, hname⟩ hnone
  | error e =>
      have hshown : (plainUrl h p).readableHost = .error e := by
        rw [readableHost, plainUrl, if_pos hmark, hname]
      refine ⟨e, ?_⟩
      rw [askedUrl_eq, parse_url_plain hlower hlength]
      refine bind_eq_error_iff.mpr (.inr ⟨_, rfl, ?_⟩)
      refine bind_eq_error_iff.mpr (.inr ⟨plainUrl h p, ?_, ?_⟩)
      · rw [if_pos (isAbsolute_plain h p)]
      · exact bind_eq_error_iff.mpr (.inl (mapError_eq_error_iff.mpr ⟨e, hshown, rfl⟩))

/-- **A plain path on a plain host is asked for letter by letter**: the connection is made to the
host, on the port of a collector, and the request names the path and the host as they are.  If the
host is marked as standing for another name and stands for none, nothing is done. -/
theorem run_verbatim (h : HostName) (p : PlainPath) (hlower : h.IsLower)
    (hlength : (url h.text p.text).length ≤ 65536) :
    (h.IsReadable → ∀ script,
      (run h.text p.text script).trace.connects = [(h.text, 8080)] ∧
      (script.connect = none → script.send = none →
        (run h.text p.text script).trace.sent =
          requestBytes p.text (h.text ++ ":8080".toList) none)) ∧
    (¬ h.IsReadable → ∃ e, ∀ script, (run h.text p.text script).result = .error (.domain e) ∧
      (run h.text p.text script).trace = .none) := by
  constructor
  · intro hreadable script
    have hasked := askedUrl_plain hlower hlength hreadable
    refine ⟨connects_run_of_askedUrl hasked script, fun hconnect hsend => ?_⟩
    rw [sent_run_of_askedUrl hasked, hconnect, hsend, if_pos ⟨rfl, rfl⟩, Request.bytes_eq]
    have hrequest : Request.ofUrl (plainUrl h p) = ⟨p.text, h.text ++ ":8080".toList, none⟩ := by
      rw [Request.ofUrl, target_plain, location_plain]
      rfl
    rw [hrequest]
  · intro hreadable
    obtain ⟨e, hasked⟩ := askedUrl_plain_of_not_isReadable hlower hlength hreadable
    exact ⟨e, fun script => run_of_askedUrl hasked script⟩

/-- The path of a query that names another one, with an escaped slash. -/
def slashPath : PlainPath where
  path := ['/', 'x']
  query := some ['a', '=', '%', '2', 'F']
  head?_path := rfl
  isPlain_path := .char (by decide) (.char (by decide) .nil)
  isPlain_query := by
    rintro _ ⟨⟩
    exact .char (by decide) (.char (by decide) (.escape (by decide) (by decide) .nil))
  here_notMem := by decide
  up_notMem := by decide

/-- A name with digits, hyphens and dots in it. -/
def dottedName : HostName :=
  ⟨"node-7.local".toList, ⟨'n', rfl, rfl⟩, List.all_eq_true.mp (by decide)⟩

theorem run_verbatim_sample :
    (run "node-7.local".toList "/x?a=%2F".toList ⟨none, none, []⟩).trace.connects =
        [("node-7.local".toList, 8080)] ∧
      (run "node-7.local".toList "/x?a=%2F".toList ⟨none, none, []⟩).trace.sent =
        requestBytes "/x?a=%2F".toList "node-7.local:8080".toList none := by
  have hlower : dottedName.IsLower := by decide
  have hlength : (url dottedName.text slashPath.text).length ≤ 65536 := by decide
  have hreadable : dottedName.IsReadable := fun hmark => absurd hmark (by decide)
  have hrun := (run_verbatim dottedName slashPath hlower hlength).1 hreadable ⟨none, none, []⟩
  exact ⟨hrun.1, hrun.2 rfl rfl⟩

/-! ## A name that stands for none -/

/-- A name that is marked as standing for another one, with no number behind the mark. -/
def brokenName : HostName :=
  ⟨"xn--0".toList, ⟨'x', rfl, rfl⟩, List.all_eq_true.mp (by decide)⟩

theorem not_isReadable_brokenName : ¬ brokenName.IsReadable := by
  intro hreadable
  have hbroken : Domain.ofAscii brokenName.text = .error .notEncoded := by decide +kernel
  obtain ⟨name, hname⟩ := hreadable (by decide)
  rw [hbroken] at hname
  cases hname

/-- **A plain host is not asked if it is marked and stands for no name.** -/
theorem not_forall_verbatim :
    ¬ ∀ (h : HostName) (p : PlainPath), h.IsLower → (url h.text p.text).length ≤ 65536 →
      ∀ script, (run h.text p.text script).trace.connects = [(h.text, 8080)] := by
  intro hall
  have hlower : brokenName.IsLower := by decide
  have hlength : (url brokenName.text slashPath.text).length ≤ 65536 := by decide
  obtain ⟨e, hasked⟩ := askedUrl_plain_of_not_isReadable hlower hlength not_isReadable_brokenName
  have hconnects := hall brokenName slashPath hlower hlength ⟨none, none, []⟩
  rw [(run_of_askedUrl hasked _).2] at hconnects
  cases hconnects

end Query
end RouteProbe
