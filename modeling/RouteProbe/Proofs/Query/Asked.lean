import RouteProbe.Proofs.Url.Host
import RouteProbe.Proofs.Url.Reading
import RouteProbe.Query.Run

/-!
# URLs that can be asked for

A query asks for what its text is read as, unchanged, or for nothing (`askedUrl_eq_ok_iff`).  It
asks if the text is a URL with a scheme and a host, if the host can be shown to a reader, and if
the location is ASCII.

A URL without a host is taken as a path alone first.  That can fail, but it never leads anywhere: a
path alone has no scheme, and without one no request can be written (`writable_of_pathOnly`).  So an
error in the URL is one in the text, or one in the path of a URL without a host
(`askedUrl_eq_url_iff`).
-/

namespace RouteProbe
namespace Query

open Url

variable {url : List Char} {u v : Url}

/-- Checks that a request can be written for a URL. -/
def writable (url : List Char) (u : Url) : Except QueryError Url :=
  u.readableHost.mapError .domain >>= fun host =>
    (if host.isEmpty then .ok () else u.checkLocationText.mapError (targetError url)) >>= fun _ =>
      if u.scheme.isEmpty then .error (.transport .noScheme) else .ok u

/-- What is asked for is found in three steps. -/
theorem askedUrl_eq (url : List Char) :
    askedUrl url = (parse url).mapError (urlError url) >>= fun u =>
      (if u.isAbsolute then .ok u else u.pathOnly.mapError (urlError url)) >>= writable url := by
  have hwritable : writable url = fun u => (do
      let host ← u.readableHost.mapError .domain
      if !host.isEmpty then
        u.checkLocationText.mapError (targetError url)
      if u.scheme.isEmpty then throw (.transport .noScheme)
      return u) := by
    refine funext fun u => congrArg _ (funext fun host => ?_)
    cases host.isEmpty with
    | true => cases u.scheme.isEmpty <;> rfl
    | false => cases u.scheme.isEmpty <;> rfl
  rw [hwritable]
  refine congrArg _ (funext fun u => ?_)
  cases u.isAbsolute <;> rfl

/-! ## A path alone -/

/-- The path and query of a URL as parts that are given by themselves. -/
theorem pathOnly_eq (u : Url) :
    ∃ path query, u.pathOnly = ofComponents ⟨[], [], path, query, none⟩ none :=
  ⟨_, _, rfl⟩

/-- A path alone has no scheme and no host. -/
theorem scheme_of_pathOnly (h : u.pathOnly = .ok v) : v.scheme = [] ∧ v.host = [] := by
  obtain ⟨path, query, hpath⟩ := pathOnly_eq u
  rw [hpath] at h
  unfold ofComponents at h
  obtain ⟨_, -, h⟩ := bind_eq_ok_iff.mp h
  obtain ⟨_, -, h⟩ := bind_eq_ok_iff.mp h
  obtain ⟨_, -, h⟩ := bind_eq_ok_iff.mp h
  obtain ⟨_, -, h⟩ := bind_eq_ok_iff.mp h
  obtain ⟨_, -, h⟩ := bind_eq_ok_iff.mp h
  obtain ⟨_, -, h⟩ := bind_eq_ok_iff.mp h
  obtain ⟨host, port, hhost, -, -, rfl⟩ := ofParts_eq_ok_iff.mp h
  cases hhost
  exact ⟨rfl, rfl⟩

/-- No request can be written for a path alone. -/
theorem writable_of_pathOnly (h : u.pathOnly = .ok v) (url : List Char) :
    writable url v = .error (.transport .noScheme) := by
  obtain ⟨hscheme, hhost⟩ := scheme_of_pathOnly h
  have hname : v.readableHost = .ok [] := by
    rw [readableHost, hhost]
    rfl
  rw [writable, hname, hscheme]
  rfl

/-! ## Hosts that are there -/

theorem isAbsolute_iff : u.isAbsolute = true ↔ u.scheme ≠ [] ∧ u.host ≠ [] := by
  simp [isAbsolute]

/-- A host that is there is there for a reader as well. -/
theorem ne_nil_of_readableHost {name : List Char} (hhost : u.host ≠ [])
    (h : u.readableHost = .ok name) : name ≠ [] := by
  unfold readableHost at h
  split at h
  · next hmark => exact Domain.ofAscii_ne_nil hmark h
  · cases h
    exact hhost

theorem checkLocationText_eq_ok_iff :
    u.checkLocationText = .ok () ↔ ∀ c ∈ u.location, c.toNat < 0x80 := by
  unfold checkLocationText
  constructor
  · intro h
    split at h
    · next hall => simpa using hall
    · cases h
  · intro h
    rw [if_pos (by simpa using h)]

/-- A request can be written for a URL with a scheme and a host if the host can be shown to a
reader and the location is ASCII. -/
theorem writable_eq_ok_iff (habsolute : u.isAbsolute = true) :
    writable url u = .ok v ↔
      (∃ name, u.readableHost = .ok name) ∧ (∀ c ∈ u.location, c.toNat < 0x80) ∧ v = u := by
  obtain ⟨hscheme, hhost⟩ := isAbsolute_iff.mp habsolute
  rw [← checkLocationText_eq_ok_iff]
  unfold writable
  constructor
  · intro h
    obtain ⟨name, hname, h⟩ := bind_eq_ok_iff.mp h
    obtain ⟨⟨⟩, hlocation, h⟩ := bind_eq_ok_iff.mp h
    rw [mapError_eq_ok_iff] at hname
    rw [List.isEmpty_eq_false_iff.mpr (ne_nil_of_readableHost hhost hname)] at hlocation
    rw [List.isEmpty_eq_false_iff.mpr hscheme] at h
    exact ⟨⟨name, hname⟩, mapError_eq_ok_iff.mp hlocation, (Except.ok.inj h).symm⟩
  · rintro ⟨⟨name, hname⟩, hlocation, rfl⟩
    refine bind_eq_ok_iff.mpr ⟨name, mapError_eq_ok_iff.mpr hname, ?_⟩
    rw [List.isEmpty_eq_false_iff.mpr (ne_nil_of_readableHost hhost hname),
      List.isEmpty_eq_false_iff.mpr hscheme]
    exact bind_eq_ok_iff.mpr ⟨(), mapError_eq_ok_iff.mpr hlocation, rfl⟩

theorem writable_ne_url (e : InvalidUrl) : writable url u ≠ .error (.url e) := by
  intro h
  rcases bind_eq_error_iff.mp h with h | ⟨name, -, h⟩
  · obtain ⟨_, -, h⟩ := mapError_eq_error_iff.mp h
    cases h
  · rcases bind_eq_error_iff.mp h with h | ⟨_, -, h⟩
    · split at h
      · cases h
      · obtain ⟨e', hcheck, he⟩ := mapError_eq_error_iff.mp h
        unfold checkLocationText at hcheck
        split at hcheck
        · cases hcheck
        · cases hcheck
          cases he
    · split at h <;> cases h

/-- **An error of asking for a URL** is one in the URL, in its host or in its location, or it has no
scheme. -/
theorem eq_targetError_of_askedUrl {e : QueryError} (h : askedUrl url = .error e) :
    e = .transport .noScheme ∨ ∃ failure, e = targetError url failure := by
  rw [askedUrl_eq] at h
  rcases bind_eq_error_iff.mp h with h | ⟨u, -, h⟩
  · obtain ⟨failure, -, rfl⟩ := mapError_eq_error_iff.mp h
    exact .inr ⟨.url failure, rfl⟩
  rcases bind_eq_error_iff.mp h with h | ⟨v, -, h⟩
  · split at h
    · cases h
    · obtain ⟨failure, -, rfl⟩ := mapError_eq_error_iff.mp h
      exact .inr ⟨.url failure, rfl⟩
  rcases bind_eq_error_iff.mp h with h | ⟨name, -, h⟩
  · obtain ⟨failure, -, rfl⟩ := mapError_eq_error_iff.mp h
    exact .inr ⟨.domain failure, rfl⟩
  rcases bind_eq_error_iff.mp h with h | ⟨_, -, h⟩
  · split at h
    · cases h
    · obtain ⟨failure, -, rfl⟩ := mapError_eq_error_iff.mp h
      exact .inr ⟨failure, rfl⟩
  · split at h
    · cases h
      exact .inl rfl
    · cases h

/-! ## What is asked for -/

/-- **A query asks for its text as it is read**, if that has a scheme and a host, the host can be
shown to a reader, and the location is ASCII. -/
theorem askedUrl_eq_ok_iff :
    askedUrl url = .ok u ↔
      parse url = .ok u ∧ u.isAbsolute = true ∧ (∃ name, u.readableHost = .ok name) ∧
        ∀ c ∈ u.location, c.toNat < 0x80 := by
  rw [askedUrl_eq]
  constructor
  · intro h
    obtain ⟨v, hparse, h⟩ := bind_eq_ok_iff.mp h
    obtain ⟨w, hchosen, h⟩ := bind_eq_ok_iff.mp h
    split at hchosen
    · next habsolute =>
        cases hchosen
        obtain ⟨hname, hlocation, rfl⟩ := (writable_eq_ok_iff habsolute).mp h
        exact ⟨mapError_eq_ok_iff.mp hparse, habsolute, hname, hlocation⟩
    · rw [writable_of_pathOnly (mapError_eq_ok_iff.mp hchosen)] at h
      cases h
  · rintro ⟨hparse, habsolute, hname, hlocation⟩
    refine bind_eq_ok_iff.mpr ⟨u, mapError_eq_ok_iff.mpr hparse, ?_⟩
    rw [if_pos habsolute]
    exact (writable_eq_ok_iff habsolute).mpr ⟨hname, hlocation, rfl⟩

/-- **An error in the URL that is asked for** is an error in its text, or one in the path of a
URL without a host. -/
theorem askedUrl_eq_url_iff {e : InvalidUrl} :
    askedUrl url = .error (.url e) ↔
      ∃ e', e = ⟨url, e'.message.toList⟩ ∧
        (parse url = .error e' ∨
          ∃ u, parse url = .ok u ∧ u.isAbsolute = false ∧ u.pathOnly = .error e') := by
  rw [askedUrl_eq]
  constructor
  · intro h
    rcases bind_eq_error_iff.mp h with h | ⟨u, hparse, h⟩
    · obtain ⟨e', hparse, he⟩ := mapError_eq_error_iff.mp h
      cases he
      exact ⟨e', rfl, .inl hparse⟩
    · rcases bind_eq_error_iff.mp h with h | ⟨v, -, h⟩
      · split at h
        · cases h
        · next habsolute =>
            obtain ⟨e', hpath, he⟩ := mapError_eq_error_iff.mp h
            cases he
            exact ⟨e', rfl, .inr ⟨u, mapError_eq_ok_iff.mp hparse, by simpa using habsolute, hpath⟩⟩
      · exact absurd h (writable_ne_url e)
  · rintro ⟨e', rfl, hparse | ⟨u, hparse, habsolute, hpath⟩⟩
    · exact bind_eq_error_iff.mpr (.inl (mapError_eq_error_iff.mpr ⟨e', hparse, rfl⟩))
    · refine bind_eq_error_iff.mpr (.inr ⟨u, mapError_eq_ok_iff.mpr hparse, ?_⟩)
      refine bind_eq_error_iff.mpr (.inl ?_)
      rw [habsolute]
      exact mapError_eq_error_iff.mpr ⟨e', hpath, rfl⟩

end Query
end RouteProbe
