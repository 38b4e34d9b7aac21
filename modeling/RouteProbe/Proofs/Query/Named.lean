import RouteProbe.Proofs.Query.Asked
import RouteProbe.Proofs.Query.Reply
import RouteProbe.Proofs.Route
import RouteProbe.Proofs.Url.HostName
import RouteProbe.Proofs.Url.SentPath

/-!
# Sent paths on named hosts

The URL that is put together from a plain name and a path in the form in which it is sent is taken
apart into the name, in lower case, and the path (`Route.parse_url_named`).  So what is asked of the
host is the path as it is (`Route.target_named`).  The URL is asked for if the name can be shown to
a reader (`Query.askedUrl_named`).
-/

namespace RouteProbe

open Url Http Network

namespace Route

variable {h : HostName} {p : SentPath}

/-- The URL of a path that is sent to a named host. -/
def namedUrl (host : List Char) (p : SentPath) : Url :=
  ⟨"http".toList, [], host, some 8080, p.path, p.query, none⟩

theorem ofText_named (h : HostName) (p : SentPath) :
    Parts.ofText (url h.text p.text) =
      ⟨"http".toList, h.text ++ ':' :: "8080".toList, p.path, p.query, none⟩ := by
  have hauthority : ∀ c ∈ h.text ++ ':' :: "8080".toList, c ∉ authorityMarks := by
    intro c hc hmark
    rcases List.mem_append.mp hc with hc | hc
    · exact h.notMem_authorityMarks c hc hmark
    · have hport : ((':' :: "8080".toList).all fun d => !authorityMarks.contains d) = true := by
        decide
      have hnot := List.all_eq_true.mp hport c hc
      rw [Bool.not_eq_true', List.contains_eq_mem, decide_eq_false_iff_not] at hnot
      exact hnot hmark
  have hassoc : located h.text p.text =
      (h.text ++ ':' :: "8080".toList) ++ (p.path ++ markedBy '?' p.query) :=
    (List.append_assoc _ _ _).symm
  rw [url_eq, hassoc]
  exact ofText_written hauthority (.inr p.head?_path) p.notMem_path p.hash_notMem_query

/-- There are no control characters in the URL. -/
theorem isControl_named (h : HostName) (p : SentPath) :
    ∀ c ∈ url h.text p.text, isControl c = false := by
  intro c hc
  have hgraphic : ("http://".toList ++ ":8080".toList).all isGraphic = true := by decide
  have hfixed : ∀ d ∈ "http://".toList ++ ":8080".toList, isControl d = false := fun d hd =>
    isControl_of_isGraphic (List.all_eq_true.mp hgraphic d hd)
  rw [url_eq] at hc
  rcases List.mem_append.mp hc with hc | hc
  · exact hfixed c (List.mem_append_left _ hc)
  · rcases List.mem_append.mp hc with hc | hc
    · exact isControl_of_isGraphic (isNameChar_spec (h.isNameChar_of_mem c hc)).2.1
    · rcases List.mem_append.mp hc with hc | hc
      · exact hfixed c (List.mem_append_right _ hc)
      · exact isControl_of_isGraphic (p.isGraphic_of_mem_text c hc)

/-- **The URL of a sent path on a named host is taken apart into the two.** -/
theorem parse_url_named (hlength : (url h.text p.text).length ≤ maxLength) :
    parse (url h.text p.text) = .ok (namedUrl (h.text.map Text.lowerAscii) p) := by
  have hat : '@' ∉ "8080".toList := by decide
  refine parse_eq_ok_iff.mpr ⟨hlength, isControl_named h p, ofParts_eq_ok_iff.mpr
    ⟨h.text.map Text.lowerAscii, some 8080, ?_, ?_, ?_, ?_⟩⟩
  · rw [ofText_named, Option.getD_none, h.hostPart_text hat, h.readHost_text]
  · rw [ofText_named, h.portPart_text hat]
    rfl
  · have hauthority : ∀ (q : Parts) host, q.hasAuthority host (some 8080) = true := fun _ _ =>
      Bool.or_true _
    rw [ofText_named, hauthority]
    exact checkPath_eq_ok_iff.mpr (.inr p.head?_path)
  · have hscheme : ∀ b : Bool, (!("http".toList).isEmpty || b) = true := fun _ => rfl
    simp only [ofText_named, Parts.toUrl, namedUrl, h.takeUser_text hat, hscheme, if_true,
      p.normalPath_path, p.escape_path, p.escape_query]
    rfl

theorem location_named {host : List Char} (hcolon : ':' ∉ host) (p : SentPath) :
    (namedUrl host p).location = host ++ ":8080".toList := by
  have hnone : host.contains ':' = false := by
    rw [List.contains_eq_mem, decide_eq_false_iff_not]
    exact hcolon
  rw [location, namedUrl, hnone]
  rfl

theorem target_named (host : List Char) (p : SentPath) : (namedUrl host p).target = p.text := by
  obtain ⟨more, hmore⟩ := List.head?_eq_some_iff.mp p.head?_path
  rw [target, namedUrl, SentPath.text, hmore]
  rfl

/-! ## What is read -/

/-- No part of a path that begins with a slash runs into the authority. -/
theorem stray_of_head? {path : List Char} (hpath : path.head? = some '/') : stray path = [] := by
  obtain ⟨more, rfl⟩ := List.head?_eq_some_iff.mp hpath
  rw [stray, cutAt_eq]
  rfl

/-- What makes up a request for a URL is what makes up that for a sent path on a host. -/
structure SendsAs (u : Url) (host : List Char) (p : SentPath) : Prop where
  scheme_eq : u.scheme = "http".toList
  user_eq : u.user = []
  host_eq : u.host = host
  port_eq : u.port = some 8080
  target_eq : u.target = p.text

/-- **A path that begins with a slash, behind a plain name, is read as a sent path on that
name.** -/
theorem exists_sendsAs_of_parse {path : List Char} {u : Url} (hpath : path.head? = some '/')
    (hparse : parse (url h.text path) = .ok u) :
    ∃ p : SentPath, SendsAs u (h.text.map Text.lowerAscii) p := by
  have hat : '@' ∉ "8080".toList := by decide
  have hauthority : authority h.text path = h.text ++ ':' :: "8080".toList := by
    rw [authority_eq h.notMem_authorityMarks, stray_of_head? hpath, List.append_nil]
  have hslash : StartsWithSlash (Parts.ofText (url h.text path)).path := by
    rw [url_eq]
    exact (ofText_http _).2.2
  obtain ⟨-, -, hparts⟩ := parse_eq_ok_iff.mp hparse
  obtain ⟨name, port, hname, hport, -, rfl⟩ := ofParts_eq_ok_iff.mp hparts
  rw [Option.getD_none, authority_ofText, hauthority, h.hostPart_text hat,
    h.readHost_text] at hname
  cases hname
  have hnumber : readPort "http".toList "8080".toList = .ok (some 8080) := rfl
  rw [scheme_ofText, authority_ofText, hauthority, h.portPart_text hat, hnumber] at hport
  cases hport
  refine ⟨.ofRead _ (Parts.ofText (url h.text path)).query hslash, ?_, ?_, rfl, rfl, ?_⟩
  · rw [Parts.toUrl, scheme_ofText]
    rfl
  · rw [Parts.toUrl, authority_ofText, hauthority, h.takeUser_text hat]
    rfl
  · rw [Parts.toUrl, scheme_ofText]
    rfl

end Route

namespace Query

open Route

variable {h : HostName} {p : SentPath} {u : Url}

theorem isAbsolute_named {host : List Char} (hhost : host ≠ []) (p : SentPath) :
    (namedUrl host p).isAbsolute = true :=
  isAbsolute_iff.mpr ⟨List.cons_ne_nil _ _, hhost⟩

/-- The URL of a sent path on a named host is asked for if its host can be shown to a reader. -/
theorem askedUrl_named (hlength : (url h.text p.text).length ≤ maxLength)
    (hreadable : ∃ name, (namedUrl (h.text.map Text.lowerAscii) p).readableHost = .ok name) :
    askedUrl (url h.text p.text) = .ok (namedUrl (h.text.map Text.lowerAscii) p) := by
  have hhost : h.text.map Text.lowerAscii ≠ [] := by
    obtain ⟨first, more, htext, -⟩ := h.text_eq
    rw [htext]
    exact List.cons_ne_nil _ _
  refine askedUrl_eq_ok_iff.mpr
    ⟨parse_url_named hlength, isAbsolute_named hhost p, hreadable, fun c hc => ?_⟩
  have hcolon : ':' ∉ h.text.map Text.lowerAscii := fun hmem =>
    absurd (h.keepsHost_of_mem_lower ':' hmem) (by decide)
  have hport : ":8080".toList.all (fun d => d.toNat < 0x80) = true := by decide
  rw [location_named hcolon] at hc
  rcases List.mem_append.mp hc with hc | hc
  · have hgraphic := isGraphic_iff.mp (isGraphic_of_keepsAllBut (h.keepsHost_of_mem_lower c hc))
    omega
  · exact of_decide_eq_true (List.all_eq_true.mp hport c hc)

/-! ## What is sent -/

/-- A URL that sends as a sent path on a host is asked at the same place. -/
theorem placeOf_of_sendsAs {host : List Char} (hsends : SendsAs u host p) :
    placeOf u = placeOf (namedUrl host p) := by
  rw [placeOf, placeOf, hsends.host_eq, hsends.port_eq]
  rfl

/-- A URL that sends as a sent path on a host has the same request. -/
theorem ofUrl_of_sendsAs {host : List Char} (hsends : SendsAs u host p) :
    Request.ofUrl u = Request.ofUrl (namedUrl host p) := by
  have hlocation : u.location = (namedUrl host p).location := by
    rw [location, location, hsends.host_eq, hsends.port_eq]
    rfl
  have huser : (namedUrl host p).user = [] := rfl
  have hcredentials : Request.credentialsOf u = Request.credentialsOf (namedUrl host p) := by
    simp only [Request.credentialsOf, userName, password, hsends.user_eq, huser]
  rw [Request.ofUrl, Request.ofUrl, hlocation, hcredentials, hsends.target_eq, target_named]

end Query
end RouteProbe
