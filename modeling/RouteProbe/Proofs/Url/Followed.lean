import RouteProbe.Proofs.Result
import RouteProbe.Query.Redirect

/-!
# Targets that cannot be followed

A reply names its target by a text, and the target is completed, resolved and given a fragment
before it is used (`followed_eq`).  The text can be a URL by itself and still come to none on
the way: the host of the URL that was asked does not go with it, what it resolves to is no
URL, or the fragment of the URL that was asked does not fit.  These are the cases of
`Misleads`, and there are no others (`checkTarget_eq_url_iff`).
-/

namespace RouteProbe
namespace Url

variable {asked target : Url} {text : List Char} {e : UrlError}

/-- A target that has a scheme but no host gets the one of the URL that was asked. -/
def completion (asked target : Url) : Except TargetError Url :=
  if target.scheme.isEmpty then .ok target else target.completedBy asked

/-- A target that is not absolute is resolved against the URL that was asked. -/
def resolution (asked target : Url) : Except TargetError Url :=
  if target.isAbsolute then .ok target
  else (asked.joinText target).mapError .reference >>= fun text => (parse text).mapError .url

/-- A target without a fragment gets the one of the URL that was asked. -/
def inheritance (asked target : Url) : Except TargetError Url :=
  if !asked.fragmentText.isEmpty && target.fragmentText.isEmpty then
    (target.withFragment asked.fragmentText).mapError .url
  else .ok target

/-- A target is read, completed, resolved and given a fragment, one after the other. -/
theorem followed_eq (asked : Url) (text : List Char) :
    asked.followed text = (parse text).mapError .location >>= fun target =>
      completion asked target >>= fun completed =>
        resolution asked completed >>= inheritance asked := by
  have hresolved (completed : Url) :
      (if completed.isAbsolute = true then pure completed >>= inheritance asked
      else (asked.joinText completed).mapError .reference >>= fun text =>
        (parse text).mapError .url >>= inheritance asked) =
      resolution asked completed >>= inheritance asked := by
    unfold resolution
    split
    · rfl
    · cases asked.joinText completed <;> rfl
  refine congrArg _ (funext fun target => ?_)
  unfold completion
  split
  · exact hresolved target
  · exact congrArg _ (funext hresolved)

/-- A URL that leads to an error when it is followed from the one that was asked, though it is
one by itself. -/
inductive Misleads (asked target : Url) (e : UrlError) : Prop where
  | host {name : List Char} (scheme : target.scheme ≠ []) (hostless : target.readableHost = .ok [])
      (named : asked.readableHost = .ok name) (refused : target.withHost name = .error e)
  | joined {completed : Url} {text : List Char}
      (completion : completion asked target = .ok completed)
      (relative : completed.isAbsolute = false) (joined : asked.joinText completed = .ok text)
      (refused : parse text = .error e)
  | fragment {completed resolved : Url} (completion : completion asked target = .ok completed)
      (resolution : resolution asked completed = .ok resolved)
      (inherits : asked.fragmentText ≠ []) (none : resolved.fragmentText = [])
      (refused : resolved.withFragment asked.fragmentText = .error e)

theorem hostForReader_ne_url (u : Url) (e : UrlError) : u.hostForReader ≠ .error (.url e) := by
  intro h
  obtain ⟨_, -, h⟩ := mapError_eq_error_iff.mp h
  cases h

theorem hostForReader_eq_ok_iff {u : Url} {name : List Char} :
    u.hostForReader = .ok name ↔ u.readableHost = .ok name := mapError_eq_ok_iff

/-- Completing a target comes to an error of the URL exactly if the host does not go with it. -/
theorem completion_eq_url_iff :
    completion asked target = .error (.url e) ↔
      target.scheme ≠ [] ∧ target.readableHost = .ok [] ∧
        ∃ name, asked.readableHost = .ok name ∧ target.withHost name = .error e := by
  unfold completion
  split
  · next hempty =>
      constructor
      · intro h
        cases h
      · rintro ⟨hne, -⟩
        exact absurd (List.isEmpty_iff.mp hempty) hne
  · next hscheme =>
      have hne : target.scheme ≠ [] := fun h => hscheme (List.isEmpty_iff.mpr h)
      unfold completedBy
      constructor
      · intro h
        rcases bind_eq_error_iff.mp h with h | ⟨host, hhost, h⟩
        · exact absurd h (hostForReader_ne_url target e)
        · split at h
          · next hempty =>
              rw [List.isEmpty_iff.mp hempty] at hhost
              rcases bind_eq_error_iff.mp h with h | ⟨name, hname, h⟩
              · exact absurd h (hostForReader_ne_url asked e)
              · obtain ⟨e', hrefused, he⟩ := mapError_eq_error_iff.mp h
                cases he
                exact ⟨hne, hostForReader_eq_ok_iff.mp hhost, name,
                  hostForReader_eq_ok_iff.mp hname, hrefused⟩
          · cases h
      · rintro ⟨-, hhost, name, hname, hrefused⟩
        refine bind_eq_error_iff.mpr (.inr ⟨[], hostForReader_eq_ok_iff.mpr hhost, ?_⟩)
        exact bind_eq_error_iff.mpr (.inr ⟨name, hostForReader_eq_ok_iff.mpr hname,
          mapError_eq_error_iff.mpr ⟨e, hrefused, rfl⟩⟩)

/-- Resolving a target comes to an error of the URL exactly if it resolves to no URL. -/
theorem resolution_eq_url_iff :
    resolution asked target = .error (.url e) ↔
      target.isAbsolute = false ∧ ∃ text, asked.joinText target = .ok text ∧
        parse text = .error e := by
  unfold resolution
  split
  · next habsolute =>
      constructor
      · intro h
        cases h
      · rintro ⟨hrelative, -⟩
        rw [habsolute] at hrelative
        cases hrelative
  · next hrelative =>
      constructor
      · intro h
        refine ⟨Bool.eq_false_iff.mpr hrelative, ?_⟩
        rcases bind_eq_error_iff.mp h with h | ⟨text, htext, h⟩
        · obtain ⟨_, -, h⟩ := mapError_eq_error_iff.mp h
          cases h
        · obtain ⟨e', hrefused, he⟩ := mapError_eq_error_iff.mp h
          cases he
          exact ⟨text, mapError_eq_ok_iff.mp htext, hrefused⟩
      · rintro ⟨-, text, htext, hrefused⟩
        exact bind_eq_error_iff.mpr (.inr ⟨text, mapError_eq_ok_iff.mpr htext,
          mapError_eq_error_iff.mpr ⟨e, hrefused, rfl⟩⟩)

/-- Giving a target a fragment comes to an error of the URL exactly if it has none and the one
of the URL that was asked does not fit. -/
theorem inheritance_eq_url_iff :
    inheritance asked target = .error (.url e) ↔
      asked.fragmentText ≠ [] ∧ target.fragmentText = [] ∧
        target.withFragment asked.fragmentText = .error e := by
  unfold inheritance
  split
  · next hinherits =>
      rw [Bool.and_eq_true, Bool.not_eq_true', List.isEmpty_eq_false_iff, List.isEmpty_iff]
        at hinherits
      constructor
      · intro h
        obtain ⟨e', hrefused, he⟩ := mapError_eq_error_iff.mp h
        cases he
        exact ⟨hinherits.1, hinherits.2, hrefused⟩
      · rintro ⟨-, -, hrefused⟩
        exact mapError_eq_error_iff.mpr ⟨e, hrefused, rfl⟩
  · next hkeeps =>
      rw [Bool.and_eq_true, Bool.not_eq_true', List.isEmpty_eq_false_iff, List.isEmpty_iff]
        at hkeeps
      constructor
      · intro h
        cases h
      · rintro ⟨hfragment, hnone, -⟩
        exact absurd ⟨hfragment, hnone⟩ hkeeps

/-- **A text is followed to an error of the URL exactly if it is a URL that misleads.** -/
theorem followed_eq_url_iff :
    asked.followed text = .error (.url e) ↔
      ∃ target, parse text = .ok target ∧ Misleads asked target e := by
  rw [followed_eq]
  constructor
  · intro h
    rcases bind_eq_error_iff.mp h with h | ⟨target, hparse, h⟩
    · obtain ⟨_, -, h⟩ := mapError_eq_error_iff.mp h
      cases h
    · refine ⟨target, mapError_eq_ok_iff.mp hparse, ?_⟩
      rcases bind_eq_error_iff.mp h with h | ⟨completed, hcompletion, h⟩
      · obtain ⟨hscheme, hhost, name, hname, hrefused⟩ := completion_eq_url_iff.mp h
        exact .host hscheme hhost hname hrefused
      · rcases bind_eq_error_iff.mp h with h | ⟨resolved, hresolution, h⟩
        · obtain ⟨hrelative, joined, hjoined, hrefused⟩ := resolution_eq_url_iff.mp h
          exact .joined hcompletion hrelative hjoined hrefused
        · obtain ⟨hinherits, hnone, hrefused⟩ := inheritance_eq_url_iff.mp h
          exact .fragment hcompletion hresolution hinherits hnone hrefused
  · rintro ⟨target, hparse, hmisleads⟩
    refine bind_eq_error_iff.mpr (.inr ⟨target, mapError_eq_ok_iff.mpr hparse, ?_⟩)
    cases hmisleads with
    | host hscheme hhost hname hrefused =>
        exact bind_eq_error_iff.mpr
          (.inl (completion_eq_url_iff.mpr ⟨hscheme, hhost, _, hname, hrefused⟩))
    | joined hcompletion hrelative hjoined hrefused =>
        refine bind_eq_error_iff.mpr (.inr ⟨_, hcompletion, bind_eq_error_iff.mpr (.inl ?_)⟩)
        exact resolution_eq_url_iff.mpr ⟨hrelative, _, hjoined, hrefused⟩
    | fragment hcompletion hresolution hinherits hnone hrefused =>
        refine bind_eq_error_iff.mpr (.inr ⟨_, hcompletion, bind_eq_error_iff.mpr
          (.inr ⟨_, hresolution, ?_⟩)⟩)
        exact inheritance_eq_url_iff.mpr ⟨hinherits, hnone, hrefused⟩

theorem checkLocationText_ne_url (u : Url) (e : UrlError) :
    u.checkLocationText ≠ .error (.url e) := by
  unfold checkLocationText
  split
  · intro h
    cases h
  · intro h
    cases h

/-- **Checking a target comes to an error of the URL exactly if it is a URL that misleads.** -/
theorem checkTarget_eq_url_iff :
    asked.checkTarget text = .error (.url e) ↔
      ∃ target, parse text = .ok target ∧ Misleads asked target e := by
  rw [← followed_eq_url_iff]
  unfold checkTarget
  constructor
  · intro h
    rcases bind_eq_error_iff.mp h with h | ⟨target, -, h⟩
    · exact h
    · rcases bind_eq_error_iff.mp h with h | ⟨host, -, h⟩
      · exact absurd h (hostForReader_ne_url target e)
      · rcases bind_eq_error_iff.mp h with h | ⟨askedHost, -, h⟩
        · exact absurd h (hostForReader_ne_url asked e)
        · split at h
          · cases h
          · exact absurd h (checkLocationText_ne_url target e)
  · intro h
    exact bind_eq_error_iff.mpr (.inl h)

end Url
end RouteProbe
