import RouteProbe.Coding.Container

/-!
# Chains of codings

Content may be coded several times over, and decoding goes from the last coding
back to the first.  Content that is named as deflated may come with or without its
short header; which it is, is settled by the first piece: if that is no container,
it is taken again as bare content, and so is all that follows.
-/

namespace RouteProbe
namespace Coding

/-- The codings of content. -/
inductive Scheme where
  | identity
  | gzip
  | deflate
  deriving Repr, DecidableEq

/-- The coding of a name. -/
def Scheme.ofName? (name : List Char) : Option Scheme :=
  if name = "gzip".toList then some .gzip
  else if name = "deflate".toList then some .deflate
  else if name = "identity".toList then some .identity
  else none

/-- What undoes one coding. -/
inductive Decoder where
  | identity
  | settled (s : Container.State)
  | unsettled
  deriving Repr, DecidableEq

namespace Decoder

/-- What undoes a coding, before the first piece. -/
def ofScheme : Scheme → Decoder
  | .identity => .identity
  | .gzip => .settled (.start .file)
  | .deflate => .unsettled

/-- A container as what undoes a coding. -/
def settle : Except ContainerError (Container.State × List UInt8) →
    Except ContainerError (Decoder × List UInt8)
  | .ok (s, out) => .ok (.settled s, out)
  | .error e => .error e

/-- Takes a piece; answers with what it adds. -/
def feed (d : Decoder) (bs : List UInt8) : Except ContainerError (Decoder × List UInt8) :=
  match d with
  | .identity => .ok (.identity, bs)
  | .settled s => settle (s.feed bs)
  | .unsettled =>
      match (Container.State.start .short).feed bs with
      | .ok (s, out) => .ok (.settled s, out)
      | .error _ => settle ((Container.State.start .bare).feed bs)

end Decoder

/-- What undoes several codings, the last of them first. -/
abbrev Chain := List Decoder

namespace Chain

/-- What undoes codings that were applied in order. -/
def ofCodings (codings : List Scheme) : Chain := (codings.map Decoder.ofScheme).reverse

/-- Takes a piece through all of them. -/
def feed : Chain → List UInt8 → Except ContainerError (Chain × List UInt8)
  | [], bs => .ok ([], bs)
  | d :: ds, bs =>
      match d.feed bs with
      | .error e => .error e
      | .ok (d, bs) =>
          match feed ds bs with
          | .error e => .error e
          | .ok (ds, bs) => .ok (d :: ds, bs)

@[simp] theorem feed_nil (bs : List UInt8) : feed [] bs = .ok ([], bs) := rfl

/-- Content that is coded as itself goes through as it is. -/
theorem feed_of_identity {chain : Chain} (h : ∀ d ∈ chain, d = .identity) (bs : List UInt8) :
    chain.feed bs = .ok (chain, bs) := by
  induction chain generalizing bs with
  | nil => rfl
  | cons d ds ih =>
      obtain rfl := h d List.mem_cons_self
      have hrest := ih (fun d hd => h d (List.mem_cons_of_mem _ hd)) bs
      simp only [feed, Decoder.feed, hrest]

end Chain
end Coding
end RouteProbe
