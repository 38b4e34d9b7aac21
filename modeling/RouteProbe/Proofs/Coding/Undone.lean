import RouteProbe.Coding.Chain
import RouteProbe.Proofs.Coding.Growth
import RouteProbe.Proofs.Coding.Wrapped

/-!
# Codings that are undone

A chain of decoders takes pieces in turn, and hands on a piece for each (`Chain.Decodes`).  It
undoes a coding if, however the coded bytes are cut into pieces, what it hands on is the content in
pieces (`Chain.Undoes`).  What is handed on by one decoder is what comes to the next, so chains that
undo codings one behind the other undo them together (`Chain.Undoes.append`).

A container is undone because taking its bytes succeeds and ends with its content, and then taking
them in pieces does as well, with the content in pieces.  The first piece of content that is named
as deflated settles how it is wrapped; every first part of a short container is taken as one, so
this is settled in the same way wherever that piece ends.
-/

namespace RouteProbe
namespace Coding

/-! ## What has been coded -/

/-- Content as it is coded once: as it is, or in a container whose blocks are stored. -/
inductive IsCoded : Scheme → List UInt8 → List UInt8 → Prop where
  | identity (content : List UInt8) : IsCoded .identity content content
  | gzip (t : Container.FileText) : IsCoded .gzip t.text.content t.bytes
  | deflate (t : Container.ShortText) : IsCoded .deflate t.text.content t.bytes

/-- Content as it is coded several times over, by the codings in order. -/
inductive IsCodedBy : List Scheme → List UInt8 → List UInt8 → Prop where
  | nil (content : List UInt8) : IsCodedBy [] content content
  | cons {scheme : Scheme} {schemes : List Scheme} {content once coded : List UInt8}
      (first : IsCoded scheme content once) (rest : IsCodedBy schemes once coded) :
      IsCodedBy (scheme :: schemes) content coded

namespace Chain

/-- A chain takes pieces in turn; where this leaves it, and what it hands on. -/
inductive Decodes : Chain → List (List UInt8) → Chain → List (List UInt8) → Prop where
  | nil (chain : Chain) : Decodes chain [] chain []
  | cons {chain next last : Chain} {piece out : List UInt8} {pieces outs : List (List UInt8)}
      (first : chain.feed piece = .ok (next, out)) (rest : Decodes next pieces last outs) :
      Decodes chain (piece :: pieces) last (out :: outs)

/-- However the coded bytes are cut, a chain hands on the content in pieces. -/
def Undoes (chain : Chain) (coded content : List UInt8) : Prop :=
  ∀ pieces : List (List UInt8), pieces.flatten = coded →
    ∃ last outs, chain.Decodes pieces last outs ∧ outs.flatten = content

variable {front front' back back' chain last : Chain} {pieces outs : List (List UInt8)}

/-! ## Chains one behind the other -/

/-- What the front of a chain hands on comes to its back. -/
theorem feed_append {piece between out : List UInt8}
    (hfront : front.feed piece = .ok (front', between))
    (hback : back.feed between = .ok (back', out)) :
    (front ++ back).feed piece = .ok (front' ++ back', out) := by
  induction front generalizing front' piece with
  | nil =>
      cases hfront
      exact hback
  | cons d front ih =>
      rw [feed] at hfront
      split at hfront
      · cases hfront
      · next d' handed hd =>
          split at hfront
          · cases hfront
          · next rest between' hrest =>
              cases hfront
              have hmore := ih hrest
              rw [List.cons_append, feed, hd]
              simp only [hmore]
              rfl

theorem Decodes.through {between : List (List UInt8)}
    (hfront : front.Decodes pieces front' between) (hback : back.Decodes between back' outs) :
    (front ++ back).Decodes pieces (front' ++ back') outs := by
  induction hfront generalizing back outs with
  | nil chain =>
      cases hback
      exact .nil _
  | cons first rest ih =>
      cases hback with
      | cons first' rest' => exact .cons (feed_append first first') (ih rest')

/-- **Chains undo codings one behind the other.** -/
theorem Undoes.append {coded once content : List UInt8} (hfront : front.Undoes coded once)
    (hback : back.Undoes once content) : (front ++ back).Undoes coded content := by
  intro pieces hpieces
  obtain ⟨front', between, hdecodes, hbetween⟩ := hfront pieces hpieces
  obtain ⟨back', outs, hdecodes', houts⟩ := hback between hbetween
  exact ⟨front' ++ back', outs, hdecodes.through hdecodes', houts⟩

/-! ## Single codings -/

/-- Content that is coded as itself is handed on as it is. -/
theorem undoes_of_identity (hidentity : ∀ d ∈ chain, d = .identity) (content : List UInt8) :
    chain.Undoes content content := by
  intro pieces hpieces
  refine ⟨chain, pieces, ?_, hpieces⟩
  clear hpieces
  induction pieces with
  | nil => exact .nil chain
  | cons piece pieces ih => exact .cons (feed_of_identity hidentity piece) ih

/-- A container whose bytes can be taken can be taken in pieces, and what is handed on is what its
content grows by. -/
theorem decodes_settled {s s' : Container.State}
    (h : pieces.flatten.foldlM Container.State.take s = .ok s') :
    ∃ outs, Decodes [.settled s] pieces [.settled s'] outs ∧
      s'.out.toList = s.out.toList ++ outs.flatten := by
  induction pieces generalizing s with
  | nil =>
      cases h
      exact ⟨[], .nil _, (List.append_nil _).symm⟩
  | cons piece pieces ih =>
      rw [List.flatten_cons, List.foldlM_append] at h
      obtain ⟨next, hfirst, hrest⟩ := bind_eq_ok_iff.mp h
      obtain ⟨outs, hdecodes, houts⟩ := ih hrest
      obtain ⟨out, hout⟩ := Container.prefix_foldlM_take hfirst
      have hfeed := Container.feed_eq_ok_iff.mpr ⟨hfirst, hout.symm⟩
      refine ⟨out :: outs, .cons ?_ hdecodes, ?_⟩
      · simp only [feed, Decoder.feed, hfeed, Decoder.settle]
      · rw [houts, ← hout, List.flatten_cons, List.append_assoc]

/-- The first piece settles that content is in a short container, if its bytes are those of one. -/
theorem decodes_unsettled {s' : Container.State} (hne : pieces ≠ [])
    (h : pieces.flatten.foldlM Container.State.take (.start .short) = .ok s') :
    ∃ outs, Decodes [.unsettled] pieces [.settled s'] outs ∧ s'.out.toList = outs.flatten := by
  obtain ⟨outs, hdecodes, houts⟩ := decodes_settled h
  refine ⟨outs, ?_, houts⟩
  cases hdecodes with
  | nil => exact absurd rfl hne
  | cons first rest =>
      refine .cons ?_ rest
      simp only [feed, Decoder.feed] at first ⊢
      cases hfeed : (Container.State.start .short).feed _ with
      | error e =>
          rw [hfeed] at first
          cases first
      | ok handed =>
          rw [hfeed] at first
          exact first

/-- **Every coding is undone**, however the bytes are cut. -/
theorem undoes_ofScheme {scheme : Scheme} {content coded : List UInt8}
    (h : IsCoded scheme content coded) : Undoes [.ofScheme scheme] coded content := by
  cases h with
  | identity =>
      refine undoes_of_identity (fun d hd => ?_) content
      rw [List.mem_singleton.mp hd]
      rfl
  | gzip t =>
      intro pieces hpieces
      have htake := t.foldlM_take
      rw [← hpieces] at htake
      obtain ⟨outs, hdecodes, houts⟩ := decodes_settled htake
      exact ⟨_, outs, hdecodes, houts.symm⟩
  | deflate t =>
      intro pieces hpieces
      have htake := t.foldlM_take
      have hne : pieces ≠ [] := by
        rintro rfl
        cases hpieces
      rw [← hpieces] at htake
      obtain ⟨outs, hdecodes, houts⟩ := decodes_unsettled hne htake
      exact ⟨_, outs, hdecodes, houts.symm⟩

/-- **Codings that have been applied in order are undone**, however the bytes are cut. -/
theorem undoes_ofCodings {schemes : List Scheme} {content coded : List UInt8}
    (h : IsCodedBy schemes content coded) : (ofCodings schemes).Undoes coded content := by
  induction h with
  | nil content => exact undoes_of_identity (fun _ hd => by cases hd) content
  | cons first rest ih =>
      rw [ofCodings, List.map_cons, List.reverse_cons]
      exact ih.append (undoes_ofScheme first)

end Chain
end Coding
end RouteProbe
