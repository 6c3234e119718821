import RoadRegistry.Log.Basic
import RoadRegistry.Patch.Basic

namespace RoadRegistry

structure Part (S E : Type) where
  get : S → E
  set : E → S → S

def Part.modify (part : Part S E) (change : E → E) (state : S) : S :=
  part.set (change (part.get state)) state

abbrev Emitter (E : Type) := PatchSet → E → Except Report Unit × E

namespace Emitter

/-- The record a patch set is published as: keyed by the document, so that the patches of one
document stay in one partition. -/
def record (patch : PatchSet) : Bytes × Bytes :=
  (Bytes.ofString patch.documentId, PatchSet.model.toBytes patch)

def toLog : Emitter Log := fun patch log =>
  let (key, payload) := record patch
  match log.append key (some payload) with
  | .ok (_, log) => (.ok (), log)
  | .error error =>
    (.error ((Report.ofStoreError error).context
      ("failed to publish patch for " ++ patch.documentId)), log)

def within (part : Part S E) (emitter : Emitter E) : Emitter S := fun patch state =>
  let (outcome, inner) := emitter patch (part.get state)
  (outcome, part.set inner state)

end Emitter

end RoadRegistry
