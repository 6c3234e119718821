import RoadRegistry.Proofs.Road.Upkeep

namespace RoadRegistry

namespace Upkeep

def Method.purpose : Method → TopicAgent.Purpose
  | .added | .updated _ => .provision
  | .inspected => .repair

end Upkeep

namespace TopicAgent

variable {defaults : TopicDefaults} {purpose : Purpose} {road : Road} {admin : TopicAdmin}
  {status : Road.Status}

end TopicAgent

end RoadRegistry
