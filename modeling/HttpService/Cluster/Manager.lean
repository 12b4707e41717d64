import HttpService.Site

/-!
# Clusters

The nodes of a cluster and which of them leads.
-/

namespace HttpService

variable {α : Type}

structure NodeInfo where
  id : String
  address : String
  healthy : Bool
  deriving DecidableEq, Repr

namespace NodeInfo

def toJson (n : NodeInfo) : Json :=
  .object [("id", .text n.id), ("address", .text n.address), ("healthy", .bool n.healthy)]

def reader : Json.Reader NodeInfo :=
  Json.Reader.record ["id", "address", "healthy"] false fun f => do
    let id ← f.required "id" Json.Reader.string
    let address ← f.required "address" Json.Reader.string
    let healthy ← f.required "healthy" Json.Reader.bool
    .ok ⟨id, address, healthy⟩

end NodeInfo

structure ClusterManager where
  nodes : Act Site (Except Failure (List NodeInfo))
  leader : Act Site (Except Failure (Option String))

namespace ClusterManager

/-- A cluster that does not change. One whose nodes are not known has no quorum. -/
def fixed (nodes : Option (List NodeInfo)) (leader : Option String) : ClusterManager where
  nodes := Act.pure <| match nodes with
    | some nodes => .ok nodes
    | none => .error (.unavailable "no quorum")
  leader := Act.pure (.ok leader)

end ClusterManager

end HttpService
