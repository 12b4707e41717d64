import HttpService.Cluster.Manager
import HttpService.Route.Router

/-!
# The cluster over HTTP
-/

namespace HttpService.Endpoint

def nodes (manager : ClusterManager) : Handler :=
  fun _ _ =>
    Act.attempt manager.nodes fun ns =>
      Act.pure (.ok (Response.ok (.array (ns.map NodeInfo.toJson))))

def leader (manager : ClusterManager) : Handler :=
  fun _ _ =>
    Act.attempt manager.leader fun l =>
      Act.pure (.ok (Response.ok (.object [("leader", Json.ofText? l)])))

def addCluster (r : Router) (manager : ClusterManager) : Router × Except Failure Unit :=
  r.install "/api/v1/cluster" [(.get, "/nodes", nodes manager), (.get, "/leader", leader manager)]

end HttpService.Endpoint
