import AIStreams.Base.Messages
import AIStreams.Base.WaitOperation

/-!
# Creating and deleting clusters

`CreateCluster` and `DeleteCluster` of `aistreams/base/management_client.cc`, which wait for an
operation of the server.

`createCluster_agrees_iff`: when the cluster that `CreateCluster` returns is the one that
`GetCluster` and `ListClusters` show.
-/

namespace AIStreams

/-! ### The functions -/

/-- What the service answers to the two requests that start an operation, and the service of these
operations.  A request takes the service from one state to another. -/
structure ClusterOperationsStub (S : Type) where
  createCluster : List (String × String) → (parent clusterId : String) → S →
    (GrpcStatus × Operation) × S
  deleteCluster : List (String × String) → (name : String) → S → (GrpcStatus × Operation) × S
  operations : S → OperationsService

namespace ClusterManager

variable {S : Type} (m : ClusterManager) (stub : ClusterOperationsStub S) (targetAddress : String)

/-- `CreateCluster`.  The cluster that it makes of the server's one is not what it returns. -/
def createCluster [Message Cluster] (cluster : Cluster) (s : S) : StatusOr Cluster × S :=
  let ((grpcStatus, operation), s) := stub.createCluster m.metadata m.parent cluster.name s
  if grpcStatus.errorCode ≠ .ok then
    (.ofStatus (unknownError "Encountered error calling RPC CreateCluster"), s)
  else
    match (waitOperation (stub.operations s) operation.name targetAddress m.parent).2 with
    | .error _ _ => (.ofStatus (unknownError "Encountered error creating cluster"), s)
    | .value operation =>
      match unpackTo (M := Cluster) operation.response with
      | none =>
        (.ofStatus
          (unknownError "Encountered error while unpack response to cluster message."), s)
      | some c =>
        let _result := ofServer c
        (.value cluster, s)

/-- The name that `DeleteCluster` asks the server to delete. -/
def resourceName (clusterName : String) : String := m.parent ++ "/clusters/" ++ clusterName

/-- `DeleteCluster`. -/
def deleteCluster (clusterName : String) (s : S) : Status × S :=
  let ((grpcStatus, operation), s) :=
    stub.deleteCluster m.metadata (m.resourceName clusterName) s
  if grpcStatus.errorCode ≠ .ok then
    (unknownError "Encountered error calling RPC DeleteCluster", s)
  else
    match (waitOperation (stub.operations s) operation.name targetAddress m.parent).2 with
    | .error _ _ => (unknownError "Encountered error deleting cluster", s)
    | .value _ => (okStatus, s)

section Calls

variable {m stub targetAddress} {cluster : Cluster} {clusterName : String} {status : Status}
  {hs : status.ok = false} {s s' : S} {rpc : GrpcStatus} {started : Operation}

/-- The request is what changes the service. -/
theorem createCluster_snd [Message Cluster] : (m.createCluster stub targetAddress cluster s).2 =
    (stub.createCluster m.metadata m.parent cluster.name s).2 := by
  simp only [createCluster]
  split
  · rfl
  · split
    · rfl
    · split <;> rfl

theorem deleteCluster_snd : (m.deleteCluster stub targetAddress clusterName s).2 =
    (stub.deleteCluster m.metadata (m.resourceName clusterName) s).2 := by
  simp only [deleteCluster]
  split
  · rfl
  · split <;> rfl

theorem createCluster_of_rpcError [Message Cluster]
    (h : (stub.createCluster m.metadata m.parent cluster.name s).1.1.errorCode ≠ .ok) :
    (m.createCluster stub targetAddress cluster s).1.ok = false := by
  simp [createCluster, h]

theorem createCluster_of_waitError [Message Cluster]
    (hrpc : stub.createCluster m.metadata m.parent cluster.name s = ((rpc, started), s'))
    (hwait : (waitOperation (stub.operations s') started.name targetAddress m.parent).2 =
      .error status hs) :
    (m.createCluster stub targetAddress cluster s).1.ok = false := by
  simp only [createCluster, hrpc, hwait]
  split <;> rfl

theorem deleteCluster_of_rpcError
    (h : (stub.deleteCluster m.metadata (m.resourceName clusterName) s).1.1.errorCode ≠ .ok) :
    (m.deleteCluster stub targetAddress clusterName s).1.ok = false := by
  simp [deleteCluster, h]

theorem deleteCluster_of_waitError
    (hrpc : stub.deleteCluster m.metadata (m.resourceName clusterName) s = ((rpc, started), s'))
    (hwait : (waitOperation (stub.operations s') started.name targetAddress m.parent).2 =
      .error status hs) :
    (m.deleteCluster stub targetAddress clusterName s).1.ok = false := by
  simp only [deleteCluster, hrpc, hwait]
  split <;> rfl

theorem deleteCluster_of_done {operation : Operation}
    (hrpc : stub.deleteCluster m.metadata (m.resourceName clusterName) s = ((rpc, started), s'))
    (hok : rpc.errorCode = .ok)
    (hwait : (waitOperation (stub.operations s') started.name targetAddress m.parent).2 =
      .value operation) :
    (m.deleteCluster stub targetAddress clusterName s).1 = okStatus := by
  simp [deleteCluster, hrpc, hok, hwait]

end Calls

/-! ### Creating and looking up -/

/-- The operation that a `CreateCluster` starts finishes with `c` as its response. -/
structure Creates [Message Cluster] (cluster c : Cluster) (s : S) : Prop where
  rpc : (stub.createCluster m.metadata m.parent cluster.name s).1.1.errorCode = .ok
  response : ∃ operation,
    (waitOperation
      (stub.operations (stub.createCluster m.metadata m.parent cluster.name s).2)
      (stub.createCluster m.metadata m.parent cluster.name s).1.2.name targetAddress
        m.parent).2 = .value operation ∧ unpackTo operation.response = some c

/-- The server shows `c` in answer to a `GetCluster` of `name`, and as the `i`-th cluster. -/
structure Shows (name : String) (i : ℕ) (c : Cluster) : Prop where
  getRpc : (m.stub.getCluster m.metadata name).1.errorCode = .ok
  get : (m.stub.getCluster m.metadata name).2 = c
  listRpc : (m.stub.listClusters m.metadata m.parent).1.errorCode = .ok
  list : (m.stub.listClusters m.metadata m.parent).2[i]? = some c

/-- What `CreateCluster` returns is what `GetCluster` and `ListClusters` return. -/
def CreateAgrees [Message Cluster] (cluster : Cluster) (name : String) (i : ℕ) (s : S) : Prop :=
  ∃ created listed, (m.createCluster stub targetAddress cluster s).1 = .value created ∧
    m.getCluster name = .value created ∧ m.listClusters = .value listed ∧
      listed[i]? = some created

variable {m stub targetAddress} {cluster c : Cluster} {name : String} {i : ℕ} {s : S}

theorem createCluster_of_creates [Message Cluster]
    (h : m.Creates stub targetAddress cluster c s) :
    (m.createCluster stub targetAddress cluster s).1 = .value cluster := by
  obtain ⟨operation, hwait, hunpack⟩ := h.response
  unfold createCluster
  simp only [h.rpc, ne_eq, not_true_eq_false, if_false, hwait, hunpack]

theorem getCluster_of_shows (h : m.Shows name i c) : m.getCluster name = .value (ofServer c) := by
  unfold getCluster
  simp only [h.getRpc, ne_eq, not_true_eq_false, if_false, h.get]

theorem listClusters_of_shows (h : m.Shows name i c) :
    ∃ listed, m.listClusters = .value listed ∧ listed[i]? = some (ofServer c) := by
  refine ⟨(m.stub.listClusters m.metadata m.parent).2.map ofServer, ?_, ?_⟩
  · unfold listClusters
    simp only [h.listRpc, ne_eq, not_true_eq_false, if_false]
  · rw [List.getElem?_map, h.list]
    rfl

/-- **When `CreateCluster` returns what `GetCluster` and `ListClusters` return**: exactly if it is
given the server's cluster, with the endpoint that these make of it. -/
theorem createCluster_agrees_iff [Message Cluster]
    (hcreates : m.Creates stub targetAddress cluster c s) (hshows : m.Shows name i c) :
    m.CreateAgrees stub targetAddress cluster name i s ↔
      cluster.name = c.name ∧
        cluster.serviceEndpoint.toList = replaceServiceEndpointPort c.serviceEndpoint.toList ∧
          cluster.certificate = c.certificate := by
  obtain ⟨listed, hlist, hentry⟩ := listClusters_of_shows hshows
  have hagrees : m.CreateAgrees stub targetAddress cluster name i s ↔ cluster = ofServer c := by
    constructor
    · rintro ⟨created, _, hcreated, hget, _, _⟩
      rw [createCluster_of_creates hcreates] at hcreated
      rw [getCluster_of_shows hshows] at hget
      exact (StatusOr.value.inj hcreated).trans (StatusOr.value.inj hget).symm
    · rintro rfl
      exact ⟨ofServer c, listed, createCluster_of_creates hcreates, getCluster_of_shows hshows,
        hlist, hentry⟩
  rw [hagrees]
  constructor
  · rintro rfl
    exact ⟨rfl, String.toList_ofList, rfl⟩
  · intro h
    obtain ⟨clusterName, endpoint, certificate⟩ := cluster
    obtain ⟨rfl, hendpoint, rfl⟩ := h
    rw [ofServer, ← hendpoint, String.ofList_toList]

end ClusterManager

/-! ### A short name -/

namespace WireMessages

open Wire

/-- The server's cluster on the wire. -/
def cluster : Schema Cluster where
  fullName := "google.partner.aistreams.v1alpha1.Cluster"
  default := ⟨"", "", ""⟩
  toFields c := bytesField 1 (ofString c.name) ++ bytesField 5 (ofString c.certificate) ++
    bytesField 6 (ofString c.serviceEndpoint)
  ofFields fields := do
    let name ← toString? (readBytes 1 fields)
    let certificate ← toString? (readBytes 5 fields)
    let serviceEndpoint ← toString? (readBytes 6 fields)
    some ⟨name, serviceEndpoint, certificate⟩
  ofFields_toFields c := by simp [readBytes, lastBytes_bytesField_of_ne, toString?_ofString]

scoped instance : Message Cluster := cluster.message
scoped instance : LawfulMessage Cluster := cluster.lawful

end WireMessages

namespace ClusterManager

open WireMessages

/-- The server's cluster. -/
def resource : Cluster where
  name := "projects/p/locations/l/clusters/c1"
  serviceEndpoint := "10.0.0.1:80"
  certificate := "certificate"

/-- A server with one cluster. -/
def oneCluster : ClusterManager where
  stub := ⟨fun _ _ => (⟨.ok, ""⟩, [resource]), fun _ _ => (⟨.ok, ""⟩, resource)⟩
  parent := "projects/p/locations/l"

/-- Its operations are done at the first poll. -/
def oneClusterStub : ClusterOperationsStub Unit where
  createCluster _ _ _ _ := ((⟨.ok, ""⟩, ⟨"operation", false, .notSet⟩), ())
  deleteCluster _ _ _ := ((⟨.ok, ""⟩, ⟨"operation", false, .notSet⟩), ())
  operations _ :=
    ⟨fun _ => true, true, fun _ _ name => (⟨.ok, ""⟩, ⟨name, true, .response (packFrom resource)⟩)⟩

theorem creates_oneCluster (cluster : Cluster) :
    oneCluster.Creates oneClusterStub "service" cluster resource () where
  rpc := rfl
  response := ⟨_, rfl, LawfulMessage.unpackTo_packFrom resource⟩

theorem shows_oneCluster : oneCluster.Shows resource.name 0 resource := ⟨rfl, rfl, rfl, rfl⟩

theorem createCluster_agrees_ofServer :
    oneCluster.CreateAgrees oneClusterStub "service" (ofServer resource) resource.name 0 () :=
  (createCluster_agrees_iff (creates_oneCluster _) shows_oneCluster).mpr
    ⟨rfl, String.toList_ofList, rfl⟩

/-- **The cluster that `CreateCluster` is given comes back as it was**: with its short name and
without an endpoint. -/
theorem not_createAgrees_shortName :
    ¬ oneCluster.CreateAgrees oneClusterStub "service" ⟨"c1", "", ""⟩ resource.name 0 () := by
  rintro ⟨created, _, hcreated, hget, _, _⟩
  rw [createCluster_of_creates (creates_oneCluster _)] at hcreated
  rw [getCluster_of_shows shows_oneCluster] at hget
  have hname := congrArg Cluster.name
    ((StatusOr.value.inj hcreated).trans (StatusOr.value.inj hget).symm)
  exact absurd hname (by decide)

end ClusterManager

end AIStreams
