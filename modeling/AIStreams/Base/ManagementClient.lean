import AIStreams.Text.Search
import AIStreams.Util.Status
import Mathlib.Data.List.Forall2

/-!
# The endpoints of clusters

`ReplaceServiceEndpointPort`, `ListClusters` and `GetCluster` of
`aistreams/base/management_client.cc`.

`touchesOnlyPort80_iff`: exactly which ports come out as they should.
-/

namespace AIStreams

open Text

/-! ### The functions -/

/-- `Cluster`; the server's message of that name has the same fields. -/
structure Cluster where
  name : String
  serviceEndpoint : String
  certificate : String
  deriving DecidableEq

def targetPort : List Char := [':', '8', '0']

/-- `ReplaceServiceEndpointPort`, on the characters of the endpoint. -/
def replaceServiceEndpointPort (endpoint : List Char) : List Char :=
  match find endpoint targetPort with
  | none => endpoint
  | some pos => replace endpoint pos targetPort.length [':', '4', '4', '3']

def kGrpcMetadata : String := "x-goog-request-params"

/-- The stub of the service: the answer to a request with the given metadata. -/
structure AIStreamsStub where
  listClusters : List (String × String) → (parent : String) → GrpcStatus × List Cluster
  getCluster : List (String × String) → (name : String) → GrpcStatus × Cluster

structure ClusterManager where
  stub : AIStreamsStub
  parent : String

namespace ClusterManager

def metadata (m : ClusterManager) : List (String × String) :=
  [(kGrpcMetadata, "parent=" ++ m.parent)]

/-- The cluster that is returned for one of the server's. -/
def ofServer (c : Cluster) : Cluster where
  name := c.name
  serviceEndpoint := String.ofList (replaceServiceEndpointPort c.serviceEndpoint.toList)
  certificate := c.certificate

def listClusters (m : ClusterManager) : StatusOr (List Cluster) :=
  let (grpcStatus, clusters) := m.stub.listClusters m.metadata m.parent
  if grpcStatus.errorCode ≠ .ok then
    .ofStatus (unknownError "Encountered error calling RPC ListClusters")
  else .value (clusters.map ofServer)

def getCluster (m : ClusterManager) (clusterName : String) : StatusOr Cluster :=
  let (grpcStatus, cluster) := m.stub.getCluster m.metadata clusterName
  if grpcStatus.errorCode ≠ .ok then
    .ofStatus (unknownError "Encountered error calling RPC GetCluster")
  else .value (ofServer cluster)

end ClusterManager

/-! ### Endpoints with a port -/

/-- An endpoint of the form `host:port`. -/
structure ServiceEndpoint where
  host : List Char
  port : List Char
  host_ne : host ≠ []
  colon_not_mem : ':' ∉ host
  port_ne : port ≠ []
  isDigit : ∀ c ∈ port, c.isDigit = true

namespace ServiceEndpoint

def text (e : ServiceEndpoint) : List Char := e.host ++ ':' :: e.port

/-- What the endpoint should become: `host:443` if the port is 80. -/
def rewritten (e : ServiceEndpoint) : List Char :=
  if e.port = ['8', '0'] then e.host ++ [':', '4', '4', '3'] else e.text

/-- A port that starts with `80` is 80. -/
def Plain (e : ServiceEndpoint) : Prop := ['8', '0'] <+: e.port → e.port = ['8', '0']

theorem colon_not_mem_port (e : ServiceEndpoint) : ':' ∉ e.port :=
  fun h => absurd (e.isDigit ':' h) (by decide)

/-- **What `ReplaceServiceEndpointPort` does**: it rewrites the first two digits of the port. -/
theorem replaceServiceEndpointPort_text (e : ServiceEndpoint) :
    (∀ more, e.port = ['8', '0'] ++ more →
      replaceServiceEndpointPort e.text = e.host ++ [':', '4', '4', '3'] ++ more) ∧
    (¬ ['8', '0'] <+: e.port → replaceServiceEndpointPort e.text = e.text) := by
  unfold replaceServiceEndpointPort
  constructor
  · intro more hmore
    have htext : e.text = e.host ++ targetPort ++ more := by
      rw [text, hmore, targetPort, List.append_assoc]
      rfl
    have hfind : find e.text targetPort = some e.host.length := by
      rw [htext]
      exact find_of_first e.colon_not_mem
    rw [hfind, htext]
    simp [replace, List.append_assoc]
  · intro hp
    have hfind : find e.text targetPort = none :=
      find_of_only e.colon_not_mem e.colon_not_mem_port hp
    rw [hfind]

/-- **An endpoint is rewritten as it should be** exactly if a port that starts with `80` is
80. -/
theorem rewrites_iff (e : ServiceEndpoint) :
    replaceServiceEndpointPort e.text = e.rewritten ↔ e.Plain := by
  obtain ⟨hreplaced, hkept⟩ := e.replaceServiceEndpointPort_text
  by_cases hp : ['8', '0'] <+: e.port
  · obtain ⟨more, hmore⟩ := hp
    rw [hreplaced more hmore.symm]
    constructor
    · intro h _
      by_contra hne
      have hlen := congrArg List.length h
      rw [rewritten, if_neg hne, text, ← hmore] at hlen
      simp at hlen
    · intro hplain
      have hport := hplain ⟨more, hmore⟩
      rw [rewritten, if_pos hport]
      rw [hport] at hmore
      have hnil : more = [] := List.append_right_eq_self.mp hmore
      rw [hnil, List.append_nil]
  · rw [hkept hp, rewritten, if_neg]
    · exact ⟨fun _ h => absurd h hp, fun _ => rfl⟩
    · intro hport
      exact hp (hport ▸ List.prefix_refl _)

end ServiceEndpoint

/-! ### Clusters -/

/-- The cluster `r` is `c`, with its endpoint rewritten if that has the form `host:port`. -/
def Keeps (c r : Cluster) : Prop :=
  r.name = c.name ∧ r.certificate = c.certificate ∧
    ∀ e : ServiceEndpoint, c.serviceEndpoint.toList = e.text →
      r.serviceEndpoint.toList = e.rewritten

/-- A cluster whose endpoint, if it has the form `host:port`, has a plain port. -/
def Cluster.Plain (c : Cluster) : Prop :=
  ∀ e : ServiceEndpoint, c.serviceEndpoint.toList = e.text → e.Plain

theorem keeps_ofServer_iff (c : Cluster) : Keeps c (ClusterManager.ofServer c) ↔ c.Plain := by
  have hendpoint : (ClusterManager.ofServer c).serviceEndpoint.toList =
      replaceServiceEndpointPort c.serviceEndpoint.toList := String.toList_ofList
  constructor
  · rintro ⟨_, _, h⟩ e he
    rw [← e.rewrites_iff, ← he, ← hendpoint]
    exact h e he
  · intro h
    refine ⟨rfl, rfl, fun e he => ?_⟩
    rw [hendpoint, he]
    exact e.rewrites_iff.mpr (h e he)

theorem forall₂_keeps_iff (clusters : List Cluster) :
    List.Forall₂ Keeps clusters (clusters.map ClusterManager.ofServer) ↔
      ∀ c ∈ clusters, c.Plain := by
  induction clusters with
  | nil => simp
  | cons c clusters ih => simp [ih, keeps_ofServer_iff]

/-- Every cluster that `ListClusters` returns is the server's, only the port rewritten. -/
def ClusterManager.ListKeeps (m : ClusterManager) : Prop :=
  ∀ returned, m.listClusters = .value returned →
    List.Forall₂ Keeps (m.stub.listClusters m.metadata m.parent).2 returned

/-- The cluster that `GetCluster` returns is the server's, only the port rewritten. -/
def ClusterManager.GetKeeps (m : ClusterManager) (clusterName : String) : Prop :=
  ∀ returned, m.getCluster clusterName = .value returned →
    Keeps (m.stub.getCluster m.metadata clusterName).2 returned

theorem listKeeps_iff (m : ClusterManager) : m.ListKeeps ↔
    ((m.stub.listClusters m.metadata m.parent).1.errorCode = .ok →
      ∀ c ∈ (m.stub.listClusters m.metadata m.parent).2, c.Plain) := by
  unfold ClusterManager.ListKeeps ClusterManager.listClusters
  by_cases hok : (m.stub.listClusters m.metadata m.parent).1.errorCode = .ok
  · simp [hok, ← forall₂_keeps_iff]
  · simp [hok, StatusOr.ofStatus_ne_value]

theorem getKeeps_iff (m : ClusterManager) (clusterName : String) : m.GetKeeps clusterName ↔
    ((m.stub.getCluster m.metadata clusterName).1.errorCode = .ok →
      (m.stub.getCluster m.metadata clusterName).2.Plain) := by
  unfold ClusterManager.GetKeeps ClusterManager.getCluster
  by_cases hok : (m.stub.getCluster m.metadata clusterName).1.errorCode = .ok
  · simp [hok, ← keeps_ofServer_iff]
  · simp [hok, StatusOr.ofStatus_ne_value]

/-- **The rewriting touches only port 80, exactly on plain ports**: of an endpoint, of the
clusters that `ListClusters` returns, and of the one that `GetCluster` returns. -/
theorem touchesOnlyPort80_iff (e : ServiceEndpoint) (m : ClusterManager) (clusterName : String) :
    (replaceServiceEndpointPort e.text = e.rewritten ↔ e.Plain) ∧
    (m.ListKeeps ↔
      ((m.stub.listClusters m.metadata m.parent).1.errorCode = .ok →
        ∀ c ∈ (m.stub.listClusters m.metadata m.parent).2, c.Plain)) ∧
    (m.GetKeeps clusterName ↔
      ((m.stub.getCluster m.metadata clusterName).1.errorCode = .ok →
        (m.stub.getCluster m.metadata clusterName).2.Plain)) :=
  ⟨e.rewrites_iff, listKeeps_iff m, getKeeps_iff m clusterName⟩

/-! ### Port 8080 -/

def proxyEndpoint : ServiceEndpoint where
  host := ['p', 'r', 'o', 'x', 'y']
  port := ['8', '0', '8', '0']
  host_ne := by decide
  colon_not_mem := by decide
  port_ne := by decide
  isDigit := List.all_eq_true.mp (by decide)

/-- **Port 8080 becomes 44380.** -/
theorem not_touchesOnlyPort80_proxy :
    replaceServiceEndpointPort proxyEndpoint.text = "proxy:44380".toList ∧
      replaceServiceEndpointPort proxyEndpoint.text ≠ proxyEndpoint.rewritten := by
  decide

end AIStreams
