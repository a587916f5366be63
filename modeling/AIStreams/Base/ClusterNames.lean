import AIStreams.Base.ClusterOperations
import Mathlib.Logic.Function.Basic

/-!
# The names of clusters

A cluster manager with a server that keeps its clusters by their full resource names, and changes
them as it is requested.  To the manager's caller it should be a map keyed by short names.

* `call_cases`: what the requests of a call do to the server.
* `answer_create`, `answer_delete`: creating and deleting keep to the map.
* `getCluster_short`: a short name is no key of the server.
* `refinesMap_iff`: exactly which sequences of calls go as they would on the map.
-/

namespace AIStreams.ClusterNames

open ClusterManager (ofServer resourceName)

/-! ### The server -/

/-- The clusters of the server, each with its full resource name. -/
abbrev Store := List Cluster

def lookup (store : Store) (name : String) : Option Cluster := store.find? fun c => c.name = name

/-- The key that a create request adds. -/
def key (parent clusterId : String) : String := parent ++ "/clusters/" ++ clusterId

/-- What the server is free to choose in a call: what it provisions, what it calls its operation,
and how many polls find that pending. -/
structure Choice where
  serviceEndpoint : String
  certificate : String
  operationName : String
  polls : ℕ

/-- The cluster that a create request adds. -/
def provisioned (parent clusterId : String) (choice : Choice) : Cluster where
  name := key parent clusterId
  serviceEndpoint := choice.serviceEndpoint
  certificate := choice.certificate

/-- An operation that the server has started: its name, how many polls find it pending, and its
response. -/
structure Started where
  name : String
  polls : ℕ
  response : ProtoAny

/-- The operation that a request starts. -/
def Choice.started (choice : Choice) (response : ProtoAny) : Started where
  name := choice.operationName
  polls := choice.polls
  response := response

/-- The server, with the operations that it has started, the last one first. -/
structure Server where
  clusters : Store
  started : List Started

/-- What the server answers about its clusters. -/
def clustersStub (store : Store) : AIStreamsStub where
  listClusters _ parent :=
    (⟨.ok, ""⟩, store.filter fun c => (key parent "").toList.isPrefixOf c.name.toList)
  getCluster _ name :=
    match lookup store name with
    | some c => (⟨.ok, ""⟩, c)
    | none => (⟨.notFound, "cluster not found"⟩, ⟨"", "", ""⟩)

/-- The operations, each under the name that was issued: pending for a while, and then done. -/
def operations (started : List Started) : OperationsService where
  createChannel _ := true
  newStub := true
  getOperation n _ name :=
    match started.find? fun o => o.name = name with
    | none => (⟨.notFound, "operation not found"⟩, ⟨"", false, .notSet⟩)
    | some o =>
      (⟨.ok, ""⟩,
        if n < o.polls then ⟨name, false, .notSet⟩ else ⟨name, true, .response o.response⟩)

/-- `google.protobuf.Empty`, packed. -/
def emptyResponse : ProtoAny := ⟨"type.googleapis.com/google.protobuf.Empty", []⟩

/-- What the server does about a request to create or to delete a cluster. -/
def operationsStub [Message Cluster] (choice : Choice) : ClusterOperationsStub Server where
  createCluster _ parent clusterId server :=
    if (lookup server.clusters (key parent clusterId)).isSome then
      ((⟨.alreadyExists, "cluster exists"⟩, ⟨"", false, .notSet⟩), server)
    else
      ((⟨.ok, ""⟩, ⟨choice.operationName, false, .notSet⟩),
        { clusters := server.clusters ++ [provisioned parent clusterId choice]
          started :=
            choice.started (packFrom (provisioned parent clusterId choice)) :: server.started })
  deleteCluster _ name server :=
    if (lookup server.clusters name).isSome then
      ((⟨.ok, ""⟩, ⟨choice.operationName, false, .notSet⟩),
        { clusters := server.clusters.filter fun c => c.name ≠ name
          started := choice.started emptyResponse :: server.started })
    else ((⟨.notFound, "cluster not found"⟩, ⟨"", false, .notSet⟩), server)
  operations server := operations server.started

/-! ### The manager -/

structure ClusterManagerConfig where
  targetAddress : String
  project : String
  location : String

/-- The `parent_` of a manager. -/
def ClusterManagerConfig.parent (config : ClusterManagerConfig) : String :=
  "projects/" ++ config.project ++ "/locations/" ++ config.location

/-- The manager of a configuration, with the server that it looks clusters up in. -/
def manager (config : ClusterManagerConfig) (server : Server) : ClusterManager where
  stub := clustersStub server.clusters
  parent := config.parent

/-- A call of the manager. -/
inductive Call
  | createCluster (cluster : Cluster)
  | deleteCluster (clusterName : String)
  | getCluster (clusterName : String)

/-- The name a call is about. -/
def Call.clusterName : Call → String
  | .createCluster cluster => cluster.name
  | .deleteCluster clusterName => clusterName
  | .getCluster clusterName => clusterName

/-- A short cluster name: not a path. -/
def Call.Short (call : Call) : Prop := '/' ∉ call.clusterName.toList

/-- What a call tells its caller: whether it succeeded, or which cluster it found. -/
inductive Answer
  | success (ok : Bool)
  | found (cluster : Option Cluster)
  deriving DecidableEq

section Calls

variable [Message Cluster] (config : ClusterManagerConfig)

/-- A call: what it answers, and the server that its requests leave. -/
def perform (server : Server) (choice : Choice) : Call → Answer × Server
  | .createCluster cluster =>
    let (created, server') := (manager config server).createCluster (operationsStub choice)
      config.targetAddress cluster server
    (.success created.ok, server')
  | .deleteCluster clusterName =>
    let (status, server') := (manager config server).deleteCluster (operationsStub choice)
      config.targetAddress clusterName server
    (.success status.ok, server')
  | .getCluster clusterName =>
    match (manager config server).getCluster clusterName with
    | .error _ _ => (.found none, server)
    | .value cluster => (.found (some cluster), server)

/-! ### The map of short names -/

/-- The clusters that the caller has, by their short names. -/
abbrev Names := String → Option Cluster

/-- The operation of a call is done before the manager gives up. -/
def Choice.timely (choice : Choice) : Bool := choice.polls ≤ kMaxTrials

/-- What a call should answer. -/
def Names.answer (names : Names) (choice : Choice) : Call → Answer
  | .createCluster cluster => .success ((names cluster.name).isNone && choice.timely)
  | .deleteCluster clusterName => .success ((names clusterName).isSome && choice.timely)
  | .getCluster clusterName => .found (names clusterName)

/-- What a call should do to the map. -/
def Names.effect (names : Names) (choice : Choice) : Call → Names
  | .createCluster cluster =>
    if (names cluster.name).isSome then names
    else
      Function.update names cluster.name
        (some (ofServer (provisioned config.parent cluster.name choice)))
  | .deleteCluster clusterName => Function.update names clusterName none
  | .getCluster _ => names

/-- The map that the server's clusters make. -/
def namesOf (store : Store) : Names :=
  fun clusterName => (lookup store (key config.parent clusterName)).map ofServer

/-- A call does to the server what it should do to the map, and to no cluster that has no short
name here; and it answers as it should. -/
structure CallAgrees (server : Server) (names : Names) (choice : Choice) (call : Call) : Prop where
  map : namesOf config (perform config server choice call).2.clusters =
    names.effect config choice call
  others : ∀ name, (∀ clusterName, name ≠ key config.parent clusterName) →
    lookup (perform config server choice call).2.clusters name = lookup server.clusters name
  answer : (perform config server choice call).1 = names.answer choice call

/-- A sequence of calls goes as it would on the map. -/
def RefinesMap : Server → Names → List (Call × Choice) → Prop
  | _, _, [] => True
  | server, names, (call, choice) :: rest =>
    CallAgrees config server names choice call ∧
      RefinesMap (perform config server choice call).2 (names.effect config choice call) rest

/-- No call of the sequence asks for a cluster that is there. -/
def NeverFinds : Names → List (Call × Choice) → Prop
  | _, [] => True
  | names, (call, choice) :: rest =>
    (∀ clusterName, call = .getCluster clusterName → names clusterName = none) ∧
      NeverFinds (names.effect config choice call) rest

end Calls

/-! ### The server's clusters -/

theorem lookup_append {store : Store} {c : Cluster} (h : lookup store c.name = none) :
    lookup (store ++ [c]) = Function.update (lookup store) c.name (some c) := by
  funext name
  by_cases hname : name = c.name
  · rw [hname, Function.update_self, lookup, List.find?_append]
    unfold lookup at h
    rw [h]
    simp
  · rw [Function.update_of_ne hname, lookup, List.find?_append]
    have hne : ¬ c.name = name := fun h => hname h.symm
    simp [lookup, hne]

theorem lookup_filter (store : Store) (name : String) :
    lookup (store.filter fun c => c.name ≠ name) = Function.update (lookup store) name none := by
  funext name'
  rw [lookup, List.find?_filter]
  by_cases hname : name' = name
  · rw [hname, Function.update_self, List.find?_eq_none]
    intro c _
    by_cases hc : c.name = name <;> simp [hc]
  · rw [Function.update_of_ne hname, lookup]
    congr 1
    funext c
    by_cases hc : c.name = name'
    · have hne : ¬ c.name = name := fun h => hname (hc.symm.trans h)
      simp [hc, hname]
    · simp [hc]

/-- A parent has one key for each name. -/
theorem key_inj {parent clusterId clusterId' : String} :
    key parent clusterId = key parent clusterId' ↔ clusterId = clusterId' := by
  constructor
  · intro h
    have hlist := congrArg String.toList h
    simp only [key, String.toList_append] at hlist
    exact String.toList_inj.mp (List.append_cancel_left hlist)
  · rintro rfl
    rfl

/-- Every cluster has a full resource name. -/
def FullNames (store : Store) : Prop :=
  ∀ c ∈ store, ∃ parent clusterId, c.name = key parent clusterId

theorem fullNames_nil : FullNames [] := by
  intro c hc
  cases hc

theorem fullNames_append {store : Store} (h : FullNames store) (parent clusterId : String)
    (choice : Choice) : FullNames (store ++ [provisioned parent clusterId choice]) := by
  intro c hc
  rcases List.mem_append.mp hc with hc | hc
  · exact h c hc
  · obtain rfl := List.mem_singleton.mp hc
    exact ⟨parent, clusterId, rfl⟩

theorem fullNames_filter {store : Store} (h : FullNames store) (p : Cluster → Bool) :
    FullNames (store.filter p) :=
  fun c hc => h c (List.mem_of_mem_filter hc)

/-- **A short name is no key.** -/
theorem lookup_short {store : Store} (h : FullNames store) {name : String}
    (hshort : '/' ∉ name.toList) : lookup store name = none := by
  rw [lookup, List.find?_eq_none]
  intro c hc hname
  obtain ⟨parent, clusterId, hkey⟩ := h c hc
  obtain rfl : c.name = name := by simpa using hname
  apply hshort
  rw [hkey, key, String.toList_append, String.toList_append]
  simp

/-! ### Waiting for the server -/

section Waiting

variable {choice : Choice} (response : ProtoAny) (started : List Started)

/-- **An operation is found under the name that was issued for it.** -/
theorem getOperation_started (n : ℕ) (metadata : List (String × String)) :
    (operations (choice.started response :: started)).getOperation n metadata
        choice.operationName =
      (⟨.ok, ""⟩,
        if n < choice.polls then ⟨choice.operationName, false, .notSet⟩
        else ⟨choice.operationName, true, .response response⟩) := by
  simp [operations, Choice.started]

theorem waitOperation_of_timely (h : choice.timely = true) (serviceName parent : String) :
    (waitOperation (operations (choice.started response :: started)) choice.operationName
      serviceName parent).2 = .value ⟨choice.operationName, true, .response response⟩ := by
  have hpolls : choice.polls ≤ kMaxTrials := of_decide_eq_true h
  have hpoll : pollLoop ((operations (choice.started response :: started)).answer
      choice.operationName parent) operationBackoff kMaxTrials =
        (pollEvents operationBackoff choice.polls,
          .value ⟨choice.operationName, true, .response response⟩) := by
    refine pollLoop_of_decided hpolls (fun j hj => ?_) ?_
    · simp [OperationsService.answer, getOperation_started, hj, verdict, Operation.hasError]
    · simp [OperationsService.answer, getOperation_started, verdict, Operation.hasError]
  exact congrArg Prod.snd hpoll

theorem waitOperation_of_not_timely (h : choice.timely = false) (serviceName parent : String) :
    (waitOperation (operations (choice.started response :: started)) choice.operationName
      serviceName parent).2 =
        .error (deadlineExceededError "Failed waiting for operation.") rfl := by
  have hpolls : ¬ choice.polls ≤ kMaxTrials := of_decide_eq_false h
  have hpoll : pollLoop ((operations (choice.started response :: started)).answer
      choice.operationName parent) operationBackoff kMaxTrials =
        (pollEvents operationBackoff kMaxTrials,
          .ofStatus (deadlineExceededError "Failed waiting for operation.")) := by
    refine pollLoop_of_pending fun j hj => ?_
    have hj' : j < choice.polls := by omega
    simp [OperationsService.answer, getOperation_started, hj', verdict, Operation.hasError]
  exact congrArg Prod.snd hpoll

end Waiting

/-! ### What the requests do to the server -/

section Map

variable (config : ClusterManagerConfig) (server : Server) (choice : Choice)

@[simp] theorem resourceName_manager (clusterName : String) :
    (manager config server).resourceName clusterName = key config.parent clusterName := rfl

theorem namesOf_update {store store' : Store} (clusterName : String) (c : Option Cluster)
    (h : lookup store' = Function.update (lookup store) (key config.parent clusterName) c) :
    namesOf config store' =
      Function.update (namesOf config store) clusterName (c.map ofServer) := by
  funext clusterName'
  unfold namesOf
  rw [h]
  by_cases hname : clusterName' = clusterName
  · rw [hname, Function.update_self, Function.update_self]
  · have hkey : key config.parent clusterName' ≠ key config.parent clusterName :=
      fun h => hname (key_inj.mp h)
    rw [Function.update_of_ne hkey, Function.update_of_ne hname]

variable [Message Cluster]

theorem perform_create (cluster : Cluster) :
    (perform config server choice (.createCluster cluster)).2 =
      ((operationsStub choice).createCluster (manager config server).metadata config.parent
        cluster.name server).2 := by
  simp only [perform]
  exact ClusterManager.createCluster_snd

theorem perform_delete (clusterName : String) :
    (perform config server choice (.deleteCluster clusterName)).2 =
      ((operationsStub choice).deleteCluster (manager config server).metadata
        (key config.parent clusterName) server).2 := by
  simp only [perform]
  exact ClusterManager.deleteCluster_snd

theorem perform_get (clusterName : String) :
    (perform config server choice (.getCluster clusterName)).2 = server := by
  simp only [perform]
  split <;> rfl

/-- **What the requests of a call do to the clusters of the server.** -/
theorem call_cases (call : Call) : (perform config server choice call).2.clusters =
        server.clusters ∧
      (namesOf config server.clusters).effect config choice call =
        namesOf config server.clusters ∨
    ∃ clusterName c,
      lookup (perform config server choice call).2.clusters =
        Function.update (lookup server.clusters) (key config.parent clusterName) c ∧
      (namesOf config server.clusters).effect config choice call =
        Function.update (namesOf config server.clusters) clusterName (c.map ofServer) := by
  cases call with
  | createCluster cluster =>
    rw [perform_create]
    cases hkey : lookup server.clusters (key config.parent cluster.name) with
    | some c =>
      left
      simp [operationsStub, Names.effect, namesOf, hkey]
    | none =>
      refine Or.inr ⟨cluster.name, some (provisioned config.parent cluster.name choice), ?_, ?_⟩
      · simp only [operationsStub, hkey, Option.isSome_none, Bool.false_eq_true, if_false]
        exact lookup_append hkey
      · simp [Names.effect, namesOf, hkey]
  | deleteCluster clusterName =>
    rw [perform_delete]
    refine Or.inr ⟨clusterName, none, ?_, rfl⟩
    cases hkey : lookup server.clusters (key config.parent clusterName) with
    | some c =>
      simp only [operationsStub, hkey, Option.isSome_some, if_true]
      exact lookup_filter _ _
    | none =>
      simp only [operationsStub, hkey, Option.isSome_none, Bool.false_eq_true, if_false]
      exact (Function.update_eq_self_iff.mpr hkey.symm).symm
  | getCluster clusterName => exact Or.inl ⟨congrArg Server.clusters (perform_get _ _ _ _), rfl⟩

/-- **What a call does to the server it does to the map.** -/
theorem namesOf_perform (call : Call) :
    namesOf config (perform config server choice call).2.clusters =
      (namesOf config server.clusters).effect config choice call := by
  rcases call_cases config server choice call with ⟨hstore, hmap⟩ | ⟨clusterName, c, hstore, hmap⟩
  · rw [hstore, hmap]
  · rw [namesOf_update config clusterName c hstore, hmap]

/-- **Other keys are left alone.** -/
theorem lookup_perform_of_ne (call : Call) {name : String}
    (hname : ∀ clusterName, name ≠ key config.parent clusterName) :
    lookup (perform config server choice call).2.clusters name = lookup server.clusters name := by
  rcases call_cases config server choice call with ⟨hstore, _⟩ | ⟨clusterName, c, hstore, _⟩
  · rw [hstore]
  · rw [hstore, Function.update_of_ne (hname clusterName)]

theorem fullNames_perform {server : Server} (h : FullNames server.clusters) (call : Call) :
    FullNames (perform config server choice call).2.clusters := by
  cases call with
  | createCluster cluster =>
    rw [perform_create]
    simp only [operationsStub]
    split
    · exact h
    · exact fullNames_append h _ _ choice
  | deleteCluster clusterName =>
    rw [perform_delete]
    simp only [operationsStub]
    split
    · exact fullNames_filter h _
    · exact h
  | getCluster clusterName =>
    rw [perform_get]
    exact h

end Map

/-! ### What the calls answer -/

section Answers

variable [Message Cluster] (config : ClusterManagerConfig) {server : Server} (choice : Choice)

/-- **Creating answers as the map does.** -/
theorem answer_create [LawfulMessage Cluster] (cluster : Cluster) :
    (perform config server choice (.createCluster cluster)).1 =
      (namesOf config server.clusters).answer choice (.createCluster cluster) := by
  simp only [perform, Names.answer, namesOf, Option.isNone_map]
  congr 1
  cases hkey : lookup server.clusters (key config.parent cluster.name) with
  | some c =>
    exact ClusterManager.createCluster_of_rpcError (by simp [operationsStub, manager, hkey])
  | none =>
    have hrpc : (operationsStub choice).createCluster (manager config server).metadata
        (manager config server).parent cluster.name server = _ :=
      if_neg (by simp [manager, hkey])
    cases htimely : choice.timely with
    | true =>
      have hcreates : (manager config server).Creates (operationsStub choice)
          config.targetAddress cluster (provisioned config.parent cluster.name choice)
          server := by
        refine ⟨by rw [hrpc], ⟨choice.operationName, true, .response _⟩, ?_,
          LawfulMessage.unpackTo_packFrom _⟩
        rw [hrpc]
        exact waitOperation_of_timely _ _ htimely _ _
      rw [ClusterManager.createCluster_of_creates hcreates]
      rfl
    | false =>
      exact ClusterManager.createCluster_of_waitError hrpc
        (waitOperation_of_not_timely _ _ htimely _ _)

/-- **So does deleting.** -/
theorem answer_delete (clusterName : String) :
    (perform config server choice (.deleteCluster clusterName)).1 =
      (namesOf config server.clusters).answer choice (.deleteCluster clusterName) := by
  simp only [perform, Names.answer, namesOf, Option.isSome_map]
  congr 1
  cases hkey : lookup server.clusters (key config.parent clusterName) with
  | none =>
    exact ClusterManager.deleteCluster_of_rpcError (by simp [operationsStub, hkey])
  | some c =>
    have hrpc : (operationsStub choice).deleteCluster (manager config server).metadata
        ((manager config server).resourceName clusterName) server = _ :=
      if_pos (by simp [hkey])
    cases htimely : choice.timely with
    | true =>
      rw [ClusterManager.deleteCluster_of_done hrpc rfl
        (waitOperation_of_timely _ _ htimely _ _)]
      rfl
    | false =>
      exact ClusterManager.deleteCluster_of_waitError hrpc
        (waitOperation_of_not_timely _ _ htimely _ _)

/-- **A short name is not found.** -/
theorem getCluster_short (hserver : FullNames server.clusters) {clusterName : String}
    (hshort : '/' ∉ clusterName.toList) :
    (perform config server choice (.getCluster clusterName)).1 = .found none := by
  simp [perform, ClusterManager.getCluster, manager, clustersStub, lookup_short hserver hshort,
    StatusOr.ofStatus]

/-- **A call with a short name goes as on the map** exactly if it does not ask for a cluster that
is there. -/
theorem callAgrees_iff [LawfulMessage Cluster] (hserver : FullNames server.clusters) {call : Call}
    (hshort : call.Short) :
    CallAgrees config server (namesOf config server.clusters) choice call ↔
      ∀ clusterName, call = .getCluster clusterName →
        namesOf config server.clusters clusterName = none := by
  have hagrees : CallAgrees config server (namesOf config server.clusters) choice call ↔
      (perform config server choice call).1 =
        (namesOf config server.clusters).answer choice call :=
    ⟨fun h => h.answer, fun h => ⟨namesOf_perform config server choice call,
      fun _ hname => lookup_perform_of_ne config server choice call hname, h⟩⟩
  rw [hagrees]
  cases call with
  | createCluster cluster => simp [answer_create]
  | deleteCluster clusterName => simp [answer_delete]
  | getCluster clusterName =>
    have hnone : (perform config server choice (.getCluster clusterName)).1 = .found none :=
      getCluster_short config choice hserver hshort
    rw [hnone, Names.answer]
    constructor
    · rintro h _ ⟨⟩
      exact (Answer.found.inj h).symm
    · intro h
      rw [h clusterName rfl]

/-- **When the manager is a map keyed by short names**: from every server whose clusters have full
names, on exactly the sequences of calls that never ask for a cluster that is there. -/
theorem refinesMap_iff [LawfulMessage Cluster] (hserver : FullNames server.clusters)
    (calls : List (Call × Choice)) (hshort : ∀ c ∈ calls, c.1.Short) :
    RefinesMap config server (namesOf config server.clusters) calls ↔
      NeverFinds config (namesOf config server.clusters) calls := by
  induction calls generalizing server with
  | nil => exact Iff.rfl
  | cons c calls ih =>
    obtain ⟨call, choice⟩ := c
    have hrest := ih (fullNames_perform config choice hserver call)
      fun c hc => hshort c (List.mem_cons_of_mem _ hc)
    rw [namesOf_perform] at hrest
    exact and_congr (callAgrees_iff config choice hserver (hshort _ List.mem_cons_self)) hrest

end Answers

/-! ### Runs from a server without clusters -/

def regionConfig : ClusterManagerConfig := ⟨"aistreams.googleapis.com", "p", "us-central1"⟩

def promptChoice : Choice := ⟨"10.0.0.1:80", "certificate", "operation", 0⟩

open WireMessages

/-- A cluster is created and deleted, and looked for. -/
theorem refinesMap_deleted : RefinesMap regionConfig ⟨[], []⟩ (namesOf regionConfig [])
    [(.createCluster ⟨"c1", "", ""⟩, promptChoice), (.deleteCluster "c1", promptChoice),
      (.getCluster "c1", promptChoice)] := by
  have hfull : FullNames (Server.mk [] []).clusters := fullNames_nil
  refine (refinesMap_iff regionConfig hfull _ ?_).mpr ⟨?_, ?_, ?_, trivial⟩
  · simp [Call.Short, Call.clusterName]
  · intro clusterName h
    cases h
  · intro clusterName h
    cases h
  · rintro clusterName ⟨⟩
    rfl

/-- **A cluster that has just been created is not found** by its name. -/
theorem not_refinesMap_created : ¬ RefinesMap regionConfig ⟨[], []⟩ (namesOf regionConfig [])
    [(.createCluster ⟨"c1", "", ""⟩, promptChoice), (.getCluster "c1", promptChoice)] := by
  rintro ⟨_, hget, _⟩
  have hfull : FullNames (perform regionConfig ⟨[], []⟩ promptChoice
      (.createCluster ⟨"c1", "", ""⟩)).2.clusters :=
    fullNames_perform regionConfig promptChoice fullNames_nil _
  have hname : '/' ∉ "c1".toList := by decide
  have hanswer := hget.answer
  rw [getCluster_short regionConfig promptChoice hfull hname] at hanswer
  cases Answer.found.inj hanswer

end AIStreams.ClusterNames
