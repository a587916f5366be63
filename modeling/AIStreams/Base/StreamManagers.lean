import AIStreams.Base.ClusterNames
import AIStreams.Base.PacketSender

/-!
# The stream managers

`StreamManager` of `aistreams/base/management_client.{h,cc}`, its two implementations, and the
factory of `aistreams/base/wrappers/managers.cc`.  Each implementation is run on any server that
knows its streams by name: the one on premises by the names themselves, the managed one by full
resource names.

* `channel_of_made`: where a manager that is made goes.
* `run_refines`: both managers keep a list of names.
* `deletesListed_of_run`: what comes of deleting what was listed.
-/

namespace AIStreams

open ClusterNames (Choice Started emptyResponse waitOperation_of_timely
  waitOperation_of_not_timely)

namespace StreamManagers

/-! ### The interface -/

/-- The message `Stream`. -/
structure Stream where
  name : String
  retentionPeriod : ProtoDuration

/-- A stream of which only the name is set. -/
def named (name : String) : Stream := ⟨name, ⟨0, 0⟩⟩

/-- `class StreamManager`, when the server is in a state of `S`. -/
structure StreamManager (S : Type) where
  createStream : Stream → S → StatusOr Stream × S
  deleteStream : String → S → Status × S
  listStreams : S → StatusOr (List Stream) × S

/-! ### On premises -/

structure StreamManagerOnPremConfig where
  targetAddress : String
  useInsecureChannel : Bool
  sslDomainName : String
  sslRootCertPath : String
  timeout : ProtoDuration
  waitForReady : Bool

/-- `absl::Seconds(seconds) + absl::Nanoseconds(nanos)`. -/
def durationOfProto (d : ProtoDuration) : Duration :=
  let n := 4000000000 * d.seconds.toInt + 4 * d.nanos.toInt
  if 4000000000 * 9223372036854775808 ≤ n then .infinite
  else if n < -(4000000000 * 9223372036854775808) then .negInfinite
  else .ticks n

structure OnPremStreamManager where
  options : ConnectionOptions

/-- The constructor of `OnPremStreamManagerImpl`. -/
def OnPremStreamManager.ofConfig (config : StreamManagerOnPremConfig) : OnPremStreamManager where
  options :=
    { targetAddress := config.targetAddress
      sslOptions :=
        { useInsecureChannel := config.useInsecureChannel
          sslDomainName := config.sslDomainName
          sslRootCertPath := config.sslRootCertPath }
      rpcOptions :=
        { timeout := durationOfProto config.timeout, waitForReady := config.waitForReady } }

/-- `ManagementServer::Stub`: the answers, and what becomes of the server. -/
structure ManagementServerStub (T S : Type) where
  createStream : CallContext T → (streamName : String) → ProtoDuration → S → GrpcStatus × S
  deleteStream : CallContext T → (streamName : String) → S → GrpcStatus × S
  listStream : CallContext T → S → (GrpcStatus × List String) × S

namespace OnPremStreamManager

variable {T S : Type} (m : OnPremStreamManager) (env : CallEnv T)
  (stub : ManagementServerStub T S)

def createStream (stream : Stream) (s : S) : StatusOr Stream × S :=
  let (status, ctx) := fillGrpcClientContext env m.options.rpcOptions ⟨[], false, none⟩
  if status.ok = false then (.ofStatus status, s)
  else
    let (grpcStatus, s) := stub.createStream ctx stream.name stream.retentionPeriod s
    if grpcStatus.errorCode ≠ .ok then
      (.ofStatus (unknownError "Encountered error calling RPC CreateStream"), s)
    else (.value stream, s)

def deleteStream (streamName : String) (s : S) : Status × S :=
  let (status, ctx) := fillGrpcClientContext env m.options.rpcOptions ⟨[], false, none⟩
  if status.ok = false then (status, s)
  else
    let (grpcStatus, s) := stub.deleteStream ctx streamName s
    if grpcStatus.errorCode ≠ .ok then
      (unknownError "Encountered error calling RPC DeleteStream", s)
    else (okStatus, s)

def listStreams (s : S) : StatusOr (List Stream) × S :=
  let (status, ctx) := fillGrpcClientContext env m.options.rpcOptions ⟨[], false, none⟩
  if status.ok = false then (.ofStatus status, s)
  else
    let ((grpcStatus, streamNames), s) := stub.listStream ctx s
    if grpcStatus.errorCode ≠ .ok then
      (.ofStatus (unknownError "Encountered error calling RPC ListStreams"), s)
    else (.value (streamNames.map named), s)

def manager : StreamManager S where
  createStream := m.createStream env stub
  deleteStream := m.deleteStream env stub
  listStreams := m.listStreams env stub

end OnPremStreamManager

/-! ### Managed -/

structure StreamManagerManagedConfig where
  targetAddress : String
  project : String
  location : String
  cluster : String

structure ManagedStreamManager where
  targetAddress : String
  parent : String

/-- The constructor of `ManagedStreamManagerImpl`. -/
def ManagedStreamManager.ofConfig (config : StreamManagerManagedConfig) :
    ManagedStreamManager where
  targetAddress := config.targetAddress
  parent := "projects/" ++ config.project ++ "/locations/" ++ config.location ++ "/clusters/" ++
    config.cluster

/-- The message `Stream` of the service. -/
structure ServiceStream where
  name : String

/-- `AIStreams::Stub` and `Operations::Stub`, likewise. -/
structure AIStreamsStub (S : Type) where
  createStream : List (String × String) → (parent streamId : String) → S →
    (GrpcStatus × Operation) × S
  deleteStream : List (String × String) → (name : String) → S → (GrpcStatus × Operation) × S
  listStreams : List (String × String) → (parent : String) → S →
    (GrpcStatus × List ServiceStream) × S
  operations : S → OperationsService

namespace ManagedStreamManager

variable {S : Type} (m : ManagedStreamManager) (stub : AIStreamsStub S)

def metadata : List (String × String) := [(kGrpcMetadata, "parent=" ++ m.parent)]

def createStream [Message ServiceStream] (stream : Stream) (s : S) : StatusOr Stream × S :=
  let ((grpcStatus, operation), s) := stub.createStream m.metadata m.parent stream.name s
  if grpcStatus.errorCode ≠ .ok then
    (.ofStatus (unknownError "Encountered error calling RPC CreateStream"), s)
  else
    match (waitOperation (stub.operations s) operation.name m.targetAddress m.parent).2 with
    | .error _ _ => (.ofStatus (unknownError "Encountered error deleting stream"), s)
    | .value operation =>
      match unpackTo (M := ServiceStream) operation.response with
      | none =>
        (.ofStatus (unknownError "Encountered error while unpack response to stream message."), s)
      | some service => (.value (named service.name), s)

def deleteStream (streamName : String) (s : S) : Status × S :=
  let ((grpcStatus, operation), s) :=
    stub.deleteStream m.metadata (m.parent ++ "/streams/" ++ streamName) s
  if grpcStatus.errorCode ≠ .ok then (unknownError "Encountered error calling RPC DeleteStream", s)
  else
    match (waitOperation (stub.operations s) operation.name m.targetAddress m.parent).2 with
    | .error _ _ => (unknownError "Encountered error deleting stream", s)
    | .value _ => (okStatus, s)

def listStreams (s : S) : StatusOr (List Stream) × S :=
  let ((grpcStatus, streams), s) := stub.listStreams m.metadata m.parent s
  if grpcStatus.errorCode ≠ .ok then
    (.ofStatus (unknownError "Encountered error calling RPC ListStreams"), s)
  else (.value (streams.map fun service => named service.name), s)

def manager [Message ServiceStream] : StreamManager S where
  createStream := m.createStream stub
  deleteStream := m.deleteStream stub
  listStreams := m.listStreams stub

end ManagedStreamManager

/-! ### The factory -/

/-- The oneof `config` of `StreamManagerConfig`. -/
inductive StreamManagerConfig
  | notSet
  | onPrem (config : StreamManagerOnPremConfig)
  | managed (config : StreamManagerManagedConfig)

/-- What gRPC is asked for: whether there is a channel, and whether there is a stub. -/
structure Env where
  files : CertificateFiles
  createCustomChannel : GrpcChannel → Bool
  newManagementServerStub : GrpcChannel → Bool
  createChannel : (targetAddress : String) → Bool
  newAIStreamsStub : (targetAddress : String) → Bool

/-- A manager, of either class. -/
inductive Made
  | onPrem (m : OnPremStreamManager) (channel : GrpcChannel)
  | managed (m : ManagedStreamManager)

section Factory

variable (env : Env)

/-- `OnPremStreamManagerImpl::CreateStreamManager`. -/
def OnPremStreamManager.createStreamManager (config : StreamManagerOnPremConfig) :
    StatusOr Made :=
  let m := OnPremStreamManager.ofConfig config
  match createGrpcChannel env.files m.options with
  | none => .ofStatus (unknownError "Failed to create a gRPC channel")
  | some channel =>
    if env.createCustomChannel channel = false then
      .ofStatus (unknownError "Failed to create a gRPC channel")
    else if env.newManagementServerStub channel = false then
      .ofStatus (unknownError "Failed to create a gRPC stub")
    else .value (.onPrem m channel)

/-- `ManagedStreamManagerImpl::CreateStreamManager`. -/
def ManagedStreamManager.createStreamManager (config : StreamManagerManagedConfig) :
    StatusOr Made :=
  let m := ManagedStreamManager.ofConfig config
  if env.createChannel m.targetAddress = false then
    .ofStatus (unknownError "Failed to create a gRPC channel")
  else if env.newAIStreamsStub m.targetAddress = false then
    .ofStatus (unknownError "Failed to create a gRPC stub")
  else .value (.managed m)

/-- `StreamManagerFactory::CreateStreamManager`. -/
def createStreamManager : StreamManagerConfig → StatusOr Made
  | .onPrem config => OnPremStreamManager.createStreamManager env config
  | .managed config => ManagedStreamManager.createStreamManager env config
  | .notSet =>
    .ofStatus (invalidArgumentError ("Input config is invalid. Either " ++
      "stream_manager_onprem_config or stream_manager_managed_config should be specified."))

/-- `MakeStreamManager`. -/
def makeStreamManager (config : StreamManagerConfig) : Status × Option Made :=
  match createStreamManager env config with
  | .error _ _ => (unknownError "Failed to create a StreamManager", none)
  | .value made => (okStatus, some made)

end Factory

/-- **A manager on premises goes where it was told to**, insecurely only if that was asked for. -/
theorem channel_of_made {env : Env} {config : StreamManagerConfig} {m : OnPremStreamManager}
    {channel : GrpcChannel} (h : (makeStreamManager env config).2 = some (.onPrem m channel)) :
    ∃ onPrem, config = .onPrem onPrem ∧ m = .ofConfig onPrem ∧
      channel.targetAddress = onPrem.targetAddress ∧
      (channel.credentials = .insecure ∧ onPrem.useInsecureChannel = true ∨
        ∃ certs, channel.credentials = .ssl certs ∧
          env.files.file onPrem.sslRootCertPath = some certs ∧
          channel.arguments.sslTargetNameOverride = some onPrem.sslDomainName) := by
  unfold makeStreamManager at h
  split at h
  · cases h
  · rename_i made hmade
    cases h
    cases config with
    | notSet => exact absurd hmade (StatusOr.ofStatus_ne_value _ _)
    | managed config =>
      unfold createStreamManager ManagedStreamManager.createStreamManager at hmade
      simp only at hmade
      split at hmade
      · exact absurd hmade (StatusOr.ofStatus_ne_value _ _)
      · split at hmade
        · exact absurd hmade (StatusOr.ofStatus_ne_value _ _)
        · cases hmade
    | onPrem config =>
      unfold createStreamManager OnPremStreamManager.createStreamManager at hmade
      simp only at hmade
      split at hmade
      · exact absurd hmade (StatusOr.ofStatus_ne_value _ _)
      · rename_i channel' hchannel
        split at hmade
        · exact absurd hmade (StatusOr.ofStatus_ne_value _ _)
        · split at hmade
          · exact absurd hmade (StatusOr.ofStatus_ne_value _ _)
          · cases hmade
            exact ⟨config, rfl, rfl, createGrpcChannel_eq_some hchannel⟩

/-! ### The servers -/

/-- A server on premises knows its streams, in each state these `names`: it creates and deletes as
it is told, unless there is such a stream, or there is none. -/
structure ServesNames {T S : Type} (stub : ManagementServerStub T S) (names : S → List String) :
    Prop where
  createStream : ∀ ctx streamName retentionPeriod s,
    ((stub.createStream ctx streamName retentionPeriod s).1.errorCode = .ok ↔
        streamName ∉ names s) ∧
      names (stub.createStream ctx streamName retentionPeriod s).2 =
        if streamName ∈ names s then names s else names s ++ [streamName]
  deleteStream : ∀ ctx streamName s,
    ((stub.deleteStream ctx streamName s).1.errorCode = .ok ↔ streamName ∈ names s) ∧
      names (stub.deleteStream ctx streamName s).2 = (names s).filter (· ≠ streamName)
  listStream : ∀ ctx s, (stub.listStream ctx s).1.1.errorCode = .ok ∧
    (stub.listStream ctx s).1.2 = names s ∧ names (stub.listStream ctx s).2 = names s

/-- The full name of a stream. -/
def key (parent streamId : String) : String := parent ++ "/streams/" ++ streamId

/-- The short name of a stream of this parent. -/
def shortName (parent name : String) : Option String :=
  if (key parent "").toList <+: name.toList then
    some (String.ofList (name.toList.drop (key parent "").toList.length))
  else none

/-- The managed service knows its streams by full name, in each state these `names`.  The stub is
the one of a call in which the service makes a choice: its operations are those of clusters, and
the last one is that of the request. -/
structure ServesResources [Message ServiceStream] {S : Type} (stub : Choice → AIStreamsStub S)
    (names : S → List String) : Prop where
  createStream : ∀ choice metadata parent streamId s, key parent streamId ∉ names s →
    ∃ message s' started, (stub choice).createStream metadata parent streamId s =
        ((⟨.ok, message⟩, ⟨choice.operationName, false, .notSet⟩), s') ∧
      names s' = names s ++ [key parent streamId] ∧
      (stub choice).operations s' = ClusterNames.operations
        (choice.started (packFrom (⟨key parent streamId⟩ : ServiceStream)) :: started)
  createStream_present : ∀ choice metadata parent streamId s, key parent streamId ∈ names s →
    ((stub choice).createStream metadata parent streamId s).1.1.errorCode ≠ .ok ∧
      names ((stub choice).createStream metadata parent streamId s).2 = names s
  deleteStream : ∀ choice metadata name s, name ∈ names s →
    ∃ message s' started, (stub choice).deleteStream metadata name s =
        ((⟨.ok, message⟩, ⟨choice.operationName, false, .notSet⟩), s') ∧
      names s' = (names s).filter (· ≠ name) ∧
      (stub choice).operations s' =
        ClusterNames.operations (choice.started emptyResponse :: started)
  deleteStream_absent : ∀ choice metadata name s, name ∉ names s →
    ((stub choice).deleteStream metadata name s).1.1.errorCode ≠ .ok ∧
      names ((stub choice).deleteStream metadata name s).2 = names s
  listStreams : ∀ choice metadata parent s,
    ((stub choice).listStreams metadata parent s).1.1.errorCode = .ok ∧
      ((stub choice).listStreams metadata parent s).1.2 =
        ((names s).filter fun name => (shortName parent name).isSome).map .mk ∧
      names ((stub choice).listStreams metadata parent s).2 = names s

/-! ### Calls -/

inductive Call
  | createStream (stream : Stream)
  | deleteStream (streamName : String)
  | listStreams

/-- The name a call is about is not a path. -/
def Call.Short : Call → Prop
  | .createStream stream => '/' ∉ stream.name.toList
  | .deleteStream streamName => '/' ∉ streamName.toList
  | .listStreams => True

/-- What a call tells its caller. -/
inductive Answer
  | created (stream : Option Stream)
  | deleted (ok : Bool)
  | listed (streams : Option (List Stream))

def valueOf {α : Type} : StatusOr α → Option α
  | .error _ _ => none
  | .value a => some a

def StreamManager.call {S : Type} (m : StreamManager S) (s : S) : Call → Answer × S
  | .createStream stream =>
    let (r, s) := m.createStream stream s
    (.created (valueOf r), s)
  | .deleteStream streamName =>
    let (r, s) := m.deleteStream streamName s
    (.deleted r.ok, s)
  | .listStreams =>
    let (r, s) := m.listStreams s
    (.listed (valueOf r), s)

/-- A sequence of calls, with what the server chooses in each. -/
def run {S : Type} (m : Choice → StreamManager S) : List (Call × Choice) → S → List Answer × S
  | [], s => ([], s)
  | (call, choice) :: calls, s =>
    let (answer, s) := (m choice).call s call
    let (answers, s) := run m calls s
    (answer :: answers, s)

/-! ### A list of names -/

/-- How a manager tells its caller about streams, and whether it waits for them. -/
structure View where
  created : Stream → Stream
  listed : String → Stream
  waits : Bool

/-- A call on a list of names. -/
def View.call (v : View) (names : List String) (choice : Choice) : Call → Answer × List String
  | .createStream stream =>
    (.created (if stream.name ∈ names ∨ v.waits ∧ choice.timely = false then none
        else some (v.created stream)),
      if stream.name ∈ names then names else names ++ [stream.name])
  | .deleteStream streamName =>
    (.deleted (decide (streamName ∈ names ∧ ¬ (v.waits ∧ choice.timely = false))),
      names.filter (· ≠ streamName))
  | .listStreams => (.listed (some (names.map v.listed)), names)

def View.run (v : View) : List (Call × Choice) → List String → List Answer × List String
  | [], names => ([], names)
  | (call, choice) :: calls, names =>
    let (answer, names) := v.call names choice call
    let (answers, names) := v.run calls names
    (answer :: answers, names)

/-- On premises a stream is told as it was given. -/
def onPremView : View := ⟨id, named, false⟩

/-- The managed service tells full names. -/
def managedView (parent : String) : View :=
  ⟨fun stream => named (key parent stream.name), fun name => named (key parent name), true⟩

theorem filter_ne_of_notMem {names : List String} {name : String} (h : name ∉ names) :
    names.filter (· ≠ name) = names := by
  refine List.filter_eq_self.mpr fun other hother => ?_
  simp only [ne_eq, decide_not, Bool.not_eq_true', decide_eq_false_iff_not]
  rintro rfl
  exact h hother

/-! ### On premises, the names are kept -/

section OnPrem

variable {T S : Type} {stub : ManagementServerStub T S} {names : S → List String}
  (hstub : ServesNames stub names) (m : OnPremStreamManager) (env : CallEnv T)

include hstub

omit hstub in
theorem fillGrpcClientContext_onPrem :
    ∃ ctx, fillGrpcClientContext env m.options.rpcOptions ⟨[], false, none⟩ = (okStatus, ctx) := by
  unfold fillGrpcClientContext
  dsimp only
  split <;> exact ⟨_, rfl⟩

theorem onPrem_list (s : S) : ∃ s', m.listStreams env stub s = (.value ((names s).map named), s') ∧
    names s' = names s := by
  obtain ⟨ctx, hfill⟩ := fillGrpcClientContext_onPrem m env
  obtain ⟨hok, hlist, hnames⟩ := hstub.listStream ctx s
  refine ⟨(stub.listStream ctx s).2, ?_, hnames⟩
  simp [OnPremStreamManager.listStreams, hfill, hok, hlist]

/-- **One call on premises.** -/
theorem onPrem_call (s : S) (choice : Choice) (call : Call) :
    ((m.manager env stub).call s call).1 = (onPremView.call (names s) choice call).1 ∧
      names ((m.manager env stub).call s call).2 = (onPremView.call (names s) choice call).2 := by
  obtain ⟨ctx, hfill⟩ := fillGrpcClientContext_onPrem m env
  cases call with
  | createStream stream =>
    obtain ⟨hok, hnames⟩ := hstub.createStream ctx stream.name stream.retentionPeriod s
    by_cases hmem : stream.name ∈ names s
    · have hfail := mt hok.mp (not_not_intro hmem)
      simp [StreamManager.call, OnPremStreamManager.manager, OnPremStreamManager.createStream,
        hfill, hfail, hnames, hmem, View.call, valueOf, StatusOr.ofStatus]
    · simp [StreamManager.call, OnPremStreamManager.manager, OnPremStreamManager.createStream,
        hfill, hok.mpr hmem, hnames, hmem, View.call, valueOf, onPremView]
  | deleteStream streamName =>
    obtain ⟨hok, hnames⟩ := hstub.deleteStream ctx streamName s
    by_cases hmem : streamName ∈ names s
    · simp [StreamManager.call, OnPremStreamManager.manager, OnPremStreamManager.deleteStream,
        hfill, hok.mpr hmem, hnames, hmem, View.call, onPremView]
    · simp [StreamManager.call, OnPremStreamManager.manager, OnPremStreamManager.deleteStream,
        hfill, mt hok.mp hmem, hnames, hmem, View.call, onPremView]
  | listStreams =>
    obtain ⟨s', hlist, hnames⟩ := onPrem_list hstub m env s
    simp only [StreamManager.call, OnPremStreamManager.manager, hlist]
    exact ⟨rfl, hnames⟩

theorem onPrem_run (calls : List (Call × Choice)) (s : S) :
    (run (fun _ => m.manager env stub) calls s).1 = (onPremView.run calls (names s)).1 ∧
      names (run (fun _ => m.manager env stub) calls s).2 =
        (onPremView.run calls (names s)).2 := by
  induction calls generalizing s with
  | nil => exact ⟨rfl, rfl⟩
  | cons c calls ih =>
    obtain ⟨call, choice⟩ := c
    obtain ⟨hanswer, hnames⟩ := onPrem_call hstub m env s choice call
    obtain ⟨hanswers, hnames'⟩ := ih ((m.manager env stub).call s call).2
    rw [hnames] at hanswers hnames'
    exact ⟨congrArg₂ List.cons hanswer hanswers, hnames'⟩

end OnPrem

/-! ### Managed, the short names are kept -/

section ShortNames

/-- The streams of a parent, by their short names. -/
def namesOf (parent : String) (names : List String) : List String :=
  names.filterMap (shortName parent)

theorem toList_key (parent streamId : String) :
    (key parent streamId).toList = (key parent "").toList ++ streamId.toList := by
  simp [key, String.toList_append]

theorem shortName_key (parent streamId : String) :
    shortName parent (key parent streamId) = some streamId := by
  have hprefix : (key parent "").toList <+: (key parent streamId).toList :=
    ⟨streamId.toList, (toList_key parent streamId).symm⟩
  rw [shortName, if_pos hprefix, toList_key parent streamId, List.drop_left, String.ofList_toList]

theorem shortName_eq_some {parent name streamId : String}
    (h : shortName parent name = some streamId) : name = key parent streamId := by
  unfold shortName at h
  split at h
  · rename_i hprefix
    obtain ⟨rest, hrest⟩ := hprefix
    cases h
    rw [← String.toList_inj, toList_key, String.toList_ofList, ← hrest, List.drop_left]
  · cases h

theorem ne_key {parent name streamId : String} (h : shortName parent name = none) :
    name ≠ key parent streamId := by
  rintro rfl
  rw [shortName_key] at h
  cases h

theorem mem_namesOf {parent streamId : String} {names : List String} :
    streamId ∈ namesOf parent names ↔ key parent streamId ∈ names := by
  unfold namesOf
  rw [List.mem_filterMap]
  constructor
  · rintro ⟨name, hname, hshort⟩
    rwa [← shortName_eq_some hshort]
  · intro hname
    exact ⟨_, hname, shortName_key parent streamId⟩

theorem namesOf_append (parent streamId : String) (names : List String) :
    namesOf parent (names ++ [key parent streamId]) = namesOf parent names ++ [streamId] := by
  unfold namesOf
  rw [List.filterMap_append, List.filterMap_cons_some (shortName_key parent streamId)]
  rfl

theorem namesOf_filter (parent streamId : String) (names : List String) :
    namesOf parent (names.filter (· ≠ key parent streamId)) =
      (namesOf parent names).filter (· ≠ streamId) := by
  unfold namesOf
  rw [List.filterMap_filter, List.filter_filterMap]
  congr 1
  funext name
  cases hshort : shortName parent name with
  | none => simp
  | some streamId' =>
    obtain rfl := shortName_eq_some hshort
    have hkey : key parent streamId' = key parent streamId ↔ streamId' = streamId := by
      constructor
      · intro h
        rw [h, shortName_key] at hshort
        exact (Option.some.inj hshort).symm
      · rintro rfl
        rfl
    by_cases hname : streamId' = streamId
    · simp [hname, Option.filter]
    · simp [hname, hkey, Option.filter]

theorem listed_namesOf (parent : String) (names : List String) :
    names.filter (fun name => (shortName parent name).isSome) =
      (namesOf parent names).map (key parent) := by
  induction names with
  | nil => rfl
  | cons name names ih =>
    unfold namesOf at ih ⊢
    cases hshort : shortName parent name with
    | none => rw [List.filter_cons_of_neg (by simp [hshort]), List.filterMap_cons_none hshort, ih]
    | some streamId =>
      rw [List.filter_cons_of_pos (by simp [hshort]), List.filterMap_cons_some hshort,
        List.map_cons, ih, shortName_eq_some hshort]

end ShortNames

/-- What becomes of the streams of a server in a call that concerns one parent: of this parent it
has the streams of these short names, and all others as before. -/
structure Keeps (parent : String) (before after shortNames : List String) : Prop where
  names : namesOf parent after = shortNames
  others : ∀ name, shortName parent name = none → (name ∈ after ↔ name ∈ before)

theorem Keeps.refl (parent : String) (names : List String) :
    Keeps parent names names (namesOf parent names) :=
  ⟨rfl, fun _ _ => Iff.rfl⟩

theorem Keeps.trans {parent : String} {before during after shortNames shortNames' : List String}
    (h : Keeps parent before during shortNames) (h' : Keeps parent during after shortNames') :
    Keeps parent before after shortNames' :=
  ⟨h'.names, fun name hname => (h'.others name hname).trans (h.others name hname)⟩

theorem keeps_append (parent streamId : String) (names : List String) :
    Keeps parent names (names ++ [key parent streamId]) (namesOf parent names ++ [streamId]) := by
  refine ⟨namesOf_append parent streamId names, fun name hname => ?_⟩
  rw [List.mem_append, List.mem_singleton, or_iff_left (ne_key hname)]

theorem keeps_filter (parent streamId : String) (names : List String) :
    Keeps parent names (names.filter (· ≠ key parent streamId))
      ((namesOf parent names).filter (· ≠ streamId)) := by
  refine ⟨namesOf_filter parent streamId names, fun name hname => ?_⟩
  rw [List.mem_filter, and_iff_left (decide_eq_true (ne_key hname))]

section Managed

variable [Message ServiceStream] {S : Type} {stub : Choice → AIStreamsStub S}
  {names : S → List String} (hstub : ServesResources stub names) (m : ManagedStreamManager)

include hstub

/-- **Creating on the managed service.** -/
theorem managed_create [LawfulMessage ServiceStream] (s : S) (choice : Choice) (stream : Stream) :
    ∃ r s', m.createStream (stub choice) stream s = (r, s') ∧
      Answer.created (valueOf r) = ((managedView m.parent).call (namesOf m.parent (names s)) choice
        (.createStream stream)).1 ∧
      Keeps m.parent (names s) (names s') ((managedView m.parent).call
        (namesOf m.parent (names s)) choice (.createStream stream)).2 := by
  by_cases hmem : key m.parent stream.name ∈ names s
  · obtain ⟨hfail, hnames⟩ :=
      hstub.createStream_present choice m.metadata m.parent stream.name s hmem
    refine ⟨.ofStatus (unknownError "Encountered error calling RPC CreateStream"),
      ((stub choice).createStream m.metadata m.parent stream.name s).2, ?_, ?_, ?_⟩
    · unfold ManagedStreamManager.createStream
      exact if_pos hfail
    · simp [View.call, mem_namesOf, hmem, valueOf, StatusOr.ofStatus]
    · rw [hnames]
      simp only [View.call, mem_namesOf, if_pos hmem]
      exact Keeps.refl _ _
  · obtain ⟨message, s', started, hcreate, hnames, hoperations⟩ :=
      hstub.createStream choice m.metadata m.parent stream.name s hmem
    have hkeeps := keeps_append m.parent stream.name (names s)
    rw [← hnames] at hkeeps
    cases htimely : choice.timely with
    | true =>
      refine ⟨.value (named (key m.parent stream.name)), s', ?_, ?_, ?_⟩
      · have hwait := waitOperation_of_timely
          (packFrom (⟨key m.parent stream.name⟩ : ServiceStream)) started htimely
          m.targetAddress m.parent
        unfold ManagedStreamManager.createStream
        simp [hcreate, hoperations, hwait, Operation.response, LawfulMessage.unpackTo_packFrom]
      · simp [View.call, mem_namesOf, hmem, htimely, valueOf, managedView]
      · simpa only [View.call, mem_namesOf, if_neg hmem] using hkeeps
    | false =>
      refine ⟨.ofStatus (unknownError "Encountered error deleting stream"), s', ?_, ?_, ?_⟩
      · have hwait := waitOperation_of_not_timely
          (packFrom (⟨key m.parent stream.name⟩ : ServiceStream)) started htimely
          m.targetAddress m.parent
        unfold ManagedStreamManager.createStream
        simp [hcreate, hoperations, hwait]
      · simp [View.call, htimely, valueOf, managedView, StatusOr.ofStatus]
      · simpa only [View.call, mem_namesOf, if_neg hmem] using hkeeps

/-- A stream that the service does not have is not deleted. -/
theorem managed_delete_absent {s : S} {streamName : String}
    (h : key m.parent streamName ∉ names s) (choice : Choice) :
    ∃ s', m.deleteStream (stub choice) streamName s =
      (unknownError "Encountered error calling RPC DeleteStream", s') ∧ names s' = names s := by
  obtain ⟨hfail, hnames⟩ :=
    hstub.deleteStream_absent choice m.metadata (m.parent ++ "/streams/" ++ streamName) s h
  refine ⟨_, ?_, hnames⟩
  unfold ManagedStreamManager.deleteStream
  exact if_pos hfail

/-- **Deleting.** -/
theorem managed_delete (s : S) (choice : Choice) (streamName : String) :
    ∃ r s', m.deleteStream (stub choice) streamName s = (r, s') ∧
      Answer.deleted r.ok = ((managedView m.parent).call (namesOf m.parent (names s)) choice
        (.deleteStream streamName)).1 ∧
      Keeps m.parent (names s) (names s') ((managedView m.parent).call
        (namesOf m.parent (names s)) choice (.deleteStream streamName)).2 := by
  by_cases hmem : key m.parent streamName ∈ names s
  · obtain ⟨message, s', started, hdelete, hnames, hoperations⟩ :=
      hstub.deleteStream choice m.metadata (key m.parent streamName) s hmem
    have hkeeps := keeps_filter m.parent streamName (names s)
    rw [← hnames] at hkeeps
    rw [key] at hdelete
    cases htimely : choice.timely with
    | true =>
      refine ⟨okStatus, s', ?_, ?_, hkeeps⟩
      · have hwait := waitOperation_of_timely emptyResponse started htimely m.targetAddress
          m.parent
        unfold ManagedStreamManager.deleteStream
        simp [hdelete, hoperations, hwait]
      · simp [View.call, mem_namesOf, hmem, htimely]
    | false =>
      refine ⟨unknownError "Encountered error deleting stream", s', ?_, ?_, hkeeps⟩
      · have hwait := waitOperation_of_not_timely emptyResponse started htimely m.targetAddress
          m.parent
        unfold ManagedStreamManager.deleteStream
        simp [hdelete, hoperations, hwait]
      · simp [View.call, managedView, htimely]
  · obtain ⟨s', hdelete, hnames⟩ := managed_delete_absent hstub m hmem choice
    refine ⟨_, s', hdelete, ?_, ?_⟩
    · simp [View.call, mem_namesOf, hmem]
    · rw [hnames, View.call, filter_ne_of_notMem (mt mem_namesOf.mp hmem)]
      exact Keeps.refl _ _

/-- **Listing.** -/
theorem managed_list (s : S) (choice : Choice) :
    ∃ s', m.listStreams (stub choice) s =
      (.value ((namesOf m.parent (names s)).map (managedView m.parent).listed), s') ∧
      names s' = names s := by
  obtain ⟨hok, hlist, hnames⟩ := hstub.listStreams choice m.metadata m.parent s
  refine ⟨_, ?_, hnames⟩
  unfold ManagedStreamManager.listStreams
  refine (if_neg (not_not_intro hok)).trans ?_
  rw [hlist, listed_namesOf, List.map_map, List.map_map]
  rfl

variable [LawfulMessage ServiceStream]

/-- **One call of the managed service.** -/
theorem managed_call (s : S) (choice : Choice) (call : Call) :
    ((m.manager (stub choice)).call s call).1 =
        ((managedView m.parent).call (namesOf m.parent (names s)) choice call).1 ∧
      Keeps m.parent (names s) (names ((m.manager (stub choice)).call s call).2)
        ((managedView m.parent).call (namesOf m.parent (names s)) choice call).2 := by
  unfold StreamManager.call ManagedStreamManager.manager
  cases call with
  | createStream stream =>
    obtain ⟨r, s', hcreate, h⟩ := managed_create hstub m s choice stream
    simpa only [hcreate] using h
  | deleteStream streamName =>
    obtain ⟨r, s', hdelete, h⟩ := managed_delete hstub m s choice streamName
    simpa only [hdelete] using h
  | listStreams =>
    obtain ⟨s', hlist, hnames⟩ := managed_list hstub m s choice
    simp only [hlist, hnames]
    exact ⟨rfl, Keeps.refl _ _⟩

theorem managed_run (calls : List (Call × Choice)) (s : S) :
    (run (fun choice => m.manager (stub choice)) calls s).1 =
        ((managedView m.parent).run calls (namesOf m.parent (names s))).1 ∧
      Keeps m.parent (names s) (names (run (fun choice => m.manager (stub choice)) calls s).2)
        ((managedView m.parent).run calls (namesOf m.parent (names s))).2 := by
  induction calls generalizing s with
  | nil => exact ⟨rfl, Keeps.refl _ _⟩
  | cons c calls ih =>
    obtain ⟨call, choice⟩ := c
    obtain ⟨hanswer, hkeeps⟩ := managed_call hstub m s choice call
    obtain ⟨hanswers, hkeeps'⟩ := ih ((m.manager (stub choice)).call s call).2
    rw [hkeeps.names] at hanswers hkeeps'
    exact ⟨congrArg₂ List.cons hanswer hanswers, hkeeps.trans hkeeps'⟩

end Managed

/-! ### Two servers -/

/-- A server on premises whose state is its names. -/
def nameServer : ManagementServerStub Unit (List String) where
  createStream _ streamName _ names :=
    if streamName ∈ names then (⟨.alreadyExists, "stream exists"⟩, names)
    else (⟨.ok, ""⟩, names ++ [streamName])
  deleteStream _ streamName names :=
    if streamName ∈ names then (⟨.ok, ""⟩, names.filter (· ≠ streamName))
    else (⟨.notFound, "no stream"⟩, names)
  listStream _ names := ((⟨.ok, ""⟩, names), names)

theorem servesNames_nameServer : ServesNames nameServer id where
  createStream ctx streamName retentionPeriod names := by
    by_cases hmem : streamName ∈ names <;> simp [nameServer, hmem]
  deleteStream ctx streamName names := by
    by_cases hmem : streamName ∈ names
    · simp [nameServer, hmem]
    · refine ⟨by simp [nameServer, hmem], ?_⟩
      rw [id, id, filter_ne_of_notMem hmem]
      exact congrArg Prod.snd (if_neg hmem)
  listStream ctx names := ⟨rfl, rfl, rfl⟩

/-- A managed service whose state is its names, with the operations that it has started. -/
def resourceService [Message ServiceStream] (choice : Choice) :
    AIStreamsStub (List String × List Started) where
  createStream _ parent streamId s :=
    if key parent streamId ∈ s.1 then
      ((⟨.alreadyExists, "stream exists"⟩, ⟨"", false, .notSet⟩), s)
    else
      ((⟨.ok, ""⟩, ⟨choice.operationName, false, .notSet⟩),
        (s.1 ++ [key parent streamId],
          choice.started (packFrom (⟨key parent streamId⟩ : ServiceStream)) :: s.2))
  deleteStream _ name s :=
    if name ∈ s.1 then
      ((⟨.ok, ""⟩, ⟨choice.operationName, false, .notSet⟩),
        (s.1.filter (· ≠ name), choice.started emptyResponse :: s.2))
    else ((⟨.notFound, "no stream"⟩, ⟨"", false, .notSet⟩), s)
  listStreams _ parent s :=
    ((⟨.ok, ""⟩, (s.1.filter fun name => (shortName parent name).isSome).map .mk), s)
  operations s := ClusterNames.operations s.2

theorem servesResources_resourceService [Message ServiceStream] :
    ServesResources resourceService Prod.fst where
  createStream choice metadata parent streamId s hmem :=
    ⟨"", _, _, if_neg hmem, rfl, rfl⟩
  createStream_present choice metadata parent streamId s hmem := by
    simp [resourceService, hmem]
  deleteStream choice metadata name s hmem := ⟨"", _, _, if_pos hmem, rfl, rfl⟩
  deleteStream_absent choice metadata name s hmem := by
    simp [resourceService, hmem]
  listStreams choice metadata parent s := ⟨rfl, rfl, rfl⟩

end StreamManagers

namespace WireMessages

open Wire

/-- The service's stream on the wire. -/
def serviceStream : Schema StreamManagers.ServiceStream where
  fullName := "google.partner.aistreams.v1alpha1.Stream"
  default := ⟨""⟩
  toFields s := bytesField 1 (ofString s.name)
  ofFields fields := do
    let name ← toString? (readBytes 1 fields)
    some ⟨name⟩
  ofFields_toFields s := by simp [readBytes, toString?_ofString]

scoped instance : Message StreamManagers.ServiceStream := serviceStream.message
scoped instance : LawfulMessage StreamManagers.ServiceStream := serviceStream.lawful

end WireMessages

namespace StreamManagers

open WireMessages

def localManager : OnPremStreamManager :=
  .ofConfig ⟨"localhost:50051", true, "", "", ⟨5, 0⟩, true⟩

def localEnv : CallEnv Unit := ⟨0, fun _ => (), .value "token"⟩

def clusterManager : ManagedStreamManager :=
  .ofConfig ⟨"aistreams.googleapis.com", "p", "us-central1", "c1"⟩

def promptly : Choice := ⟨"", "", "operation", 0⟩

/-- Two streams, one of them made twice. -/
def twoStreams : List (Call × Choice) :=
  [(.createStream (named "a"), promptly), (.createStream (named "b"), promptly),
    (.createStream (named "a"), promptly)]

/-- **Both managers keep a list of names**, in every sequence of calls and from every state of the
server: the one on premises the names that it is given, the managed one the short names of its
cluster, and it leaves all other streams alone.  They differ in what they tell. -/
theorem run_refines {T S S' : Type} [Message ServiceStream] [LawfulMessage ServiceStream]
    {server : ManagementServerStub T S} {names : S → List String}
    (hserver : ServesNames server names) {service : Choice → AIStreamsStub S'}
    {names' : S' → List String} (hservice : ServesResources service names')
    (onPrem : OnPremStreamManager) (env : CallEnv T) (managed : ManagedStreamManager)
    (calls : List (Call × Choice)) (s : S) (s' : S') :
    ((run (fun _ => onPrem.manager env server) calls s).1 = (onPremView.run calls (names s)).1 ∧
      names (run (fun _ => onPrem.manager env server) calls s).2 =
        (onPremView.run calls (names s)).2) ∧
    ((run (fun choice => managed.manager (service choice)) calls s').1 =
        ((managedView managed.parent).run calls (namesOf managed.parent (names' s'))).1 ∧
      Keeps managed.parent (names' s')
        (names' (run (fun choice => managed.manager (service choice)) calls s').2)
        ((managedView managed.parent).run calls (namesOf managed.parent (names' s'))).2) :=
  ⟨onPrem_run hserver onPrem env calls s, managed_run hservice managed calls s'⟩

theorem run_refines_twoStreams :
    (run (fun _ => localManager.manager localEnv nameServer) twoStreams []).2 = ["a", "b"] ∧
      namesOf clusterManager.parent
        (run (fun choice => clusterManager.manager (resourceService choice)) twoStreams
          ([], [])).2.1 = ["a", "b"] := by
  obtain ⟨⟨_, hnames⟩, _, hkeeps⟩ := run_refines servesNames_nameServer
    servesResources_resourceService localManager localEnv clusterManager twoStreams []
    ([], [])
  exact ⟨hnames, hkeeps.names⟩

/-! ### Deleting what was listed -/

/-- Every name is a short one. -/
def ShortNames (names : List String) : Prop := ∀ name ∈ names, '/' ∉ name.toList

theorem shortNames_call {v : View} {names : List String} (h : ShortNames names) (choice : Choice)
    {call : Call} (hcall : call.Short) : ShortNames (v.call names choice call).2 := by
  cases call with
  | createStream stream =>
    by_cases hmem : stream.name ∈ names
    · simpa only [View.call, if_pos hmem] using h
    · simp only [View.call, if_neg hmem]
      intro name hname
      rcases List.mem_append.mp hname with hname | hname
      · exact h name hname
      · obtain rfl := List.mem_singleton.mp hname
        exact hcall
  | deleteStream streamName => exact fun name hname => h name (List.mem_of_mem_filter hname)
  | listStreams => exact h

theorem shortNames_run {v : View} {calls : List (Call × Choice)}
    (hcalls : ∀ c ∈ calls, c.1.Short) {names : List String} (h : ShortNames names) :
    ShortNames (v.run calls names).2 := by
  induction calls generalizing names with
  | nil => exact h
  | cons c calls ih =>
    have hcall := shortNames_call (v := v) h c.2 (hcalls c List.mem_cons_self)
    exact ih (fun c hc => hcalls c (List.mem_cons_of_mem _ hc)) hcall

theorem nodup_call {v : View} {names : List String} (h : names.Nodup) (choice : Choice)
    (call : Call) : (v.call names choice call).2.Nodup := by
  cases call with
  | createStream stream =>
    by_cases hmem : stream.name ∈ names
    · simpa only [View.call, if_pos hmem] using h
    · simp only [View.call, if_neg hmem]
      exact h.append (List.nodup_singleton _) (List.disjoint_singleton.mpr hmem)
  | deleteStream streamName => exact h.filter _
  | listStreams => exact h

theorem nodup_run {v : View} (calls : List (Call × Choice)) {names : List String}
    (h : names.Nodup) : (v.run calls names).2.Nodup := by
  induction calls generalizing names with
  | nil => exact h
  | cons c calls ih => exact ih (nodup_call h c.2 c.1)

/-- A caller lists the streams, and then deletes each of them under the name that it was told: every
answer is `ok`, and the server ends up with the streams `left`. -/
def DeletesListed {S : Type} (m : Choice → StreamManager S) (names : S → List String) (s : S)
    (ok : Bool) (left : List String) : Prop :=
  ∀ choice, ∃ streams s', (m choice).listStreams s = (.value streams, s') ∧
    ∀ deletes : List (Call × Choice),
      deletes.map Prod.fst = streams.map (fun stream => .deleteStream stream.name) →
      (run m deletes s').1 = streams.map (fun _ => .deleted ok) ∧ names (run m deletes s').2 = left

/-- Deleting all of a list of names, one after the other. -/
theorem onPremView_deletes {names : List String} (h : names.Nodup)
    {deletes : List (Call × Choice)}
    (hdeletes : deletes.map Prod.fst = names.map Call.deleteStream) :
    onPremView.run deletes names = (names.map fun _ => .deleted true, []) := by
  induction names generalizing deletes with
  | nil =>
    obtain rfl := List.map_eq_nil_iff.mp hdeletes
    rfl
  | cons name names ih =>
    obtain ⟨⟨call, choice⟩, deletes, rfl, rfl, hrest⟩ := List.map_eq_cons_iff.mp hdeletes
    have hcall : onPremView.call (name :: names) choice (.deleteStream name) =
        (.deleted true, names) := by
      have hfilter := filter_ne_of_notMem (List.nodup_cons.mp h).1
      rw [View.call, List.filter_cons_of_neg (by simp), hfilter]
      simp [onPremView]
    unfold View.run
    rw [hcall]
    simp only [ih (List.nodup_cons.mp h).2 hrest]
    rfl

theorem onPrem_deletesListed {T S : Type} {stub : ManagementServerStub T S}
    {names : S → List String} (hstub : ServesNames stub names) (m : OnPremStreamManager)
    (env : CallEnv T) {s : S} (h : (names s).Nodup) :
    DeletesListed (fun _ => m.manager env stub) names s true [] := by
  intro choice
  obtain ⟨s', hlist, hnames⟩ := onPrem_list hstub m env s
  refine ⟨_, s', hlist, fun deletes hdeletes => ?_⟩
  rw [List.map_map] at hdeletes
  obtain ⟨hanswers, hleft⟩ := onPrem_run hstub m env deletes s'
  rw [hnames, onPremView_deletes h hdeletes] at hanswers hleft
  rw [hanswers, List.map_map]
  exact ⟨rfl, hleft⟩

/-- Deleting full names. -/
theorem managed_deletes [Message ServiceStream] {S : Type} {stub : Choice → AIStreamsStub S}
    {names : S → List String} (hstub : ServesResources stub names) (m : ManagedStreamManager)
    {s : S} (h : ShortNames (namesOf m.parent (names s))) (shortNames : List String)
    {deletes : List (Call × Choice)}
    (hdeletes : deletes.map Prod.fst =
      shortNames.map fun name => .deleteStream (key m.parent name)) :
    (run (fun choice => m.manager (stub choice)) deletes s).1 =
        shortNames.map (fun _ => .deleted false) ∧
      names (run (fun choice => m.manager (stub choice)) deletes s).2 = names s := by
  induction shortNames generalizing deletes s with
  | nil =>
    obtain rfl := List.map_eq_nil_iff.mp hdeletes
    exact ⟨rfl, rfl⟩
  | cons name shortNames ih =>
    obtain ⟨⟨call, choice⟩, deletes, rfl, rfl, hrest⟩ := List.map_eq_cons_iff.mp hdeletes
    have habsent : key m.parent (key m.parent name) ∉ names s := by
      intro hmem
      refine h _ (mem_namesOf.mpr hmem) ?_
      simp [key, String.toList_append]
    obtain ⟨s', hdelete, hnames⟩ := managed_delete_absent hstub m habsent choice
    rw [← hnames] at h
    obtain ⟨hanswers, hleft⟩ := ih h hrest
    have hcall : (m.manager (stub choice)).call s (.deleteStream (key m.parent name)) =
        (.deleted false, s') := by
      simp only [StreamManager.call, ManagedStreamManager.manager, hdelete]
      rfl
    unfold run
    simp only [hcall]
    exact ⟨congrArg (Answer.deleted false :: ·) hanswers, hleft.trans hnames⟩

theorem managed_deletesListed [Message ServiceStream] {S : Type} {stub : Choice → AIStreamsStub S}
    {names : S → List String} (hstub : ServesResources stub names) (m : ManagedStreamManager)
    {s : S} (h : ShortNames (namesOf m.parent (names s))) :
    DeletesListed (fun choice => m.manager (stub choice)) names s false (names s) := by
  intro choice
  obtain ⟨s', hlist, hnames⟩ := managed_list hstub m s choice
  refine ⟨_, s', hlist, fun deletes hdeletes => ?_⟩
  rw [List.map_map] at hdeletes ⊢
  rw [← hnames] at h
  obtain ⟨hanswers, hleft⟩ := managed_deletes hstub m h _ hdeletes
  exact ⟨hanswers, hleft.trans hnames⟩

/-- **Deleting what was listed**, after any calls with short names and from a server without
streams of longer names: on premises every deletion succeeds, and nothing is left; with the managed
service each of them fails, and everything is left. -/
theorem deletesListed_of_run {T S S' : Type} [Message ServiceStream] [LawfulMessage ServiceStream]
    {server : ManagementServerStub T S} {names : S → List String}
    (hserver : ServesNames server names) {service : Choice → AIStreamsStub S'}
    {names' : S' → List String} (hservice : ServesResources service names')
    (onPrem : OnPremStreamManager) (env : CallEnv T) (managed : ManagedStreamManager)
    {calls : List (Call × Choice)} (hcalls : ∀ c ∈ calls, c.1.Short) {s : S}
    (hs : (names s).Nodup) {s' : S'} (hs' : ShortNames (namesOf managed.parent (names' s'))) :
    DeletesListed (fun _ => onPrem.manager env server) names
        (run (fun _ => onPrem.manager env server) calls s).2 true [] ∧
      DeletesListed (fun choice => managed.manager (service choice)) names'
        (run (fun choice => managed.manager (service choice)) calls s').2 false
        (names' (run (fun choice => managed.manager (service choice)) calls s').2) := by
  constructor
  · refine onPrem_deletesListed hserver onPrem env ?_
    rw [(onPrem_run hserver onPrem env calls s).2]
    exact nodup_run calls hs
  · refine managed_deletesListed hservice managed ?_
    rw [(managed_run hservice managed calls s').2.names]
    exact shortNames_run hcalls hs'

theorem deletesListed_twoStreams :
    DeletesListed (fun _ => localManager.manager localEnv nameServer) id ["a", "b"] true [] ∧
      DeletesListed (fun choice => clusterManager.manager (resourceService choice)) Prod.fst
        (run (fun choice => clusterManager.manager (resourceService choice)) twoStreams
          ([], [])).2 false
        [key clusterManager.parent "a", key clusterManager.parent "b"] := by
  have hcalls : ∀ c ∈ twoStreams, c.1.Short := by
    simp [twoStreams, Call.Short, named]
  have hshort : ShortNames (namesOf clusterManager.parent
      (Prod.fst (([], []) : List String × List Started))) := by
    simp [ShortNames, namesOf]
  have honPrem : (run (fun _ => localManager.manager localEnv nameServer) twoStreams []).2 =
      ["a", "b"] := by decide +kernel
  have hmanaged : (run (fun choice => clusterManager.manager (resourceService choice)) twoStreams
      ([], [])).2.1 =
        [key clusterManager.parent "a", key clusterManager.parent "b"] := by decide +kernel
  have h := deletesListed_of_run servesNames_nameServer servesResources_resourceService localManager
    localEnv clusterManager hcalls (s := []) List.nodup_nil hshort
  rw [honPrem, hmanaged] at h
  exact h

end StreamManagers

end AIStreams
