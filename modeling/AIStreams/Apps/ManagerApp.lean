import AIStreams.Base.StreamManagers
import AIStreams.Cli.Commands

/-!
# The manager app

`aistreams/python/apps/manager_app.cc`: which request each of its operations makes of which manager,
and what the management commands of the command line tool come to.  That no manager can be made is
only logged.

* `parse_argv`: the flags of a management command.
* `asks_iff`: when the request is the one that the command means.
-/

namespace AIStreams.ManagerApp

open Cli (Management abslFlags valueIn kManagementAppName parseFlag parseBool parseInt)
open StreamManagers (Stream StreamManagerConfig)
open ClusterNames (ClusterManagerConfig)

/-! ### The flags -/

inductive Operation
  | kCreateStream
  | kListStreams
  | kDeleteStream
  | kCreateCluster
  | kListClusters
  | kDeleteCluster
  | kGetCluster
  deriving DecidableEq

structure Flags where
  targetAddress : String := ""
  streamName : String := ""
  useInsecureChannel : Bool := true
  sslRootCertPath : String := ""
  sslDomainName : String := "aistreams.googleapis.com"
  opId : ℤ := -1
  useGoogleManagedService : Bool := true
  project : String := ""
  location : String := "us-central1"
  clusterName : String := ""
  streamRetentionSeconds : ℤ := 86400

/-- `absl::ParseCommandLine`: a flag that is not known, or cannot be parsed, ends the program. -/
def parseCommandLine (argv : List (List Char)) : Option Flags := do
  guard (argv.tail.all fun arg =>
    (abslFlags kManagementAppName).any fun name => (valueIn name arg).isSome)
  let targetAddress ← parseFlag some "target_address" "" argv
  let streamName ← parseFlag some "stream_name" "" argv
  let useInsecureChannel ← parseFlag parseBool "use_insecure_channel" true argv
  let sslRootCertPath ← parseFlag some "ssl_root_cert_path" "" argv
  let sslDomainName ← parseFlag some "ssl_domain_name" "aistreams.googleapis.com" argv
  let opId ← parseFlag parseInt "op_id" (-1) argv
  let useGoogleManagedService ← parseFlag parseBool "use_google_managed_service" true argv
  let project ← parseFlag some "project" "" argv
  let location ← parseFlag some "location" "us-central1" argv
  let clusterName ← parseFlag some "cluster_name" "" argv
  let streamRetentionSeconds ← parseFlag parseInt "stream_retention_seconds" 86400 argv
  some
    { targetAddress := targetAddress
      streamName := streamName
      useInsecureChannel := useInsecureChannel
      sslRootCertPath := sslRootCertPath
      sslDomainName := sslDomainName
      opId := opId
      useGoogleManagedService := useGoogleManagedService
      project := project
      location := location
      clusterName := clusterName
      streamRetentionSeconds := streamRetentionSeconds }

/-! ### The operations -/

/-- What is asked of a manager. -/
inductive Request
  | createStream (config : StreamManagerConfig) (stream : Stream)
  | listStreams (config : StreamManagerConfig)
  | deleteStream (config : StreamManagerConfig) (streamName : String)
  | createCluster (config : ClusterManagerConfig) (clusterName : String)
  | listClusters (config : ClusterManagerConfig)
  | deleteCluster (config : ClusterManagerConfig) (clusterName : String)
  | getCluster (config : ClusterManagerConfig) (clusterName : String)

/-- Whether the factories make a manager. -/
structure Env where
  createStreamManager : StreamManagerConfig → Bool
  createClusterManager : ClusterManagerConfig → Bool

section Operations

variable (env : Env) (flags : Flags)

/-- The configuration that `CreateStreamManager` gives to the factory, if it comes to that. -/
def streamManagerConfig : Option StreamManagerConfig :=
  if flags.targetAddress = "" then none
  else if flags.useGoogleManagedService = false then
    some (.onPrem
      { targetAddress := flags.targetAddress
        useInsecureChannel := flags.useInsecureChannel
        sslRootCertPath := flags.sslRootCertPath
        sslDomainName := flags.sslDomainName
        waitForReady := true
        timeout := ⟨9223372036854775807, 0⟩ })
  else if flags.project = "" then none
  else if flags.location = "" then none
  else if flags.clusterName = "" then none
  else
    some (.managed
      { targetAddress := flags.targetAddress
        project := flags.project
        location := flags.location
        cluster := flags.clusterName })

/-- `CreateStreamManager`. -/
def createStreamManager : Option StreamManagerConfig :=
  (streamManagerConfig flags).filter env.createStreamManager

def createStream : Option Request :=
  (createStreamManager env flags).bind fun config =>
    if flags.streamName = "" then none
    else
      some (.createStream config
        ⟨flags.streamName, ⟨Int64.ofInt flags.streamRetentionSeconds, 0⟩⟩)

def listStreams : Option Request := (createStreamManager env flags).map .listStreams

def deleteStream : Option Request :=
  (createStreamManager env flags).bind fun config =>
    if flags.streamName = "" then none else some (.deleteStream config flags.streamName)

/-- The configuration that `CreateClusterManager` gives to the factory, if it comes to that. -/
def clusterManagerConfig : Option ClusterManagerConfig :=
  if flags.useGoogleManagedService = false then none
  else if flags.targetAddress = "" then none
  else if flags.project = "" then none
  else if flags.location = "" then none
  else some ⟨flags.targetAddress, flags.project, flags.location⟩

/-- `CreateClusterManager`. -/
def createClusterManager : Option ClusterManagerConfig :=
  (clusterManagerConfig flags).filter env.createClusterManager

/-- The operations on one cluster. -/
def onCluster (request : ClusterManagerConfig → String → Request) : Option Request :=
  (createClusterManager env flags).bind fun config =>
    if flags.clusterName = "" then none else some (request config flags.clusterName)

def createCluster : Option Request := onCluster env flags .createCluster

def listClusters : Option Request := (createClusterManager env flags).map .listClusters

def deleteCluster : Option Request := onCluster env flags .deleteCluster

def getCluster : Option Request := onCluster env flags .getCluster

/-- The operation of an id, if there is one. -/
def Operation.ofId : ℤ → Option Operation
  | 0 => some kCreateStream
  | 1 => some kListStreams
  | 2 => some kDeleteStream
  | 3 => some kCreateCluster
  | 4 => some kListClusters
  | 5 => some kDeleteCluster
  | 6 => some kGetCluster
  | _ => none

/-- The registry of `main`. -/
def registry : Operation → Option Request
  | .kCreateStream => createStream env flags
  | .kListStreams => listStreams env flags
  | .kDeleteStream => deleteStream env flags
  | .kCreateCluster => createCluster env flags
  | .kListClusters => listClusters env flags
  | .kDeleteCluster => deleteCluster env flags
  | .kGetCluster => getCluster env flags

/-- `main`, after the flags are parsed. -/
def dispatch : Option Request := (Operation.ofId flags.opId).bind (registry env flags)

end Operations

def main (env : Env) (argv : List (List Char)) : Option Request :=
  (parseCommandLine argv).bind (dispatch env)

/-! ### What the commands mean -/

/-- The server on premises that a command is about. -/
def onpremConfig (ctx : Cli.OnpremStream.Context) : StreamManagerConfig :=
  .onPrem
    { targetAddress := ctx.targetAddress.getD ""
      useInsecureChannel := ctx.useInsecureChannel
      sslDomainName := ctx.sslDomainName
      sslRootCertPath := ctx.sslRootCertPath.getD ""
      timeout := ⟨9223372036854775807, 0⟩
      waitForReady := true }

/-- The cluster whose streams a command is about. -/
def managedConfig (ctx : Cli.ManagedStream.Context) : StreamManagerConfig :=
  .managed ⟨ctx.serviceAddress, ctx.projectId, ctx.region, ctx.clusterName⟩

/-- The request that a command stands for.  Clusters are listed in the default region, and streams
of the managed service are kept for a day. -/
def request : Management → Request
  | .createCluster ctx clusterName region =>
    .createCluster ⟨ctx.serviceAddress, ctx.projectId, region⟩ clusterName
  | .deleteCluster ctx clusterName region =>
    .deleteCluster ⟨ctx.serviceAddress, ctx.projectId, region⟩ clusterName
  | .listClusters ctx => .listClusters ⟨ctx.serviceAddress, ctx.projectId, "us-central1"⟩
  | .createManagedStream ctx streamName =>
    .createStream (managedConfig ctx) ⟨streamName, ⟨86400, 0⟩⟩
  | .deleteManagedStream ctx streamName => .deleteStream (managedConfig ctx) streamName
  | .listManagedStreams ctx => .listStreams (managedConfig ctx)
  | .createOnpremStream ctx streamName streamRetentionSeconds =>
    .createStream (onpremConfig ctx) ⟨streamName, ⟨Int64.ofInt streamRetentionSeconds, 0⟩⟩
  | .deleteOnpremStream ctx streamName => .deleteStream (onpremConfig ctx) streamName
  | .listOnpremStreams ctx => .listStreams (onpremConfig ctx)

/-- The managers for which nothing that they need is empty, and which can be made. -/
def Env.servesStreams (env : Env) (config : StreamManagerConfig) : Bool :=
  env.createStreamManager config &&
    match config with
    | .notSet => false
    | .onPrem config => config.targetAddress != ""
    | .managed config =>
      config.targetAddress != "" && config.project != "" && config.location != "" &&
        config.cluster != ""

def Env.servesClusters (env : Env) (config : ClusterManagerConfig) : Bool :=
  env.createClusterManager config && config.targetAddress != "" && config.project != "" &&
    config.location != ""

/-- There is a manager for the request, and a name where one is needed. -/
def Request.served (env : Env) : Request → Bool
  | .createStream config stream => env.servesStreams config && stream.name != ""
  | .listStreams config => env.servesStreams config
  | .deleteStream config streamName => env.servesStreams config && streamName != ""
  | .createCluster config clusterName => env.servesClusters config && clusterName != ""
  | .listClusters config => env.servesClusters config
  | .deleteCluster config clusterName => env.servesClusters config && clusterName != ""
  | .getCluster config clusterName => env.servesClusters config && clusterName != ""

/-- The retention that a command is given. -/
def retentionOf : Management → ℤ
  | .createOnpremStream _ _ streamRetentionSeconds => streamRetentionSeconds
  | _ => 86400

/-- What the app should ask for a command: its request, if it can be served, and nothing for a
retention that is no `int`. -/
def meant (env : Env) (command : Management) : Option Request :=
  if (-2147483648 ≤ retentionOf command ∧ retentionOf command ≤ 2147483647) ∧
      (request command).served env = true then
    some (request command)
  else none

/-! ### What the app makes of a command -/

/-- The flags that a command gives to the app. -/
def flagsOf : Management → Flags
  | .createCluster ctx clusterName region =>
    { opId := 3, targetAddress := ctx.serviceAddress, project := ctx.projectId
      clusterName := clusterName, location := region }
  | .deleteCluster ctx clusterName region =>
    { opId := 5, targetAddress := ctx.serviceAddress, project := ctx.projectId
      clusterName := clusterName, location := region }
  | .listClusters ctx =>
    { opId := 4, targetAddress := ctx.serviceAddress, project := ctx.projectId }
  | .createManagedStream ctx streamName =>
    { opId := 0, targetAddress := ctx.serviceAddress, project := ctx.projectId
      clusterName := ctx.clusterName, location := ctx.region, streamName := streamName }
  | .deleteManagedStream ctx streamName =>
    { opId := 2, targetAddress := ctx.serviceAddress, project := ctx.projectId
      clusterName := ctx.clusterName, location := ctx.region, streamName := streamName }
  | .listManagedStreams ctx =>
    { opId := 1, targetAddress := ctx.serviceAddress, project := ctx.projectId
      clusterName := ctx.clusterName, location := ctx.region }
  | .createOnpremStream ctx streamName _ =>
    { onprem ctx with opId := 0, streamName := streamName }
  | .deleteOnpremStream ctx streamName =>
    { onprem ctx with opId := 2, streamName := streamName }
  | .listOnpremStreams ctx => { onprem ctx with opId := 1 }
where
  onprem (ctx : Cli.OnpremStream.Context) : Flags :=
    { targetAddress := ctx.targetAddress.getD ""
      sslRootCertPath := ctx.sslRootCertPath.getD ""
      sslDomainName := ctx.sslDomainName
      useInsecureChannel := ctx.useInsecureChannel
      useGoogleManagedService := false }

theorem parse_argv (dir : String) (command : Management) :
    parseCommandLine (command.invocation.argv dir) = some (flagsOf command) := by
  have hknown := Cli.known_argv dir (.manage command)
  have happ : (Cli.Command.manage command).invocation.app = kManagementAppName := by
    cases command <;> rfl
  rw [happ] at hknown
  have hflag := fun {α : Type} (parse : String → Option α) {name : String}
    (hname : '=' ∉ name.toList) (default : α) =>
      Cli.parseFlag_argv parse hname default dir (.manage command)
  rw [show (Cli.Command.manage command).invocation = command.invocation from rfl] at hflag hknown
  have hopId : parseInt (Int.repr 0) = some 0 ∧ parseInt (Int.repr 1) = some 1 ∧
      parseInt (Int.repr 2) = some 2 ∧ parseInt (Int.repr 3) = some 3 ∧
      parseInt (Int.repr 4) = some 4 ∧ parseInt (Int.repr 5) = some 5 :=
    ⟨Cli.parseInt_toString (i := 0) (by decide), Cli.parseInt_toString (i := 1) (by decide),
      Cli.parseInt_toString (i := 2) (by decide), Cli.parseInt_toString (i := 3) (by decide),
      Cli.parseInt_toString (i := 4) (by decide), Cli.parseInt_toString (i := 5) (by decide)⟩
  unfold parseCommandLine
  simp only [hknown, guard]
  cases command <;> simp (disch := decide) only [hflag] <;>
    simp [Management.invocation, Cli.ManagedCluster.execManagerApp,
      Cli.ManagedStream.execManagerApp, Cli.OnpremStream.execManagerApp, Cli.given,
      List.lookup_cons, Cli.Inserted.value, Cli.parse_toCppBoolString, hopId, flagsOf,
      flagsOf.onprem]

/-- The command as the app gets it: without a retention of its own. -/
def unretained : Management → Management
  | .createOnpremStream ctx streamName _ => .createOnpremStream ctx streamName
  | command => command

section Served

variable (env : Env)

theorem createStreamManager_onprem (ctx : Cli.OnpremStream.Context) :
    createStreamManager env (flagsOf.onprem ctx) =
      if env.servesStreams (onpremConfig ctx) = true then some (onpremConfig ctx) else none := by
  unfold createStreamManager streamManagerConfig Env.servesStreams onpremConfig flagsOf.onprem
  by_cases haddress : ctx.targetAddress.getD "" = ""
  · simp [haddress]
  · simp [haddress, Option.filter]

theorem createStreamManager_managed (ctx : Cli.ManagedStream.Context) :
    createStreamManager env (flagsOf (.listManagedStreams ctx)) =
      if env.servesStreams (managedConfig ctx) = true then some (managedConfig ctx) else none := by
  unfold createStreamManager streamManagerConfig Env.servesStreams managedConfig flagsOf
  by_cases haddress : ctx.serviceAddress = ""
  · simp [haddress]
  · by_cases hproject : ctx.projectId = ""
    · simp [haddress, hproject]
    · by_cases hregion : ctx.region = ""
      · simp [haddress, hproject, hregion]
      · by_cases hcluster : ctx.clusterName = ""
        · simp [haddress, hproject, hregion, hcluster]
        · simp [haddress, hproject, hregion, hcluster, Option.filter]

theorem createClusterManager_eq (flags : Flags) (h : flags.useGoogleManagedService = true) :
    createClusterManager env flags =
      if env.servesClusters ⟨flags.targetAddress, flags.project, flags.location⟩ = true then
        some ⟨flags.targetAddress, flags.project, flags.location⟩
      else none := by
  unfold createClusterManager clusterManagerConfig Env.servesClusters
  by_cases haddress : flags.targetAddress = ""
  · simp [h, haddress]
  · by_cases hproject : flags.project = ""
    · simp [h, haddress, hproject]
    · by_cases hlocation : flags.location = ""
      · simp [h, haddress, hproject, hlocation]
      · simp [h, haddress, hproject, hlocation, Option.filter]

/-- A request that needs a name. -/
theorem bind_named {C : Type} (serves : Bool) (config : C) (name : String) (r : C → Request) :
    ((if serves = true then some config else none).bind fun config =>
        if name = "" then none else some (r config)) =
      if (serves && name != "") = true then some (r config) else none := by
  cases serves <;> by_cases hname : name = "" <;> simp [hname]

/-- One that needs none. -/
theorem map_served {C : Type} (serves : Bool) (config : C) (r : C → Request) :
    (if serves = true then some config else none).map r =
      if serves = true then some (r config) else none := by
  cases serves <;> rfl

/-- **What the app asks for the flags of a command**: the request that it stands for, without a
retention of its own. -/
theorem dispatch_flagsOf (command : Management) : dispatch env (flagsOf command) =
    if (request (unretained command)).served env = true then some (request (unretained command))
    else none := by
  cases command with
  | createCluster ctx clusterName region =>
    show onCluster env _ .createCluster = _
    rw [onCluster, createClusterManager_eq env _ rfl]
    exact bind_named _ _ _ fun config => .createCluster config clusterName
  | deleteCluster ctx clusterName region =>
    show onCluster env _ .deleteCluster = _
    rw [onCluster, createClusterManager_eq env _ rfl]
    exact bind_named _ _ _ fun config => .deleteCluster config clusterName
  | listClusters ctx =>
    show (createClusterManager env _).map Request.listClusters = _
    rw [createClusterManager_eq env _ rfl]
    exact map_served _ _ .listClusters
  | createManagedStream ctx streamName =>
    show (createStreamManager env (flagsOf (.listManagedStreams ctx))).bind _ = _
    rw [createStreamManager_managed]
    exact bind_named _ _ _ fun config => .createStream config ⟨streamName, ⟨86400, 0⟩⟩
  | deleteManagedStream ctx streamName =>
    show (createStreamManager env (flagsOf (.listManagedStreams ctx))).bind _ = _
    rw [createStreamManager_managed]
    exact bind_named _ _ _ fun config => .deleteStream config streamName
  | listManagedStreams ctx =>
    show (createStreamManager env (flagsOf (.listManagedStreams ctx))).map _ = _
    rw [createStreamManager_managed]
    exact map_served _ _ .listStreams
  | createOnpremStream ctx streamName streamRetentionSeconds =>
    show (createStreamManager env (flagsOf.onprem ctx)).bind _ = _
    rw [createStreamManager_onprem]
    exact bind_named _ _ _ fun config => .createStream config ⟨streamName, ⟨86400, 0⟩⟩
  | deleteOnpremStream ctx streamName =>
    show (createStreamManager env (flagsOf.onprem ctx)).bind _ = _
    rw [createStreamManager_onprem]
    exact bind_named _ _ _ fun config => .deleteStream config streamName
  | listOnpremStreams ctx =>
    show (createStreamManager env (flagsOf.onprem ctx)).map _ = _
    rw [createStreamManager_onprem]
    exact map_served _ _ .listStreams

theorem served_unretained (command : Management) :
    (request (unretained command)).served env = (request command).served env := by
  cases command <;> rfl

end Served

theorem ofInt_retention {r r' : ℤ} (h : -2147483648 ≤ r ∧ r ≤ 2147483647)
    (h' : -2147483648 ≤ r' ∧ r' ≤ 2147483647) (heq : Int64.ofInt r = Int64.ofInt r') : r = r' := by
  have hr := Int64.toInt_ofInt_of_le (n := r) (by omega) (by omega)
  have hr' := Int64.toInt_ofInt_of_le (n := r') (by omega) (by omega)
  rw [← hr, ← hr', heq]

/-- The retention is what the requests of a command and of the one that the app gets differ in. -/
theorem request_unretained_iff {command : Management}
    (h : -2147483648 ≤ retentionOf command ∧ retentionOf command ≤ 2147483647) :
    request (unretained command) = request command ↔ retentionOf command = 86400 := by
  cases command with
  | createOnpremStream ctx streamName r =>
    constructor
    · intro heq
      simp only [unretained, request, Request.createStream.injEq, Stream.mk.injEq,
        ProtoDuration.mk.injEq, true_and, and_true] at heq
      exact (ofInt_retention (by decide) h heq).symm
    · intro hr
      rw [show r = 86400 from hr]
      rfl
  | _ => exact ⟨fun _ => rfl, fun _ => rfl⟩

/-- **When the app asks what a command means**: its path is plain and its options survive, and so it
does, unless the command creates a stream on premises with a retention of its own, which is lost,
and there is a manager to be asked. -/
theorem asks_iff (env : Env) {dir : String} (hdir : ∀ c ∈ dir.toList, Shlex.isPlain c = true)
    (command : Management) (hflags : ∀ f ∈ command.invocation.flags, f.2.Survives) :
    (command.invocation.exec dir).bind (main env) = meant env command ↔
      retentionOf command = 86400 ∨ (request command).served env = false := by
  have hexec := Cli.exec_of_survives hdir (Cli.wellNamed_invocation (.manage command)) hflags
  have hmain : (command.invocation.exec dir).bind (main env) = dispatch env (flagsOf command) := by
    rw [show command.invocation.exec dir = some (command.invocation.argv dir) from hexec,
      Option.bind_some, main, parse_argv, Option.bind_some]
  rw [hmain, dispatch_flagsOf, served_unretained, meant]
  cases hserved : (request command).served env with
  | false => simp
  | true =>
    by_cases hrange : -2147483648 ≤ retentionOf command ∧ retentionOf command ≤ 2147483647
    · simp only [hrange, if_true, and_self, Option.some.injEq, Bool.true_eq_false, or_false]
      exact request_unretained_iff hrange
    · have hne : retentionOf command ≠ 86400 := by
        intro hr
        rw [hr] at hrange
        exact hrange (by decide)
      simp [hrange, hne]

def willing : Env := ⟨fun _ => true, fun _ => true⟩

def localContext : Cli.OnpremStream.Context := { targetAddress := some "localhost:50051" }

/-- A stream that is to be kept for some time. -/
def keptFor (streamRetentionSeconds : ℤ) : Management :=
  .createOnpremStream localContext "stream" streamRetentionSeconds

theorem survives_keptFor (streamRetentionSeconds : ℤ) :
    ∀ f ∈ (keptFor streamRetentionSeconds).invocation.flags, f.2.Survives := by
  have hdomain := Cli.survives_of_all (s := "aistreams.googleapis.com") (by decide +kernel)
  have haddress := Cli.survives_of_all (s := "localhost:50051") (by decide +kernel)
  have hstream := Cli.survives_of_all (s := "stream") (by decide +kernel)
  simp only [keptFor, localContext, Management.invocation, Cli.OnpremStream.execManagerApp,
    Cli.given, List.cons_append, List.nil_append, List.forall_mem_cons, Cli.Inserted.Survives,
    hdomain, haddress, hstream, true_and]
  intro f hf
  cases hf

/-- An hour is lost, and a day is what the app asks for. -/
theorem asks_iff_hourly :
    ((keptFor 3600).invocation.exec "usr/lib/apps").bind (main willing) ≠
        meant willing (keptFor 3600) ∧
      ((keptFor 86400).invocation.exec "usr/lib/apps").bind (main willing) =
        some (.createStream (onpremConfig localContext) ⟨"stream", ⟨86400, 0⟩⟩) := by
  have hdir : ∀ c ∈ "usr/lib/apps".toList, Shlex.isPlain c = true :=
    List.all_eq_true.mp (by decide)
  constructor
  · intro h
    rcases (asks_iff willing hdir _ (survives_keptFor 3600)).mp h with hretention | hserved
    · exact absurd hretention (by decide)
    · exact absurd hserved (by decide +kernel)
  · rw [(asks_iff willing hdir _ (survives_keptFor 86400)).mpr (Or.inl rfl), meant,
      if_pos (by decide +kernel)]
    rfl

end AIStreams.ManagerApp
