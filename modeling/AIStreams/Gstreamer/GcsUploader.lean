import AIStreams.Gstreamer.LocalVideoSaver
import AIStreams.Util.FilePath

/-!
# The uploader, and what the saver sends it

`GcsUploader` of `aistreams/gstreamer/gstreamer_video_exporter.cc`.  The storage client is
asked call by call; an error of its own is only a message.

* `uploads_popped`: the uploader attempts the paths that it was sent, and no others.
* `complete_iff`: every path is uploaded exactly if no upload fails; a path that was popped is
  attempted once.
* `forwardsWrittenFiles_iff`: when saver and uploader keep to files that were written.
-/

namespace AIStreams

namespace GcsUploader

/-! ### The program -/

structure Options where
  doWork : Bool
  gcsBucketName : String
  gcsObjectDir : String
  keepLocal : Bool

structure Worker where
  name : String
  options : Options
  inChannel : Option Channel

/-- The message of the error, if there is one, of the `n`-th `CreateDefaultClient` and the
`n`-th `UploadFile`. -/
structure Env where
  createDefaultClient : ℕ → Option String
  uploadFile : ℕ → Option String

/-- The arguments of `UploadFile`. -/
structure Upload where
  filePath : String
  bucketName : String
  objectName : String

structure State where
  outcome : Outcome
  clients : ℕ
  uploads : List Upload
  removed : List String

def initial : State := ⟨.running, 0, [], []⟩

def validatePreconditions (w : Worker) : Status :=
  if w.options.gcsBucketName = "" then
    invalidArgumentError (w.name ++ ": You must supply a non-empty GCS bucket name.")
  else
    match w.inChannel with
    | none =>
      failedPreconditionError (w.name ++ ": No input channel found; please Attach() one.")
    | some input =>
      if input.hasSrc = false then
        internalError (w.name ++ ": The input channel has no source.")
      else okStatus

def generateGcsObjectName (options : Options) (filePath : String) : String :=
  let fileName := basename filePath
  if options.gcsObjectDir = "" then fileName
  else if options.gcsObjectDir.toList.getLast? = some '/' then options.gcsObjectDir ++ fileName
  else options.gcsObjectDir ++ "/" ++ fileName

section Program

variable (env : Env) (w : Worker)

/-- The outer loop: a new client. -/
def connect (s : State) : State :=
  let s' := { s with clients := s.clients + 1 }
  match env.createDefaultClient s.clients with
  | some message =>
    { s' with
      outcome :=
        .returned (unknownError (w.name ++ ": Failed to create a GCS Client: " ++ message)) }
  | none => s'

/-- What the inner loop does with a value of `file_path_statusor`. -/
def receive (v : StatusOr String) (s : State) : State :=
  if v.status.code = .kNotFound then { s with outcome := .returned okStatus }
  else
    match v.valueOrDie with
    | .error e => { s with outcome := .crashed e }
    | .ok filePath =>
      let upload : Upload :=
        ⟨filePath, w.options.gcsBucketName, generateGcsObjectName w.options filePath⟩
      let s' := { s with uploads := s.uploads ++ [upload] }
      match env.uploadFile s.uploads.length with
      | some _ => connect env w s'
      | none =>
        if w.options.keepLocal then s' else { s' with removed := s'.removed ++ [filePath] }

/-- What a source that has completed counts as. -/
def srcCompletedValue : StatusOr String :=
  .ofStatus (notFoundError
    (w.name ++ ": The file path source completed but the EOS was not delivered."))

def poll (p : Poll String) (s : State) : State :=
  if s.outcome = .running then
    match p with
    | .popped v => receive env w v s
    | .timedOut true => receive env w (srcCompletedValue w) s
    | .timedOut false => s
  else s

def run (polls : List (Poll String)) (s : State) : State :=
  polls.foldl (fun s p => poll env w p s) s

def workImpl (polls : List (Poll String)) : State :=
  if w.options.doWork = false then { initial with outcome := .returned okStatus }
  else if (validatePreconditions w).ok = false then
    { initial with outcome := .returned (validatePreconditions w) }
  else run env w polls (connect env w initial)

end Program

/-! ### What is uploaded -/

section Uploads

variable (env : Env) (w : Worker)

theorem connect_uploads (s : State) : (connect env w s).uploads = s.uploads := by
  unfold connect
  simp only
  split
  · rfl
  · rfl

/-- One turn of the receive loop takes a value, or changes nothing. -/
theorem poll_popped {s : State} (h : s.outcome = .running) (v : StatusOr String) :
    poll env w (.popped v) s = receive env w v s := if_pos h

theorem poll_completed {s : State} (h : s.outcome = .running) :
    poll env w (.timedOut true) s = receive env w (srcCompletedValue w) s := if_pos h

theorem poll_waiting (s : State) : poll env w (.timedOut false) s = s := ite_self s

theorem poll_of_over (p : Poll String) {s : State} (h : s.outcome ≠ .running) :
    poll env w p s = s := if_neg h

/-- What every value keeps, every run keeps. -/
theorem run_of_receive {I : State → Prop} (h : ∀ v s, I s → I (receive env w v s))
    (polls : List (Poll String)) {s : State} (hs : I s) : I (run env w polls s) := by
  induction polls generalizing s with
  | nil => exact hs
  | cons p polls ih =>
    refine ih (s := poll env w p s) ?_
    by_cases hrun : s.outcome = .running
    · cases p with
      | popped v =>
        rw [poll_popped env w hrun]
        exact h v s hs
      | timedOut completed =>
        cases completed with
        | true =>
          rw [poll_completed env w hrun]
          exact h _ s hs
        | false =>
          rw [poll_waiting]
          exact hs
    · rw [poll_of_over env w p hrun]
      exact hs

/-- A value makes the uploader attempt its own path, or nothing. -/
theorem receive_uploads (v : StatusOr String) (s : State) :
    ∀ u ∈ (receive env w v s).uploads, u ∈ s.uploads ∨ v = .value u.filePath := by
  unfold receive
  split
  · exact fun u hu => Or.inl hu
  · cases v with
    | error status hs => exact fun u hu => Or.inl hu
    | value filePath =>
      have happend : ∀ u ∈ s.uploads ++ [(⟨filePath, w.options.gcsBucketName,
          generateGcsObjectName w.options filePath⟩ : Upload)],
          u ∈ s.uploads ∨ StatusOr.value filePath = .value u.filePath := by
        intro u hu
        rcases List.mem_append.mp hu with hu | hu
        · exact Or.inl hu
        · rw [List.mem_singleton.mp hu]
          exact Or.inr rfl
      simp only [StatusOr.valueOrDie]
      split
      · rw [connect_uploads]
        exact happend
      · split
        · exact happend
        · exact happend

theorem poll_uploads (p : Poll String) (s : State) :
    ∀ u ∈ (poll env w p s).uploads, u ∈ s.uploads ∨ .value u.filePath ∈ pollValues [p] := by
  intro u hu
  by_cases hrun : s.outcome = .running
  · cases p with
    | timedOut completed =>
      cases completed with
      | false =>
        rw [poll_waiting] at hu
        exact Or.inl hu
      | true =>
        rw [poll_completed env w hrun] at hu
        rcases receive_uploads env w _ s u hu with h | h
        · exact Or.inl h
        · exact absurd h (StatusOr.ofStatus_ne_value _ _)
    | popped v =>
      rw [poll_popped env w hrun] at hu
      rcases receive_uploads env w v s u hu with h | h
      · exact Or.inl h
      · rw [← h]
        exact Or.inr List.mem_cons_self
  · rw [poll_of_over env w p hrun] at hu
    exact Or.inl hu

theorem run_uploads (polls : List (Poll String)) (s : State) :
    ∀ u ∈ (run env w polls s).uploads, u ∈ s.uploads ∨ .value u.filePath ∈ pollValues polls := by
  induction polls generalizing s with
  | nil => exact fun u hu => Or.inl hu
  | cons p polls ih =>
    intro u hu
    have hsplit : pollValues (p :: polls) = pollValues [p] ++ pollValues polls :=
      List.filterMap_append (l := [p])
    rw [hsplit]
    rcases ih (poll env w p s) u hu with h | h
    · rcases poll_uploads env w p s u h with h | h
      · exact Or.inl h
      · exact Or.inr (List.mem_append_left _ h)
    · exact Or.inr (List.mem_append_right _ h)

/-- **The uploader attempts only paths that it was sent.** -/
theorem uploads_popped (polls : List (Poll String)) :
    ∀ u ∈ (workImpl env w polls).uploads, .value u.filePath ∈ pollValues polls := by
  intro u hu
  unfold workImpl at hu
  split at hu
  · cases hu
  · split at hu
    · cases hu
    · rcases run_uploads env w polls _ u hu with h | h
      · rw [connect_uploads] at h
        cases h
      · exact h

end Uploads

/-! ### What is uploaded with success -/

/-- The paths of the attempts that succeeded, in their order. -/
def uploaded (env : Env) (s : State) : List String :=
  (s.uploads.zipIdx.filter fun u => (env.uploadFile u.2).isNone).map fun u => u.1.filePath

/-- The attempt for a path. -/
def attempt (w : Worker) (filePath : String) : Upload :=
  ⟨filePath, w.options.gcsBucketName, generateGcsObjectName w.options filePath⟩

/-- A file is removed, if files are not kept, when it has been uploaded. -/
def RemovesUploaded (env : Env) (w : Worker) (s : State) : Prop :=
  s.removed = if w.options.keepLocal then [] else uploaded env s

section Uploaded

variable (env : Env) (w : Worker)

theorem uploaded_attempt (s s' : State) {filePath : String}
    (h : s'.uploads = s.uploads ++ [attempt w filePath]) :
    uploaded env s' = uploaded env s ++
      if (env.uploadFile s.uploads.length).isNone then [filePath] else [] := by
  rw [uploaded, uploaded, h, List.zipIdx_append, List.filter_append, List.map_append]
  congr 1
  rw [List.zipIdx_singleton, Nat.zero_add, List.filter_cons, List.filter_nil]
  by_cases hok : (env.uploadFile s.uploads.length).isNone = true
  · rw [if_pos hok, if_pos hok]
    rfl
  · rw [if_neg hok, if_neg hok]
    rfl

theorem connect_removesUploaded {s : State} (h : RemovesUploaded env w s) :
    RemovesUploaded env w (connect env w s) := by
  rw [connect]
  cases env.createDefaultClient s.clients with
  | none => exact h
  | some message => exact h

/-- What a path does: an attempt, and then a removal or a new client. -/
theorem receive_value (filePath : String) (s : State) :
    receive env w (.value filePath) s =
      let s' := { s with uploads := s.uploads ++ [attempt w filePath] }
      match env.uploadFile s.uploads.length with
      | some _ => connect env w s'
      | none =>
        if w.options.keepLocal then s' else { s' with removed := s'.removed ++ [filePath] } := by
  rw [receive, if_neg (by simp [StatusOr.status])]
  rfl

theorem receive_removesUploaded (v : StatusOr String) {s : State} (h : RemovesUploaded env w s) :
    RemovesUploaded env w (receive env w v s) := by
  cases v with
  | error status hs =>
    rw [receive]
    split
    · exact h
    · exact h
  | value filePath =>
    have happend := uploaded_attempt env w s
      { s with uploads := s.uploads ++ [attempt w filePath] } rfl
    rw [receive_value]
    cases hupload : env.uploadFile s.uploads.length with
    | some message =>
      rw [hupload, Option.isNone_some, if_neg Bool.false_ne_true, List.append_nil] at happend
      refine connect_removesUploaded env w ?_
      rw [RemovesUploaded, happend]
      exact h
    | none =>
      rw [hupload, Option.isNone_none, if_pos rfl] at happend
      rw [RemovesUploaded] at h
      simp only
      by_cases hkeep : w.options.keepLocal = true
      · rw [if_pos hkeep] at h ⊢
        rw [RemovesUploaded, if_pos hkeep]
        exact h
      · rw [if_neg hkeep] at h ⊢
        rw [RemovesUploaded, if_neg hkeep]
        show s.removed ++ [filePath] = _
        rw [h]
        exact happend.symm

/-- **A file is removed only after its own upload**, in every run. -/
theorem workImpl_removesUploaded (polls : List (Poll String)) :
    RemovesUploaded env w (workImpl env w polls) := by
  have hinit : RemovesUploaded env w initial := by
    rw [RemovesUploaded]
    split
    · rfl
    · rfl
  rw [workImpl]
  split
  · exact hinit
  · split
    · exact hinit
    · exact run_of_receive env w (fun v _ h => receive_removesUploaded env w v h) polls
        (connect_removesUploaded env w hinit)

end Uploaded

/-! ### Whether every path is uploaded -/

/-- The uploader has attempted the paths, each once, and goes on. -/
structure Uploading (w : Worker) (paths : List String) (s : State) : Prop where
  running : s.outcome = .running
  uploads : s.uploads = paths.map (attempt w)

/-- **Uploads are complete**: the uploader returns OK only when the paths have been uploaded,
in order and once each, and at no time has it removed more than it has uploaded. -/
structure Complete (env : Env) (w : Worker) (paths : List String) (polls : List (Poll String)) :
    Prop where
  uploaded : (workImpl env w polls).outcome = .returned okStatus →
    uploaded env (workImpl env w polls) = paths
  removed : ∀ polls', polls' <+: polls →
    (workImpl env w polls').removed <+: GcsUploader.uploaded env (workImpl env w polls')

section Complete

variable {env : Env} {w : Worker} {paths : List String} {s : State}

theorem connect_running (hclient : ∀ n, env.createDefaultClient n = none) (s : State) :
    (connect env w s).outcome = s.outcome := by
  rw [connect, hclient]

/-- **A path is attempted once**, whether its upload fails or not. -/
theorem Uploading.receive (hclient : ∀ n, env.createDefaultClient n = none)
    (h : Uploading w paths s) (filePath : String) :
    Uploading w (paths ++ [filePath]) (receive env w (.value filePath) s) := by
  have huploads : s.uploads ++ [attempt w filePath] = (paths ++ [filePath]).map (attempt w) := by
    rw [h.uploads, List.map_append, List.map_singleton]
  rw [receive_value]
  cases env.uploadFile s.uploads.length with
  | some message =>
    refine ⟨?_, ?_⟩
    · rw [connect_running hclient]
      exact h.running
    · rw [connect_uploads]
      exact huploads
  | none =>
    simp only
    by_cases hkeep : w.options.keepLocal = true
    · rw [if_pos hkeep]
      exact ⟨h.running, huploads⟩
    · rw [if_neg hkeep]
      exact ⟨h.running, huploads⟩

/-- **The run lemma**: the uploader goes through the paths. -/
theorem Uploading.run (hclient : ∀ n, env.createDefaultClient n = none)
    {polls : List (Poll String)} (hsrc : .timedOut true ∉ polls) :
    ∀ {paths more : List String} {s : State}, Uploading w paths s →
      pollValues polls = more.map .value → Uploading w (paths ++ more) (run env w polls s) := by
  induction polls with
  | nil =>
    intro paths more s h hvalues
    obtain rfl : more = [] := List.map_eq_nil_iff.mp hvalues.symm
    rw [List.append_nil]
    exact h
  | cons p polls ih =>
    intro paths more s h hvalues
    have hsrc' : .timedOut true ∉ polls := fun hmem => hsrc (List.mem_cons_of_mem _ hmem)
    show Uploading w _ (GcsUploader.run env w polls (poll env w p s))
    cases p with
    | timedOut completed =>
      cases completed with
      | true => exact absurd List.mem_cons_self hsrc
      | false =>
        rw [poll_waiting]
        exact ih hsrc' h hvalues
    | popped v =>
      cases more with
      | nil => cases hvalues
      | cons filePath more =>
        rw [pollValues_popped, List.map_cons] at hvalues
        obtain ⟨rfl, hrest⟩ := List.cons.inj hvalues
        rw [poll_popped env w h.running, List.append_cons]
        exact ih hsrc' (h.receive hclient filePath) hrest

/-- An end of the stream makes the uploader return OK, with the attempts that it has made. -/
theorem Uploading.poll_ends (env : Env) (h : Uploading w paths s) {p : Poll String}
    (hends : p.Ends) :
    (poll env w p s).outcome = .returned okStatus ∧
      (poll env w p s).uploads = paths.map (attempt w) := by
  have hreceive : ∀ v : StatusOr String, v.status.code = .kNotFound →
      GcsUploader.receive env w v s = { s with outcome := .returned okStatus } := by
    intro v hv
    exact if_pos hv
  cases p with
  | popped v =>
    rw [poll_popped env w h.running, hreceive v hends]
    exact ⟨rfl, h.uploads⟩
  | timedOut completed =>
    obtain rfl : completed = true := hends
    rw [poll_completed env w h.running, hreceive (srcCompletedValue w) rfl]
    exact ⟨rfl, h.uploads⟩

theorem run_of_over (polls : List (Poll String)) {s : State} (h : s.outcome ≠ .running) :
    run env w polls s = s := by
  induction polls with
  | nil => rfl
  | cons p polls ih =>
    show run env w polls (poll env w p s) = s
    rw [poll_of_over env w p h, ih]

/-- A run over paths and the end of their stream returns OK, with one attempt for each. -/
theorem workImpl_ends (hwork : w.options.doWork = true)
    (hpre : (validatePreconditions w).ok = true)
    (hclient : ∀ n, env.createDefaultClient n = none) {before : List (Poll String)}
    (after : List (Poll String)) {p : Poll String} (hsrc : .timedOut true ∉ before)
    (hvalues : pollValues before = paths.map .value) (hends : p.Ends) :
    (workImpl env w (before ++ p :: after)).outcome = .returned okStatus ∧
      (workImpl env w (before ++ p :: after)).uploads = paths.map (attempt w) := by
  have hconnect : Uploading w [] (connect env w initial) := by
    refine ⟨?_, ?_⟩
    · rw [connect_running hclient]
      rfl
    · rw [connect_uploads]
      rfl
  have hrun : Uploading w paths (run env w before (connect env w initial)) :=
    hconnect.run hclient hsrc hvalues
  obtain ⟨houtcome, huploads⟩ := hrun.poll_ends env hends
  have hall : workImpl env w (before ++ p :: after) =
      run env w after (poll env w p (run env w before (connect env w initial))) := by
    rw [workImpl, if_neg (by simp [hwork]), if_neg (by simp [hpre]), run, List.foldl_append]
    rfl
  rw [hall, run_of_over after (by rw [houtcome]; exact fun h => nomatch h)]
  exact ⟨houtcome, huploads⟩

/-- With one attempt for each path, the paths are uploaded exactly if no attempt fails. -/
theorem uploaded_eq_iff (env : Env) (h : s.uploads = paths.map (attempt w)) :
    uploaded env s = paths ↔ ∀ n < paths.length, env.uploadFile n = none := by
  have huploaded : uploaded env s =
      (paths.zipIdx.filter fun u => (env.uploadFile u.2).isNone).map Prod.fst := by
    rw [uploaded, h, List.zipIdx_map, List.filter_map, List.map_map]
    rfl
  rw [huploaded]
  constructor
  · intro hpaths n hn
    have hlen := congrArg List.length hpaths
    rw [List.length_map, ← List.length_zipIdx (l := paths) (i := 0),
      List.length_filter_eq_length_iff] at hlen
    have hmem : (paths[n], n) ∈ paths.zipIdx :=
      List.mem_zipIdx_iff_getElem?.mpr (List.getElem?_eq_getElem hn)
    exact Option.isNone_iff_eq_none.mp (hlen _ hmem)
  · intro hall
    rw [List.filter_eq_self.mpr]
    · exact List.zipIdx_map_fst 0 paths
    · rintro ⟨filePath, n⟩ hmem
      have hget := List.mem_zipIdx_iff_getElem?.mp hmem
      rw [hall n (List.getElem?_eq_some_iff.mp hget).1]
      rfl

/-- **When uploads are complete**: for an uploader that works, with clients that can always be
created, paths and the end of their stream, exactly if the preconditions fail or no upload
does.  A path whose upload fails is never attempted again. -/
theorem complete_iff (hwork : w.options.doWork = true)
    (hclient : ∀ n, env.createDefaultClient n = none) {before after : List (Poll String)}
    {p : Poll String} (hsrc : .timedOut true ∉ before)
    (hvalues : pollValues before = paths.map .value) (hends : p.Ends) :
    Complete env w paths (before ++ p :: after) ↔
      (validatePreconditions w).ok = false ∨ ∀ n < paths.length, env.uploadFile n = none := by
  have hremoved : ∀ polls,
      (workImpl env w polls).removed <+: uploaded env (workImpl env w polls) := by
    intro polls
    rw [workImpl_removesUploaded env w polls]
    split
    · exact List.nil_prefix
    · exact List.prefix_rfl
  by_cases hpre : (validatePreconditions w).ok = true
  · obtain ⟨houtcome, huploads⟩ :=
      workImpl_ends hwork hpre hclient after hsrc hvalues hends
    have hiff := uploaded_eq_iff env huploads
    constructor
    · exact fun h => Or.inr (hiff.mp (h.uploaded houtcome))
    · intro h
      have hall := h.resolve_left (by simp [hpre])
      exact ⟨fun _ => hiff.mpr hall, fun polls' _ => hremoved polls'⟩
  · have hfail := Bool.eq_false_iff.mpr hpre
    refine ⟨fun _ => Or.inl hfail, fun _ => ⟨fun houtcome => ?_, fun polls' _ => hremoved polls'⟩⟩
    rw [workImpl, if_neg (by simp [hwork]), if_pos hfail] at houtcome
    rw [Outcome.returned.inj houtcome] at hfail
    cases hfail

end Complete

/-- Clients can be created, and the first upload fails. -/
def firstUploadFails : Env where
  createDefaultClient _ := none
  uploadFile n := if n = 0 then some "" else none

/-- An uploader that is attached, and removes what it has uploaded. -/
def attachedUploader : Worker where
  name := "GcsUploader"
  options := ⟨true, "bucket", "", false⟩
  inChannel := some ⟨true, true⟩

/-- `EOS` as the saver sends it. -/
def eosValue : StatusOr String := .ofStatus (notFoundError "Reached EOS.")

/-- One path, and an upload without an error. -/
theorem complete_onePath :
    Complete ⟨fun _ => none, fun _ => none⟩ attachedUploader ["video.mp4"]
      [.popped (.value "video.mp4"), .timedOut false, .popped eosValue] := by
  have hsrc : .timedOut true ∉ [Poll.popped (.value "video.mp4"), .timedOut false] := by simp
  have hends : (Poll.popped eosValue).Ends := rfl
  exact (complete_iff rfl (fun _ => rfl) hsrc rfl hends).mpr (Or.inr fun _ _ => rfl)

/-- **A failed upload loses its file**: the uploader takes a new client and returns OK, though
every later attempt would succeed. -/
theorem not_complete_firstUploadFails :
    (∀ n, firstUploadFails.createDefaultClient n = none) ∧
      (∀ n, ∃ m, n ≤ m ∧ firstUploadFails.uploadFile m = none) ∧
      ¬ Complete firstUploadFails attachedUploader ["video.mp4"]
        [.popped (.value "video.mp4"), .popped eosValue] := by
  refine ⟨fun _ => rfl, fun n => ⟨n + 1, Nat.le_succ n, rfl⟩, fun h => ?_⟩
  have huploaded := h.uploaded rfl
  cases huploaded

end GcsUploader

namespace LocalVideoSaver

/-! ### Saver and uploader together -/

/-- Every path that the saver put on its output channel names a file that it wrote, and the
uploader at the other end attempts no other. -/
def ForwardsWrittenFiles (env : Env) (w : Worker) (polls : List (Poll RawImage)) : Prop :=
  (∀ path, .value path ∈ (workImpl env w polls).forwarded →
      NamesFile w (workImpl env w polls) path) ∧
    ∀ (storage : GcsUploader.Env) (uploader : GcsUploader.Worker) (polls' : List (Poll String)),
      pollValues polls' <+: (workImpl env w polls).forwarded →
        ∀ u ∈ (GcsUploader.workImpl storage uploader polls').uploads,
          NamesFile w (workImpl env w polls) u.filePath

/-- **When saver and uploader keep to files that were written**, for images that can all be
converted, an EOS, no writer error and a downstream worker that keeps running: paths are not
forwarded, or the number of images is not a multiple of the size of a file, or the output
channel is full when the saver has forwarded its last file. -/
theorem forwardsWrittenFiles_iff {env : Env} {w : Worker} (hq : env.Quiet)
    (hpre : (validatePreconditions w).ok = true) {polls : List (Poll RawImage)}
    {images : List (StatusOr RawImage)} {eos : StatusOr RawImage} (hsrc : .timedOut true ∉ polls)
    (hvalues : pollValues polls = images ++ [eos]) (hconv : ∀ v ∈ images, (converted v).isSome)
    (heos : eos.status.code = .kNotFound) :
    ForwardsWrittenFiles env w polls ↔
      w.options.forwardFilePaths = false ∨ images.length % w.maxFrames ≠ 0 ∨
        env.tryEmplace (images.length / w.maxFrames) = false := by
  rw [← forwarded_namesFile_iff hq hpre hsrc hvalues hconv heos]
  constructor
  · exact fun h => h.1
  · intro h
    refine ⟨h, fun storage uploader polls' hprefix u hu => h _ ?_⟩
    exact hprefix.subset (GcsUploader.uploads_popped storage uploader polls' u hu)

/-- One image, with files of two frames. -/
theorem forwardsWrittenFiles_oneImage :
    ForwardsWrittenFiles undisturbed (attachedSaver 2)
      [.popped (.value .default), .timedOut false, .popped eosValue] := by
  have hvalues : pollValues [.popped (.value .default), .timedOut false, .popped eosValue] =
      [.value RawImage.default] ++ [eosValue] := rfl
  refine (forwardsWrittenFiles_iff undisturbed_quiet rfl (by simp) hvalues ?_ rfl).mpr
    (Or.inr (Or.inl (by decide)))
  intro v hv
  rw [List.mem_singleton.mp hv]
  rfl

/-- **A stream without images breaks it**: the empty path is forwarded, and an upload of it
attempted. -/
theorem not_forwardsWrittenFiles_noImages :
    ¬ ForwardsWrittenFiles undisturbed (attachedSaver 1) [.popped eosValue] := by
  intro h
  exact (h.1 "" List.mem_cons_self).1 rfl

end LocalVideoSaver

end AIStreams
