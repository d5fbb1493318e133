import As2Exchange.Proofs.CommandLine.Printing
import As2Exchange.Proofs.Send.Kept
import As2Exchange.Proofs.Send.Transmission
import As2Exchange.Proofs.Sender.Payload

/-!
# Exit codes

A run of the send command takes one of three courses: there are no settings, or the configuration
or the choice of the sender fails, or one message is sent. The exit code and what is printed tell
the last course from the others, and an exit code of zero means that the file was delivered.

- `Course` are the courses, `Leads` says which one a run takes, `Course.Taken` what is seen of it;
- `Delivered` is what an exit code of zero means;
- `run_takes_one_course` is the result on all runs.
-/

namespace As2Exchange

/-! ## Failures before the send -/

/-- The failure is one of the program itself, none that comes from outside as it is. -/
def Failure.Own (failure : Failure) : Prop := ∀ cause, failure ≠ .foreign cause

theorem Config.load_own (surroundings : Surroundings) (path? : Option String) :
    FailsIn Failure.Own (Config.load surroundings path?) := by
  have hpassword : ∀ password settings d,
      FailsIn Failure.Own (putPassword password settings d) := by
    intro password settings d
    unfold putPassword
    split
    · exact .ok _
    · exact .error nofun
    · exact .error nofun
  have hdocument : ∀ path, FailsIn Failure.Own (documentAt surroundings path) := by
    intro path
    unfold documentAt
    refine .ite ?_ (.ok _)
    split
    · exact .error nofun
    · split
      · exact .error nofun
      · exact .ok _
  have hoverride : ∀ password d, FailsIn Failure.Own (overridePassword password d) := by
    intro password d
    unfold overridePassword
    split
    · split
      · exact .ok _
      · exact .ite (hpassword _ _ _) (.ok _)
    · exact .error nofun
  have hchecked : ∀ v, FailsIn Failure.Own (ofValue v) := by
    intro v
    unfold ofValue
    split
    · refine .ite ?_ (.error nofun)
      split
      · exact .ok _
      · exact .error nofun
    · exact .error nofun
  -- the steps in order: the file, the password of the environment, the checks
  refine .bind (hdocument _) fun d _ => ?_
  split
  · exact .bind (hoverride _ d) fun _ _ => hchecked _
  · exact hchecked _

theorem Backend.choose_own (surroundings : Surroundings) (name? : Option String) (config : Config) :
    FailsIn Failure.Own (Backend.choose surroundings name? (some config)) := by
  unfold Backend.choose
  exact .ite (.ok _) (.ite (.ok _) (.error nofun))

/-! ## Senders -/

/-- The HTTP sender asks to stop only if the transport does. -/
theorem Sender.http_isInterrupt [Codecs] [Mime.Nesting] {timeout : Double} {message : Message}
    {session : Session} {network : Network}
    (hreply : ∀ cause, network.next.1 = .failure cause → cause.family ≠ .interrupt)
    {failure : Failure} (h : (http timeout message session network).failure = some failure) :
    failure.isInterrupt = false := by
  rw [← handle_send (http timeout)] at h
  -- a refusal is a failure of the program; whatever passes goes to the network
  rcases refused_or_passes sendAction message session with ⟨failure', hrefused⟩ | hpasses
  · rw [(handle_of_refused timeout network hrefused).2.1] at h
    cases h
    cases hrefused <;> rfl
  obtain ⟨url, sent, -, -, hdelivery⟩ := handle_of_passes timeout network hpasses
  rw [hdelivery] at h
  unfold exchange at h
  revert hreply h
  rcases network.next with ⟨answer | cause, rest⟩
  · intro _ h
    dsimp only at h
    cases hstatus : answer.failure? url with
    | some error =>
      rw [hstatus] at h
      cases h
      rfl
    | none =>
      rw [hstatus] at h
      exact (receive_inTransmission h).isInterrupt
  · intro hreply h
    cases h
    unfold postFailure
    split
    · rfl
    · exact decide_eq_false (hreply cause rfl)

/-- A file has reached its destination: it was posted once, and the answer tells of no failure, or
the loopback sender keeps it. -/
inductive Delivered (data : Bytes) (network : Network) (posts : List Post) (kept : List Message) :
    Backend → Prop where
  | posted {timeout : Double} {post : Post} {answer : Answer} {rest : Network}
      (hposts : posts = [post]) (hkept : kept = []) (hdata : post.data = data)
      (hanswer : network.next = (.answer answer, rest))
      (hstatus : answer.status < 400 ∨ 600 ≤ answer.status) :
      Delivered data network posts kept (.http timeout)
  | kept {message : Message} (hposts : posts = []) (hkept : kept = [message])
      (hdata : message.body.data = data) : Delivered data network posts kept .loopback

theorem Backend.sender_loopback [Codecs] [Mime.Nesting] :
    Backend.loopback.sender = Sender.loopback {} := rfl

/-- A sender that does not fail has delivered the bytes of the body. -/
theorem Delivered.of_failure_none [Codecs] [Mime.Nesting] {backend : Backend} {message : Message}
    {session : Session} {network : Network} (hbinary : message.body.transferEncoding = "binary")
    (h : (backend.sender message session network).failure = none) :
    Delivered message.body.data network (backend.sender message session network).posts
      (((backend.sender message session network).shelf?.getD {}).kept) backend := by
  cases backend with
  | loopback =>
    -- nothing was held before, and the message is kept
    rw [Backend.sender_loopback, Sender.loopback_eq]
    exact .kept rfl (Shelf.Sound.empty.kept_withSent _) rfl
  | http timeout =>
    have htransmitted : message.body.transmitted = message.body.data := by
      unfold MimeBody.transmitted
      rw [hbinary, if_neg (by decide)]
    unfold Backend.sender at h ⊢
    dsimp only at h ⊢
    rw [← Sender.handle_send (Sender.http timeout)] at h ⊢
    -- a message that is refused fails, so this one has passed
    rcases Sender.refused_or_passes Sender.sendAction message session with
      ⟨failure, hrefused⟩ | hpasses
    · rw [(Sender.handle_of_refused timeout network hrefused).2.1] at h
      cases h
    obtain ⟨url, sent, -, -, hdelivery⟩ := Sender.handle_of_passes timeout network hpasses
    rw [hdelivery] at h ⊢
    have hanswered : ¬ network.next.1.Fails := fun hfails =>
      (Sender.exchange_of_fails url sent hfails).2 h
    obtain ⟨receipt, failure, heq⟩ := Sender.exchange_eq timeout url sent
      (Sender.complete message session).1 (Sender.complete message session).2 network
    rw [heq]
    rcases hnext : network.next with ⟨answer | cause, rest⟩
    · rw [hnext] at hanswered
      refine .posted rfl rfl htransmitted hnext ?_
      unfold Reply.Fails at hanswered
      omega
    · rw [hnext] at hanswered
      exact absurd trivial hanswered

/-! ## The send -/

/-- A send whose sender does not ask to stop gives a response. If that has no failure, the sender
was asked, and did not fail. -/
theorem send_responds [Template.Objects] {surroundings : Surroundings} {sender : Sender}
    {order : Order} {supply : Supply} (hdraft : Failure.Reportable order.draft.body)
    (hpartnerships : order.partnershipsFail = none)
    (hsender : ∀ message session failure,
      (sender message session supply.network).failure = some failure →
        failure.isInterrupt = false) :
    ∃ response, (send surroundings sender order supply).response = .ok response ∧
      (response.failure = none → ∃ message session,
        order.draft.body = .ok message.body ∧
        (sender message session supply.network).failure = none ∧
        (send surroundings sender order supply).posts =
          (sender message session supply.network).posts ∧
        (send surroundings sender order supply).shelf? =
          (sender message session supply.network).shelf?) := by
  -- either a step before the sender fails, which the response tells, or the sender is asked
  cases hready : order.ready surroundings supply with
  | error failure =>
    have hreportable := Order.ready_reportable hdraft (by simp [hpartnerships]) failure hready
    rw [send_of_unready sender hready hreportable]
    exact ⟨_, rfl, nofun⟩
  | ok asked =>
    obtain ⟨message, session⟩ := asked
    have hbody := Order.body_of_message (Order.ready_eq_ok.1 hready).1
    rw [send_of_ready hready (hsender message session)]
    refine ⟨_, rfl, fun hfailure => ⟨message, session, hbody, ?_, rfl, rfl⟩⟩
    exact Option.map_eq_none_iff.1 hfailure

namespace CommandLine

/-! ## Courses -/

/-- What sending a file asks of the sender: the name of the file is the subject where none or an
empty one is given. -/
def SendCommand.order [Codecs] (command : SendCommand) (files : FileTree) (settings : Settings) :
    Order where
  settings
  draft := .ofRequest
    { subject := (Message.given? command.subject).getD command.path.name
      contentType := command.contentType
      payload := .file command.path } files

theorem SendCommand.order_eq [Codecs] (command : SendCommand) (files : FileTree)
    (settings : Settings) :
    command.order files settings = { settings, draft := .ofRequest command.request files } := by
  unfold order request
  -- no subject and an empty one are treated alike
  cases command.subject with
  | none => rfl
  | some subject =>
    by_cases hempty : subject = ""
    · subst hempty
      rfl
    · simp [Message.given?_eq_some.2 ⟨rfl, hempty⟩, hempty]

/-- The body that is sent has the bytes of the file as they are. -/
theorem SendCommand.body_of_order [Codecs] {command : SendCommand} {files : FileTree}
    {settings : Settings} {body : MimeBody}
    (h : (command.order files settings).draft.body = .ok body) :
    files.read (toString command.path) = .ok body.data ∧ body.transferEncoding = "binary" := by
  have hpayload : MimeBody.ofPayload files (.path command.path) (.text command.contentType) "utf-8"
      "binary" = .ok body := h
  obtain ⟨-, hbinary, ⟨_, hkind, -⟩ | ⟨_, hkind, -⟩ | ⟨path, hkind, hdata⟩⟩ :=
    MimeBody.ofPayload_eq_ok hpayload
  · cases hkind
  · cases hkind
  · cases hkind
    unfold MimeBody.fileBytes at hdata
    split at hdata
    · rename_i content hread
      rw [Except.ok.inj hdata] at hread
      exact ⟨hread, hbinary⟩
    · cases hdata
    · cases hdata

/-- What a run of the send command comes to. -/
inductive Course where
  /-- There are no settings. -/
  | unconfigured
  /-- The configuration cannot be loaded, or no sender can be chosen. -/
  | unprepared
  /-- One message is sent. -/
  | sent (settings : Settings) (backend : Backend)

/-- The course that a command leads to, by what is found in the surroundings. -/
inductive Leads (surroundings : Surroundings) (command : SendCommand) : Course → Prop where
  | unconfigured {config : Config}
      (hload : Config.load surroundings (command.config.map toString) = .ok config)
      (hsettings : config.settings = none) : Leads surroundings command .unconfigured
  | unloaded {failure : Failure}
      (hload : Config.load surroundings (command.config.map toString) = .error failure) :
      Leads surroundings command .unprepared
  | unchosen {config : Config} {settings : Settings} {failure : Failure}
      (hload : Config.load surroundings (command.config.map toString) = .ok config)
      (hsettings : config.settings = some settings)
      (hchoose : Backend.choose surroundings command.sender (some config) = .error failure) :
      Leads surroundings command .unprepared
  | sent {config : Config} {settings : Settings} {backend : Backend}
      (hload : Config.load surroundings (command.config.map toString) = .ok config)
      (hsettings : config.settings = some settings)
      (hchoose : Backend.choose surroundings command.sender (some config) = .ok backend) :
      Leads surroundings command (.sent settings backend)

/-- A run that ends before anything is sent. -/
structure Silent (exitCode : Nat) (run : Run) : Prop where
  exitCode : run.ending.exitCode = exitCode
  output : run.ending.output = ""
  posts : run.posts = []
  kept : run.kept = []

/-- A run that ends with the response of a send. -/
structure Answered (outcome : Outcome) (response : Response) (run : Run) : Prop where
  responds : outcome.response = .ok response
  posts : run.posts = outcome.posts
  kept : run.kept = outcome.kept
  exitCode : run.ending.exitCode = if response.failure.isSome then 1 else 0
  output : run.ending.output = printed response.summary
  /-- Only terminal sequences keep the summary from being printed as it is. -/
  verbatim : run.ending.output = response.summary ++ "\n" ↔
    ∀ sequence, IsTerminalSequence sequence → ¬ sequence <:+: response.summary.toList

/-- What is seen of a run that takes a course. -/
def Course.Taken [Codecs] [Mime.Nesting] [Template.Objects] (surroundings : Surroundings)
    (command : SendCommand) (supply : Supply) (run : Run) : Course → Prop
  | unconfigured => Silent 2 run
  | unprepared => Silent 1 run
  | sent settings backend => ∃ response, Answered
      (send surroundings backend.sender (command.order surroundings.files settings) supply)
      response run

section

variable {surroundings : Surroundings} {command : SendCommand} {supply : Supply} {course : Course}

/-- Every command leads to just one course. -/
theorem leads_unique (surroundings : Surroundings) (command : SendCommand) :
    ∃ course, Leads surroundings command course ∧
      ∀ other, Leads surroundings command other → other = course := by
  -- the configuration, the settings, the sender: the first that is lacking decides
  cases hload : Config.load surroundings (command.config.map toString) with
  | error failure =>
    refine ⟨.unprepared, .unloaded hload, fun other hother => ?_⟩
    cases hother <;> simp_all
  | ok config =>
    cases hsettings : config.settings with
    | none =>
      refine ⟨.unconfigured, .unconfigured hload hsettings, fun other hother => ?_⟩
      cases hother <;> simp_all
    | some settings =>
      cases hchoose : Backend.choose surroundings command.sender (some config) with
      | error failure =>
        refine ⟨.unprepared, .unchosen hload hsettings hchoose, fun other hother => ?_⟩
        cases hother <;> simp_all
      | ok backend =>
        refine ⟨.sent settings backend, .sent hload hsettings hchoose, fun other hother => ?_⟩
        cases hother <;> simp_all

/-! ## Runs -/

/-- A run that fails before the send. -/
theorem silent_of_own {failure : Failure} (h : failure.Own) (logLevel : Option LogLevel) :
    Silent 1 { ending := .failed failure, logLevel } := by
  cases failure with
  | foreign cause => exact absurd rfl (h cause)
  | _ => exact ⟨rfl, rfl, rfl, rfl⟩

variable [Codecs] [Mime.Nesting] [Template.Objects]

/-- A run that sends the file ends with the response, and delivers the file if it has no failure. -/
theorem runSend_of_sent {config : Config} {settings : Settings} {backend : Backend}
    (hload : Config.load surroundings (command.config.map toString) = .ok config)
    (hsettings : config.settings = some settings)
    (hchoose : Backend.choose surroundings command.sender (some config) = .ok backend)
    (hreplies : ∀ cause, Reply.failure cause ∈ supply.network → cause.family ≠ .interrupt) :
    let run := runSend surroundings command supply
    ∃ response, Answered
        (send surroundings backend.sender (command.order surroundings.files settings) supply)
        response run ∧
      (response.failure = none → ∃ content,
        surroundings.files.read (toString command.path) = .ok content ∧
        Delivered content supply.network run.posts run.kept backend) := by
  have hsender : ∀ message session failure,
      (backend.sender message session supply.network).failure = some failure →
        failure.isInterrupt = false := by
    intro message session failure hfailure
    cases backend with
    | loopback =>
      rw [Backend.sender_loopback, Sender.loopback_eq] at hfailure
      cases hfailure
    | http timeout =>
      exact Sender.http_isInterrupt (fun cause hcause => hreplies cause (Network.next_mem hcause))
        hfailure
  have hdraft : Failure.Reportable (command.order surroundings.files settings).draft.body :=
    Message.Draft.ofRequest_reportable _ _
  obtain ⟨response, hresponse, hdelivers⟩ :=
    @send_responds _ surroundings backend.sender _ supply hdraft rfl hsender
  have hrun : runSend surroundings command supply =
      { ending := .answered response
        logLevel := some (if command.verbose then .debug else .warning)
        posts := (send surroundings backend.sender
          (command.order surroundings.files settings) supply).posts
        kept := (send surroundings backend.sender
          (command.order surroundings.files settings) supply).kept } := by
    unfold runSend prepare
    rw [SendCommand.order_eq] at hresponse ⊢
    simp only [hload, hsettings, hchoose, hresponse]
  refine ⟨response, ?answered, fun hfailure => ?delivered⟩
  case answered =>
    rw [hrun]
    exact ⟨hresponse, rfl, rfl, rfl, rfl, printed_eq_iff⟩
  case delivered =>
    obtain ⟨message, session, hbody, hnone, hposts, hkept⟩ := hdelivers hfailure
    obtain ⟨hread, hbinary⟩ := SendCommand.body_of_order hbody
    refine ⟨message.body.data, hread, ?_⟩
    rw [hrun]
    unfold Outcome.kept
    rw [hposts, hkept]
    exact .of_failure_none hbinary hnone

/-- A run takes the course that its command leads to. -/
theorem runSend_taken (hleads : Leads surroundings command course)
    (hreplies : ∀ cause, Reply.failure cause ∈ supply.network → cause.family ≠ .interrupt) :
    course.Taken surroundings command supply (runSend surroundings command supply) := by
  cases hleads with
  | unconfigured hload hsettings =>
    unfold runSend prepare
    simp only [hload, hsettings]
    exact ⟨rfl, rfl, rfl, rfl⟩
  | unloaded hload =>
    unfold runSend prepare
    simp only [hload]
    exact silent_of_own (Config.load_own _ _ _ hload) _
  | unchosen hload hsettings hchoose =>
    unfold runSend prepare
    simp only [hload, hsettings, hchoose]
    exact silent_of_own (Backend.choose_own _ _ _ _ hchoose) _
  | sent hload hsettings hchoose =>
    obtain ⟨response, hanswered, -⟩ := runSend_of_sent hload hsettings hchoose hreplies
    exact ⟨response, hanswered⟩

/-- **A run of the send command takes just one course**, unless the transport asks it to stop:
without settings its exit code is 2, with a configuration or a choice of the sender that fails it
is 1, and in both cases nothing is sent and nothing printed; else one message is sent, the summary
of the response is printed, and the exit code tells whether the response has a failure. An exit code
of zero means that the file was delivered. -/
theorem run_takes_one_course {arguments : List String}
    (hread : Asked.read arguments = .ok (.send command))
    (hreplies : ∀ cause, Reply.failure cause ∈ supply.network → cause.family ≠ .interrupt) :
    let run := run surroundings arguments supply
    (∃ course, (Leads surroundings command course ∧
        course.Taken surroundings command supply run) ∧
      ∀ other, Leads surroundings command other → other = course) ∧
    (run.ending.exitCode = 0 → ∃ backend content,
      surroundings.files.read (toString command.path) = .ok content ∧
      Delivered content supply.network run.posts run.kept backend) := by
  have hrun : run surroundings arguments supply = runSend surroundings command supply := by
    unfold run
    rw [hread]
  obtain ⟨course, hleads, hunique⟩ := leads_unique surroundings command
  have htaken := runSend_taken hleads hreplies
  dsimp only
  rw [hrun]
  refine ⟨⟨course, ⟨hleads, htaken⟩, hunique⟩, fun hzero => ?_⟩
  -- only a send ends with zero, and only one without a failure
  cases hleads with
  | unconfigured => exact absurd (htaken.exitCode.symm.trans hzero) (by decide)
  | unloaded => exact absurd (htaken.exitCode.symm.trans hzero) (by decide)
  | unchosen => exact absurd (htaken.exitCode.symm.trans hzero) (by decide)
  | sent hload hsettings hchoose =>
    obtain ⟨response, hanswered, hdelivered⟩ := runSend_of_sent hload hsettings hchoose hreplies
    have hcode := hanswered.exitCode.symm.trans hzero
    cases hfailure : response.failure with
    | none => exact ⟨_, hdelivered hfailure⟩
    | some failure =>
      rw [hfailure] at hcode
      cases hcode

end

/-! ## An id with a terminal sequence -/

namespace Bold

/-- Settings whose message ids turn on bold letters. -/
def configuration : String :=
  "\x7bsettings: \x7bsender_as2_id: a, sender_key_alias: k, sender_email: e, receiver_as2_id: b, " ++
    "receiver_key_alias: k, destination_url: u, key_store_path: k, key_store_password: p, " ++
    "message_id_format: \"\x7buuid\x7d\\e[1m\"\x7d\x7d"

/-- What the key store for these settings holds. -/
def storeFile : KeyFile where
  ownAlias := "k"
  key := some ⟨"K"⟩
  certificate := some ⟨"K"⟩

def surroundings : Surroundings where
  files :=
    { nodes := [(["w", "as2client.yaml"], .file configuration.toUTF8.toList),
        (["w", "k"], .file [0x30]), (["w", "order"], .file "UNB+1".toUTF8.toList)]
      workingDirectory := ⟨"/", ["w"]⟩ }
  clock := ⟨2024, 1, 2, 3, 4, 5⟩
  openStore := storeFile.lockedWith "p"

def arguments : List String := ["send", "order", "--sender", "loopback"]

def command : SendCommand where
  path := PathName.ofString "order"
  sender := some "loopback"

theorem read_arguments : Asked.read arguments = .ok (.send command) := by decide +kernel

/-- What is told of a run: whether it succeeds, and whether the summary is printed as it is. -/
def told (run : Run) : Option (Bool × Bool) :=
  match run.ending with
  | .answered response =>
    some (response.failure.isNone, run.ending.output = response.summary ++ "\n")
  | _ => none

theorem answered_of_told {run : Run} (h : told run = some (true, false)) :
    ∃ response, run.ending = .answered response ∧ response.failure = none ∧
      run.ending.output ≠ response.summary ++ "\n" := by
  unfold told at h
  split at h
  · rename_i response hending
    obtain ⟨hnone, houtput⟩ := Prod.mk.inj (Option.some.inj h)
    exact ⟨response, hending, Option.isNone_iff_eq_none.1 hnone, of_decide_eq_false houtput⟩
  · cases h

attribute [local instance] Codecs.empty Mime.Nesting.thousand Template.Objects.kinds

theorem answered : ∃ response, (run surroundings arguments ⟨1, []⟩).ending = .answered response ∧
    response.failure = none ∧
    (run surroundings arguments ⟨1, []⟩).ending.output ≠ response.summary ++ "\n" :=
  answered_of_told (by decide +kernel)

theorem exitCode_eq : (run surroundings arguments ⟨1, []⟩).ending.exitCode = 0 := by
  obtain ⟨response, hending, hnone, -⟩ := answered
  rw [hending, Ending.exitCode, hnone]
  rfl

end Bold

attribute [local instance] Codecs.empty Mime.Nesting.thousand Template.Objects.kinds

/-- The file is kept by the loopback sender. -/
theorem run_takes_one_course_loopback :
    Asked.read Bold.arguments = .ok (.send Bold.command) ∧
    (run Bold.surroundings Bold.arguments ⟨1, []⟩).ending.exitCode = 0 ∧
    ∃ backend content,
      Bold.surroundings.files.read (toString Bold.command.path) = .ok content ∧
      Delivered content [] (run Bold.surroundings Bold.arguments ⟨1, []⟩).posts
        (run Bold.surroundings Bold.arguments ⟨1, []⟩).kept backend :=
  ⟨Bold.read_arguments, Bold.exitCode_eq,
    (@run_takes_one_course Bold.surroundings Bold.command ⟨1, []⟩ _ _ _ Bold.arguments
      Bold.read_arguments nofun).2 Bold.exitCode_eq⟩

/-- The file is sent, but the summary is not printed as it is. -/
theorem run_prints_less :
    (run Bold.surroundings Bold.arguments ⟨1, []⟩).ending.exitCode = 0 ∧
    ∃ response, (run Bold.surroundings Bold.arguments ⟨1, []⟩).ending = .answered response ∧
      (run Bold.surroundings Bold.arguments ⟨1, []⟩).ending.output ≠ response.summary ++ "\n" := by
  obtain ⟨response, hending, -, houtput⟩ := Bold.answered
  exact ⟨Bold.exitCode_eq, response, hending, houtput⟩

end CommandLine

end As2Exchange
