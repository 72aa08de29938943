import ScriptGate.CommandLine.Session
import ScriptGate.Proofs.CommandLine.Arguments
import ScriptGate.Proofs.CommandLine.Markup
import ScriptGate.Proofs.Lint.Warning
import ScriptGate.Proofs.Remote.Sending

/-! # Whole sessions

A session that validates or screens a script sends nothing, and ends with zero when the script is
valid or safe. A session that runs a script sends one request when the script passes the gates and
the address of the request can be made; its exit code is that of the result that it shows
(`run_ends`). -/

namespace ScriptGate

/-- The address that the requests of settings go to, if it can be made. -/
def Settings.address (settings : Settings) : Except Remote.UrlError Remote.Url := do
  (← settings.client).address

namespace CommandLine

/-- A script that the gates of a run let through. -/
structure Passes (settings : Settings) (testMode : Bool) (script : List Char) : Prop where
  notBlank : ∃ char ∈ script, Text.isBlank char = false
  withinLength : script.length ≤ settings.pipeline.maxLength.val
  unlisted : ∀ entry ∈ Catalog.standard.blacklist, entry.occursIn script = false
  isExpression : testMode = true → Expression.refusal? script = none

/-- The cap on records of a session: the given one, or else that of the settings. -/
def capOf (settings : Settings) (sorted : Sorted) : Int :=
  (sorted.number? .maxResults).getD settings.pipeline.maxResults.val

/-- The time limit of a session in milliseconds: the given one, or else that of the settings, and a
minute at most. -/
def limitOf (settings : Settings) (sorted : Sorted) : Int :=
  min ((sorted.number? .timeout).getD settings.pipeline.timeout.val) 60000

/-- The message that a session sends for a script. -/
structure IsMessage (settings : Settings) (sorted : Sorted) (testMode : Bool) (script : List Char)
    (message : Remote.HttpRequest) : Prop where
  verbatim : testMode = false →
    message.body = .obj [("script", .str (String.ofList script))]
  wrapped : testMode = true → ∃ wrapped, Expression.wrap script (capOf settings sorted) =
    .ok wrapped ∧ message.body = .obj [("script", .str (String.ofList wrapped))]
  timeout : message.timeout = Float.ofScientific (limitOf settings sorted).toNat true 3
  positive : 0 < message.timeout
  bounded : message.timeout ≤ 60

/-- How a session ends that runs a script. -/
structure EndsRun (settings : Settings) (sorted : Sorted) (testMode : Bool) (script : List Char)
    (session : Conclusion) : Prop where
  atMostOne : session.sent.length ≤ 1
  sends : session.sent ≠ [] ↔
    Passes settings testMode script ∧ ∃ url, settings.address = .ok url
  messages : ∀ message ∈ session.sent, IsMessage settings sorted testMode script message
  ends : (∃ result, session.output = .result result ∧
      session.exitCode = if result.success then 0 else 1) ∨
    ∃ error, settings.client = .error error ∧ session.output = .breakdown (.address error) ∧
      session.exitCode = 1
  unsent : session.sent = [] → session.exitCode = 1
  hasCap : ∀ cap, Expression.wrap script (capOf settings sorted) ≠ .error (.capNotPositive cap)

/-! ### Sessions without a run -/

section
variable {success : Bool} {log : List LogRecord} {rows : List (String × String)}
  {lines : List String}

theorem sent_conclude : (conclude success log rows lines).sent = [] := by
  unfold conclude
  cases shownOutput rows lines <;> rfl

theorem exitCode_conclude (shows : success = true → ∃ output, shownOutput rows lines = .ok output) :
    (conclude success log rows lines).exitCode = exitCodeOf success := by
  unfold conclude
  cases shown : shownOutput rows lines with
  | ok output => rfl
  | error error =>
      cases success with
      | false => rfl
      | true =>
          obtain ⟨output, isOutput⟩ := shows rfl
          cases shown.symm.trans isOutput

theorem exists_mapM_shownText (shows : ∀ line ∈ lines, ∃ shown, shownText line = .ok shown) :
    ∃ shown, lines.mapM shownText = .ok shown := by
  induction lines with
  | nil => exact ⟨[], rfl⟩
  | cons line lines ih =>
      obtain ⟨first, isFirst⟩ := shows line List.mem_cons_self
      obtain ⟨others, isOthers⟩ := ih fun line member => shows line (List.mem_cons_of_mem _ member)
      refine ⟨first :: others, ?_⟩
      rw [List.mapM_cons, isFirst, isOthers]
      rfl

/-- Lines that can be shown are shown without a table. -/
theorem exists_shownOutput (shows : ∀ line ∈ lines, ∃ shown, shownText line = .ok shown) :
    ∃ output, shownOutput [] lines = .ok output := by
  obtain ⟨shown, isShown⟩ := exists_mapM_shownText shows
  refine ⟨.findings [] shown, ?_⟩
  rw [shownOutput, List.mapM_nil, isShown]
  rfl

end

theorem isStyle_yellow : IsStyle "yellow".toList := by
  decide

theorem isStyle_green : IsStyle "green".toList := by
  decide

/-- A message without an opening bracket can be shown after a yellow label. -/
theorem exists_shownText_yellow {mark message : String} (label : String)
    (isMark : mark.toList = styledLine "yellow".toList label.toList [' '])
    (isLabel : IsLabel label.toList) (plain : '[' ∉ message.toList) :
    ∃ shown, shownText (mark ++ message) = .ok shown := by
  refine exists_shownText "yellow".toList label.toList (' ' :: message.toList) isStyle_yellow
    isLabel ?_ ?_
  · rw [List.mem_cons, not_or]
    exact ⟨by decide, plain⟩
  · rw [String.toList_append, isMark]
    simp only [styledLine, List.cons_append, List.append_assoc, List.nil_append]

theorem validateScript_ends (settings : Settings.Pipeline) (script : List Char) :
    (validateScript settings script).sent = [] ∧
    (validateScript settings script).exitCode = exitCodeOf
      ((Validator.mk settings.maxLength.val Lint.rules).validate (some script)).valid := by
  refine ⟨sent_conclude, exitCode_conclude ?_⟩
  intro valid
  rw [List.isEmpty_iff.mp valid, List.map_nil, if_pos valid]
  apply exists_shownOutput
  intro line member
  rcases List.mem_append.mp member with isWarning | isLast
  · obtain ⟨message, isMessage, rfl⟩ := List.mem_map.mp isWarning
    exact exists_shownText_yellow "warning:" (by decide) (by decide)
      (Validator.plain_of_mem_warnings isMessage)
  · rw [List.mem_singleton.mp isLast]
    exact exists_shownText "green".toList "Script is valid".toList [] isStyle_green (by decide)
      List.not_mem_nil (by decide)

theorem plain_of_mem_confirmationOperations : ∀ name ∈ confirmationOperations,
    '[' ∉ name.toList := by
  decide

theorem screenScript_ends (settings : Settings.Pipeline) (script : List Char) :
    (screenScript settings script).sent = [] ∧
    (screenScript settings script).exitCode =
      exitCodeOf (settings.catalog.screen script).safe := by
  refine ⟨sent_conclude, exitCode_conclude ?_⟩
  intro safe
  rw [List.isEmpty_iff.mp safe, List.map_nil, List.nil_append, if_pos safe]
  apply exists_shownOutput
  intro line member
  rcases List.mem_append.mp member with isDangerous | isLast
  · obtain ⟨name, isName, rfl⟩ := List.mem_map.mp isDangerous
    change name ∈ Scan.detectOperations script Catalog.standard.confirmation at isName
    rw [Scan.detectOperations_eq_filter Catalog.nodup_confirmation_standard] at isName
    exact exists_shownText_yellow "requires confirmation:" (by decide) (by decide)
      (plain_of_mem_confirmationOperations name (List.mem_filter.mp isName).1)
  · rw [List.mem_singleton.mp isLast]
    exact exists_shownText "green".toList "Script is safe".toList [] isStyle_green (by decide)
      List.not_mem_nil (by decide)

/-! ### Runs -/

section
variable {settings : Settings} {sorted : Sorted} {testMode : Bool} {options : RunOptions}
  {script : List Char}

theorem limits_of_client {client : Remote.Client} (isClient : settings.client = .ok client) :
    client.limits = ⟨settings.pipeline.timeout.val, 60000⟩ := by
  unfold Settings.client at isClient
  cases made : Remote.Url.baseOfText settings.location.url.toList with
  | error error =>
      rw [made] at isClient
      cases isClient
  | ok base =>
      rw [made] at isClient
      cases isClient
      rfl

theorem address_of_client {client : Remote.Client} (isClient : settings.client = .ok client) :
    settings.address = client.address := by
  rw [Settings.address, isClient]
  rfl

theorem limitOf_bounds (settings : Settings) (gives : sorted.Gives testMode options) :
    0 < limitOf settings sorted ∧ limitOf settings sorted ≤ 60000 := by
  have low : (1000 : Int) ≤ settings.pipeline.timeout.val := settings.pipeline.timeout.property.1
  rw [limitOf, ← gives.timeout]
  cases options.timeout with
  | none =>
      simp only [Option.map_none, Option.getD_none]
      omega
  | some limit =>
      have positive := limit.property
      simp only [Option.map_some, Option.getD_some]
      omega

/-- The limit of a session is the one that its client takes. -/
theorem effective_of_client {client : Remote.Client} (isClient : settings.client = .ok client)
    (gives : sorted.Gives testMode options) :
    client.limits.effective (options.timeout.map (·.val)) = limitOf settings sorted := by
  have positive : ∀ limit ∈ options.timeout.map (·.val), 0 < limit := by
    intro limit member
    obtain ⟨given, _, rfl⟩ := Option.mem_map.mp member
    exact given.property
  rw [Remote.TimeLimits.effective_eq positive, limits_of_client isClient, gives.timeout, limitOf]

theorem capOf_bounds (settings : Settings) (gives : sorted.Gives testMode options) :
    1 ≤ capOf settings sorted := by
  have low : (1 : Int) ≤ settings.pipeline.maxResults.val := settings.pipeline.maxResults.property.1
  rw [capOf, ← gives.maxResults]
  cases options.maxResults with
  | none => exact low
  | some cap => exact cap.property.1

theorem admits_iff_passes (gives : sorted.Gives testMode options) :
    settings.executor.Admits options script ↔ Passes settings testMode script := by
  have low : (100 : Int) ≤ settings.pipeline.maxLength.val := settings.pipeline.maxLength.property.1
  have limit : settings.executor.catalog.maxLength = settings.pipeline.maxLength.val.toNat := rfl
  constructor
  · intro admits
    have withinLength := admits.withinLength
    rw [limit] at withinLength
    exact ⟨admits.notBlank, by omega, admits.unlisted, gives.testMode ▸ admits.isExpression⟩
  · intro passes
    have withinLength := passes.withinLength
    exact { notBlank := passes.notBlank, withinLength := by omega, unlisted := passes.unlisted
            isExpression := gives.testMode.symm ▸ passes.isExpression }

/-- The cap of a session is always positive. -/
theorem wrap_ne_capNotPositive (settings : Settings) (gives : sorted.Gives testMode options)
    (script : List Char) (cap : Int) :
    Expression.wrap script (capOf settings sorted) ≠ .error (.capNotPositive cap) := by
  have positive := capOf_bounds settings gives
  rw [Expression.wrap, if_neg (Int.not_lt.mpr positive)]
  cases Expression.refusal? script with
  | none =>
      intro same
      cases same
  | some refusal =>
      intro same
      cases same

/-- A message that a client posts for the request of a run. -/
theorem isMessage_of_posts {client : Remote.Client} {request : RunRequest}
    {message : Remote.HttpRequest} (isClient : settings.client = .ok client)
    (gives : sorted.Gives testMode options)
    (isRequest : settings.executor.IsRequest options script request)
    (posts : client.Posts request message) :
    IsMessage settings sorted testMode script message := by
  obtain ⟨positive, most⟩ := limitOf_bounds settings gives
  have timeout : message.timeout = Float.ofScientific (limitOf settings sorted).toNat true 3 := by
    have inTime := posts.timeout
    rw [isRequest.timeout, effective_of_client isClient gives,
      Remote.seconds?_eq_some positive most] at inTime
    exact (Option.some.inj inTime).symm
  have isWhole : 0 < (limitOf settings sorted).toNat := by omega
  obtain ⟨_, isPositive, isBounded⟩ := Number.bounds_ofScientific isWhole (by omega)
  refine ⟨?_, ?_, timeout, timeout ▸ isPositive, timeout ▸ isBounded⟩
  · intro noTest
    rw [Remote.HttpRequest.body, posts.script, isRequest.verbatim (gives.testMode.trans noTest)]
  · intro test
    have isWrapped := isRequest.wrapped (gives.testMode.trans test)
    rw [gives.maxResults] at isWrapped
    refine ⟨request.script, isWrapped, ?_⟩
    rw [Remote.HttpRequest.body, posts.script]

/-- How the run of a script ends. -/
theorem runScript_ends (gives : sorted.Gives testMode options) (transport : Remote.Transport) :
    EndsRun settings sorted testMode script (runScript settings transport options script) := by
  have hasCap := wrap_ne_capNotPositive settings gives script
  cases isClient : settings.client with
  | error error =>
      have noAddress : ∀ url, settings.address ≠ .ok url := by
        intro url
        rw [Settings.address, isClient]
        nofun
      have isRun : runScript settings transport options script =
          .ofBreakdown (.address error) := by
        rw [runScript, isClient]
      rw [isRun]
      exact {
        atMostOne := Nat.zero_le 1
        sends := iff_of_false (not_not_intro rfl) fun sends => sends.2.elim noAddress
        messages := nofun
        ends := .inr ⟨error, isClient, rfl, rfl⟩
        unsent := fun _ => rfl
        hasCap }
  | ok client =>
      obtain ⟨positive, most⟩ := limitOf_bounds settings gives
      have inTime := Remote.seconds?_eq_some positive most
      rw [← effective_of_client isClient gives] at inTime
      have capPositive : 1 ≤ settings.executor.defaultCap :=
        settings.pipeline.maxResults.property.1
      have address := address_of_client isClient
      obtain ⟨result, outcome, sending⟩ :=
        Remote.runRemotely_cases capPositive inTime transport script
      have isRun : runScript settings transport options script =
          ⟨exitCodeOf result.success, .result result,
            (Remote.runRemotely settings.executor client transport options (some script)).sent,
            (Remote.runRemotely settings.executor client transport options (some script)).run.log,
            []⟩ := by
        simp only [runScript, isClient, outcome]
      rw [isRun]
      rcases sending with ⟨admits, request, message, isRequest, posts, sent⟩ |
        ⟨refused, sent, failed⟩
      · have isMessage := isMessage_of_posts isClient gives isRequest posts
        obtain ⟨url, isUrl, _⟩ := posts.url
        rw [sent]
        exact {
          atMostOne := Nat.le_refl 1
          sends := iff_of_true (List.cons_ne_nil _ _)
            ⟨(admits_iff_passes gives).mp admits, url, address.trans isUrl⟩
          messages := by
            intro other member
            rw [List.mem_singleton.mp member]
            exact isMessage
          ends := .inl ⟨result, rfl, rfl⟩
          unsent := nofun
          hasCap }
      · rw [sent]
        exact {
          atMostOne := Nat.zero_le 1
          sends := by
            refine iff_of_false (not_not_intro rfl) ?_
            rintro ⟨passes, url, isUrl⟩
            obtain ⟨error, isError⟩ := refused ((admits_iff_passes gives).mpr passes)
            cases isError.symm.trans (address.symm.trans isUrl)
          messages := nofun
          ends := .inl ⟨result, rfl, rfl⟩
          unsent := by
            intro _
            rw [failed]
            rfl
          hasCap }

end

/-! ### Sessions -/

section
variable {surroundings : Surroundings} {arguments : List Argument} {opening : Opening}
  {threshold : Threshold} {task : Task} {text script : List Char}

theorem sent_ofSettingsError (environment : Settings.Environment) (error : Settings.SettingsError) :
    (Conclusion.ofSettingsError environment error).sent = [] := by
  simp only [Conclusion.ofSettingsError]
  split <;> rfl

/-- How a session ends that validates a script. -/
theorem perform_validate_ends (surroundings : Surroundings) (script : List Char) :
    (perform surroundings .validate script).sent = [] ∧
    ∀ pipeline, Settings.Pipeline.load (.ofEnvironment surroundings.environment) = .ok pipeline →
      (perform surroundings .validate script).exitCode = exitCodeOf
        ((Validator.mk pipeline.maxLength.val Lint.rules).validate (some script)).valid := by
  simp only [perform]
  cases Settings.Pipeline.load (.ofEnvironment surroundings.environment) with
  | ok pipeline =>
      obtain ⟨unsent, exitCode⟩ := validateScript_ends pipeline script
      refine ⟨unsent, ?_⟩
      rintro _ ⟨⟩
      exact exitCode
  | error error => exact ⟨sent_ofSettingsError _ error, nofun⟩

/-- How a session ends that screens a script. -/
theorem perform_screen_ends (surroundings : Surroundings) (script : List Char) :
    (perform surroundings .screen script).sent = [] ∧
    ∀ pipeline, Settings.Pipeline.load (.ofEnvironment surroundings.environment) = .ok pipeline →
      (perform surroundings .screen script).exitCode =
        exitCodeOf (pipeline.catalog.screen script).safe := by
  simp only [perform]
  cases Settings.Pipeline.load (.ofEnvironment surroundings.environment) with
  | ok pipeline =>
      obtain ⟨unsent, exitCode⟩ := screenScript_ends pipeline script
      refine ⟨unsent, ?_⟩
      rintro _ ⟨⟩
      exact exitCode
  | error error => exact ⟨sent_ofSettingsError _ error, nofun⟩

theorem perform_run_ends {settings : Settings} {sorted : Sorted} {testMode : Bool}
    {options : RunOptions} (gives : sorted.Gives testMode options)
    (loads : Settings.load surroundings.environment = .ok settings) (script : List Char) :
    EndsRun settings sorted testMode script (perform surroundings (.run options) script) := by
  simp only [perform, loads]
  exact runScript_ends gives surroundings.transport

theorem EndsRun.session {settings : Settings} {sorted : Sorted} {testMode : Bool}
    {conclusion : Conclusion} (ends : EndsRun settings sorted testMode script conclusion)
    (threshold : Threshold) :
    EndsRun settings sorted testMode script (conclusion.session threshold).toConclusion :=
  ⟨ends.atMostOne, ends.sends, ends.messages, ends.ends, ends.unsent, ends.hasCap⟩

/-- A session carries out what its arguments ask for. -/
theorem run_eq_session (opens : Opening.ofArguments arguments = .ok opening)
    (isThreshold : chooseThreshold surroundings.environment opening.level = .ok threshold)
    (isTask : Task.ofArguments opening.command opening.arguments = .ok task)
    (isRead : surroundings.readScript task.path = some text) :
    run surroundings arguments =
      (perform surroundings task.activity (Text.unifyLineEnds text)).session threshold := by
  simp only [run, opens, isThreshold, isTask, performTask, isRead]

/-- Surroundings of a session: an instance with an endpoint, a short script, and an answer. -/
def sampleSurroundings (endpoint : String) : Surroundings where
  environment :=
    [("SERVICENOW_INSTANCE_URL", "https://dev12345.service-now.com"),
     ("SERVICENOW_USERNAME", "admin"), ("SERVICENOW_PASSWORD", "secret"),
     ("SERVICENOW_SCRIPT_ENDPOINT", endpoint)]
  readScript := fun _ => some ['a']
  transport := fun _ => ⟨.ok ⟨200, "[1]".toList⟩, 0⟩

/-- The settings that these surroundings give. -/
def sampleSettings (endpoint : String) : Settings where
  location := ⟨"https://dev12345.service-now.com", "admin", "secret", endpoint⟩
  pipeline := ⟨⟨30000, by decide⟩, ⟨10000, by decide⟩, ⟨100, by decide⟩, .info⟩

theorem passes_sample (endpoint : String) (testMode : Bool) :
    Passes (sampleSettings endpoint) testMode ['a'] where
  notBlank := ⟨'a', by decide, by decide⟩
  withinLength := show (1 : Int) ≤ 10000 by decide
  unlisted := by decide +kernel
  isExpression := fun _ => by decide +kernel

end

end CommandLine

end ScriptGate
