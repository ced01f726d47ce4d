import LiveBoard.Cli.Execution
import Mathlib.Data.List.DropRight

/-!
The settings warn of a missing token just when the client they make is signed out, unless the token
of the file is blank.

A blank value of the command line or the environment is passed over, and the client takes a blank
token for none. One in the file, with nothing laid over it, is a token to the settings alone.
-/

namespace LiveBoard

/-! ## Blank texts -/

namespace Text

variable {chars : List Char} {text trimmed : String}

/-- Nothing is left behind the first blanks if all that is left there is blank. -/
theorem dropWhile_isBlank_eq_nil (blank : ∀ c ∈ chars.dropWhile isBlank, isBlank c) :
    chars.dropWhile isBlank = [] := by
  -- Dropping blanks once more would change nothing.
  rw [← List.dropWhile_idempotent]
  exact List.dropWhile_eq_nil_iff.mpr blank

/-- Trimming leaves nothing of characters just when all of them are blank. -/
theorem trimChars_eq_nil_iff : trimChars chars = [] ↔ ∀ c ∈ chars, isBlank c := by
  simp only [trimChars, List.reverse_eq_nil_iff, List.dropWhile_eq_nil_iff, List.mem_reverse]
  -- The end is trimmed first, so what has to be blank is what the trimmed beginning left.
  constructor
  · intro blank
    exact List.dropWhile_eq_nil_iff.mp (dropWhile_isBlank_eq_nil blank)
  · intro blank c member
    exact blank c ((List.dropWhile_suffix isBlank).subset member)

/-- A text is passed over when trimming leaves nothing of its characters. -/
theorem nonBlank_eq (text : String) :
    nonBlank text =
      if trimChars text.toList = [] then none
      else some (String.ofList (trimChars text.toList)) := by
  simp only [nonBlank, trim, String.isEmpty_iff, String.ofList_eq_empty_iff]

/-- What trimming leaves of a text that is not blank is not blank either. -/
theorem isSome_nonBlank (left : nonBlank text = some trimmed) : (nonBlank trimmed).isSome := by
  rw [nonBlank_eq, Option.ite_none_left_eq_some] at left
  obtain ⟨whole, same⟩ := left
  obtain rfl := Option.some.inj same
  rw [nonBlank_eq, String.toList_ofList, if_neg, Option.isSome_some]
  rw [trimChars_eq_nil_iff]
  intro blank
  -- Blanks at the end are trimmed away, so all that is left would be blank only if it were nothing.
  refine whole (List.reverse_eq_nil_iff.mpr (dropWhile_isBlank_eq_nil fun c member => ?_))
  exact blank c (List.mem_reverse.mpr member)

end Text

/-! ## Clients without a token -/

namespace Client

variable {client : Client}

/-- Everything that is asked of a client fails for want of a token, and no request is made. -/
structure RefusesAll (client : Client) : Prop where
  calls : ∀ {α : Type} (call : Call α) (replies : List Reply),
    (client.call call).run replies = ([], .error .notSignedIn)
  feeds : ∀ (stream : StreamRequest) (since : Option String) (replies : List Reply),
    (client.openFeed stream since).run replies = ([], .error .notSignedIn)

/-- A request is refused for want of a token just when the client is signed out. -/
theorem request_eq_notSignedIn_iff {topic path : String} {method : Method} {accepted : Accepted}
    {body : Option Json} :
    client.request topic method path accepted body = .error .notSignedIn ↔
      client.isSignedIn = false := by
  unfold request isSignedIn
  cases client.token with
  | none => simp
  | some token =>
    -- With a token there may be other reasons why a request cannot be made.
    cases client.url? path with
    | none => simp
    | some url =>
      dsimp only
      split <;> simp

/-- An answer that is not accepted is not refused for want of a token. -/
theorem accept_ne_notSignedIn (topic : String) (url : Url) (reply : Reply) :
    accept topic url reply ≠ .error .notSignedIn := by
  -- Whether there is a token was settled before there was a reply.
  cases reply with
  | dropped => simp [accept]
  | answered status body complete =>
    simp only [accept]
    split
    · simp
    · split <;> simp

/-- Whatever the reply to a call, it does not make the call fail for want of a token. -/
theorem receive_ne_notSignedIn {α : Type} (call : Call α) (url : Url) (reply : Reply) :
    receive call url reply ≠ .error .notSignedIn := by
  have answered := accept_ne_notSignedIn call.topic url reply
  unfold receive
  cases accepted : accept call.topic url reply with
  | error error =>
    rw [accepted] at answered
    simpa [Bind.bind, Except.bind] using answered
  | ok answer =>
    obtain ⟨body, complete⟩ := answer
    simp only [Bind.bind, Except.bind]
    split
    · simp [throw, throwThe, MonadExceptOf.throw]
    · -- The body holds what the call asks for, or it cannot be read.
      cases call.decode body <;> simp [throw, throwThe, MonadExceptOf.throw, Pure.pure, Except.pure]

/-- A client that is signed in never fails for want of a token. -/
theorem run_call_of_isSignedIn (signedIn : client.isSignedIn) {α : Type} (call : Call α)
    (replies : List Reply) : ((client.call call).run replies).2 ≠ .error .notSignedIn := by
  unfold Client.call
  cases made : client.requestOf call with
  | error error =>
    -- A call that could not be made failed for want of a token only without one.
    rintro same
    obtain rfl : error = .notSignedIn := Except.error.inj same
    rw [request_eq_notSignedIn_iff.mp made] at signedIn
    cases signedIn
  | ok request => exact receive_ne_notSignedIn call request.url _

/-- A client is signed out just when it refuses everything. -/
theorem isSignedIn_eq_false_iff : client.isSignedIn = false ↔ client.RefusesAll := by
  constructor
  · intro signedOut
    constructor
    · intro α call replies
      have refused : client.requestOf call = .error .notSignedIn :=
        request_eq_notSignedIn_iff.mpr signedOut
      rw [Client.call, refused]
      rfl
    · intro stream since replies
      have refused : client.requestOfFeed stream since = .error .notSignedIn := by
        rw [requestOfFeed, request_eq_notSignedIn_iff.mpr signedOut]
        rfl
      rw [openFeed, refused]
      rfl
  · intro refuses
    -- One call that is refused is enough.
    by_contra signedIn
    refine run_call_of_isSignedIn (by simpa using signedIn) (.snapshot "") [] ?_
    rw [refuses.calls]

end Client

/-! ## Settings in layers -/

namespace Settings

/-- What is laid over a file: the word of the command line if it is not blank, or the variable. -/
def laidOver (word entry : Option String) : Option String :=
  (word.bind Text.nonBlank).or (entry.bind Text.nonBlank)

/-- What is laid over a file is not blank. -/
theorem isSome_nonBlank_of_laidOver {word entry : Option String} {value : String}
    (given : laidOver word entry = some value) : (Text.nonBlank value).isSome := by
  rw [laidOver, Option.or_eq_some_iff] at given
  -- Either layer trims the value, and passes over one of which nothing is left.
  rcases given with given | ⟨-, given⟩
  · obtain ⟨text, -, trimmed⟩ := Option.bind_eq_some_iff.mp given
    exact Text.isSome_nonBlank trimmed
  · obtain ⟨text, -, trimmed⟩ := Option.bind_eq_some_iff.mp given
    exact Text.isSome_nonBlank trimmed

/-- The settings warn of a missing token just when they have none. -/
theorem tokenMissing_mem_warnings_iff {settings : Settings} :
    .tokenMissing ∈ settings.warnings ↔ settings.token = none := by
  -- The other warnings are about the feeds.
  have delay : SettingsWarning.tokenMissing ∉
      (if settings.reconnectDelay = 0 then [SettingsWarning.noReconnectDelay] else []) := by
    split <;> simp
  have limit : SettingsWarning.tokenMissing ∉
      (if settings.frameLimit = 0 then [SettingsWarning.noFrames] else []) := by
    split <;> simp
  cases missing : settings.token <;> simp [warnings, missing, delay, limit]

end Settings

namespace Cli.Context

variable {platform : Platform} {environment : Environment} {files : Files} {invocation : Invocation}
  {context : Context} {client : Client}

/-- The server and the token of a context are those of its file, with others laid over them. -/
theorem exists_settings_of_resolve
    (resolved : Context.resolve platform environment files invocation = .ok context) :
    ∃ found source, findSettings environment files invocation.config = .ok (found, source) ∧
      context.settings.apiUrl = (Settings.laidOver invocation.overrides.apiUrl
        (environment.get? apiUrlVariable)).getD found.apiUrl ∧
      context.settings.token = (Settings.laidOver invocation.overrides.token
        (environment.get? tokenVariable)).or found.token := by
  -- Resolving fails only over the file, and lays the environment and then the words over it.
  unfold Context.resolve at resolved
  cases loaded : findSettings environment files invocation.config with
  | error fault =>
    rw [loaded] at resolved
    cases resolved
  | ok result =>
    obtain ⟨found, source⟩ := result
    rw [loaded] at resolved
    obtain rfl := Except.ok.inj resolved
    refine ⟨found, source, rfl, ?_, ?_⟩
    · simp only [Settings.applyOverrides, Settings.applyEnvironment, Settings.overlay,
        Settings.laidOver]
      cases invocation.overrides.apiUrl.bind Text.nonBlank <;> simp
    · simp only [Settings.applyOverrides, Settings.applyEnvironment, Settings.overlay,
        Settings.laidOver, Option.or_assoc]

/-- The settings make a client if the server has an address, and it is given no blank token. -/
theorem client_eq_ok_iff :
    context.client = .ok client ↔
      (Url.parse? context.platform.hosts (Client.trimAddress context.settings.apiUrl)).isSome ∧
      client = ⟨Client.trimAddress context.settings.apiUrl,
        context.settings.token.filter fun token => (Text.nonBlank token).isSome,
        context.platform.hosts⟩ := by
  unfold Context.client Client.new
  -- Whatever hosts are read, a client is made just if the address names one.
  cases parsed : Url.parse? context.platform.hosts (Client.trimAddress context.settings.apiUrl) with
  | none => simp [parsed, Except.mapError]
  | some url => simp [parsed, Except.mapError, eq_comm]

/-- The client is signed out just when the settings have no token but a blank one. -/
theorem isSignedIn_eq_false_iff_of_client (usable : context.client = .ok client) :
    client.isSignedIn = false ↔ ∀ token ∈ context.settings.token, Text.nonBlank token = none := by
  obtain ⟨-, rfl⟩ := client_eq_ok_iff.mp usable
  -- A blank token is filtered out when the client is made.
  cases context.settings.token <;> simp [Client.isSignedIn, Option.filter]

/--
When the settings warn of a missing token, and when the client that they make is signed out.

The address and the token are those of the file unless the command line or the environment lays
others over them that are not blank. The client is signed out, so that it refuses everything, just
when nothing is laid over a token of the file that is missing or blank; the settings warn just when
it is missing. So both agree unless nothing is laid over a blank token of the file.
-/
theorem warns_unless_blank
    (resolved : Context.resolve platform environment files invocation = .ok context)
    (usable : context.client = .ok client) :
    ∃ found source, findSettings environment files invocation.config = .ok (found, source) ∧
      let token := Settings.laidOver invocation.overrides.token (environment.get? tokenVariable)
      context.settings.apiUrl = (Settings.laidOver invocation.overrides.apiUrl
        (environment.get? apiUrlVariable)).getD found.apiUrl ∧
      context.settings.token = token.or found.token ∧
      (client.isSignedIn = false ↔ client.RefusesAll) ∧
      (client.isSignedIn = false ↔
        token = none ∧ ∀ held ∈ found.token, Text.nonBlank held = none) ∧
      (.tokenMissing ∈ context.settings.warnings ↔ token = none ∧ found.token = none) ∧
      ((.tokenMissing ∈ context.settings.warnings ↔ client.isSignedIn = false) ↔
        (token = none → ∀ held ∈ found.token, (Text.nonBlank held).isSome)) := by
  obtain ⟨found, source, loaded, url, token⟩ := exists_settings_of_resolve resolved
  refine ⟨found, source, loaded, ?_⟩
  generalize given : Settings.laidOver invocation.overrides.token
    (environment.get? tokenVariable) = laid at token ⊢
  have signedOut : client.isSignedIn = false ↔
      laid = none ∧ ∀ held ∈ found.token, Text.nonBlank held = none := by
    rw [isSignedIn_eq_false_iff_of_client usable, token]
    cases laid with
    | none => simp
    | some value =>
      -- What is laid over the file is not blank, so the client takes it.
      have left := Settings.isSome_nonBlank_of_laidOver given
      simp [Option.isSome_iff_ne_none.mp left]
  have warned : .tokenMissing ∈ context.settings.warnings ↔ laid = none ∧ found.token = none := by
    rw [Settings.tokenMissing_mem_warnings_iff, token, Option.or_eq_none_iff]
  refine ⟨url, token, Client.isSignedIn_eq_false_iff, signedOut, warned, ?_⟩
  rw [warned, signedOut]
  -- The two are told apart by a token of the file that nothing is laid over.
  cases laid with
  | some value => simp
  | none => cases found.token <;> simp [Option.isSome_iff_ne_none]

/-- The text of settings whose token is a blank. -/
def blankText : String := "[api]\ntoken = \" \"\n"

/-- Files of settings like that. -/
def blankFile : Files := fun _ => .ok blankText

/-- The question whether the settings of a file are fine. -/
def questionAbout (path : String) : Invocation :=
  ⟨.errand .checkSettings, false, some path, ⟨none, none, none⟩⟩

/-- The settings of that file, at a plain terminal. -/
def blankToken : Context :=
  ⟨⟨false, false⟩, { Settings.standard with token := some " " }, .file "config.toml", {}⟩

/-- The client that they make. -/
def tokenless : Client := ⟨"http://localhost:8000", none, .letters⟩

/-- The text is read as those settings. -/
theorem parse?_blankText : Settings.parse? blankText = some blankToken.settings := by
  decide +kernel

/-- Nothing is laid over the settings of the file. -/
theorem resolve_blankFile :
    Context.resolve {} ⟨[]⟩ blankFile (questionAbout "config.toml") = .ok blankToken := by
  have loaded : findSettings ⟨[]⟩ blankFile (some "config.toml") =
      .ok (blankToken.settings, .file "config.toml") := by
    simp only [findSettings, Option.some_or, Settings.load, blankFile, parse?_blankText]
    rfl
  rw [Context.resolve, questionAbout, loaded]
  rfl

/-- The standard server has an address, and a blank token is no token. -/
theorem client_blankToken : blankToken.client = .ok tokenless :=
  have blank : (some " ").filter (fun token => (Text.nonBlank token).isSome) = none := by
    decide +kernel
  client_eq_ok_iff.mpr ⟨by decide +kernel, by simp only [blankToken, blank]; rfl⟩

/-- With a blank token in the file nothing is warned of, and yet the client is signed out. -/
theorem not_forall_warned :
    ¬ ∀ (platform : Platform) (environment : Environment) (files : Files) (invocation : Invocation)
      (context : Context) (client : Client),
      Context.resolve platform environment files invocation = .ok context →
      context.client = .ok client →
      (.tokenMissing ∈ context.settings.warnings ↔ client.isSignedIn = false) := by
  intro agree
  -- The settings have a token and do not warn, but the client that they make has none.
  have warned := (agree _ _ _ _ _ _ resolve_blankFile client_blankToken).mpr rfl
  exact absurd warned (by decide)

/-- The settings with the blank token are called valid, and the client refuses everything. -/
theorem warns_unless_blank_blankFile :
    Context.resolve {} ⟨[]⟩ blankFile (questionAbout "config.toml") = .ok blankToken ∧
    blankToken.client = .ok tokenless ∧ tokenless.RefusesAll ∧
    .tokenMissing ∉ blankToken.settings.warnings ∧
    blankToken.describeWarnings = "[OK]Configuration is valid\n" := by
  obtain ⟨found, source, loaded, url, token, refuses, signedOut, warned, agree⟩ :=
    warns_unless_blank resolve_blankFile client_blankToken
  refine ⟨resolve_blankFile, client_blankToken, refuses.mp rfl, ?_, by decide +kernel⟩
  intro missing
  -- The token of the file is there, though it is blank.
  have held : some " " = found.token := token
  rw [(warned.mp missing).2] at held
  cases held

end Cli.Context

end LiveBoard
