import LiveBoard.Api.Client
import LiveBoard.Proofs.Url.Hosts
import LiveBoard.Proofs.Url.Targets

/-!
What the targets of requests name.

An id is spliced into the path of its call as it is, and the path is read as part of an address. An
id is read as a segment of its own if nothing in it has a meaning in a path, and the path is read as
another one in all other cases.
-/

namespace LiveBoard

namespace Call

variable {α : Type}

/-- The ids that a call names. -/
def ids : Call α → List String
  | .snapshot boardId | .createTask boardId _ | .sendChat boardId _ => [boardId]
  | .updateTask boardId taskId _ | .deleteTask boardId taskId | .listComments boardId taskId
  | .createComment boardId taskId _ => [boardId, taskId]
  | .decideApproval boardId approvalId _ => [boardId, approvalId]

/-- The segments of what belongs to a board. -/
def boardSegments (boardId : String) (rest : List String) : List String :=
  "api" :: "v1" :: "boards" :: boardId :: rest

/-- The segments of the endpoint of a call, each id a segment of its own. -/
def segments : Call α → List String
  | .snapshot boardId => boardSegments boardId ["snapshot"]
  | .createTask boardId _ => boardSegments boardId ["tasks"]
  | .updateTask boardId taskId _ | .deleteTask boardId taskId =>
    boardSegments boardId ["tasks", taskId]
  | .listComments boardId taskId | .createComment boardId taskId _ =>
    boardSegments boardId ["tasks", taskId, "comments"]
  | .decideApproval boardId approvalId _ => boardSegments boardId ["approvals", approvalId]
  | .sendChat boardId _ => boardSegments boardId ["memory"]

/-- Whether the ids of a call mean nothing in a path but themselves, the last one at its end. -/
def isPlain (call : Call α) : Bool :=
  call.ids.all (fun id => Url.isPlain id.toList) && call.path.toList.getLast?.all (!Url.isMargin ·)

/-- The path of what belongs to a board is the one of its segments. -/
theorem toList_boardPath {boardId rest : String} {names : List String}
    (text : rest.toList = Url.pathText (names.map String.toList)) :
    (boardPath boardId rest).toList =
      Url.pathText ((boardSegments boardId names).map String.toList) := by
  -- All in front of the id is fixed, and what comes behind it is given by segments.
  have spliced : boardPath boardId rest = "/api/v1/boards/" ++ boardId ++ rest := rfl
  simp [spliced, boardSegments, text, Url.pathText]

/-- The path of a call is the one of its segments. -/
theorem toList_path (call : Call α) :
    call.path.toList = Url.pathText (call.segments.map String.toList) := by
  cases call with
  | snapshot | createTask | sendChat => exact toList_boardPath rfl
  | updateTask | deleteTask | listComments | createComment | decideApproval =>
    exact toList_boardPath (by simp [Url.pathText])

/-- The path of a call starts with a slash. -/
theorem head?_path (call : Call α) : call.path.toList.head? = some '/' := by
  rw [toList_path]
  -- The path of segments has a slash in front of each.
  cases call <;> rfl

/-- The ids of a call are found among its segments. -/
theorem ids_eq (call : Call α) :
    call.ids = (call.segments.drop 3).take 1 ++ (call.segments.drop 5).take 1 := by
  cases call <;> rfl

/-- The segments of a call are plain if its ids are. -/
theorem isPlainPath_segments (call : Call α) :
    Url.isPlainPath (call.segments.map String.toList) = call.isPlain := by
  rw [Url.isPlainPath, ← toList_path, isPlain, List.all_map]
  congr 1
  -- All other segments are fixed texts, whose letters mean nothing but themselves.
  cases call <;> rfl

end Call

namespace Client

variable {origin : Url.Origin} {token : Option String} {hosts : Url.HostMapping} {client : Client}

/-- There is nothing to trim off the address of a server. -/
theorem trimAddress_text (origin : Url.Origin) : trimAddress origin.text = origin.text := by
  obtain ⟨first, inner, last, ends, start, finish⟩ := origin.exists_ends
  -- Both ends are letters or digits, and so is what stands where a slash would be taken off.
  have kept : Text.trimChars (first :: (inner ++ [last])) = first :: (inner ++ [last]) :=
    Text.trimChars_of_ends (Text.isBlank_of_isAlphanum start) (Text.isBlank_of_isAlphanum finish)
  have slash : last ≠ '/' := by
    rintro rfl
    cases finish
  rw [trimAddress, Text.trim, String.toList_ofList, ends, kept, ← String.toList_inj,
    String.toList_ofList, ends]
  simp [slash]

/-- The client of a server asks that server for each path. -/
theorem url?_of_new (made : Client.new origin.text token hosts = .ok client) :
    ∃ server : Url, ∀ {path : String}, path.toList.head? = some '/' →
      client.url? path = some (server.withEnd path.toList) := by
  -- The definition is opened as it stands, since its equation takes long to come by.
  delta Client.new at made
  simp only [trimAddress_text] at made
  split at made
  · cases made
  · rename_i server known
    refine ⟨server, fun slash => ?_⟩
    rw [← Except.ok.inj made, url?, origin.parse?_append hosts slash, known, Option.map_some]

/-- A request is made of an address, and of nothing else that depends on the path. -/
theorem url?_of_requestOf {α : Type} {call : Call α} {request : Request}
    (asked : client.requestOf call = .ok request) : client.url? call.path = some request.url := by
  unfold requestOf Client.request at asked
  split at asked
  · cases asked
  · cases asked
  · -- Without a token or an address there is no request.
    rename_i found
    split at asked
    · rw [found, ← Except.ok.inj asked]
    · cases asked

/-- A signed-in client whose token can stand in a header makes a request of every call. -/
theorem exists_requestOf (made : Client.new origin.text token hosts = .ok client) {kept : String}
    (signed : client.token = some kept) (header : isHeaderText kept) {α : Type} (call : Call α) :
    ∃ request, client.requestOf call = .ok request := by
  obtain ⟨server, found⟩ := url?_of_new made
  simp [requestOf, Client.request, signed, found call.head?_path, header]

/-- A server reads what a call names from the target of its request, just if that is plain. -/
theorem readTarget_requestOf (made : Client.new origin.text token hosts = .ok client) {α : Type}
    {call : Call α} {request : Request} (asked : client.requestOf call = .ok request) :
    Url.readTarget request.url.target = (call.segments.map Text.toUtf8, none) ↔ call.isPlain := by
  obtain ⟨server, found⟩ := url?_of_new made
  -- The address of the request is that of the server with the path of the call at its end.
  have url : request.url = server.withEnd (Url.pathText (call.segments.map String.toList)) := by
    rw [← call.toList_path]
    exact Option.some.inj ((url?_of_requestOf asked).symm.trans (found call.head?_path))
  -- A text is meant as its bytes, which are those of its characters.
  have read : call.segments.map Text.toUtf8 = (call.segments.map String.toList).map Url.bytes := by
    rw [List.map_map]
    exact List.map_congr_left fun segment _ => (Url.bytes_toList segment).symm
  have some : call.segments.map String.toList ≠ [] := by
    cases call <;> simp [Call.segments, Call.boardSegments]
  rw [url, read, Url.readTarget_withEnd server some, call.isPlainPath_segments]

/-- Plain calls of which any ids differ are read as different paths. -/
theorem target_ne_of_isPlain (made : Client.new origin.text token hosts = .ok client) {α β : Type}
    {call : Call α} {other : Call β} {request another : Request}
    (asked : client.requestOf call = .ok request)
    (askedOther : client.requestOf other = .ok another)
    (plain : call.isPlain) (plainOther : other.isPlain) (apart : call.ids ≠ other.ids) :
    request.url.target ≠ another.url.target := by
  intro same
  -- From one target one path is read, and it tells the ids of a call.
  have read := (readTarget_requestOf made asked).mpr plain
  rw [same, (readTarget_requestOf made askedOther).mpr plainOther] at read
  have segments : other.segments = call.segments :=
    List.map_injective_iff.mpr (fun _ _ => Text.toUtf8_inj) (Prod.ext_iff.mp read).1
  rw [call.ids_eq, other.ids_eq, segments] at apart
  exact apart rfl

/--
A server reads the ids of a call just if they are plain, and so tells such calls from each other.

The request is made in any case by a client that is signed in with a token that fits a header.
-/
theorem requestOf_addresses (made : Client.new origin.text token hosts = .ok client) :
    (∀ {kept : String}, client.token = some kept → isHeaderText kept → ∀ {α : Type} (call : Call α),
      ∃ request, client.requestOf call = .ok request) ∧
    (∀ {α : Type} (call : Call α) (request : Request), client.requestOf call = .ok request →
      (Url.readTarget request.url.target = (call.segments.map Text.toUtf8, none) ↔
        call.isPlain)) ∧
    ∀ {α β : Type} (call : Call α) (other : Call β) (request another : Request),
      client.requestOf call = .ok request → client.requestOf other = .ok another →
      call.isPlain → other.isPlain → call.ids ≠ other.ids →
      request.url.target ≠ another.url.target :=
  ⟨fun signed header _ => exists_requestOf made signed header,
    fun _ _ => readTarget_requestOf made,
    fun _ _ _ _ => target_ne_of_isPlain made⟩

/-- A server on the machine itself. -/
def localOrigin : Url.Origin where
  scheme := "http"
  host := "localhost"
  port := "8000"
  known := rfl
  inner := by simp [Url.endsServer, Url.isSlash]
  numbered := by decide
  digits := by simp [Char.isDigit]

/-- The client of the server on the machine itself. -/
def localClient : Client := ⟨"http://localhost:8000", some "token", .letters⟩

/-- The address of that server is read alike, however hosts are mapped. -/
theorem parse?_localOrigin (hosts : Url.HostMapping) :
    Url.parse? hosts localOrigin.text =
      some ⟨.http, .domain "localhost".toList, some 8000, [[]], none, none⟩ := by
  -- All letters of the name are small ones of ASCII, so that it is read as it is.
  have named := Url.Host.parse?_of_isAscii hosts (by decide : "localhost".toList ≠ [])
    (by simp [Url.Punycode.isAscii]) (by simp [Url.isForbidden]) (by decide +kernel)
    (by decide +kernel)
  have cut : Url.cutAt ':' (Url.meaningful localOrigin.text.toList) =
      ("http".toList, some "//localhost:8000".toList) := by decide +kernel
  have ended : ("//localhost:8000".toList.dropWhile Url.isSlash).span
      (fun c => !Url.isSlash c && c != '?' && c != '#') = ("localhost:8000".toList, []) := by
    decide +kernel
  have server : Url.splitPort false (Url.afterUser "localhost:8000".toList) =
      ("localhost".toList, "8000".toList) := by decide +kernel
  have lowered : "localhost".toList.map Char.toLower = "localhost".toList := by decide +kernel
  simp only [Url.parse?, cut, ended, server, named, lowered]
  rfl

/-- The client of a local server is made. -/
theorem new_localOrigin (hosts : Url.HostMapping) :
    Client.new localOrigin.text (some "token") hosts = .ok { localClient with hosts } := by
  have kept : (some "token").filter (fun token => (Text.nonBlank token).isSome) = some "token" := by
    decide +kernel
  delta Client.new
  simp only [trimAddress_text, parse?_localOrigin, kept]
  rfl

/-- The client that maps hosts by letters and digits is one of them. -/
theorem new_localClient : Client.new localOrigin.text (some "token") .letters = .ok localClient :=
  new_localOrigin .letters

/-- Behind the mark of a fragment an id is lost, and the deletion of another task is asked for. -/
theorem not_forall_addressed :
    ¬ ∀ (hosts : Url.HostMapping) (origin : Url.Origin) (token : Option String) (client : Client),
      Client.new origin.text token hosts = .ok client →
      (∀ {α : Type} (call : Call α) (request : Request), client.requestOf call = .ok request →
        Url.readTarget request.url.target = (call.segments.map Text.toUtf8, none)) ∧
      ∀ {α : Type} (call other : Call α) (request another : Request),
        client.requestOf call = .ok request → client.requestOf other = .ok another →
        call.topic = other.topic → call.ids ≠ other.ids →
        request.url.target ≠ another.url.target := by
  intro addressed
  obtain ⟨request, asked⟩ :=
    exists_requestOf new_localClient rfl (by decide) (.deleteTask "b" "t#2")
  obtain ⟨another, askedOther⟩ :=
    exists_requestOf new_localClient rfl (by decide) (.deleteTask "b" "t")
  -- The two addresses differ in their fragments, which are no part of a target.
  have same : (localClient.url? (Call.deleteTask "b" "t#2").path).map Url.target =
      (localClient.url? (Call.deleteTask "b" "t").path).map Url.target := by decide +kernel
  rw [url?_of_requestOf asked, url?_of_requestOf askedOther, Option.map_some, Option.map_some]
    at same
  exact (addressed .letters localOrigin (some "token") localClient new_localClient).2 _ _ request
    another asked askedOther rfl (by decide) (Option.some.inj same)

/-- Two tasks of a board are told from each other, and one whose name holds a mark is misread. -/
theorem requestOf_addresses_localOrigin :
    (∃ request another misled,
      localClient.requestOf (.deleteTask "b" "t") = .ok request ∧
      localClient.requestOf (.deleteTask "b" "u 2") = .ok another ∧
      localClient.requestOf (.deleteTask "b" "t#2") = .ok misled ∧
      request.url.target ≠ another.url.target ∧
      Url.readTarget another.url.target =
        (["api", "v1", "boards", "b", "tasks", "u 2"].map Text.toUtf8, none) ∧
      Url.readTarget misled.url.target ≠
        (["api", "v1", "boards", "b", "tasks", "t#2"].map Text.toUtf8, none)) := by
  -- A blank in an id is written out and read as a blank, while a mark cuts the path off.
  obtain ⟨made, read, apart⟩ := requestOf_addresses new_localClient
  obtain ⟨request, asked⟩ := made rfl (by decide) (.deleteTask "b" "t")
  obtain ⟨another, askedOther⟩ := made rfl (by decide) (.deleteTask "b" "u 2")
  obtain ⟨misled, askedWrong⟩ := made rfl (by decide) (.deleteTask "b" "t#2")
  exact ⟨request, another, misled, asked, askedOther, askedWrong,
    apart _ _ _ _ asked askedOther (by decide) (by decide) (by decide),
    (read _ _ askedOther).mpr (by decide),
    fun same => absurd ((read _ _ askedWrong).mp same) (by decide)⟩

end Client

end LiveBoard
