import Cliptown.Gate.Catalog
import Cliptown.Gate.Credentials
import Cliptown.Gate.Dispatch

/-!
# Tools over HTTP

The endpoint `/mcp` takes a JSON-RPC request with a bearer token. A call of a tool becomes a message to the world loop,
as if the agent's worker had sent it; everything else is answered at once.

* `HttpRequest`, `HttpResponse`, `JsonRpcRequest` — what comes and what goes.
* `authenticate`, `handleRequest` — who calls, and what the endpoint does: it answers, or it asks the loop.
* `handleToolsCall`, `toolReply`, `finish` — the message to the loop, and the answer from what the loop replies.
* `HttpResponse.reading`, `JsonRpcRequest.reading`, `http_answers` — every answer other than `401` is the one that the
  method of the request has.
* `readOutcome`, `http_outcome` — what a client reads off the answer is the outcome of the call.
-/

namespace Cliptown.Gate

open Cliptown.Lib Cliptown.Task Cliptown.World

/-! ### Requests and responses -/

/-- A request: its header `authorization`, and its body as it is read, if that is JSON in which no field of the request
itself is repeated. Of a key that is repeated further inside, the last value counts. -/
structure HttpRequest where
  authorization : Option String
  body : Option Json

/-- A response; the body may be empty. -/
structure HttpResponse where
  status : ℕ
  body : Option Json

/-- Source: `mcp_http.rs` `JsonRpcRequest` -/
structure JsonRpcRequest where
  jsonrpc : String
  id : Option Json
  method : String
  params : Json

/-- Source: `mcp_http.rs` `rpc_error` -/
def rpcError (id : Json) (code : ℤ) (message : String) : Json :=
  .obj [("jsonrpc", .str "2.0"), ("id", id), ("error", .obj [("code", .int code), ("message", .str message)])]

/-- Source: `mcp_http.rs` `rpc_ok` -/
def rpcOk (id result : Json) : Json :=
  .obj [("jsonrpc", .str "2.0"), ("id", id), ("result", result)]

/-- Source: `axum::response::Json` -/
def HttpResponse.json (body : Json) : HttpResponse :=
  ⟨200, some body⟩

/-- Source: `mcp_http.rs` `unauthorized` -/
def unauthorized (detail : String) : HttpResponse :=
  ⟨401, some (.obj [("error", .str "unauthorized"), ("detail", .str detail)])⟩

namespace JsonRpcRequest

/-- The fields by their names; an absent id may be `null`. -/
def ofFields (body : Json) : Option JsonRpcRequest := do
  let jsonrpc ← ((body.get "jsonrpc").getD (.str "")).asStr
  let method ← body.getStr "method"
  return ⟨jsonrpc, (body.get "id").filter fun v => ¬ v.isNull, method, (body.get "params").getD .null⟩

/-- An object, or a list of the fields in the order of their declaration. Source: `serde_json::from_slice` -/
def ofJson : Json → Option JsonRpcRequest
  | .obj fields => ofFields (.obj fields)
  | .arr values =>
      if 3 ≤ values.length ∧ values.length ≤ 4 then
        ofFields (.obj (["jsonrpc", "id", "method", "params"].zip values))
      else none
  | _ => none

/-- The id that an answer carries. -/
def replyId (req : JsonRpcRequest) : Json :=
  req.id.getD .null

end JsonRpcRequest

/-! ### The endpoint -/

/-- Source: `mcp_http.rs` `authenticate` -/
def authenticate (vars : String → Option String) (db : Db) (authorization : Option String) :
    Except HttpResponse String := do
  let token ← require (bearer authorization) (unauthorized "missing bearer token")
  let (agentId, secret) ← require (splitOnce ':' token) (unauthorized "token must be <agent_id>:<secret>")
  match validateAgentSecret vars db agentId secret with
  | .error _ => .error (unauthorized "invalid agent secret")
  | .ok _ => return agentId

/-- Source: `mcp_http.rs` `handle_initialize` -/
def handleInitialize : Json :=
  .obj [("protocolVersion", .str "2025-03-26"),
    ("capabilities", .obj [("tools", .obj [("listChanged", .bool false)])]),
    ("serverInfo", .obj [("name", .str "cliptown-world"), ("version", .str "0.0.1")])]

/-- Source: `mcp_http.rs` `tool_error_content` -/
def toolErrorContent (message : String) : Json :=
  .obj [("content", .arr [.obj [("type", .str "text"), ("text", .str message)]]), ("isError", .bool true)]

/-- The message to the loop for a call of a tool, or what is answered without it. Source: `mcp_http.rs`
`handle_tools_call`, up to the channel -/
def handleToolsCall (newUuid : String) (params : Json) : Except Json Json :=
  let name := (params.getStr "name").getD ""
  if name = "" then .error (toolErrorContent "missing tool name")
  else .ok (.obj [("type", .str "mcp_call"), ("v", .int 1), ("tool", .str name),
    ("args", (params.get "arguments").getD .null), ("corr_id", .str ("http-" ++ newUuid))])

/-- What the endpoint does with a request: it answers at once, or it sends a message on behalf of an agent and answers
under an id when the loop has replied. -/
inductive HttpAction where
  | answer (response : HttpResponse)
  | ask (agentId : String) (id msg : Json)

/-- The methods that are answered without the loop. Source: `mcp_http.rs` `handle_request`, the `match` -/
def handleMethod (newUuid agentId : String) (req : JsonRpcRequest) : HttpAction :=
  if req.method = "initialize" then .answer (.json (rpcOk req.replyId handleInitialize))
  else if req.method = "tools/list" then .answer (.json (rpcOk req.replyId handleToolsList))
  else if req.method = "tools/call" then
    match handleToolsCall newUuid req.params with
    | .error content => .answer (.json (rpcOk req.replyId content))
    | .ok msg => .ask agentId req.replyId msg
  else if (stripPrefix "notifications/" req.method).isSome then .answer ⟨202, none⟩
  else .answer (.json (rpcError req.replyId (-32601) ("method not found: " ++ req.method)))

/-- Source: `mcp_http.rs` `handle_request` -/
def handleRequest (vars : String → Option String) (db : Db) (newUuid : String) (http : HttpRequest) : HttpAction :=
  match authenticate vars db http.authorization with
  | .error response => .answer response
  | .ok agentId =>
      match http.body.bind JsonRpcRequest.ofJson with
      | none => .answer (.json (rpcError .null (-32600) "invalid JSON"))
      | some req =>
          if req.jsonrpc ≠ "2.0" then .answer (.json (rpcError req.replyId (-32600) "jsonrpc must be \"2.0\""))
          else handleMethod newUuid agentId req

/-- The answer from what the loop replies. Source: `mcp_http.rs` `handle_tools_call`, from the channel on -/
def toolReply (jsonText : Json → String) (reply : Json) : Json :=
  match reply.getStr "type" with
  | some "mcp_reply" =>
      .obj [("content", .arr [.obj [("type", .str "text"),
        ("text", .str (jsonText ((reply.get "result").getD .null)))]]), ("isError", .bool false)]
  | some "mcp_error" =>
      .obj [("content", .arr [.obj [("type", .str "text"), ("text", .str (jsonText (.obj
        [("code", .str ((reply.getStr "code").getD "error")),
          ("message", .str ((reply.getStr "message").getD ""))])))]]), ("isError", .bool true)]
  | _ => toolErrorContent "dispatch returned unknown reply shape"

/-- The response of a call that the loop has answered. -/
def finish (jsonText : Json → String) (id reply : Json) : HttpResponse :=
  .json (rpcOk id (toolReply jsonText reply))

/-! ### Who calls -/

/-- **A request is let through** exactly if its token is the id of an agent, a colon and the agent's secret. -/
theorem authenticate_eq_ok_iff {vars : String → Option String} {db : Db} {authorization : Option String}
    {agentId : String} : authenticate vars db authorization = .ok agentId ↔
      ∃ token secret, bearer authorization = some token ∧ splitOnce ':' token = some (agentId, secret) ∧
        Proved vars db agentId secret := by
  unfold authenticate
  simp only [bind_eq_ok, require_eq_ok, Prod.exists]
  constructor
  · rintro ⟨token, htoken, id, secret, hsplit, h⟩
    split at h
    · exact absurd h (by simp)
    · rename_i startupId hok
      obtain rfl := pure_eq_ok.mp h
      exact ⟨token, secret, htoken, hsplit, validateAgentSecret_isOk_iff.mp ⟨startupId, hok⟩⟩
  · rintro ⟨token, secret, htoken, hsplit, hproved⟩
    obtain ⟨startupId, hok⟩ := validateAgentSecret_isOk_iff.mpr hproved
    exact ⟨token, htoken, agentId, secret, hsplit, by rw [hok]; rfl⟩

/-- A refusal of the token. -/
theorem authenticate_error_status {vars : String → Option String} {db : Db} {authorization : Option String}
    {response : HttpResponse} (h : authenticate vars db authorization = .error response) :
    response.status = 401 := by
  unfold authenticate at h
  cases htoken : bearer authorization with
  | none =>
    rw [htoken] at h
    obtain rfl := Except.error.inj h
    rfl
  | some token =>
    cases hsplit : splitOnce ':' token with
    | none =>
      rw [htoken] at h
      simp only [require, hsplit, bind, Except.bind] at h
      obtain rfl := Except.error.inj h
      rfl
    | some parts =>
      rw [htoken] at h
      simp only [require, hsplit, bind, Except.bind] at h
      split at h
      · obtain rfl := Except.error.inj h
        rfl
      · exact absurd h (by simp [pure, Except.pure])

/-! ### What reaches the loop -/

/-- The message to the loop. -/
def callMessage (newUuid name : String) (args : Json) : Json :=
  .obj [("type", .str "mcp_call"), ("v", .int 1), ("tool", .str name), ("args", args),
    ("corr_id", .str ("http-" ++ newUuid))]

/-- The tool that a request names, and the arguments that it gives. -/
structure JsonRpcRequest.Calls (req : JsonRpcRequest) (name : String) (args : Json) : Prop where
  version : req.jsonrpc = "2.0"
  method : req.method = "tools/call"
  named : name ≠ ""
  name : (req.params.getStr "name").getD "" = name
  args : (req.params.get "arguments").getD .null = args

section Requests

variable {vars : String → Option String} {db : Db} {newUuid agentId : String} {http : HttpRequest}

theorem handleMethod_eq_ask_iff {req : JsonRpcRequest} {id msg : Json} {agentId' : String} :
    handleMethod newUuid agentId req = .ask agentId' id msg ↔ agentId' = agentId ∧ id = req.replyId ∧
      req.method = "tools/call" ∧ handleToolsCall newUuid req.params = .ok msg := by
  unfold handleMethod
  constructor
  · intro h
    split at h
    · exact absurd h (by simp)
    · split at h
      · exact absurd h (by simp)
      · split at h
        · rename_i hmethod
          split at h
          · exact absurd h (by simp)
          · rename_i msg' hmsg
            obtain ⟨rfl, rfl, rfl⟩ := HttpAction.ask.inj h
            exact ⟨rfl, rfl, hmethod, hmsg⟩
        · split at h
          · exact absurd h (by simp)
          · exact absurd h (by simp)
  · rintro ⟨rfl, rfl, hmethod, hmsg⟩
    rw [if_neg (by rw [hmethod]; decide), if_neg (by rw [hmethod]; decide), if_pos hmethod, hmsg]

theorem handleToolsCall_eq_ok_iff {params msg : Json} :
    handleToolsCall newUuid params = .ok msg ↔ (params.getStr "name").getD "" ≠ "" ∧
      msg = callMessage newUuid ((params.getStr "name").getD "") ((params.get "arguments").getD .null) := by
  unfold handleToolsCall
  dsimp only
  constructor
  · intro h
    split at h
    · exact absurd h (by simp)
    · rename_i hname
      exact ⟨hname, (Except.ok.inj h).symm⟩
  · rintro ⟨hname, rfl⟩
    rw [if_neg hname]
    rfl

/-- **What reaches the loop**: a call of a named tool, from an agent with its token. -/
theorem handleRequest_eq_ask_iff {id msg : Json} {agentId : String} :
    handleRequest vars db newUuid http = .ask agentId id msg ↔
      authenticate vars db http.authorization = .ok agentId ∧
        ∃ req name args, http.body.bind JsonRpcRequest.ofJson = some req ∧ req.Calls name args ∧
          id = req.replyId ∧ msg = callMessage newUuid name args := by
  unfold handleRequest
  constructor
  · intro h
    split at h
    · exact absurd h (by simp)
    · rename_i caller hcaller
      split at h
      · exact absurd h (by simp)
      · rename_i req hreq
        split at h
        · exact absurd h (by simp)
        · rename_i hversion
          obtain ⟨rfl, rfl, hmethod, hmsg⟩ := handleMethod_eq_ask_iff.mp h
          obtain ⟨hname, rfl⟩ := handleToolsCall_eq_ok_iff.mp hmsg
          exact ⟨hcaller, req, _, _, hreq, ⟨not_not.mp hversion, hmethod, hname, rfl, rfl⟩, rfl, rfl⟩
  · rintro ⟨hcaller, req, name, args, hreq, ⟨hversion, hmethod, hnamed, rfl, rfl⟩, rfl, rfl⟩
    simp only [hcaller, hreq, hversion, ne_eq, not_true_eq_false, if_false]
    exact handleMethod_eq_ask_iff.mpr ⟨rfl, rfl, hmethod, handleToolsCall_eq_ok_iff.mpr ⟨hnamed, rfl⟩⟩

/-! ### The kinds of answers -/

/-- What a client makes of a response: its request has been accepted, or there is a result or an error under an id. -/
inductive Reading where
  | accepted
  | result (id : Json)
  | error (id : Json) (code : ℤ)

/-- The code of an error. -/
def errorCode (error : Json) : Option ℤ :=
  match error.get "code" with
  | some (.int code) => some code
  | _ => none

/-- A response of the protocol carries an id, and either a result or an error; the response to what has been accepted
is empty. -/
def HttpResponse.reading (response : HttpResponse) : Option Reading :=
  match response.status, response.body with
  | 202, none => some .accepted
  | 200, some body =>
      match body.getStr "jsonrpc", body.get "id", body.get "result", body.get "error" with
      | some "2.0", some id, some _, none => some (.result id)
      | some "2.0", some id, none, some error => (errorCode error).map (.error id)
      | _, _, _, _ => none
  | _, _ => none

/-- What the method of a request has for an answer. The three methods have a result also without an id, and whatever
begins like a notification is accepted also with one. -/
def JsonRpcRequest.reading (req : JsonRpcRequest) : Reading :=
  if req.jsonrpc ≠ "2.0" then .error req.replyId (-32600)
  else if req.method ∈ ["initialize", "tools/list", "tools/call"] then .result req.replyId
  else if "notifications/".toList <+: req.method.toList then .accepted
  else .error req.replyId (-32601)

/-- The answer to a body, of which there may be nothing to read. -/
def bodyReading (body : Option Json) : Reading :=
  (body.bind JsonRpcRequest.ofJson).elim (.error .null (-32600)) JsonRpcRequest.reading

@[simp]
theorem reading_rpcOk (id result : Json) : (HttpResponse.json (rpcOk id result)).reading = some (.result id) :=
  rfl

@[simp]
theorem reading_rpcError (id : Json) (code : ℤ) (message : String) :
    (HttpResponse.json (rpcError id code message)).reading = some (.error id code) :=
  rfl

theorem stripPrefix_isSome {pre s : String} : (stripPrefix pre s).isSome ↔ pre.toList <+: s.toList := by
  unfold stripPrefix
  split
  · rename_i hprefix
    exact ⟨fun _ => hprefix, fun _ => rfl⟩
  · rename_i hprefix
    exact ⟨fun h => absurd h (by simp), fun h => absurd h hprefix⟩

/-- The answer of a method that does without the loop. -/
theorem handleMethod_reading {req : JsonRpcRequest} {response : HttpResponse} (hversion : req.jsonrpc = "2.0")
    (h : handleMethod newUuid agentId req = .answer response) : response.reading = some req.reading := by
  have hresult : req.method ∈ ["initialize", "tools/list", "tools/call"] → ∀ result,
      HttpAction.answer (.json (rpcOk req.replyId result)) = .answer response →
        response.reading = some req.reading := by
    intro hmethod result heq
    obtain rfl := HttpAction.answer.inj heq
    unfold JsonRpcRequest.reading
    rw [if_neg (not_not.mpr hversion), if_pos hmethod]
    exact reading_rpcOk _ _
  unfold handleMethod at h
  split at h
  · rename_i hmethod
    exact hresult (by simp [hmethod]) _ h
  · rename_i hfirst
    split at h
    · rename_i hmethod
      exact hresult (by simp [hmethod]) _ h
    · rename_i hlist
      split at h
      · rename_i hmethod
        split at h
        · exact hresult (by simp [hmethod]) _ h
        · exact absurd h (by simp)
      · rename_i hcall
        have hother : req.method ∉ ["initialize", "tools/list", "tools/call"] := by
          simp [hfirst, hlist, hcall]
        unfold JsonRpcRequest.reading
        rw [if_neg (not_not.mpr hversion), if_neg hother]
        split at h
        · rename_i hprefix
          obtain rfl := HttpAction.answer.inj h
          rw [if_pos (stripPrefix_isSome.mp hprefix)]
          rfl
        · rename_i hnot
          obtain rfl := HttpAction.answer.inj h
          rw [if_neg (mt stripPrefix_isSome.mpr hnot)]
          exact reading_rpcError _ _ _

/-- **What an agent is answered without the loop** is what its request has for an answer; whoever has no token of an
agent is answered `401`, whatever the body. -/
theorem handleRequest_reading {response : HttpResponse}
    (h : handleRequest vars db newUuid http = .answer response) :
    (response.status = 401 ∧ ∀ agentId, authenticate vars db http.authorization ≠ .ok agentId) ∨
      ((∃ agentId, authenticate vars db http.authorization = .ok agentId) ∧
        response.reading = some (bodyReading http.body)) := by
  unfold handleRequest at h
  split at h
  · rename_i refused hrefused
    refine .inl ⟨?_, fun agentId hok => absurd (hrefused.symm.trans hok) (by simp)⟩
    obtain rfl := HttpAction.answer.inj h
    exact authenticate_error_status hrefused
  · rename_i agentId hok
    refine .inr ⟨⟨agentId, hok⟩, ?_⟩
    unfold bodyReading
    split at h
    · rename_i hnone
      obtain rfl := HttpAction.answer.inj h
      rw [hnone]
      exact reading_rpcError _ _ _
    · rename_i req hreq
      rw [hreq, Option.elim_some]
      split at h
      · rename_i hversion
        obtain rfl := HttpAction.answer.inj h
        unfold JsonRpcRequest.reading
        rw [if_pos hversion]
        exact reading_rpcError _ _ _
      · rename_i hversion
        exact handleMethod_reading (not_not.mp hversion) h

/-- **Every request is answered by its method.** Without the token of an agent the answer is `401`. To an agent, what
is answered at once is what the method has for an answer, under the id of the request, or under none; and so is what is
answered to a call, whatever the loop replies. -/
theorem http_answers (vars : String → Option String) (db : Db) (newUuid : String) (http : HttpRequest) :
    match handleRequest vars db newUuid http with
    | .answer response =>
        (response.status = 401 ∧ ∀ agentId, authenticate vars db http.authorization ≠ .ok agentId) ∨
          ((∃ agentId, authenticate vars db http.authorization = .ok agentId) ∧
            response.reading = some (bodyReading http.body))
    | .ask agentId id _ => authenticate vars db http.authorization = .ok agentId ∧
        ∀ jsonText reply, (finish jsonText id reply).reading = some (bodyReading http.body) := by
  cases hrequest : handleRequest vars db newUuid http with
  | answer response => exact handleRequest_reading hrequest
  | ask agentId id msg =>
    obtain ⟨hok, req, name, args, hreq, hcalls, rfl, -⟩ := handleRequest_eq_ask_iff.mp hrequest
    refine ⟨hok, fun jsonText reply => ?_⟩
    unfold bodyReading JsonRpcRequest.reading
    rw [hreq, Option.elim_some, if_neg (not_not.mpr hcalls.version), if_pos (by simp [hcalls.method])]
    exact reading_rpcOk _ _

/-- A list of the tools is answered also to a request without an id. -/
example : bodyReading (some (.obj [("jsonrpc", .str "2.0"), ("method", .str "tools/list")])) = .result .null :=
  rfl

end Requests

/-! ### What a client reads -/

/-- What a client makes of the answer to a call: the text is the result, or a code and a message. -/
def readOutcome (parse : String → Option Json) (response : HttpResponse) : Option HandlerResult := do
  let result ← (← response.body).get "result"
  let text ←
    match result.get "content" with
    | some (.arr [block]) => block.getStr "text"
    | _ => none
  let value ← parse text
  if (← (← result.get "isError").asBool) then
    return .error (← value.getStr "code", ← value.getStr "message")
  else return .ok value

/-- What is written as text of an outcome. -/
def outcomeValue : HandlerResult → Json
  | .ok v => v
  | .error (code, message) => .obj [("code", .str code), ("message", .str message)]

/-- The reply to a call, from its outcome. -/
theorem dispatchMcp_reply (cfg : Config) (env : Env) {s : LoopState} {agentId : String} {caller : AvatarView}
    (hcaller : s.world.avatars.lookup agentId = some caller) (msg : Json) :
    (dispatchMcp cfg env s agentId msg).1 =
      match (callTool cfg env s caller (McpCall.ofJson msg).args (McpCall.ofJson msg).tool).1 with
      | .ok v => .obj [("type", .str "mcp_reply"), ("v", .int 1),
          ("corr_id", .str (McpCall.ofJson msg).corrId), ("result", v)]
      | .error (code, message) => mcpErr (McpCall.ofJson msg).corrId code message := by
  simp only [dispatchMcp, hcaller]
  rcases callTool cfg env s caller (McpCall.ofJson msg).args (McpCall.ofJson msg).tool with ⟨⟨code, message⟩ | v, t⟩
  · rfl
  · rfl

/-- **What a client reads off the answer is what the handler of the tool has answered**, a value or a code with a
message, where the text of that can be read back. -/
theorem http_outcome (cfg : Config) (env : Env) {vars : String → Option String} {db : Db} {newUuid : String}
    {http : HttpRequest} {agentId : String} {id msg : Json} {s : LoopState} {caller : AvatarView}
    {req : JsonRpcRequest} {name : String} {args : Json} (parse : String → Option Json)
    (hask : handleRequest vars db newUuid http = .ask agentId id msg)
    (hreq : http.body.bind JsonRpcRequest.ofJson = some req) (hcalls : req.Calls name args)
    (hcaller : s.world.avatars.lookup agentId = some caller)
    (htext : parse (cfg.jsonText (outcomeValue (callTool cfg env s caller args name).1)) =
      some (outcomeValue (callTool cfg env s caller args name).1)) :
    readOutcome parse (finish cfg.jsonText id (dispatchMcp cfg env s agentId msg).1) =
      some (callTool cfg env s caller args name).1 := by
  obtain ⟨-, req', name', args', hreq', hcalls', -, rfl⟩ := handleRequest_eq_ask_iff.mp hask
  obtain rfl := Option.some.inj (hreq.symm.trans hreq')
  obtain rfl := hcalls.name.symm.trans hcalls'.name
  obtain rfl := hcalls.args.symm.trans hcalls'.args
  have htool : (McpCall.ofJson (callMessage newUuid name args)).tool = name := rfl
  have hargs : (McpCall.ofJson (callMessage newUuid name args)).args = args := rfl
  rw [dispatchMcp_reply cfg env hcaller, htool, hargs]
  rcases houtcome : (callTool cfg env s caller args name).1 with ⟨code, message⟩ | v
  · rw [houtcome] at htext
    change (parse (cfg.jsonText (outcomeValue (.error (code, message))))).bind _ = _
    rw [htext]
    rfl
  · rw [houtcome] at htext
    change (parse (cfg.jsonText (outcomeValue (.ok v)))).bind _ = _
    rw [htext]
    rfl

/-- The engineer asks its peers over HTTP. -/
def askPeerRequest : HttpRequest where
  authorization := some (bearerOf "a-2" "dev-secret")
  body := some (.obj [("jsonrpc", .str "2.0"), ("id", .int 7), ("method", .str "tools/call"),
    ("params", .obj [("name", .str "ask_peer"), ("arguments", .obj [])])])

/-- The text of the answer. -/
def noResponse : String := "\x7b\"response\":null\x7d"

/-- It reads that no peer has answered. -/
theorem http_outcome_askPeer :
    readOutcome (fun text => if text = noResponse then some (.obj [("response", .null)]) else none)
      (finish (fun _ => noResponse) (.int 7) (dispatchMcp { sampleConfig with jsonText := fun _ => noResponse }
        (sampleEnv 0 "m") sampleStartup.state "a-2" (callMessage "u" "ask_peer" (.obj []))).1) =
      some (.ok (.obj [("response", .null)])) := by
  have hrequest : handleRequest (fun _ => none) sampleStartup.state.db "u" askPeerRequest =
      .ask "a-2" (.int 7) (callMessage "u" "ask_peer" (.obj [])) := by
    refine handleRequest_eq_ask_iff.mpr ⟨?_, _, "ask_peer", .obj [], rfl, ⟨rfl, rfl, by decide, rfl, rfl⟩, rfl, rfl⟩
    refine authenticate_eq_ok_iff.mpr ⟨"a-2:dev-secret", "dev-secret", ?_, ?_, ?_, rfl⟩
    · decide +kernel
    · decide +kernel
    · decide +kernel
  obtain ⟨caller, hcaller⟩ : ∃ caller, sampleStartup.state.world.avatars.lookup "a-2" = some caller :=
    Option.isSome_iff_exists.mp (by decide +kernel)
  exact http_outcome { sampleConfig with jsonText := fun _ => noResponse } (sampleEnv 0 "m") _ hrequest rfl
    ⟨rfl, rfl, by decide, rfl, rfl⟩ hcaller rfl

end Cliptown.Gate
