import RideQuery.Answer.Process

/-!
# Web service

Questions and answers over the web.  A question is posted as a JSON object and
answered with one; the sample questions and the health of the service are looked
up.  Anything that goes wrong inside the service, for want of room or otherwise, shows as a
page without JSON.
-/

namespace RideQuery.Web

open RideQuery.Number RideQuery.Text RideQuery.Answer

/-- A request of a client. -/
structure Request where
  method : String
  /-- The path, possibly with a query and a fragment behind it. -/
  target : String
  contentType : String
  body : String

/-- What a request is answered with: a JSON text, or a page of no interest to programs. -/
structure Response where
  status : Nat
  json : Option String

/-- A response with the statements that were executed for it. -/
structure Exchange where
  response : Response
  executed : List Answer.Request

namespace Response

/-- A page with a status. -/
def page (status : Nat) : Response :=
  { status, json := none }

/-- The failure of the service itself. -/
def broken : Response := page 500

/-- A value with a status, if it can be written. -/
def ofValue (room : Room) (status : Nat) (value : Value) : Response :=
  match Json.write Json.Style.web room.writing value with
  | .ok text => { status, json := some text }
  | .error _ => broken

/-- A response that nothing was executed for. -/
def alone (response : Response) : Exchange :=
  { response, executed := [] }

end Response

/-! ## Routes -/

/-- What a path leads to. -/
inductive Route where
  | health
  | samples
  | query
  /-- A file beside the service, of which there are none. -/
  | file
  deriving DecidableEq

namespace Route

/-- The folder that files would be in. -/
def folder : List Char := "/static/".toList

/-- Whether a path names a file. -/
def isFile (path : List Char) : Bool :=
  match dropExact folder path with
  | some (c :: _) => c != '/'
  | _ => false

/-- The route of a path, if it leads anywhere. -/
def ofPath? (path : String) : Option Route :=
  match path with
  | "/health" => some .health
  | "/sample-questions" => some .samples
  | "/query" => some .query
  | other => if isFile other.toList then some .file else none

/-- The methods that a route answers itself. -/
def methods : Route → List String
  | .query => ["POST"]
  | _ => ["GET", "HEAD"]

end Route

/-- A path with escaped characters in place of their codes. -/
def unescaped : List Char → List Char
  | '%' :: high :: low :: rest =>
    match Json.hexValue? high, Json.hexValue? low with
    | some h, some l => Char.ofNat (16 * h + l) :: unescaped rest
    | _, _ => '%' :: unescaped (high :: low :: rest)
  | c :: rest => c :: unescaped rest
  | [] => []

/-- The path of a target, without the query and the fragment; it begins with one slash. -/
def pathOf (target : String) : String :=
  let path := unescaped (target.toList.takeWhile fun c => c != '?' && c != '#')
  String.ofList ('/' :: path.dropWhile (· == '/'))

/-! ## Payloads -/

/-- Whether a content type is one of JSON; parameters and case do not matter. -/
def isJsonType (contentType : String) : Bool :=
  let kind := lower (trim (contentType.toList.takeWhile (· != ';')))
  kind == "application/json".toList ||
    ("application/".toList.isPrefixOf kind && "+json".toList.isSuffixOf kind)

/-- A text without the mark of its encoding in front. -/
def dropMark (text : String) : String :=
  match text.toList with
  | '\uFEFF' :: rest => String.ofList rest
  | _ => text

/-- The document of a request's body, an unreadable one counting as null. -/
def payload (room : Room) (request : Request) : Except Json.ReadError Json.Document :=
  if isJsonType request.contentType then
    match Json.readWithin room.reading (dropMark request.body).toList with
    | .ok document => .ok document
    | .error .malformed => .ok .null
    | .error (.number _) => .ok .null
    | .error error => .error error
  else
    .ok .null

/-- A question that was posted, and whether an explanation is wanted along with the answer. -/
structure Posted where
  question : String
  explain : Bool

/--
The question of a payload, unless it is missing, no text or blank.  A question is made from
characters, so half of a pair of surrogates counts as the character that it is shown as.
-/
def Posted.ofPayload? : Json.Document → Option Posted
  | .dict members =>
    match Json.Document.lookup? members "question" with
    | some (.text letters) =>
      let question := letters.map Json.Letter.shown
      if (trim question).isEmpty then none
      else
        some
          { question := String.ofList question
            explain :=
              ((Json.Document.lookup? members "explain").map Json.Document.truthy).getD false }
    | _ => none
  | _ => none

/-! ## Answers -/

/-- The answer to a request without a question. -/
def questionRequired (room : Room) : Response :=
  .ofValue room 400
    (.dict [(.text "ok", .bool false), (.text "error", .text "question required")])

/-- The members of an outcome that a client is shown. -/
def shown (explain : Bool) (outcome : Outcome) : Dict :=
  [(.text "sql", .text outcome.sql), (.text "result", outcome.result),
    (.text "error", .ofOption outcome.error)] ++
    if explain then
      [(.text "explanation", .text outcome.explanation),
        (.text "execution_time", .int outcome.executionTime)]
    else
      []

/-- The response to an answered question. -/
def responseTo (room : Room) (explain : Bool) : Except NumberError Outcome → Response
  | .ok outcome => .ofValue room 200 (.dict (shown explain outcome))
  | .error _ => .broken

/-- Answers what was posted, given the readings of the clock before and after. -/
def answerPosted (room : Room) (answerer : Answerer) (request : Request)
    (started ended : Binary64) : Exchange :=
  match payload room request with
  | .error _ => Response.broken.alone
  | .ok document =>
    match Posted.ofPayload? document with
    | none => (questionRequired room).alone
    | some posted =>
      let run := answerer (some posted.question) started ended
      { response := responseTo room posted.explain run.outcome, executed := run.executed }

/-- What the service answers when it is asked whether it is well. -/
def health (room : Room) : Response :=
  .ofValue room 200 (.dict [(.text "ok", .bool true)])

/-- What the service answers when it is asked for questions to start with. -/
def samples (room : Room) : Response :=
  .ofValue room 200 (.dict [(.text "questions", .list (sampleQuestions.map Value.text))])

/-- What a route answers to a method of its own. -/
def serve (room : Room) (answerer : Answerer) (route : Route) (request : Request)
    (started ended : Binary64) : Exchange :=
  match route with
  | .health => (health room).alone
  | .samples => (samples room).alone
  | .query => answerPosted room answerer request started ended
  | .file => (Response.page 404).alone

/-- A response as it is sent: asked for its head alone, it has no JSON. -/
def Exchange.sent (method : String) (exchange : Exchange) : Exchange :=
  if method == "HEAD" then { exchange with response := .page exchange.response.status }
  else exchange

/-- Answers a request, given the readings of the clock before and after. -/
def respond (room : Room) (answerer : Answerer) (request : Request) (started ended : Binary64) :
    Exchange :=
  match Route.ofPath? (pathOf request.target) with
  | none => (Response.page 404).alone
  | some route =>
    let method := request.method.toUpper
    if route.methods.contains method then
      (serve room answerer route request started ended).sent method
    else if method == "OPTIONS" then (Response.page 200).alone
    else (Response.page 405).alone

end RideQuery.Web
