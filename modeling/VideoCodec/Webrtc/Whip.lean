import VideoCodec.Core.Types

/-! `WhipSession`: its members and its calls as functions on them. What the HTTP
client answers is an argument. -/
namespace VideoCodec

/-- A response of the server, with the headers that `Create` looks at. -/
structure Response where
  status : Int
  contentType : Option String := none
  body : String := ""
  location : Option String := none
  deriving DecidableEq, Repr

/-- How the POST of `Create` ends. -/
inductive PostReply where
  | notBuilt
  | failed
  | response (response : Response)
  deriving DecidableEq, Repr

/-- How the DELETE ends; `ok` tells whether the status is a success. -/
inductive DeleteReply where
  | notBuilt
  | failed
  | response (ok : Bool)
  deriving DecidableEq, Repr

structure WhipSession where
  /-- Whether `client_` could be made. -/
  client : Bool
  sessionId : String := ""
  answerSdp : String := ""
  resourceUrl : String := ""
  deriving DecidableEq, Repr

/-- What `Delete` returns and leaves, and the request it sends. -/
structure Deletion where
  ok : Bool
  request : Option String
  session : WhipSession

namespace WhipSession

def kMimeSdp : String := "application/sdp"

def trimLeft (text : String) : String := String.ofList (text.toList.dropWhile Char.isWhitespace)

def startsWithCaseInsensitive (haystack needle : String) : Bool :=
  (needle.toList.map Char.toLower).isPrefixOf (haystack.toList.map Char.toLower)

/-- `scheme://host[:port]`, of a URL with a scheme. -/
def origin : List Char → Option (List Char)
  | ':' :: '/' :: '/' :: rest => some (':' :: '/' :: '/' :: rest.takeWhile (· ≠ '/'))
  | c :: rest => (origin rest).map (c :: ·)
  | [] => none

/-- An absolute location stays as it is, another one is joined onto the origin. -/
def resolveLocation (baseUrl location : String) : String :=
  if startsWithCaseInsensitive location "http://" ||
      startsWithCaseInsensitive location "https://" then location
  else
    match origin baseUrl.toList with
    | none => location
    | some origin =>
      if location.toList.head? = some '/' then String.ofList origin ++ location
      else String.ofList origin ++ "/" ++ location

/-- What follows the last slash. -/
def lastSegment (url : String) : Option String :=
  if '/' ∈ url.toList then
    some (String.ofList (url.toList.reverse.takeWhile (· ≠ '/')).reverse)
  else none

def reset (w : WhipSession) : WhipSession :=
  { w with sessionId := "", answerSdp := "", resourceUrl := "" }

/-- Why `Create` does not take a response for an answer. -/
def refusal (response : Response) : Option String :=
  let body := trimLeft response.body
  if response.status ≠ 201 then
    some ("WHIP POST unexpected status " ++ toString response.status)
  else
    match response.contentType.filter fun type => !startsWithCaseInsensitive type kMimeSdp with
    | some type => some ("WHIP POST invalid Content-Type: " ++ type)
    | none =>
      if body.isEmpty then some "WHIP POST returned an empty body"
      else if !startsWithCaseInsensitive body "v=0" then some "WHIP POST returned a non-SDP body"
      else none

/-- A stored answer without a location cannot be torn down later. -/
def post (w : WhipSession) (endpoint : String) : PostReply → Except String String × WhipSession
  | .notBuilt | .failed => (.error "WHIP POST failed", w)
  | .response response =>
    match refusal response with
    | some error => (.error error, w)
    | none =>
      let answered := { w with answerSdp := trimLeft response.body }
      match response.location with
      | none => (.error "WHIP POST missing Location header", answered)
      | some location =>
        let url := resolveLocation endpoint location
        (.ok answered.answerSdp,
          { answered with
            resourceUrl := url
            sessionId := (lastSegment url).getD answered.sessionId })

/-- The section of `Create` under its lock, with what its handler gets. -/
def create (w : WhipSession) (endpoint : String) (reply : PostReply) :
    Except String String × WhipSession :=
  if w.client then w.reset.post endpoint reply else (.error "WHIP client not initialized", w.reset)

/-- The second section of `Delete`; `url` is what the first one has read. -/
def delete (w : WhipSession) (url : String) (reply : DeleteReply) : Deletion :=
  if url.isEmpty then ⟨false, none, w⟩
  else
    let dropped := { w with resourceUrl := "", sessionId := "" }
    if w.client then
      match reply with
      | .notBuilt => ⟨false, none, dropped⟩
      | .failed => ⟨false, some url, dropped⟩
      | .response ok => ⟨ok, some url, dropped⟩
    else ⟨false, none, dropped⟩

/-- The server-side session that is remembered. -/
def held (w : WhipSession) : List String := if w.resourceUrl.isEmpty then [] else [w.resourceUrl]

section Calls
variable {w : WhipSession} {endpoint url : String}

@[simp] theorem reset_client (w : WhipSession) : w.reset.client = w.client := rfl

@[simp] theorem reset_held (w : WhipSession) : w.reset.held = [] := rfl

theorem held_eq_nil : w.held = [] ↔ w.resourceUrl = "" := by
  rw [held]
  by_cases empty : w.resourceUrl = ""
  · simp [empty]
  · simp [empty]

theorem post_client (w : WhipSession) (endpoint : String) (reply : PostReply) :
    (w.post endpoint reply).2.client = w.client := by
  cases reply with
  | notBuilt | failed => rfl
  | response response =>
    rw [post]
    dsimp only
    split
    · rfl
    · split
      · rfl
      · rfl

/-- A `Create` that fails remembers nothing. -/
theorem post_failed {reply : PostReply} {error : String}
    (failed : (w.post endpoint reply).1 = .error error) :
    (w.post endpoint reply).2.held = w.held := by
  cases reply with
  | notBuilt | failed => rfl
  | response response =>
    rw [post] at failed ⊢
    dsimp only at failed ⊢
    split
    · rfl
    · rename_i accepted
      rw [accepted] at failed
      split
      · rfl
      · rename_i located
        rw [located] at failed
        cases failed

theorem create_client (w : WhipSession) (endpoint : String) (reply : PostReply) :
    (w.create endpoint reply).2.client = w.client := by
  rw [create]
  split
  · exact (post_client _ _ _).trans w.reset_client
  · exact w.reset_client

theorem create_failed {reply : PostReply} {error : String}
    (failed : (w.create endpoint reply).1 = .error error) :
    (w.create endpoint reply).2.held = [] := by
  rw [create] at failed ⊢
  split
  · rename_i client
    rw [if_pos client] at failed
    exact (post_failed failed).trans w.reset_held
  · exact w.reset_held

/-- Nothing is remembered without a client. -/
theorem create_offline (offline : w.client = false) (reply : PostReply) :
    (w.create endpoint reply).2.held = [] := by
  rw [create]
  rw [offline]
  exact w.reset_held

theorem delete_held (reply : DeleteReply) :
    (w.delete w.resourceUrl reply).session.held = [] := by
  rw [delete]
  split
  · rename_i empty
    simpa [held] using empty
  · dsimp only
    split
    · cases reply <;> rfl
    · rfl

/-- What is remembered is the target of the request, when that can be made. -/
theorem delete_request (client : w.resourceUrl ≠ "" → w.client = true) (reply : DeleteReply) :
    (w.delete w.resourceUrl reply).request.toList =
      if reply = .notBuilt then [] else w.held := by
  rw [delete, held]
  by_cases empty : w.resourceUrl = ""
  · simp [empty]
  · rw [client empty]
    cases reply <;> simp [empty]

end Calls

end WhipSession
end VideoCodec
