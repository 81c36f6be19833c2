import WifiDisplay.RtspCommon

/-! How the sessions take the bytes of the RTSP connection: `OnClientReadData` of
the sink and `OnServerReadData` of the source. -/

namespace WifiDisplay

inductive Dispatched where
  | request (r : RtspRequest)
  | response (r : RtspResponse)
  deriving DecidableEq, Repr

/-- What the handlers of a session do to the rest of its state. `handles` tells
whether a response handler waits for a CSeq. A handler also gets the text that its message came
with, and all that it does with the text is to parse it again, a request only if it is one that
`readsText` names. -/
structure RtspHandlers (σ : Type) where
  handles : σ → Int → Bool
  onResponse : σ → RtspResponse → Text → σ
  onRequest : σ → RtspRequest → Text → σ
  readsText : RtspRequest → Bool
  onResponse_congr : ∀ a r {message message' : Text},
    (RtspResponse.parse {} message).1 = (RtspResponse.parse {} message').1 →
    (RtspResponse.parse {} message).2.code = (RtspResponse.parse {} message').2.code →
      onResponse a r message = onResponse a r message'
  onRequest_congr : ∀ a r {message message' : Text},
    RtspRequest.parse {} message = RtspRequest.parse {} message' →
      onRequest a r message = onRequest a r message'
  onRequest_textless : ∀ a {r}, readsText r = false → ∀ message message' : Text,
    onRequest a r message = onRequest a r message'

/-- The handlers of a source, whose `HandleRequest` gets no text. -/
structure SourceHandlers (σ : Type) where
  onResponse : σ → RtspResponse → Text → σ
  onRequest : σ → RtspRequest → σ
  onResponse_congr : ∀ a r {message message' : Text},
    (RtspResponse.parse {} message).1 = (RtspResponse.parse {} message').1 →
    (RtspResponse.parse {} message).2.code = (RtspResponse.parse {} message').2.code →
      onResponse a r message = onResponse a r message'

/-- Every response has a handler. -/
def SourceHandlers.all {σ : Type} (H : SourceHandlers σ) : RtspHandlers σ where
  handles _ _ := true
  onResponse := H.onResponse
  onRequest a r _ := H.onRequest a r
  readsText _ := false
  onResponse_congr := H.onResponse_congr
  onRequest_congr _ _ _ _ _ := rfl
  onRequest_textless _ _ _ _ _ := rfl

/-- A session with the list of what it has dispatched. -/
structure RtspSession (σ : Type) where
  lastMessage : Text := []
  app : σ
  dispatched : List Dispatched := []
  deriving DecidableEq, Repr

namespace RtspSession

variable {σ : Type}

/-- `HandleRequest` drops the saved message before anything else. -/
def handleRequest (H : RtspHandlers σ) (s : RtspSession σ) (r : RtspRequest) (message : Text) :
    RtspSession σ :=
  { lastMessage := [], app := H.onRequest s.app r message
    dispatched := s.dispatched ++ [.request r] }

def handleResponse (H : RtspHandlers σ) (s : RtspSession σ) (r : RtspResponse) (message : Text) :
    RtspSession σ :=
  { lastMessage := [], app := H.onResponse s.app r message
    dispatched := s.dispatched ++ [.response r] }

/-- The part of a read behind a response. The result of the second parse stands where its text
was, and its info is what `HandleRequest` gets as the text. -/
def readSplicing (H : RtspHandlers σ) (s : RtspSession σ) (info : Text) : RtspSession σ :=
  if info.length > 2 ∧ info.getLast? = some '$' then
    let (request, ret) := RtspRequest.parse {} info.dropLast
    if ret.code = .ok then s.handleRequest H request ret.info else s
  else s

/-- A read that is no response. -/
def readRequest (H : RtspHandlers σ) (s : RtspSession σ) (message : Text) : RtspSession σ :=
  let (request, ret) := RtspRequest.parse {} message
  if ret.code = .ok then s.handleRequest H request message
  else if ret.code = .incompleteMessage then { s with lastMessage := message }
  else
    -- the same object parses again, with what the failed parse left in it
    let (request, ret) := request.parse (s.lastMessage ++ message)
    if ret.code = .ok then s.handleRequest H request (s.lastMessage ++ message)
    else { s with lastMessage := [] }

def readData (H : RtspHandlers σ) (s : RtspSession σ) (message : Text) : RtspSession σ :=
  let (response, ret) := RtspResponse.parse {} message
  if ret.code = .ok then
    if H.handles s.app response.cSeq then
      (s.handleResponse H response message).readSplicing H ret.info
    else s
  else s.readRequest H message

def readAll (H : RtspHandlers σ) (s : RtspSession σ) (reads : List Text) : RtspSession σ :=
  reads.foldl (readData H) s

theorem app_readData {H : RtspHandlers σ} {P : σ → Prop}
    (hresponse : ∀ a r text, P a → P (H.onResponse a r text))
    (hrequest : ∀ a r text, P a → P (H.onRequest a r text)) {s : RtspSession σ} (h : P s.app)
    (message : Text) : P (s.readData H message).app := by
  have hdispatch (s : RtspSession σ) (h : P s.app) (r : RtspRequest) (text : Text) :
      P (s.handleRequest H r text).app := hrequest s.app r text h
  have hsplicing (s : RtspSession σ) (h : P s.app) (info : Text) :
      P (s.readSplicing H info).app := by
    rw [readSplicing]
    split
    · simp only
      split
      · exact hdispatch s h _ _
      · exact h
    · exact h
  rw [readData]
  simp only
  split
  · split
    · exact hsplicing _ (hresponse s.app _ _ h) _
    · exact h
  · rw [readRequest]
    simp only
    split
    · exact hdispatch s h _ _
    · split
      · exact h
      · split
        · exact hdispatch s h _ _
        · exact h

end RtspSession

/-- The sink looks for the handler of the response's CSeq, and reads nothing more
once it is interrupted. -/
structure WfdSinkSession (σ : Type) extends RtspSession σ where
  interrupting : Bool := false

def WfdSinkSession.onClientReadData {σ : Type} (H : RtspHandlers σ) (s : WfdSinkSession σ)
    (message : Text) : WfdSinkSession σ :=
  if s.interrupting then s else { s with toRtspSession := s.readData H message }

/-- The source hands every response to `HandleResponse`. -/
structure WfdSourceSession (σ : Type) extends RtspSession σ where
  rtspServerFd : Int

def WfdSourceSession.onServerReadData {σ : Type} (H : SourceHandlers σ) (s : WfdSourceSession σ)
    (fd : Int) (message : Text) : WfdSourceSession σ :=
  if s.rtspServerFd ≠ fd then s else { s with toRtspSession := s.readData H.all message }

end WifiDisplay
