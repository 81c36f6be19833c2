import WifiDisplay.RtspBodies
import WifiDisplay.WfdMessages

/-! The responses of both ends and their texts as lines. -/

namespace WifiDisplay

open TextSplit RtspCommon

/-- A call of one of the setters of a setup response's ports. -/
inductive PortCall where
  | client (minPort maxPort : Int)
  | server (minPort maxPort : Int)
  deriving DecidableEq

/-- The classes of responses with the values of their own. Play, Teardown,
SetParameter and M4, M5, M8, M16 are plain; M1 and M2 are options. -/
inductive ResponseKind where
  | plain
  | options (publicItems : Text)
  | describe (url : Text) (body : List Text)
  | getParameter (body : List Text)
  | setup (destination source : Text) (calls : List PortCall)
  | m3 (params : Tokens)
  | m6 (clientPort serverPort : Int)
  | m7
  deriving DecidableEq

def RtspResponseSetup.setPort (r : RtspResponseSetup) : PortCall → RtspResponseSetup
  | .client minPort maxPort => r.setClientPort minPort maxPort
  | .server minPort maxPort => r.setServerPort minPort maxPort

/-- The two ranges as the calls give them, and the last upper end among them that lies above
its lower one. -/
structure GivenPorts where
  client : Int × Int := (0, 0)
  server : Int × Int := (0, 0)
  lastUpper : Int := 0

namespace GivenPorts

def call (g : GivenPorts) : PortCall → GivenPorts
  | .client minPort maxPort =>
    { g with client := (minPort, maxPort)
             lastUpper := if maxPort > minPort then maxPort else g.lastUpper }
  | .server minPort maxPort =>
    { g with server := (minPort, maxPort)
             lastUpper := if maxPort > minPort then maxPort else g.lastUpper }

def ofCalls (calls : List PortCall) : GivenPorts := calls.foldl call {}

end GivenPorts

/-- The values that a response is built from. -/
structure ResponseFields where
  cSeq : Int
  status : Int
  session : Text := []
  timeout : Int := -1
  kind : ResponseKind := .plain

namespace ResponseFields

variable (f : ResponseFields)

def object : RtspResponseObject :=
  { cSeq := f.cSeq, status := f.status, session := f.session, timeout := f.timeout }

def m3 (params : Tokens) : WfdRtspM3Response :=
  params.foldl (fun r p => r.setParam p.1 p.2) { toRtspResponseObject := f.object }

def setup (destination source : Text) (calls : List PortCall) : RtspResponseSetup :=
  calls.foldl RtspResponseSetup.setPort { toRtspResponseObject := f.object, destination, source }

/-- The text of the response; the date is that of the call. -/
def text (date : Text) : Text :=
  match f.kind with
  | .plain => f.object.stringify date
  | .options publicItems =>
    ({ toRtspResponseObject := f.object, publicItems } : RtspResponseOptions).stringify date
  | .describe url body =>
    ({ toRtspResponseObject := { f.object with body }, url } : RtspResponseDescribe).stringify date
  | .getParameter body =>
    ({ toRtspResponseObject := f.object, ownBody := body } : RtspResponseGetParameter).stringify date
  | .setup destination source calls => (f.setup destination source calls).stringify date
  | .m3 params => (f.m3 params).stringify date
  | .m6 clientPort serverPort =>
    ({ WfdRtspM6Response.create f.cSeq f.status f.session f.timeout with
        clientPort, serverPort } : WfdRtspM6Response).stringifyEx date
  | .m7 => ({ toRtspResponseObject := f.object } : WfdRtspM7Response).stringifyEx date

/-- The lines of the body. -/
def body : List Text :=
  match f.kind with
  | .describe _ body => body
  | .getParameter body => body
  | .m3 params => params.map fun p => field p.1 p.2
  | _ => []

def lengthField : Text × Text := (rtspTokenContentLength, decimal (bodyLines f.body).length)

/-- The fields the class adds before the session. -/
def ownFields : Tokens :=
  match f.kind with
  | .options publicItems => [(rtspTokenPublic, publicItems)]
  | .describe url _ =>
    (if url ≠ [] then [(rtspTokenContentBase, url)] else []) ++
      [(rtspTokenContentType, "application/sdp".toList), f.lengthField]
  | .getParameter _ => [(rtspTokenContentType, "text/parameters".toList), f.lengthField]
  | .m3 _ => [(rtspTokenContentType, "text/parameters".toList), f.lengthField]
  | .setup destination source calls =>
    [(rtspTokenTransport, (f.setup destination source calls).transport)]
  | _ => []

def sessionFields : Tokens :=
  if f.session = [] then []
  else [(rtspTokenSession,
    f.session ++ if f.timeout > 0 then ";timeout=".toList ++ decimal f.timeout else [])]

/-- The fields that `StringifyEx` adds. -/
def lastFields : Tokens :=
  match f.kind with
  | .m6 clientPort serverPort =>
    [(rtspTokenTransport, "RTP/AVP/UDP;unicast;client_port=".toList ++ decimal clientPort ++
      ";server_port=".toList ++ decimal serverPort)]
  | .m7 => [("Range".toList, "npt=now-".toList)]
  | _ => []

def statusLine : Text :=
  rtspVersionText ++ rtspSp ++ decimal f.status ++ rtspSp ++ statusText f.status

def firstFields (date : Text) : Tokens :=
  (rtspTokenCseq, decimal f.cSeq) :: (rtspTokenDate, date) :: f.ownFields

def fieldLines (fields : Tokens) : List Text := fields.map fun t => field t.1 t.2

theorem ended_sessionFields : ended rtspCrlf (fieldLines f.sessionFields) =
    if f.session ≠ [] then
      field rtspTokenSession f.session ++
        (if f.timeout > 0 then ";timeout=".toList ++ decimal f.timeout else []) ++ rtspCrlf
    else [] := by
  by_cases hs : f.session = []
  · rw [sessionFields, if_pos hs, if_neg (not_not.mpr hs)]
    rfl
  · rw [sessionFields, if_neg hs, if_pos hs]
    simp only [fieldLines, field, List.map_cons, List.map_nil, ended_cons, ended_nil,
      List.append_assoc, List.append_nil]

theorem stringify_object {r : RtspResponseObject} {custom : Tokens} (date : Text)
    (hcseq : r.cSeq = f.cSeq) (hstatus : r.status = f.status) (hsession : r.session = f.session)
    (htimeout : r.timeout = f.timeout)
    (hcustom : (if r.customHeaders ≠ [] then r.customHeaders ++ rtspCrlf else []) =
      ended rtspCrlf (fieldLines custom)) :
    r.stringify date =
      ended rtspCrlf (f.statusLine :: fieldLines ((rtspTokenCseq, decimal f.cSeq) ::
        (rtspTokenDate, date) :: custom ++ f.sessionFields)) ++ rtspCrlf := by
  have hsplit : ended rtspCrlf (fieldLines ((rtspTokenCseq, decimal f.cSeq) ::
      (rtspTokenDate, date) :: custom ++ f.sessionFields)) =
      (field rtspTokenCseq (decimal f.cSeq) ++ rtspCrlf) ++ (field rtspTokenDate date ++ rtspCrlf) ++
        ended rtspCrlf (fieldLines custom) ++ ended rtspCrlf (fieldLines f.sessionFields) := by
    simp only [fieldLines, List.map_cons, List.map_append, List.cons_append, ended_cons,
      ended_append, List.append_assoc]
  rw [ended_cons, hsplit, ended_sessionFields, RtspResponseObject.stringify, hcseq, hstatus,
    hsession, htimeout, hcustom, statusLine]
  simp only [List.append_assoc]

theorem m3_eq (params : Tokens) :
    f.m3 params = { toRtspResponseObject := f.object, params } := by
  have hfold (r : WfdRtspM3Response) (l : Tokens) :
      l.foldl (fun r p => r.setParam p.1 p.2) r = { r with params := r.params ++ l } := by
    induction l generalizing r with
    | nil => simp
    | cons p l ih =>
      rw [List.foldl_cons, ih]
      simp [WfdRtspM3Response.setParam]
  rw [m3, hfold]
  rfl

theorem stringifyEx_lines (lines : List Text) (line : Text) :
    stringifyEx (ended rtspCrlf lines ++ rtspCrlf) line =
      ended rtspCrlf (lines ++ [line]) ++ rtspCrlf := by
  rw [stringifyEx, List.length_append, Nat.add_sub_cancel, List.take_left, ended_append, ended_cons,
    ended_nil, List.append_nil]
  simp only [List.append_assoc]

theorem header_ne_nil (name value tail : Text) : field name value ++ tail ≠ [] := by
  simp [field]

theorem stringifyBody_eq {r : RtspResponseObject} (heading : Text) (before : Tokens)
    (lines : List Text) (date : Text) (hcseq : r.cSeq = f.cSeq) (hstatus : r.status = f.status)
    (hsession : r.session = f.session) (htimeout : r.timeout = f.timeout)
    (hheading : heading = ended rtspCrlf (fieldLines before)) :
    r.stringifyBody heading lines date =
      ended rtspCrlf (f.statusLine :: fieldLines ((rtspTokenCseq, decimal f.cSeq) ::
        (rtspTokenDate, date) :: (before ++
          [(rtspTokenContentLength, decimal (bodyLines lines).length)]) ++ f.sessionFields)) ++
        rtspCrlf ++ bodyLines lines := by
  rw [RtspResponseObject.stringifyBody]
  congr 1
  refine f.stringify_object date hcseq hstatus hsession htimeout ?_
  have hne : heading ++ field rtspTokenContentLength (decimal (bodyLines lines).length) ≠ [] := by
    intro h0
    exact IsField.line_ne_nil (rtspTokenContentLength, _) (List.append_eq_nil_iff.mp h0).2
  rw [RtspResponseObject.clearCustomHeader, RtspResponseObject.addCustomHeader]
  simp only [List.nil_append]
  rw [if_pos hne, fieldLines, List.map_append, ended_append, hheading, fieldLines]
  simp only [List.map_cons, List.map_nil, ended_cons, ended_nil, List.append_nil, List.append_assoc]

/-- The fields in the order of their lines. -/
def printed (date : Text) : Tokens := f.firstFields date ++ f.sessionFields ++ f.lastFields

theorem text_eq (hkind : ∀ d s calls, f.kind ≠ .setup d s calls) (date : Text) :
    f.text date =
      ended rtspCrlf (f.statusLine :: fieldLines (f.printed date)) ++ rtspCrlf ++ bodyLines f.body := by
  have hnil : bodyLines [] = [] := rfl
  have hplain {r : RtspResponseObject} (hcseq : r.cSeq = f.cSeq) (hstatus : r.status = f.status)
      (hsession : r.session = f.session) (htimeout : r.timeout = f.timeout)
      (hcustom : r.customHeaders = []) (date : Text) : r.stringify date =
      ended rtspCrlf (f.statusLine :: fieldLines ((rtspTokenCseq, decimal f.cSeq) ::
        (rtspTokenDate, date) :: f.sessionFields)) ++ rtspCrlf := by
    have hnone : (if r.customHeaders ≠ [] then r.customHeaders ++ rtspCrlf else []) =
        ended rtspCrlf (fieldLines []) := by
      rw [hcustom]
      rfl
    rw [f.stringify_object date hcseq hstatus hsession htimeout hnone, List.cons_append,
      List.cons_append, List.nil_append]
  rcases hf : f.kind with _ | items | ⟨url, body⟩ | body | ⟨d, s, calls⟩ | params | ⟨c, p⟩ | _
  · simp only [text, printed, firstFields, ownFields, lastFields, body, hf, hnil, List.append_nil,
      List.cons_append, List.nil_append]
    exact hplain rfl rfl rfl rfl rfl date
  · simp only [text, printed, firstFields, ownFields, lastFields, body, hf, hnil, List.append_nil]
    apply f.stringify_object date rfl rfl rfl rfl
    rw [RtspResponseObject.clearCustomHeader, RtspResponseObject.addCustomHeader]
    simp only [List.nil_append]
    rw [if_pos (IsField.line_ne_nil (rtspTokenPublic, items))]
    simp only [fieldLines, List.map_cons, List.map_nil, ended_cons, ended_nil, List.append_nil]
  · simp only [text, printed, firstFields, ownFields, lastFields, ResponseFields.body, hf,
      List.append_nil, lengthField]
    rw [RtspResponseDescribe.stringify, f.stringifyBody_eq _
      ((if url ≠ [] then [(rtspTokenContentBase, url)] else []) ++
        [(rtspTokenContentType, "application/sdp".toList)]) _ date rfl rfl rfl rfl]
    · simp only [List.append_assoc, List.cons_append, List.nil_append]
    · rw [fieldLines, List.map_append, ended_append]
      by_cases hu : url = []
      · rw [if_neg (not_not.mpr hu), if_neg (not_not.mpr hu)]
        simp only [List.map_nil, ended_nil, List.map_cons, ended_cons, List.append_nil]
      · rw [if_pos hu, if_pos hu]
        simp only [List.map_nil, ended_nil, List.map_cons, ended_cons, List.append_nil]
  · simp only [text, printed, firstFields, ownFields, lastFields, ResponseFields.body, hf,
      List.append_nil, lengthField]
    rw [RtspResponseGetParameter.stringify, f.stringifyBody_eq _
      [(rtspTokenContentType, "text/parameters".toList)] _ date rfl rfl rfl rfl]
    · rfl
    · simp only [fieldLines, List.map_nil, ended_nil, List.map_cons, ended_cons, List.append_nil]
  · exact absurd hf (hkind d s calls)
  · simp only [text, printed, firstFields, ownFields, lastFields, ResponseFields.body, hf,
      List.append_nil, lengthField]
    rw [WfdRtspM3Response.stringify, m3_eq, f.stringifyBody_eq _
      [(rtspTokenContentType, "text/parameters".toList)] _ date rfl rfl rfl rfl]
    · rfl
    · simp only [fieldLines, List.map_nil, ended_nil, List.map_cons, ended_cons, List.append_nil]
  · simp only [text, printed, firstFields, ownFields, lastFields, body, hf, hnil, List.append_nil,
      List.cons_append, List.nil_append]
    rw [WfdRtspM6Response.stringifyEx, hplain rfl rfl rfl rfl rfl, stringifyEx_lines]
    simp only [fieldLines, List.map_cons, List.map_append, List.map_nil, List.cons_append, field,
      List.append_assoc]
    rfl
  · simp only [text, printed, firstFields, ownFields, lastFields, body, hf, hnil, List.append_nil,
      List.cons_append, List.nil_append]
    rw [WfdRtspM7Response.stringifyEx, hplain rfl rfl rfl rfl rfl, stringifyEx_lines]
    simp only [fieldLines, List.map_cons, List.map_append, List.map_nil, List.cons_append]
    rfl

/-- What the calls of the setters leave in a setup response: the client's upper end is never
stored, and the last upper end of either range is the server's. -/
structure SetupHolds (o : RtspResponseObject) (d s : Text) (g : GivenPorts) (r : RtspResponseSetup) :
    Prop where
  object : r.toRtspResponseObject = o
  destination : r.destination = d
  source : r.source = s
  minClientPort : r.minClientPort = g.client.1
  maxClientPort : r.maxClientPort = 0
  minServerPort : r.minServerPort = g.server.1
  maxServerPort : r.maxServerPort = g.lastUpper

theorem SetupHolds.setPort {o : RtspResponseObject} {d s : Text} {g : GivenPorts}
    {r : RtspResponseSetup} (h : SetupHolds o d s g r) (c : PortCall) :
    SetupHolds o d s (g.call c) (r.setPort c) := by
  obtain ⟨hobject, hd, hs, hminClient, hmaxClient, hminServer, hmaxServer⟩ := h
  cases c with
  | client minPort maxPort =>
    by_cases hupper : maxPort > minPort
    · simp only [RtspResponseSetup.setPort, RtspResponseSetup.setClientPort, GivenPorts.call,
        if_pos hupper]
      exact ⟨hobject, hd, hs, rfl, hmaxClient, hminServer, rfl⟩
    · simp only [RtspResponseSetup.setPort, RtspResponseSetup.setClientPort, GivenPorts.call,
        if_neg hupper]
      exact ⟨hobject, hd, hs, rfl, hmaxClient, hminServer, hmaxServer⟩
  | server minPort maxPort =>
    by_cases hupper : maxPort > minPort
    · simp only [RtspResponseSetup.setPort, RtspResponseSetup.setServerPort, GivenPorts.call,
        if_pos hupper]
      exact ⟨hobject, hd, hs, hminClient, hmaxClient, rfl, rfl⟩
    · simp only [RtspResponseSetup.setPort, RtspResponseSetup.setServerPort, GivenPorts.call,
        if_neg hupper]
      exact ⟨hobject, hd, hs, hminClient, hmaxClient, rfl, hmaxServer⟩

theorem setup_holds (d s : Text) (calls : List PortCall) :
    SetupHolds f.object d s (.ofCalls calls) (f.setup d s calls) := by
  have hfold (g : GivenPorts) (r : RtspResponseSetup) (h : SetupHolds f.object d s g r) :
      SetupHolds f.object d s (calls.foldl GivenPorts.call g)
        (calls.foldl RtspResponseSetup.setPort r) := by
    induction calls generalizing g r with
    | nil => exact h
    | cons c calls ih => exact ih _ _ (h.setPort c)
  exact hfold _ _ ⟨rfl, rfl, rfl, rfl, rfl, rfl, rfl⟩

/-- After its transport the setup response prints its session behind an empty line. -/
theorem text_setup {d s : Text} {calls : List PortCall} (hkind : f.kind = .setup d s calls)
    (date : Text) :
    f.text date =
      ended rtspCrlf (f.statusLine :: fieldLines (f.firstFields date)) ++ rtspCrlf ++
        (ended rtspCrlf (fieldLines f.sessionFields) ++ rtspCrlf) := by
  simp only [text, firstFields, ownFields, hkind, RtspResponseSetup.stringify,
    (f.setup_holds d s calls).object, RtspResponseObject.clearCustomHeader,
    RtspResponseObject.addCustomHeader, List.nil_append, RtspResponseObject.stringify]
  rw [if_pos (header_ne_nil rtspTokenTransport _ rtspCrlf), ended_sessionFields]
  simp only [object, fieldLines, List.map_cons, List.map_nil, ended_cons, ended_nil, statusLine,
    List.append_assoc, List.append_nil]
  rfl

end ResponseFields

end WifiDisplay
