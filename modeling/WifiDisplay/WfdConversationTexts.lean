import WifiDisplay.RtspRequestRoundTrip
import WifiDisplay.RtspResponseLaws
import WifiDisplay.RtspSessionRuns
import WifiDisplay.VideoNegotiation
import WifiDisplay.WfdSinkSteps

/-! What the source and the sink of a wireless display say to each other, as messages instead of texts:
what a session dispatches when it reads a well-formed one, and that those of the two are well-formed. -/

namespace WifiDisplay

open RtspCommon TextSplit

inductive RtspMessage where
  | request (fields : RequestFields)
  | response (fields : ResponseFields) (date : Text)

namespace RtspMessage

def text : RtspMessage → Text
  | request f => f.build.stringify
  | response f date => f.text date

/-- The other end reads what was meant. -/
def Sound : RtspMessage → Prop
  | request f => f.WellFormed ∧ f.timeout = -1 ∧ (bodyLines f.body).length < 2 ^ 31
  | response f date => f.WellFormed ∧ LineText date ∧ (∀ d s calls, f.kind ≠ .setup d s calls) ∧
    (bodyLines f.body).length < 2 ^ 31

end RtspMessage

/-- A request as the handlers get it. -/
structure RequestFields.Carried (f : RequestFields) (r : RtspRequest) : Prop where
  method : r.method = f.method
  url : r.url = f.url
  cSeq : r.cSeq = f.cSeq
  session : r.session = f.session
  body : r.body = f.body

structure ResponseFields.Carried (f : ResponseFields) (date : Text) (r : RtspResponse) : Prop where
  cSeq : r.cSeq = f.cSeq
  status : r.status = f.status
  session : r.session = f.session
  timeout : r.timeout = if f.session ≠ [] ∧ f.timeout > 0 then f.timeout else -1
  tokens : r.tokens = readFields (f.printed date)
  body : r.body = f.body

namespace RequestFields

theorem parse_text {f : RequestFields} (h : (RtspMessage.request f).Sound) :
    ∃ r, RtspRequest.parse {} f.build.stringify = (r, {}) ∧ f.Carried r := by
  obtain ⟨hform, htimeout, hlength⟩ := h
  have hsession : ((readFields f.printed).find? rtspTokenSession).getD [] = f.session := by
    rw [hform.find?_session, htimeout]
    split
    · rename_i hempty
      exact hempty.symm
    · simp
  have hbody : f.readBody = f.body := hform.readBody.2.mpr (lengthKept_of_lt hlength)
  have hparse := hform.parse_build
  rw [hsession, hbody] at hparse
  generalize hread : RtspRequest.parse {} f.build.stringify = result
  have hresult : RtspRequest.parse (RtspRequestObject.toRtspRequest {}) f.build.stringify = result := hread
  rw [RtspRequestObject.parse, hresult] at hparse
  obtain ⟨r, error⟩ := result
  obtain ⟨hobject, rfl⟩ := Prod.mk.inj hparse
  obtain rfl := congrArg RtspRequestObject.toRtspRequest hobject
  exact ⟨_, rfl, rfl, rfl, rfl, rfl, rfl⟩

end RequestFields

namespace ResponseFields

theorem parse_text {f : ResponseFields} {date : Text} (h : (RtspMessage.response f date).Sound) :
    ∃ r, RtspResponse.parse {} (f.text date) = (r, {}) ∧ f.Carried date r := by
  obtain ⟨hform, hdate, hkind, hlength⟩ := h
  obtain ⟨body, hbody, hkept⟩ := hform.readBody date
  have hprinted := f.someFields_printed date
  obtain ⟨hcode, hcseq, hstatus, htokens, hread, hsession⟩ :=
    hform.parse_lines (printed_isField hform hdate) hprinted.nodup (List.ne_nil_of_mem hprinted.cSeq)
      hprinted.find?_cSeq hprinted.find?_challenge (bodyLines f.body) hbody rfl (f.text_eq hkind date)
  rw [hform.readSession_printed] at hsession
  obtain ⟨hid, htimeout⟩ := Prod.mk.inj hsession
  refine ⟨(RtspResponse.parse {} (f.text date)).1, Prod.ext rfl ?_, hcseq, hstatus, hid, htimeout, htokens, ?_⟩
  · obtain ⟨hline, reason, words, hsplit⟩ := f.statusLine_words
    have hfirst : f.statusLine ≠ [] := by
      intro h0
      rw [h0] at hsplit
      exact absurd (List.cons.inj hsplit).1 (by decide)
    have hmessage := parseMessage_fields hline hfirst (printed_isField hform hdate) hprinted.nodup
      (List.ne_nil_of_mem hprinted.cSeq) (bodyLines f.body)
    rw [hbody, ← fieldLines, ← f.text_eq hkind date] at hmessage
    exact RtspResponse.take_plain hcode (congrArg ParsedMessage.error hmessage)
  · exact hread.trans (hkept.mpr (lengthKept_of_lt hlength))

end ResponseFields

namespace RtspSession

variable {σ : Type} (H : RtspHandlers σ) (s : RtspSession σ)

/-- A request goes to its handler. -/
theorem readData_requestText {f : RequestFields} (h : (RtspMessage.request f).Sound) :
    ∃ r, f.Carried r ∧ s.readData H f.build.stringify = s.handleRequest H r f.build.stringify := by
  obtain ⟨r, hparse, hcarried⟩ := f.parse_text h
  refine ⟨r, hcarried, ?_⟩
  rw [readData_request H s (by rw [hparse]), hparse]

/-- A response goes to its handler, if one waits for it. -/
theorem readData_responseText {f : ResponseFields} {date : Text} (h : (RtspMessage.response f date).Sound) :
    ∃ r, f.Carried date r ∧ s.readData H (f.text date) =
      if H.handles s.app f.cSeq then s.handleResponse H r (f.text date) else s := by
  obtain ⟨r, hparse, hcarried⟩ := f.parse_text h
  refine ⟨r, hcarried, ?_⟩
  simp only [readData, hparse, if_true, hcarried.cSeq]
  split
  · rfl
  · rfl

end RtspSession

namespace RequestFields

theorem stringify_build_object {f : RequestFields} (hbody : f.body = []) :
    f.build.stringify = ({ method := f.method, url := f.url, cSeq := f.cSeq, userAgent := f.userAgent
                           session := f.session, timeout := f.timeout
                           customHeaders := ended rtspCrlf (fieldLines f.tokens) } : RtspRequestObject).stringify := by
  rw [← stringify_of_no_body hbody, build_eq, hbody]
  rfl

end RequestFields

/-- M1 and M2. -/
def optionsFields (cSeq : Int) : RequestFields :=
  { method := "OPTIONS".toList, url := ['*'], cSeq, tokens := [(rtspTokenRequire, rtspMethodWfd)] }

theorem optionsFields_text (cSeq : Int) : (wfdRtspM1Request cSeq).stringify = (optionsFields cSeq).build.stringify := by
  rw [RequestFields.stringify_build_object rfl, RtspRequestOptions.stringify]
  have hrequire : (wfdRtspM1Request cSeq).require ≠ [] := by
    change rtspMethodWfd ≠ []
    decide
  rw [if_pos hrequire]
  rfl

/-- The requests of a source. -/
inductive SourceRequest where
  | m1
  | m3
  | m4 (sourceIp : Text) (sink : SinkValues)
  | m5
  | m16

def SourceRequest.fields (request : SourceRequest) (cSeq : Int) (session : Text) : RequestFields :=
  match request with
  | .m1 => optionsFields cSeq
  | .m3 => { method := "GET_PARAMETER".toList, url := wfdRtspUrlDefault, cSeq
             body := [wfdParamContentProtection, wfdParamVideoFormats, wfdParamAudioCodecs, wfdParamRtpPorts] }
  | .m4 sourceIp sink => m4Fields cSeq sourceIp sink
  | .m5 => { method := "SET_PARAMETER".toList, url := wfdRtspUrlDefault, cSeq
             body := [field wfdParamTrigger "SETUP".toList] }
  | .m16 => { method := "GET_PARAMETER".toList, url := wfdRtspUrlDefault, cSeq, session }

def SinkRequest.method : SinkRequest → Text
  | .m2 => "OPTIONS".toList
  | .m6 => "SETUP".toList
  | .m7 => "PLAY".toList
  | .m8 => "TEARDOWN".toList
  | .idr => "SET_PARAMETER".toList

def SinkRequest.fields (request : SinkRequest) (cSeq : Int) (url session : Text) (port : BitVec 16) :
    RequestFields :=
  match request with
  | .m2 => optionsFields cSeq
  | .m6 => { method := "SETUP".toList, url, cSeq
             tokens := [(rtspTokenTransport, "RTP/AVP;unicast;client_port=".toList ++ decimal port.toNat)] }
  | .m7 => { method := "PLAY".toList, url, cSeq, session }
  | .m8 => { method := "TEARDOWN".toList, url, cSeq, session }
  | .idr => { method := "SET_PARAMETER".toList, url, cSeq, session, body := [wfdParamIdrRequest] }

section Texts

variable (cSeq : Int) (url session : Text) (port : BitVec 16)

theorem m3_text : (wfdRtspM3Request cSeq wfdRtspUrlDefault).stringify =
    (SourceRequest.m3.fields cSeq session).build.stringify := by
  rw [RequestFields.build_eq]
  rfl

theorem m4_text (sourceIp : Text) (sink : SinkValues) : (wfdRtspM4Request cSeq sourceIp sink).stringify =
    ((SourceRequest.m4 sourceIp sink).fields cSeq session).build.stringify :=
  (m4Fields_text cSeq sourceIp sink).symm

theorem m5_text : (wfdRtspM5Request cSeq "SETUP".toList).stringify =
    (SourceRequest.m5.fields cSeq session).build.stringify := by
  rw [RequestFields.build_eq]
  rfl

theorem m16_text : (wfdRtspM16Request cSeq wfdRtspUrlDefault session).stringify =
    (SourceRequest.m16.fields cSeq session).build.stringify := by
  rw [RequestFields.build_eq]
  rfl

theorem m6_text : (wfdRtspM6Request cSeq url port).stringify =
    (SinkRequest.m6.fields cSeq url session port).build.stringify := by
  rw [RequestFields.stringify_build_object rfl, wfdRtspM6Request]
  have hfields : (SinkRequest.m6.fields cSeq url session port).tokens =
      [(rtspTokenTransport, "RTP/AVP;unicast;client_port=".toList ++ decimal port.toNat)] := rfl
  have hcustom (value : Text) : field rtspTokenTransport value ++ rtspCrlf =
      ended rtspCrlf (RequestFields.fieldLines [(rtspTokenTransport, value)]) := by
    simp only [RequestFields.fieldLines, List.map_cons, List.map_nil, ended_cons, ended_nil, List.append_nil]
  rw [hfields, ← hcustom]
  rfl

theorem m7_text : (wfdRtspM7Request cSeq url session).stringify =
    (SinkRequest.m7.fields cSeq url session port).build.stringify := by
  rw [RequestFields.stringify_build_object rfl]
  rfl

theorem m8_text : (wfdRtspM8Request cSeq url session).stringify =
    (SinkRequest.m8.fields cSeq url session port).build.stringify := by
  rw [RequestFields.stringify_build_object rfl]
  rfl

theorem idr_text : (wfdRtspIDRRequest cSeq url session).stringify =
    (SinkRequest.idr.fields cSeq url session port).build.stringify := by
  rw [RequestFields.build_eq]
  rfl

end Texts

/-! The messages are well-formed. -/

/-- What a text is that goes into a line of its own. -/
structure PlainIp (ip : Text) : Prop where
  line : LineText ip
  blank : ' ' ∉ ip
  short : ip.length < 2 ^ 30

structure PlainSession (session : Text) : Prop where
  line : LineText session
  trimmed : Trimmed session
  semicolon : ';' ∉ session

/-- Numbers as the source reads them. -/
def SinkValues.Small (v : SinkValues) : Prop :=
  v.wfdVideoFormatsInfo.profile < 2 ^ 16 ∧ v.wfdVideoFormatsInfo.level < 2 ^ 16

section Sound

variable {cSeq : Int} {url session : Text} {port : BitVec 16}

/-- A CSeq that can stand in a message. -/
def IsCSeq (cSeq : Int) : Prop := 0 ≤ cSeq ∧ cSeq < 2 ^ 31

/-- Every request names the program and sets no timeout. -/
theorem sound_request {f : RequestFields} (hmethod : f.method ∈ rtspMethods) (hurl : ' ' ∉ f.url ∧ LineText f.url)
    (hcseq : IsCSeq f.cSeq) (hsession : LineText f.session ∧ Trimmed f.session)
    (htokens : ∀ t ∈ f.tokens, IsField t ∧ Trimmed t.2 ∧ t.2 ≠ [] ∧ t.1 ∉ RequestFields.reserved)
    (hnodup : (f.tokens.map Prod.fst).Nodup) (hbody : ∀ l ∈ f.body, LineText l ∧ l ≠ [])
    (hlength : (bodyLines f.body).length < 2 ^ 31) (hua : f.userAgent = "KaihongOS".toList)
    (htimeout : f.timeout = -1) : (RtspMessage.request f).Sound := by
  refine ⟨⟨hmethod, hurl, hcseq, ?_, hsession, htokens, hnodup, hbody, hlength.trans (by decide)⟩, htimeout, hlength⟩
  rw [hua]
  decide

theorem plain_nil : LineText [] ∧ Trimmed [] := by decide

theorem plain_default : ' ' ∉ wfdRtspUrlDefault ∧ LineText wfdRtspUrlDefault := by decide

theorem optionsFields_sound (hcseq : IsCSeq cSeq) : (RtspMessage.request (optionsFields cSeq)).Sound := by
  refine sound_request ?_ ?_ hcseq plain_nil ?_ (List.nodup_singleton _) (List.forall_mem_nil _)
    (by decide : (bodyLines []).length < 2 ^ 31) rfl rfl
  · exact (by decide : "OPTIONS".toList ∈ rtspMethods)
  · exact (by decide : ' ' ∉ ['*'] ∧ LineText ['*'])
  · intro t ht
    have hfield : IsField (rtspTokenRequire, rtspMethodWfd) := IsName.isField (by decide) (by decide)
    rw [List.mem_singleton.mp ht]
    exact ⟨hfield, (by decide : Trimmed rtspMethodWfd ∧ rtspMethodWfd ≠ [] ∧ rtspTokenRequire ∉ RequestFields.reserved)⟩

/-- A request without fields of its own. -/
theorem sound_parameter {method : Text} {body : List Text} (hmethod : method ∈ rtspMethods)
    (hurl : ' ' ∉ url ∧ LineText url) (hcseq : IsCSeq cSeq) (hsession : LineText session ∧ Trimmed session)
    (hbody : ∀ l ∈ body, LineText l ∧ l ≠ []) (hlength : (bodyLines body).length < 2 ^ 31) :
    (RtspMessage.request { method, url, cSeq, session, body }).Sound :=
  sound_request hmethod hurl hcseq hsession (List.forall_mem_nil _) List.nodup_nil hbody hlength rfl rfl

theorem lineText_hexPadded (width n : ℕ) : LineText (InputStream.hexPadded width n) := by
  have hcr : InputStream.isDigit 16 '\r' = false := by decide
  have hlf : InputStream.isDigit 16 '\n' = false := by decide
  refine ⟨fun hmem => ?_, fun hmem => ?_⟩
  · exact absurd (InputStream.isDigit_hexPadded hmem) (by rw [hcr]; exact Bool.false_ne_true)
  · exact absurd (InputStream.isDigit_hexPadded hmem) (by rw [hlf]; exact Bool.false_ne_true)

theorem length_hexPadded {width n k : ℕ} (hk : 0 < k) (hn : n < 16 ^ k) :
    (InputStream.hexPadded width n).length ≤ max width k := by
  have hdigits := (Nat.length_toDigits_le_iff (b := 16) (by decide) hk).mpr hn
  rw [InputStream.hexPadded, List.leftpad, List.length_append, List.length_replicate]
  omega

theorem chosenResolution_lt (format : VideoFormat) : WfdRtspM4Request.chosenResolution format < 17 := by
  cases format <;> decide

/-- The line of the video formats. -/
theorem videoFormats_line {native profile level mask : ℕ} (hnative : native < 2 ^ 16) (hprofile : profile < 2 ^ 16)
    (hlevel : level < 2 ^ 16) (hmask : mask < 2 ^ 32) :
    LineText (WfdRtspM3Response.videoFormatsText native profile level mask) ∧
      (WfdRtspM3Response.videoFormatsText native profile level mask).length < 100 := by
  have hblank : LineText [' '] := by decide
  have hcons {s : Text} (hs : LineText s) : LineText (' ' :: s) := hblank.append hs
  have htail : LineText " 00 0000 0000 00 none none".toList := by decide
  have hmiddle : LineText " 00 ".toList := by decide
  refine ⟨?_, ?_⟩
  · have hhex := lineText_hexPadded
    rw [WfdRtspM3Response.videoFormatsText]
    exact (((((((hhex 2 native).append hmiddle).append (hhex 2 profile)).append (hcons (hhex 2 level))).append
      (hcons (hhex 8 mask))).append (hcons (hhex 8 0))).append (hcons (hhex 8 0))).append htail
  · have hn : (InputStream.hexPadded 2 native).length ≤ 4 := length_hexPadded (by decide : 0 < 4) hnative
    have hp : (InputStream.hexPadded 2 profile).length ≤ 4 := length_hexPadded (by decide : 0 < 4) hprofile
    have hl : (InputStream.hexPadded 2 level).length ≤ 4 := length_hexPadded (by decide : 0 < 4) hlevel
    have hm : (InputStream.hexPadded 8 mask).length ≤ 8 := length_hexPadded (by decide : 0 < 8) hmask
    have hz : (InputStream.hexPadded 8 0).length ≤ 8 := length_hexPadded (by decide : 0 < 8) (by decide)
    have htexts : " 00 ".toList.length = 4 ∧ " 00 0000 0000 00 none none".toList.length = 26 := by decide
    rw [WfdRtspM3Response.videoFormatsText]
    simp only [List.length_append, List.length_cons, htexts.1, htexts.2]
    omega

/-- The parameters of M4 are lines, and short ones. -/
theorem m4Params_lines {sourceIp : Text} (hip : PlainIp sourceIp) {v : SinkValues} (hv : v.Small) :
    (∀ p ∈ m4Params sourceIp v, IsField p) ∧
      (bodyLines ((m4Params sourceIp v).map fun p => field p.1 p.2)).length < 2 ^ 31 := by
  have hnames : ∀ name ∈ [wfdParamPresentationUrl, wfdParamVideoFormats, wfdParamAudioCodecs, wfdParamRtpPorts],
      IsName name := by decide
  have hsub : ∀ c ∈ cStr sourceIp, c ∈ sourceIp := (List.takeWhile_sublist _).subset
  have hcStr : LineText (cStr sourceIp) := ⟨fun h => hip.line.1 (hsub _ h), fun h => hip.line.2 (hsub _ h)⟩
  have hip' := (List.takeWhile_sublist (p := fun c : Char => c.toNat ≠ 0) (l := sourceIp)).length_le
  have hshort := hip.short
  have hchosen := chosenResolution_lt v.videoFormat
  have hnative : WfdRtspM4Request.chosenResolution v.videoFormat <<< 3 < 2 ^ 16 := by
    rw [Nat.shiftLeft_eq]
    omega
  have hmask : 1 <<< WfdRtspM4Request.chosenResolution v.videoFormat < 2 ^ 32 := by
    rw [Nat.one_shiftLeft]
    exact Nat.pow_lt_pow_right (by decide) (by omega)
  obtain ⟨hvideo, hlength⟩ := videoFormats_line hnative hv.1 hv.2 hmask
  have haudio : LineText (if v.audioCodec = .pcm then "LPCM 00000002 00".toList else "AAC 00000001 00".toList) ∧
      (if v.audioCodec = .pcm then "LPCM 00000002 00".toList else "AAC 00000001 00".toList).length ≤ 16 := by
    split <;> decide
  have hports : LineText ("RTP/AVP/UDP;unicast ".toList ++ decimal v.sinkRtpPort.toNat ++ " 0 mode=play".toList) :=
    (LineText.append (by decide) (lineText_decimal _)).append (by decide)
  have hurl : LineText ("rtsp://".toList ++ cStr sourceIp ++ "/wfd1.0/streamid=0 none".toList) :=
    (LineText.append (by decide) hcStr).append (by decide)
  constructor
  · rw [m4Params]
    refine List.forall_mem_cons.mpr ⟨(hnames _ (by decide)).isField hurl, ?_⟩
    refine List.forall_mem_cons.mpr ⟨(hnames _ (by decide)).isField hvideo, ?_⟩
    refine List.forall_mem_cons.mpr ⟨(hnames _ (by decide)).isField haudio.1, ?_⟩
    exact List.forall_mem_cons.mpr ⟨(hnames _ (by decide)).isField hports, List.forall_mem_nil _⟩
  · have hport : (decimal v.sinkRtpPort.toNat).length ≤ 5 := by
      have hlt := v.sinkRtpPort.isLt
      rw [decimal, if_neg (by omega), Int.natAbs_natCast, Nat.length_toDigits_le_iff (by decide) (by decide)]
      omega
    have hwords : wfdParamPresentationUrl.length = 20 ∧ wfdParamVideoFormats.length = 17 ∧
        wfdParamAudioCodecs.length = 16 ∧ wfdParamRtpPorts.length = 20 := by decide
    have htexts : "rtsp://".toList.length = 7 ∧ "/wfd1.0/streamid=0 none".toList.length = 23 ∧
        "RTP/AVP/UDP;unicast ".toList.length = 20 ∧ " 0 mode=play".toList.length = 12 := by decide
    have hsep : rtspSp.length = 1 ∧ rtspCrlf.length = 2 := by decide
    change (cStr sourceIp).length ≤ sourceIp.length at hip'
    rw [m4Params]
    simp only [List.map_cons, List.map_nil, bodyLines, ended_cons, ended_nil, field, List.length_append,
      List.length_cons, List.length_nil, hwords.1, hwords.2.1, hwords.2.2.1, hwords.2.2.2, htexts.1, htexts.2.1,
      htexts.2.2.1, htexts.2.2.2, hsep.1, hsep.2]
    have hcodec := haudio.2
    omega

def SourceRequest.Plain : SourceRequest → Prop
  | .m4 sourceIp sink => PlainIp sourceIp ∧ sink.Small
  | _ => True

theorem SourceRequest.sound {request : SourceRequest} (h : request.Plain) (hcseq : IsCSeq cSeq)
    (hsession : PlainSession session) : (RtspMessage.request (request.fields cSeq session)).Sound := by
  cases request with
  | m1 => exact optionsFields_sound hcseq
  | m3 =>
    have hbody : ∀ l ∈ [wfdParamContentProtection, wfdParamVideoFormats, wfdParamAudioCodecs, wfdParamRtpPorts],
        LineText l ∧ l ≠ [] := by decide
    exact sound_parameter (by decide) plain_default hcseq plain_nil hbody (by decide)
  | m4 sourceIp sink =>
    obtain ⟨hfields, hlength⟩ := m4Params_lines h.1 h.2
    refine sound_parameter (by decide) plain_default hcseq plain_nil (fun l hl => ?_) hlength
    obtain ⟨p, hp, rfl⟩ := List.mem_map.mp hl
    exact ⟨(hfields p hp).line, IsField.line_ne_nil p⟩
  | m5 =>
    have hbody : ∀ l ∈ [field wfdParamTrigger "SETUP".toList], LineText l ∧ l ≠ [] := by decide
    exact sound_parameter (by decide) plain_default hcseq plain_nil hbody (by decide)
  | m16 =>
    exact sound_parameter (by decide) plain_default hcseq ⟨hsession.line, hsession.trimmed⟩ (List.forall_mem_nil _)
      (by decide)

theorem SinkRequest.sound (request : SinkRequest) (hcseq : IsCSeq cSeq) (hurl : ' ' ∉ url ∧ LineText url)
    (hsession : PlainSession session) : (RtspMessage.request (request.fields cSeq url session port)).Sound := by
  have hplain : LineText session ∧ Trimmed session := ⟨hsession.line, hsession.trimmed⟩
  cases request with
  | m2 => exact optionsFields_sound hcseq
  | m6 =>
    refine sound_request (by decide : "SETUP".toList ∈ rtspMethods) hurl hcseq plain_nil ?_ (List.nodup_singleton _)
      (List.forall_mem_nil _) (by decide : (bodyLines []).length < 2 ^ 31) rfl rfl
    intro t ht
    obtain rfl := List.mem_singleton.mp ht
    have hline : LineText ("RTP/AVP;unicast;client_port=".toList ++ decimal port.toNat) :=
      LineText.append (by decide) (lineText_decimal _)
    refine ⟨IsName.isField (by decide) hline, ⟨?_, ?_⟩, ?_, (by decide : rtspTokenTransport ∉ RequestFields.reserved)⟩
    · rw [List.head?_append_of_ne_nil _ (by decide)]
      decide
    · rw [List.getLast?_append_of_ne_nil _ (decimal_ne_nil _)]
      exact (trimmed_decimal _).2
    · exact List.append_ne_nil_of_right_ne_nil _ (decimal_ne_nil _)
  | m7 => exact sound_parameter (by decide) hurl hcseq hplain (List.forall_mem_nil _) (by decide)
  | m8 => exact sound_parameter (by decide) hurl hcseq hplain (List.forall_mem_nil _) (by decide)
  | idr =>
    have hbody : ∀ l ∈ [wfdParamIdrRequest], LineText l ∧ l ≠ [] := by decide
    exact sound_parameter (by decide) hurl hcseq hplain hbody (by decide)

/-- All answers are of success. -/
theorem sound_response (timeout : Int) (kind : ResponseKind) {date : Text} (hcseq : IsCSeq cSeq)
    (hsession : PlainSession session) (htimeout : ResponseFields.InInt timeout)
    (hkind : ResponseFields.KindWellFormed kind) (hsetup : ∀ d s calls, kind ≠ .setup d s calls)
    (hlength : (bodyLines (ResponseFields.body { cSeq, status := rtspStatusOk, session, timeout, kind })).length < 2 ^ 31)
    (hdate : LineText date) :
    (RtspMessage.response { cSeq, status := rtspStatusOk, session, timeout, kind } date).Sound := by
  have hint : ResponseFields.InInt cSeq := ⟨Int.le_trans (by decide) hcseq.1, hcseq.2⟩
  exact ⟨⟨hint, (by decide : ResponseFields.InInt rtspStatusOk), ⟨hsession.line, hsession.trimmed, hsession.semicolon⟩,
    htimeout, hkind, hlength.trans (by decide)⟩, hdate, hsetup, hlength⟩

theorem plainSession_nil : PlainSession [] :=
  ⟨(by decide : LineText []), (by decide : Trimmed []), List.not_mem_nil⟩

/-- What the agent gives a sink to offer. -/
def PlainCapabilities (capabilities : Tokens) : Prop :=
  ∀ t ∈ capabilities, LineText t.2 ∧ Trimmed t.2 ∧ t.2 ≠ [] ∧ t.2.length < 2 ^ 20

/-- The names that a source asks for. -/
def askedNames : List Text :=
  [wfdParamContentProtection, wfdParamVideoFormats, wfdParamAudioCodecs, wfdParamRtpPorts]

/-- The parameters of the answer to M3. -/
def answeredParams (capabilities : Tokens) : Tokens :=
  askedNames.filterMap fun param => (capabilities.find? param).map fun value => (param, value)

theorem answeredParams_lines {capabilities : Tokens} (h : PlainCapabilities capabilities) :
    (∀ p ∈ answeredParams capabilities, IsField p ∧ Trimmed p.2 ∧ p.2 ≠ []) ∧
      (bodyLines ((answeredParams capabilities).map fun p => field p.1 p.2)).length < 2 ^ 31 := by
  have hnames : ∀ name ∈ askedNames, IsName name ∧ name.length ≤ 30 := by decide
  have hvalue {name value : Text} (hfind : capabilities.find? name = some value) :
      (name, value) ∈ capabilities := by
    obtain ⟨before, after, hsplit, -⟩ := List.lookup_eq_some_iff.mp hfind
    rw [hsplit]
    exact List.mem_append_right _ List.mem_cons_self
  have hmem : ∀ p ∈ answeredParams capabilities, p.1 ∈ askedNames ∧ p ∈ capabilities := by
    intro p hp
    obtain ⟨name, hname, hp⟩ := List.mem_filterMap.mp hp
    obtain ⟨value, hfind, rfl⟩ := Option.map_eq_some_iff.mp hp
    exact ⟨hname, hvalue hfind⟩
  constructor
  · intro p hp
    obtain ⟨hname, hp⟩ := hmem p hp
    obtain ⟨hline, htrimmed, hne, -⟩ := h p hp
    exact ⟨(hnames _ hname).1.isField hline, htrimmed, hne⟩
  · have hcount : (answeredParams capabilities).length ≤ 4 := List.length_filterMap_le _ askedNames
    have hshort : ∀ l ∈ (answeredParams capabilities).map fun p => field p.1 p.2, l.length ≤ 2 ^ 20 + 40 := by
      intro l hl
      obtain ⟨p, hp, rfl⟩ := List.mem_map.mp hl
      obtain ⟨hname, hp⟩ := hmem p hp
      have hfirst := (hnames _ hname).2
      have hsecond := (h p hp).2.2.2
      have hsep : rtspSp.length = 1 := by decide
      simp only [field, List.length_append, List.length_cons, hsep]
      omega
    have hsum (lines : List Text) (hlines : ∀ l ∈ lines, l.length ≤ 2 ^ 20 + 40) :
        (bodyLines lines).length ≤ lines.length * (2 ^ 20 + 42) := by
      induction lines with
      | nil => exact Nat.le_refl 0
      | cons l lines ih =>
        obtain ⟨hl, hlines⟩ := List.forall_mem_cons.mp hlines
        have hrest := ih hlines
        have hsep : rtspCrlf.length = 2 := by decide
        simp only [bodyLines, ended_cons, List.length_append, List.length_cons, hsep] at hrest ⊢
        omega
    have hall := hsum _ hshort
    rw [List.length_map] at hall
    omega

end Sound

/-- The URL that a source at this address asks to be played. -/
def presentationUrl (sourceIp : Text) : Text := "rtsp://".toList ++ cStr sourceIp ++ "/wfd1.0/streamid=0".toList

theorem PlainIp.url {sourceIp : Text} (h : PlainIp sourceIp) :
    ' ' ∉ presentationUrl sourceIp ∧ LineText (presentationUrl sourceIp) := by
  have hsub : ∀ c ∈ cStr sourceIp, c ∈ sourceIp := (List.takeWhile_sublist _).subset
  have hcStr : LineText (cStr sourceIp) := ⟨fun h' => h.line.1 (hsub _ h'), fun h' => h.line.2 (hsub _ h')⟩
  refine ⟨?_, (LineText.append (by decide) hcStr).append (by decide)⟩
  intro hblank
  rcases List.mem_append.mp hblank with hblank | hblank
  · rcases List.mem_append.mp hblank with hblank | hblank
    · exact absurd hblank (by decide)
    · exact h.blank (hsub _ hblank)
  · exact absurd hblank (by decide)

theorem trimmed_between {s t u : Text} (hs : s ≠ [] ∧ s.head? ≠ some ' ') (hu : u ≠ [] ∧ u.getLast? ≠ some ' ') :
    Trimmed (s ++ t ++ u) := by
  constructor
  · rw [List.append_assoc, List.head?_append_of_ne_nil _ hs.1]
    exact hs.2
  · rw [List.getLast?_append_of_ne_nil _ hu.1]
    exact hu.2

/-- A sink that reads an M4 finds its CSeq and the URL. -/
theorem m4_read_url {cSeq : Int} {sourceIp session : Text} {sink : SinkValues} (h : (SourceRequest.m4 sourceIp sink).Plain)
    (hcseq : IsCSeq cSeq) (hsession : PlainSession session) :
    (WfdRtspM4Request.parse {} ((SourceRequest.m4 sourceIp sink).fields cSeq session).build.stringify).1.cSeq = cSeq ∧
      SinkApp.m4Url ((SourceRequest.m4 sourceIp sink).fields cSeq session).build.stringify = presentationUrl sourceIp := by
  obtain ⟨r, hparse, hcarried⟩ := RequestFields.parse_text (SourceRequest.sound h hcseq hsession)
  generalize ((SourceRequest.m4 sourceIp sink).fields cSeq session).build.stringify = text at hparse ⊢
  have hobject : RtspRequestObject.parse {} text = ({ toRtspRequest := r }, {}) := by
    have hresult : RtspRequest.parse (RtspRequestObject.toRtspRequest {}) text = (r, {}) := hparse
    rw [RtspRequestObject.parse, hresult]
  have hcode : (RtspRequestObject.parse {} text).2.code = .ok := by rw [hobject]
  have hparams := (m4_parse hcode).2
  have hbody : r.body = (m4Params sourceIp sink).map fun p => field p.1 p.2 := hcarried.body
  rw [hobject, hbody, ResponseFields.splitParameter_fields (m4Params_lines h.1 h.2).1] at hparams
  constructor
  · rw [WfdRtspM4Request.parse]
    simp only [hobject, ne_eq, not_true_eq_false, if_false]
    exact hcarried.cSeq
  · have hvalue : "rtsp://".toList ++ cStr sourceIp ++ "/wfd1.0/streamid=0 none".toList =
        presentationUrl sourceIp ++ [' '] ++ "none".toList := by
      have hend : "/wfd1.0/streamid=0".toList ++ [' '] ++ "none".toList = "/wfd1.0/streamid=0 none".toList := by decide
      have happend (s t u v : Text) : s ++ (t ++ u ++ v) = s ++ t ++ u ++ v := by simp
      rw [← hend]
      exact happend _ _ _ _
    have htrimmed : Trimmed ("rtsp://".toList ++ cStr sourceIp ++ "/wfd1.0/streamid=0 none".toList) :=
      trimmed_between (by decide) (by decide)
    have hfind : (WfdRtspM4Request.parse {} text).1.getParameterValue wfdParamPresentationUrl =
        presentationUrl sourceIp ++ [' '] ++ "none".toList := by
      have hne : "rtsp://".toList ++ cStr sourceIp ++ "/wfd1.0/streamid=0 none".toList ≠ [] :=
        List.append_ne_nil_of_right_ne_nil _ (by decide)
      rw [WfdRtspM4Request.getParameterValue, hparams, m4Params, List.map_cons, readField_of_trimmed htrimmed hne,
        Tokens.find?, List.lookup_cons, beq_self_eq_true, ← hvalue]
      rfl
    rw [SinkApp.m4Url, WfdRtspM4Request.getPresentationUrl, hfind]
    rw [if_neg (by simp), RtspCommon.split, split_piece h.1.url.1]
    rfl

end WifiDisplay
