import WifiDisplay.RtspResponseTexts
import WifiDisplay.RtspTransport

/-! Which responses are read back from their texts. -/

namespace WifiDisplay

open TextSplit RtspCommon

namespace ResponseFields

/-- An address in a transport field. -/
def IsAddress (s : Text) : Prop := LineText s ∧ ';' ∉ s ∧ '=' ∉ s

def InInt (n : Int) : Prop := -2 ^ 31 ≤ n ∧ n < 2 ^ 31

/-- The arguments of the port setters are of type `int`. -/
def CallInInt : PortCall → Prop
  | .client minPort maxPort => InInt minPort ∧ InInt maxPort
  | .server minPort maxPort => InInt minPort ∧ InInt maxPort

instance (s : Text) : Decidable (IsAddress s) := inferInstanceAs (Decidable (_ ∧ _))

instance (n : Int) : Decidable (InInt n) := inferInstanceAs (Decidable (_ ∧ _))

instance (c : PortCall) : Decidable (CallInInt c) :=
  match c with
  | .client _ _ => inferInstanceAs (Decidable (_ ∧ _))
  | .server _ _ => inferInstanceAs (Decidable (_ ∧ _))

/-- The values of a class are well-formed. -/
def KindWellFormed : ResponseKind → Prop
  | .plain => True
  | .options publicItems => LineText publicItems ∧ Trimmed publicItems
  | .describe url body => LineText url ∧ ∀ l ∈ body, LineText l ∧ l ≠ []
  | .getParameter body => ∀ l ∈ body, LineText l ∧ l ≠ []
  | .setup destination source calls =>
    IsAddress destination ∧ IsAddress source ∧ ∀ c ∈ calls, CallInInt c
  | .m3 params => ∀ p ∈ params, IsField p ∧ Trimmed p.2 ∧ p.2 ≠ []
  | .m6 clientPort serverPort => InInt clientPort ∧ InInt serverPort
  | .m7 => True

/-- Numbers of type `int`, a session id that is a trimmed line without a semicolon,
well-formed values of the class, and a body text below the largest size of a string. -/
structure WellFormed (f : ResponseFields) : Prop where
  cSeq : InInt f.cSeq
  status : InInt f.status
  session : LineText f.session ∧ Trimmed f.session ∧ ';' ∉ f.session
  timeout : InInt f.timeout
  kind : KindWellFormed f.kind
  size : (bodyLines f.body).length < 2 ^ 63

/-- Both ends of a range as they were given, read from the transport of the object `r`. A range
without a lower end is not set. -/
def RangeReadsAs (r : RtspResponseObject) (key : Text) (lower : Int) (range : Int × Int) : Prop :=
  lower = range.1 ∧ transportUpper r key = if range.1 = 0 then 0 else upperEnd range

/-- What the class has besides the values of every response, as its readers find it
in the object `r` that its text was parsed to. -/
def KindReadsAs (text : Text) (r : RtspResponseObject) : ResponseKind → Prop
  | .options publicItems => r.getToken rtspTokenPublic = publicItems
  | .setup _ _ calls =>
    RangeReadsAs r "client_port=".toList r.getClientPort (GivenPorts.ofCalls calls).client ∧
      RangeReadsAs r "server_port=".toList r.getServerPort (GivenPorts.ofCalls calls).server
  | .m6 clientPort serverPort => r.getClientPort = clientPort ∧ r.getServerPort = serverPort
  | .m3 params =>
    (WfdRtspM3Response.parse {} text).2.code = .ok ∧
      (WfdRtspM3Response.parse {} text).1.toRtspResponseObject = r ∧
      (WfdRtspM3Response.parse {} text).1.params = params
  | _ => True

/-- The values of a parsed response. -/
def ReadsAs (f : ResponseFields) (text : Text) (r : RtspResponseObject) : Prop :=
  r.cSeq = f.cSeq ∧ r.status = f.status ∧ r.session = f.session ∧ r.timeout = f.timeout ∧
    r.body = f.body ∧ KindReadsAs text r f.kind

/-- The text of the response parses, and to the same values. -/
def RoundTrips (f : ResponseFields) (date : Text) : Prop :=
  (RtspResponseObject.parse {} (f.text date)).2.code = .ok ∧
    f.ReadsAs (f.text date) (RtspResponseObject.parse {} (f.text date)).1

/-- The given upper ends are those that are printed: the client's range is printed without its own,
and the server's with the last of both. -/
def PortsKept (g : GivenPorts) : Prop :=
  (g.client.1 = 0 ∨ UpperKept g.client 0) ∧ (g.server.1 = 0 ∨ UpperKept g.server g.lastUpper)

/-- A timeout is either not set or comes with a session id to stand behind; the
public methods are not empty; a setup response has no session, and its ports are kept; a body is
not longer than its length field can say. -/
structure Kept (f : ResponseFields) : Prop where
  timeout : f.timeout = -1 ∨ f.timeout > 0 ∧ f.session ≠ []
  publicItems : f.kind ≠ .options []
  setup : ∀ d s calls, f.kind = .setup d s calls →
    f.session = [] ∧ PortsKept (.ofCalls calls)
  length : LengthKept (bodyLines f.body).length

/-- The session id and the timeout that are read from the field. -/
def readSession : Option Text → Text × Int
  | none => ([], -1)
  | some value => ((RtspResponse.setSession {} value).session, (RtspResponse.setSession {} value).timeout)

theorem setSession_projections (r : RtspResponse) (value : Text) :
    (r.setSession value).cSeq = r.cSeq ∧ (r.setSession value).status = r.status ∧
      (r.setSession value).tokens = r.tokens ∧ (r.setSession value).body = r.body := by
  rw [RtspResponse.setSession]
  repeat' split
  all_goals exact ⟨rfl, rfl, rfl, rfl⟩

theorem setSession_read {r : RtspResponse} (htimeout : r.timeout = -1) (value : Text) :
    ((r.setSession value).session, (r.setSession value).timeout) = readSession (some value) := by
  simp only [readSession, RtspResponse.setSession]
  repeat' split
  all_goals simp only [htimeout]

theorem setTokens_read {r : RtspResponse} {c : Int} (hc : InInt c) (htimeout : r.timeout = -1)
    (hsession : r.session = []) (hcseq : Tokens.find? r.tokens rtspTokenCseq = some (decimal c))
    (hwww : Tokens.find? r.tokens rtspTokenWwwAuthenticate = none) :
    r.setTokens.cSeq = c ∧ r.setTokens.status = r.status ∧ r.setTokens.tokens = r.tokens ∧
      r.setTokens.body = r.body ∧
      (r.setTokens.session, r.setTokens.timeout) =
        readSession (Tokens.find? r.tokens rtspTokenSession) := by
  have hatoi := atoi_decimal hc.1 hc.2
  cases hs : Tokens.find? r.tokens rtspTokenSession with
  | none =>
    simp only [RtspResponse.setTokens, hs, hwww, hcseq, Option.map_some, Option.getD_some, hatoi]
    exact ⟨trivial, trivial, trivial, trivial, by rw [hsession, htimeout]; rfl⟩
  | some value =>
    have htokens (r : RtspResponse) := (setSession_projections r value).2.2.1
    simp only [RtspResponse.setTokens, hs, htokens, hwww, hcseq, Option.map_some, Option.getD_some,
      hatoi]
    refine ⟨(setSession_projections _ value).1, (setSession_projections _ value).2.1,
      trivial, (setSession_projections _ value).2.2.2, ?_⟩
    apply setSession_read
    exact htimeout

theorem readSession_printed {session : Text} (hsemi : ';' ∉ session)
    {timeout : Int} (ht : InInt timeout) :
    readSession (some (session ++
      if timeout > 0 then ";timeout=".toList ++ decimal timeout else [])) =
      (session, if timeout > 0 then timeout else -1) := by
  by_cases hpos : timeout > 0
  · have hbreak : breakOn [';'] (session ++ (";timeout=".toList ++ decimal timeout)) =
        some (session, "timeout=".toList ++ decimal timeout) := by
      have h := breakOn_piece (d := []) hsemi ("timeout=".toList ++ decimal timeout)
      rw [List.append_assoc] at h
      exact h
    have hequals : breakOn ['='] ("timeout=".toList ++ decimal timeout) =
        some ("timeout".toList, decimal timeout) := by
      have hno : '=' ∉ "timeout".toList := by decide
      have h := breakOn_piece (d := []) hno (decimal timeout)
      exact h
    have hrest : "timeout=".toList ++ decimal timeout ≠ [] := by simp
    rw [if_pos hpos, if_pos hpos, readSession, RtspResponse.setSession, hbreak]
    simp only [if_neg hrest, hequals, atoi_decimal ht.1 ht.2]
  · have hbreak : breakOn [';'] session = none := breakOn_of_not_mem (d := []) hsemi
    rw [if_neg hpos, if_neg hpos, List.append_nil, readSession, RtspResponse.setSession, hbreak]

theorem statusLine_words (f : ResponseFields) :
    LineText f.statusLine ∧ ∃ reason rest,
      RtspCommon.split f.statusLine rtspSp = rtspVersionText :: decimal f.status :: reason :: rest := by
  have hwords : ∃ words : List Text, words ≠ [] ∧ statusText f.status = join rtspSp words ∧
      LineText (statusText f.status) ∧ (∀ w ∈ words, ' ' ∉ w) ∧ words.getLast? ≠ some [] := by
    rw [statusText]
    split
    · exact ⟨["Continue".toList], by decide, by decide, by decide, by decide, by decide⟩
    · split
      · exact ⟨["Bad".toList, "Request".toList], by decide, by decide, by decide, by decide, by decide⟩
      · split
        · exact ⟨["Unauthorized".toList], by decide, by decide, by decide, by decide, by decide⟩
        · exact ⟨["OK".toList], by decide, by decide, by decide, by decide, by decide⟩
  obtain ⟨words, hne, htext, hline, hblank, hlast⟩ := hwords
  obtain ⟨reason, rest, rfl⟩ := List.exists_cons_of_ne_nil hne
  have hversion : LineText rtspVersionText := by decide
  have hsp : LineText rtspSp := by decide
  constructor
  · exact (((hversion.append hsp).append (lineText_decimal _)).append hsp).append hline
  · refine ⟨reason, rest, ?_⟩
    have hstatus : f.statusLine =
        join rtspSp (rtspVersionText :: decimal f.status :: reason :: rest) := by
      rw [join_cons_cons, join_cons_cons, ← htext, statusLine]
      simp only [List.append_assoc]
    rw [hstatus]
    apply split_join (x := ' ') (d := []) (by simp)
    · intro w hw
      rcases List.mem_cons.mp hw with rfl | hw
      · decide
      · rcases List.mem_cons.mp hw with rfl | hw
        · exact not_mem_decimal (by decide) (by decide) _
        · exact hblank w hw
    · rw [List.getLast?_cons_cons, List.getLast?_cons_cons]
      exact hlast

theorem WellFormed.parse_lines {f : ResponseFields} (h : f.WellFormed) {fields : Tokens}
    (hf : ∀ t ∈ fields, IsField t) (hnodup : (fields.map Prod.fst).Nodup) (hne : fields ≠ [])
    (hcseq : (readFields fields).find? rtspTokenCseq = some (decimal f.cSeq))
    (hwww : (readFields fields).find? rtspTokenWwwAuthenticate = none) (rest : Text)
    {error : RtspError} {body : List Text}
    (hbody : parseBody (if rest = [] then [] else TextSplit.split endOfHeader rest)
      (readFields fields) [] = (error, body)) (hcode : error.code = .ok)
    {text : Text} (htext : text =
      ended rtspCrlf (f.statusLine :: fieldLines fields) ++ rtspCrlf ++ rest) :
    (RtspResponseObject.parse {} text).2.code = .ok ∧
      (RtspResponseObject.parse {} text).1.cSeq = f.cSeq ∧
      (RtspResponseObject.parse {} text).1.status = f.status ∧
      (RtspResponseObject.parse {} text).1.tokens = readFields fields ∧
      (RtspResponseObject.parse {} text).1.body = body ∧
      ((RtspResponseObject.parse {} text).1.session, (RtspResponseObject.parse {} text).1.timeout) =
        readSession ((readFields fields).find? rtspTokenSession) := by
  obtain ⟨hline, reason, words, hsplit⟩ := f.statusLine_words
  have hstatus : f.statusLine ≠ [] := by
    intro h0
    rw [h0] at hsplit
    exact absurd (List.cons.inj hsplit).1 (by decide)
  have hmessage := parseMessage_fields hline hstatus hf hnodup hne rest
  rw [hbody, ← fieldLines, ← htext] at hmessage
  have hheader : readFields fields ≠ [] := by
    intro h0
    rw [h0] at hcseq
    cases hcseq
  have htake := RtspResponse.take_response (r := {}) (m := parseMessage text [] [])
    (by rw [hmessage]; exact hsplit) (by rw [hmessage]; exact hcode) (by rw [hmessage]; exact hheader)
  have hparse : RtspResponse.parse {} text = RtspResponse.take {} (parseMessage text [] []) := rfl
  have hread := setTokens_read (r := { tokens := readFields fields, body
                                       status := atoi (decimal f.status) }) h.cSeq rfl rfl hcseq hwww
  have hobject : (RtspResponseObject.parse {} text).1.toRtspResponse =
      RtspResponse.setTokens { tokens := readFields fields, body
                               status := atoi (decimal f.status) } := by
    have hobject : (RtspResponseObject.parse {} text).1.toRtspResponse =
        (RtspResponse.take {} (parseMessage text [] [])).1 := rfl
    rw [hobject, htake.1, RtspResponse.withTokens, hmessage]
  refine ⟨?_, ?_, ?_, ?_, ?_, ?_⟩
  · rw [RtspResponseObject.parse, hparse]
    exact htake.2
  · rw [hobject]
    exact hread.1
  · rw [hobject, hread.2.1]
    exact atoi_decimal h.status.1 h.status.2
  · rw [hobject]
    exact hread.2.2.1
  · rw [hobject]
    exact hread.2.2.2.1
  · rw [hobject]
    exact hread.2.2.2.2

end ResponseFields

end WifiDisplay
