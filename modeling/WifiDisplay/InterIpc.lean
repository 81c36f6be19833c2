import WifiDisplay.WfdMsg

/-! `IpcMsgEncoder`, `IpcMsgDecoder` and `DoIpcCommand` of the proxy and of the stub: a message goes to the
listener of the peer, and its reply comes back. -/

namespace WifiDisplay

/-- A `BaseMsg` itself, or a message of one of the classes over it. -/
inductive BaseMsg (Obj : Type) where
  | base
  | wfd (id : WfdMsgId) (message : Message Obj id)

namespace BaseMsg

variable {Obj : Type}

def getMsgId : BaseMsg Obj → Int32
  | base => 0
  | wfd id _ => id.value

/-- What a parcel holds of a message: its id and its attributes. -/
def items : BaseMsg Obj → List (ParcelItem Obj)
  | base => [⟨.int32, (0 : Int32)⟩]
  | wfd id message => ⟨.int32, id.value⟩ :: IpcItems.items message

def Sound : BaseMsg Obj → Prop
  | base => True
  | wfd _ message => IpcItems.Sound Obj message

/-- What becomes of `sharingMsg` when the message is decoded over it. -/
def decodedOver (sharingMsg : Option (BaseMsg Obj)) : BaseMsg Obj → Option (BaseMsg Obj)
  | base => sharingMsg
  | wfd id message => some (wfd id message)

end BaseMsg

section Commands

variable {Obj : Type} {P : MessageParcel Obj}

/-- The result of `IpcSerialize` is not looked at. -/
def IpcMsgEncoder.onIpcMessage : BaseMsg Obj → IpcAccess P Unit
  | .base => pure ()
  | .wfd _ message => tryCatch (ipcEncodeBindAttr message) fun _ => pure ()

def IpcMsgEncoder.msgEncode (sharingMsg : BaseMsg Obj) : IpcAccess P Unit := do
  tryCatch (.write .refused .int32 sharingMsg.getMsgId) fun _ => pure ()
  IpcMsgEncoder.onIpcMessage sharingMsg

/-- A message that is refused leaves `sharingMsg` as it was. -/
def IpcMsgDecoder.onIpcMessage (nMsgType : Int32) (sharingMsg : Option (BaseMsg Obj)) :
    IpcAccess P (Option (BaseMsg Obj)) :=
  match WfdMsgId.case? nMsgType with
  | none => pure sharingMsg
  | some id =>
    tryCatch (do
        let message ← ipcDecodeBindAttr
        pure (some (.wfd id message)))
      fun
      | .refused => pure sharingMsg
      | failure => throw failure

/-- `ReadInt32` gives 0 where it finds nothing. -/
def readInt32 : IpcAccess P Int32 := .readD (P := P) .int32 (0 : Int32)

def IpcMsgDecoder.msgDecode (sharingMsg : Option (BaseMsg Obj)) : IpcAccess P (Option (BaseMsg Obj)) := do
  let nMsgType ← readInt32
  IpcMsgDecoder.onIpcMessage nMsgType sharingMsg

/-- A new parcel with a message in it. -/
def IpcMsgEncoder.parcelOf (P : MessageParcel Obj) (msg : BaseMsg Obj) : P.Data :=
  ((IpcMsgEncoder.msgEncode msg : IpcAccess P Unit).runOn P.empty).2

/-- What `OnIpcRequest` of the listener makes of the `BaseMsg` that it is given for a reply. -/
def InterIpcStub.answer (stubListener : Option (BaseMsg Obj → BaseMsg Obj)) (msg : BaseMsg Obj) :
    BaseMsg Obj :=
  match stubListener with
  | none => .base
  | some onIpcRequest => onIpcRequest msg

/-- The message that the listener gets to hear, and the reply. `OnRemoteRequest` does not look at the
result. -/
def InterIpcStub.doIpcCommand (stubListener : Option (BaseMsg Obj → BaseMsg Obj)) (data : P.Data) :
    Except IpcFailure (Option (BaseMsg Obj) × P.Data) :=
  match (IpcMsgDecoder.msgDecode none : IpcAccess P _).runOn data with
  | (.error failure, _) => .error failure
  | (.ok none, _) => .ok (none, P.empty)
  | (.ok (some msg), _) => .ok (some msg, IpcMsgEncoder.parcelOf P (InterIpcStub.answer stubListener msg))

/-- The result and what becomes of `replyMsg`. -/
def InterIpcProxy.doIpcCommand (sendRequest : P.Data → Except Int32 P.Data) (msg : BaseMsg Obj)
    (replyMsg : Option (BaseMsg Obj)) : Except IpcFailure (Int32 × Option (BaseMsg Obj)) :=
  match sendRequest (IpcMsgEncoder.parcelOf P msg) with
  | .error error => .ok (error, replyMsg)
  | .ok reply =>
    let readReply : IpcAccess P (Int32 × Option (BaseMsg Obj)) := do
      let replyMsg ← IpcMsgDecoder.msgDecode replyMsg
      let result ← readInt32
      pure (result, replyMsg)
    (readReply.runOn reply).1

/-- `SendRequest` hands the parcels on to a stub and its reply back. -/
def InterIpcStub.Serves (stubListener : Option (BaseMsg Obj → BaseMsg Obj))
    (sendRequest : P.Data → Except Int32 P.Data) : Prop :=
  ∀ {data reply : P.Data} {heard : Option (BaseMsg Obj)},
    InterIpcStub.doIpcCommand stubListener data = .ok (heard, reply) → sendRequest data = .ok reply

/-- A `SendRequest` that reaches the stub, and -1 for a peer that ends over the request. -/
def InterIpcStub.sendRequest (stubListener : Option (BaseMsg Obj → BaseMsg Obj)) (data : P.Data) :
    Except Int32 P.Data :=
  match InterIpcStub.doIpcCommand stubListener data with
  | .error _ => .error (-1)
  | .ok (_, reply) => .ok reply

theorem InterIpcStub.serves_sendRequest (stubListener : Option (BaseMsg Obj → BaseMsg Obj)) :
    Serves stubListener (sendRequest stubListener : P.Data → Except Int32 P.Data) := by
  intro data reply heard h
  rw [sendRequest, h]

end Commands

section Delivery

open Parcel Access

variable {Obj : Type} {P : MessageParcel Obj} {fits : List (ParcelItem Obj) → Prop}
  {contents : P.Data → List (ParcelItem Obj)} {sendRequest : P.Data → Except Int32 P.Data}
  {stubListener : Option (BaseMsg Obj → BaseMsg Obj)} {id : WfdMsgId} {message : Message Obj id}

theorem reads_readInt32 (hP : P.Lawful fits contents) (n : Int32) :
    (readInt32 : IpcAccess P Int32).Reads contents [⟨.int32, n⟩] n :=
  reads_readD hP ParcelKind.int32 (0 : Int32) n

theorem readInt32_exhausted (hP : P.Lawful fits contents) {d : P.Data} (h : contents d = []) :
    ∃ d', (readInt32 : IpcAccess P Int32).runOn d = (.ok 0, d') ∧ contents d' = [] :=
  readD_exhausted hP ParcelKind.int32 (0 : Int32) h

theorem IpcMsgEncoder.writes_msgId (hP : P.Lawful fits contents) (n : Int32) :
    (tryCatch (.write .refused .int32 n) fun _ => pure () : IpcAccess P Unit).Writes fits contents
      [⟨.int32, n⟩] :=
  (writes_write hP IpcFailure.refused ParcelKind.int32 n).tryCatch _

theorem IpcMsgEncoder.writes_msgEncode (hP : P.Lawful fits contents) (msg : BaseMsg Obj) :
    (msgEncode msg : IpcAccess P Unit).Writes fits contents msg.items := by
  have hid := writes_msgId hP msg.getMsgId
  cases msg with
  | base => exact hid.seq hP writes_pure
  | wfd id message => exact hid.seq hP ((LawfulIpcAttr.writes hP message).tryCatch _)

theorem IpcMsgEncoder.contents_parcelOf (hP : P.Lawful fits contents) {msg : BaseMsg Obj}
    {items : List (ParcelItem Obj)} (h : (msgEncode msg : IpcAccess P Unit).Writes fits contents items)
    (hfits : fits items) : contents (parcelOf P msg) = items := by
  have hencoded := h P.empty
  rw [hP.empty] at hencoded
  obtain ⟨d, hencoded, hd⟩ := hencoded hfits
  rw [parcelOf, hencoded]
  exact hd

theorem IpcMsgDecoder.reads_onIpcMessage (hP : P.Lawful fits contents) (hsound : IpcItems.Sound Obj message)
    (sharingMsg : Option (BaseMsg Obj)) :
    (onIpcMessage id.value sharingMsg : IpcAccess P _).Reads contents (IpcItems.items message)
      (some (.wfd id message)) := by
  rw [onIpcMessage, WfdMsgId.case?_value]
  exact ((LawfulIpcAttr.reads hP message hsound).map fun message =>
    some (BaseMsg.wfd id message)).tryCatch _

theorem IpcMsgDecoder.reads_msgDecode (hP : P.Lawful fits contents) {msg : BaseMsg Obj} (hsound : msg.Sound)
    (sharingMsg : Option (BaseMsg Obj)) :
    (msgDecode sharingMsg : IpcAccess P _).Reads contents msg.items (msg.decodedOver sharingMsg) := by
  have hid := reads_readInt32 hP msg.getMsgId
  cases msg with
  | base =>
    refine hid.bind ?_
    change (onIpcMessage 0 sharingMsg : IpcAccess P _).Reads contents [] sharingMsg
    rw [onIpcMessage, WfdMsgId.case?_zero]
    exact reads_pure sharingMsg
  | wfd id message => exact hid.bind (reads_onIpcMessage hP hsound sharingMsg)

/-- In an empty parcel the id reads as that of a `BaseMsg`. -/
theorem IpcMsgDecoder.msgDecode_exhausted (hP : P.Lawful fits contents) (sharingMsg : Option (BaseMsg Obj))
    {d : P.Data} (h : contents d = []) :
    ∃ d', (msgDecode sharingMsg : IpcAccess P _).runOn d = (.ok sharingMsg, d') ∧ contents d' = [] := by
  obtain ⟨d', hid, hd'⟩ := readInt32_exhausted hP h
  refine ⟨d', ?_, hd'⟩
  rw [msgDecode, runOn_bind hid, onIpcMessage, WfdMsgId.case?_zero]
  exact runOn_pure _ _

theorem InterIpcStub.doIpcCommand_heard (hP : P.Lawful fits contents)
    (stubListener : Option (BaseMsg Obj → BaseMsg Obj)) (hsound : IpcItems.Sound Obj message) {data : P.Data}
    (hdata : contents data = (BaseMsg.wfd id message).items) :
    doIpcCommand stubListener data =
      .ok (some (.wfd id message), IpcMsgEncoder.parcelOf P (answer stubListener (.wfd id message))) := by
  have hmsg : (BaseMsg.wfd id message).Sound := hsound
  rw [← List.append_nil (BaseMsg.items _)] at hdata
  obtain ⟨d, hdecoded, -⟩ := IpcMsgDecoder.reads_msgDecode hP hmsg none data [] hdata
  rw [doIpcCommand, hdecoded]
  rfl

theorem InterIpcStub.reply_of_unheard {data reply : P.Data}
    (h : doIpcCommand stubListener data = .ok (none, reply)) : reply = P.empty := by
  unfold doIpcCommand at h
  split at h <;> cases h
  rfl

/-- The peer puts no result behind a reply, and its place reads as 0. -/
theorem InterIpcProxy.doIpcCommand_replied (hP : P.Lawful fits contents) {msg : BaseMsg Obj}
    {replyMsg replied : Option (BaseMsg Obj)} {reply d : P.Data}
    (hsent : sendRequest (IpcMsgEncoder.parcelOf P msg) = .ok reply)
    (hdecoded : (IpcMsgDecoder.msgDecode replyMsg : IpcAccess P _).runOn reply = (.ok replied, d))
    (hd : contents d = []) : doIpcCommand sendRequest msg replyMsg = .ok (0, replied) := by
  obtain ⟨d', hresult, -⟩ := readInt32_exhausted hP hd
  simp only [doIpcCommand, hsent]
  rw [runOn_bind hdecoded, runOn_bind hresult, runOn_pure]

/-- The listener of the peer hears the message that was sent, and the sender gets the reply that the
listener has made. -/
theorem InterIpcProxy.doIpcCommand_delivers (hP : P.Lawful fits contents)
    (hserves : InterIpcStub.Serves stubListener sendRequest) (replyMsg : Option (BaseMsg Obj))
    (hsound : IpcItems.Sound Obj message) (hfits : fits (BaseMsg.wfd id message).items)
    (hanswer : (InterIpcStub.answer stubListener (.wfd id message)).Sound)
    (hreply : fits (InterIpcStub.answer stubListener (.wfd id message)).items) :
    (∃ reply, InterIpcStub.doIpcCommand stubListener (IpcMsgEncoder.parcelOf P (.wfd id message)) =
        .ok (some (.wfd id message), reply)) ∧
      doIpcCommand sendRequest (.wfd id message) replyMsg =
        .ok (0, (InterIpcStub.answer stubListener (.wfd id message)).decodedOver replyMsg) := by
  have hdata := IpcMsgEncoder.contents_parcelOf hP (IpcMsgEncoder.writes_msgEncode hP _) hfits
  have hheard := InterIpcStub.doIpcCommand_heard hP stubListener hsound hdata
  refine ⟨⟨_, hheard⟩, ?_⟩
  have hreply := IpcMsgEncoder.contents_parcelOf hP (IpcMsgEncoder.writes_msgEncode hP _) hreply
  rw [← List.append_nil (BaseMsg.items _)] at hreply
  obtain ⟨d, hdecoded, hd⟩ := IpcMsgDecoder.reads_msgDecode hP hanswer replyMsg _ [] hreply
  exact doIpcCommand_replied hP (hserves hheard) hdecoded hd

def WfdSourceDeviceFoundMsg.television : WfdSourceDeviceFoundMsg where
  deviceInfos := [{ deviceId := ['7'], deviceName := ['t', 'v'] }]

/-- A listener that answers every message with 3. -/
def InterIpcStub.answersThree : Option (BaseMsg Unit → BaseMsg Unit) :=
  some fun _ => .wfd .commonRsp (⟨3⟩ : WfdCommonRsp)

theorem InterIpcProxy.doIpcCommand_delivers_television :
    (∃ reply, InterIpcStub.doIpcCommand (P := queue (ParcelKind.Value Unit)) InterIpcStub.answersThree
        (IpcMsgEncoder.parcelOf _ (.wfd .sourceDeviceFoundMsg WfdSourceDeviceFoundMsg.television)) =
        .ok (some (.wfd .sourceDeviceFoundMsg WfdSourceDeviceFoundMsg.television), reply)) ∧
      doIpcCommand (P := queue (ParcelKind.Value Unit)) (InterIpcStub.sendRequest InterIpcStub.answersThree)
          (.wfd .sourceDeviceFoundMsg WfdSourceDeviceFoundMsg.television) none =
        .ok (0, some (.wfd .commonRsp (⟨3⟩ : WfdCommonRsp))) := by
  have hsound : IpcItems.Sound Unit WfdSourceDeviceFoundMsg.television := by
    refine And.intro (show 1 < 2 ^ 31 by decide) fun _ _ => ?_
    exact ⟨trivial, trivial, trivial, trivial, trivial⟩
  exact doIpcCommand_delivers (lawful_queue _) (InterIpcStub.serves_sendRequest _) none hsound trivial trivial
    trivial

/-- A message that the peer cannot read is answered as if its listener had left the reply alone. -/
theorem InterIpcProxy.doIpcCommand_unheard (hP : P.Lawful fits contents)
    (hserves : InterIpcStub.Serves stubListener sendRequest) {msg : BaseMsg Obj}
    (replyMsg : Option (BaseMsg Obj)) {reply : P.Data}
    (hunheard : InterIpcStub.doIpcCommand stubListener (IpcMsgEncoder.parcelOf P msg) = .ok (none, reply)) :
    doIpcCommand sendRequest msg replyMsg = .ok (0, replyMsg) := by
  have hempty : contents reply = [] := by
    rw [InterIpcStub.reply_of_unheard hunheard]
    exact hP.empty
  obtain ⟨d, hdecoded, hd⟩ := IpcMsgDecoder.msgDecode_exhausted hP replyMsg hempty
  exact doIpcCommand_replied hP (hserves hunheard) hdecoded hd

section NullSurface

variable {m : WfdAppendSurfaceReq Obj}

/-- Nothing of a null pointer gets into a parcel. -/
def RefusesNull (P : MessageParcel Obj) : Prop :=
  ∀ d, P.write .object (none : Option Obj) d = (false, d)

theorem stops_null (hnull : RefusesNull P) :
    (ipcEncodeBindAttr (none : Option Obj) : IpcAccess P Unit).Stops fits contents [] .refused := by
  intro d _
  refine ⟨d, ?_, (List.append_nil _).symm⟩
  simp [ipcEncodeBindAttr, Access.write, runOn, hnull d]

theorem lacks_object (hP : P.Lawful fits contents) :
    (ipcDecodeBindAttr : IpcAccess P (Option Obj)).Lacks contents [] .refused := by
  intro d h
  obtain ⟨d', hread, -⟩ := readD_exhausted (ε := IpcFailure) hP ParcelKind.object none h
  refine ⟨d', ?_⟩
  rw [ipcDecodeBindAttr]
  exact runOn_bind hread

/-- What gets into the parcel of a request without a surface. -/
def WfdAppendSurfaceReq.itemsBefore (m : WfdAppendSurfaceReq Obj) : List (ParcelItem Obj) :=
  [⟨.int32, WfdMsgId.setSurfaceReq.value⟩, ⟨.uint32, m.sceneType⟩, ⟨.string, m.deviceId⟩]

theorem IpcMsgEncoder.writes_null (hP : P.Lawful fits contents) (hnull : RefusesNull P)
    (hsurface : m.surface = none) :
    (msgEncode (.wfd .setSurfaceReq m) : IpcAccess P Unit).Writes fits contents m.itemsBefore := by
  have hstops : (ipcEncodeBindAttr m.surface : IpcAccess P Unit).Stops fits contents [] .refused := by
    rw [hsurface]
    exact stops_null hnull
  have hdevice := (LawfulIpcAttr.writes hP m.deviceId).stops hP hstops
  have hattrs : (ipcEncodeBindAttr m : IpcAccess P Unit).Stops fits contents
      [⟨.uint32, m.sceneType⟩, ⟨.string, m.deviceId⟩] .refused :=
    (LawfulIpcAttr.writes hP m.sceneType).stops hP hdevice
  exact (writes_msgId hP _).seq hP hattrs.tryCatch

theorem IpcMsgDecoder.msgDecode_null (hP : P.Lawful fits contents) {d : P.Data}
    (h : contents d = m.itemsBefore) :
    ∃ d', (msgDecode none : IpcAccess P (Option (BaseMsg Obj))).runOn d = (.ok none, d') := by
  have hdevice : (ipcDecodeBindAttr : IpcAccess P (Text × Option Obj)).Lacks contents
      [⟨.string, m.deviceId⟩] .refused := by
    refine (LawfulIpcAttr.reads hP m.deviceId trivial).lacks ?_
    exact (lacks_object hP).bind
  have hscene : (ipcDecodeBindAttr : IpcAccess P (UInt32 × Text × Option Obj)).Lacks contents
      [⟨.uint32, m.sceneType⟩, ⟨.string, m.deviceId⟩] .refused := by
    refine (LawfulIpcAttr.reads hP m.sceneType trivial).lacks ?_
    exact hdevice.bind
  have hattrs : (ipcDecodeBindAttr : IpcAccess P (WfdAppendSurfaceReq Obj)).Lacks contents
      [⟨.uint32, m.sceneType⟩, ⟨.string, m.deviceId⟩] .refused := hscene.bind
  obtain ⟨d₁, hid, hd₁⟩ := reads_readInt32 hP WfdMsgId.setSurfaceReq.value d _ h
  obtain ⟨d₂, hrefused⟩ := hattrs d₁ hd₁
  refine ⟨d₂, ?_⟩
  rw [msgDecode, runOn_bind hid, onIpcMessage, WfdMsgId.case?_value]
  exact runOn_tryCatch_error (runOn_bind_error hrefused)

/-- The service never hears of a request for a surface that has none, and the client is told 0. -/
theorem InterIpcProxy.doIpcCommand_null (hP : P.Lawful fits contents) (hnull : RefusesNull P)
    (hserves : InterIpcStub.Serves stubListener sendRequest) (replyMsg : Option (BaseMsg Obj))
    (hsurface : m.surface = none) (hfits : fits m.itemsBefore) :
    InterIpcStub.doIpcCommand stubListener (IpcMsgEncoder.parcelOf P (.wfd .setSurfaceReq m)) =
        .ok (none, P.empty) ∧
      doIpcCommand sendRequest (.wfd .setSurfaceReq m) replyMsg = .ok (0, replyMsg) := by
  have hdata := IpcMsgEncoder.contents_parcelOf hP (IpcMsgEncoder.writes_null hP hnull hsurface) hfits
  obtain ⟨d, hdecoded⟩ := IpcMsgDecoder.msgDecode_null hP hdata
  have hunheard : InterIpcStub.doIpcCommand stubListener
      (IpcMsgEncoder.parcelOf P (.wfd .setSurfaceReq m)) = .ok (none, P.empty) := by
    rw [InterIpcStub.doIpcCommand, hdecoded]
  exact ⟨hunheard, doIpcCommand_unheard hP hserves replyMsg hunheard⟩

end NullSurface

end Delivery

end WifiDisplay
