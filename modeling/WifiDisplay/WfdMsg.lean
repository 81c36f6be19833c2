import WifiDisplay.IpcCodec

/-! The messages of `wfd_msg.h` between the service and its clients, with their `IPC_BIND_ATTR` lines. -/

namespace WifiDisplay

inductive WfdMsgId where
  | commonRsp
  | sinkStartReq
  | sinkStopReq
  | setSurfaceReq
  | addSurfaceReq
  | delSurfaceReq
  | setMediaFormatReq
  | playReq
  | pauseReq
  | closeReq
  | setSceneTypeReq
  | muteReq
  | unmuteReq
  | getSinkConfigReq
  | getSinkConfigRsp
  | connectionChangedMsg
  | decoderAccelerationDone
  | errorMsg
  | infoMsg
  | surfaceFailure
  | sourceStartDiscoveryReq
  | sourceStopDiscoveryReq
  | sourceDeviceFoundMsg
  | sourceAddDeviceReq
  | sourceRemoveDeviceReq
  | sourceDestroyScreenCaptureReq
  | getBoundDevicesReq
  | getBoundDevicesRsp
  | deleteBoundDeviceReq
  | isPcSourceMsg
  deriving DecidableEq, Repr

/-- `SharingMsgId::WFD_MSG_ID_START` and the numbers from it on. -/
def WfdMsgId.value (id : WfdMsgId) : Int32 := 2000 + Int32.ofNat id.ctorIdx

def WfdMsgId.all : List WfdMsgId :=
  [commonRsp, sinkStartReq, sinkStopReq, setSurfaceReq, addSurfaceReq, delSurfaceReq, setMediaFormatReq,
    playReq, pauseReq, closeReq, setSceneTypeReq, muteReq, unmuteReq, getSinkConfigReq, getSinkConfigRsp,
    connectionChangedMsg, decoderAccelerationDone, errorMsg, infoMsg, surfaceFailure,
    sourceStartDiscoveryReq, sourceStopDiscoveryReq, sourceDeviceFoundMsg, sourceAddDeviceReq,
    sourceRemoveDeviceReq, sourceDestroyScreenCaptureReq, getBoundDevicesReq, getBoundDevicesRsp,
    deleteBoundDeviceReq, isPcSourceMsg]

/-- The case of a `switch` on message ids that a number comes to. -/
def WfdMsgId.case? (n : Int32) : Option WfdMsgId := all.find? (·.value = n)

theorem WfdMsgId.case?_value (id : WfdMsgId) : case? id.value = some id := by
  cases id <;> decide

theorem WfdMsgId.case?_zero : case? 0 = none := by decide

structure BoundDeviceInfo where
  deviceId : Text := []
  deviceName : Text := []
  deviceAddress : Text := []
  networkId : Text := []

structure WfdCommonRsp where
  ret : Int32 := 0

structure WfdSinkStartReq where

structure WfdSinkStopReq where

structure WfdAppendSurfaceReq (Obj : Type) where
  sceneType : UInt32 := 1
  deviceId : Text := []
  surface : Option Obj := none

structure WfdRemoveSurfaceReq where
  surfaceId : UInt64
  deviceId : Text := []

structure CodecAttr where
  formatId : Int32 := -1
  codecType : Int32 := -1

structure SetMediaFormatReq where
  deviceId : Text := []
  videoAttr : CodecAttr := {}
  audioAttr : CodecAttr := {}

structure WfdPlayReq where
  deviceId : Text := []

structure WfdPauseReq where
  deviceId : Text := []

structure WfdCloseReq where
  deviceId : Text := []

structure SetSceneTypeReq where
  sceneType : UInt32
  surfaceId : UInt64
  deviceId : Text := []

structure MuteReq where
  deviceId : Text := []

structure UnMuteReq where
  deviceId : Text := []

structure GetSinkConfigReq where

structure GetSinkConfigRsp where
  surfaceMaximum : UInt32
  accessDevMaximum : UInt32
  foregroundMaximum : UInt32

structure WfdSourceStartDiscoveryReq where

structure WfdSourceStopDiscoveryReq where

structure WfdCastDeviceInfo where
  deviceId : Text := []
  ipAddr : Text := []
  deviceName : Text := []
  primaryDeviceType : Text := []
  secondaryDeviceType : Text := []

structure WfdSourceDeviceFoundMsg where
  deviceInfos : List WfdCastDeviceInfo := []

structure WfdSourceAddDeviceReq where
  screenId : UInt64
  deviceId : Text := []

structure WfdSourceRemoveDeviceReq where
  deviceId : Text := []

structure DestroyScreenCaptureReq where
  deviceId : Text := []

structure WfdErrorMsg where
  errorCode : Int32
  agentId : UInt32
  contextId : UInt32
  message : Text := []
  mac : Text := []

structure WfdConnectionChangedMsg where
  state : Int32
  surfaceId : UInt64
  ip : Text := []
  mac : Text := []
  deviceName : Text := []
  primaryDeviceType : Text := []
  secondaryDeviceType : Text := []

structure WfdDecoderAccelerationDoneMsg where
  surfaceId : UInt64

structure WfdSurfaceFailureMsg where
  surfaceId : UInt64
  mac : Text := []

structure WfdGetBoundDevicesReq where

structure WfdGetBoundDevicesRsp where
  trustDevices : List BoundDeviceInfo := []

structure WfdDeleteBoundDeviceReq where
  deviceAddress : Text := []

structure WfdIsPcSourceMsg where

section Bindings

variable {Obj : Type} {P : MessageParcel Obj}

instance : IpcBindAttr WfdCommonRsp Int32 := ⟨(·.ret), (⟨·⟩), fun _ => rfl⟩

instance : IpcBindAttr WfdSinkStartReq Unit := ⟨fun _ => (), fun _ => {}, fun _ => rfl⟩

instance : IpcBindAttr WfdSinkStopReq Unit := ⟨fun _ => (), fun _ => {}, fun _ => rfl⟩

instance : IpcBindAttr (WfdAppendSurfaceReq Obj) (UInt32 × Text × Option Obj) where
  attrs m := (m.sceneType, m.deviceId, m.surface)
  ofAttrs | (sceneType, deviceId, surface) => { sceneType, deviceId, surface }
  ofAttrs_attrs _ := rfl

instance : IpcBindAttr WfdRemoveSurfaceReq (UInt64 × Text) where
  attrs m := (m.surfaceId, m.deviceId)
  ofAttrs | (surfaceId, deviceId) => { surfaceId, deviceId }
  ofAttrs_attrs _ := rfl

instance : IpcBindAttr CodecAttr (Int32 × Int32) where
  attrs m := (m.formatId, m.codecType)
  ofAttrs | (formatId, codecType) => { formatId, codecType }
  ofAttrs_attrs _ := rfl

instance : IpcBindAttr SetMediaFormatReq (Text × CodecAttr × CodecAttr) where
  attrs m := (m.deviceId, m.videoAttr, m.audioAttr)
  ofAttrs | (deviceId, videoAttr, audioAttr) => { deviceId, videoAttr, audioAttr }
  ofAttrs_attrs _ := rfl

instance : IpcBindAttr WfdPlayReq Text := ⟨(·.deviceId), (⟨·⟩), fun _ => rfl⟩

instance : IpcBindAttr WfdPauseReq Text := ⟨(·.deviceId), (⟨·⟩), fun _ => rfl⟩

instance : IpcBindAttr WfdCloseReq Text := ⟨(·.deviceId), (⟨·⟩), fun _ => rfl⟩

instance : IpcBindAttr SetSceneTypeReq (UInt32 × UInt64 × Text) where
  attrs m := (m.sceneType, m.surfaceId, m.deviceId)
  ofAttrs | (sceneType, surfaceId, deviceId) => { sceneType, surfaceId, deviceId }
  ofAttrs_attrs _ := rfl

instance : IpcBindAttr MuteReq Text := ⟨(·.deviceId), (⟨·⟩), fun _ => rfl⟩

instance : IpcBindAttr UnMuteReq Text := ⟨(·.deviceId), (⟨·⟩), fun _ => rfl⟩

instance : IpcBindAttr GetSinkConfigReq Unit := ⟨fun _ => (), fun _ => {}, fun _ => rfl⟩

instance : IpcBindAttr GetSinkConfigRsp (UInt32 × UInt32 × UInt32) where
  attrs m := (m.surfaceMaximum, m.accessDevMaximum, m.foregroundMaximum)
  ofAttrs | (surfaceMaximum, accessDevMaximum, foregroundMaximum) =>
            { surfaceMaximum, accessDevMaximum, foregroundMaximum }
  ofAttrs_attrs _ := rfl

instance : IpcBindAttr WfdSourceStartDiscoveryReq Unit := ⟨fun _ => (), fun _ => {}, fun _ => rfl⟩

instance : IpcBindAttr WfdSourceStopDiscoveryReq Unit := ⟨fun _ => (), fun _ => {}, fun _ => rfl⟩

instance : IpcBindAttr WfdCastDeviceInfo (Text × Text × Text × Text × Text) where
  attrs m := (m.deviceId, m.ipAddr, m.deviceName, m.primaryDeviceType, m.secondaryDeviceType)
  ofAttrs | (deviceId, ipAddr, deviceName, primaryDeviceType, secondaryDeviceType) =>
            { deviceId, ipAddr, deviceName, primaryDeviceType, secondaryDeviceType }
  ofAttrs_attrs _ := rfl

instance : IpcBindAttr WfdSourceDeviceFoundMsg (List WfdCastDeviceInfo) :=
  ⟨(·.deviceInfos), (⟨·⟩), fun _ => rfl⟩

instance : IpcBindAttr WfdSourceAddDeviceReq (UInt64 × Text) where
  attrs m := (m.screenId, m.deviceId)
  ofAttrs | (screenId, deviceId) => { screenId, deviceId }
  ofAttrs_attrs _ := rfl

instance : IpcBindAttr WfdSourceRemoveDeviceReq Text := ⟨(·.deviceId), (⟨·⟩), fun _ => rfl⟩

instance : IpcBindAttr DestroyScreenCaptureReq Text := ⟨(·.deviceId), (⟨·⟩), fun _ => rfl⟩

instance : IpcBindAttr WfdErrorMsg (Int32 × UInt32 × UInt32 × Text × Text) where
  attrs m := (m.errorCode, m.agentId, m.contextId, m.message, m.mac)
  ofAttrs | (errorCode, agentId, contextId, message, mac) =>
            { errorCode, agentId, contextId, message, mac }
  ofAttrs_attrs _ := rfl

instance : IpcBindAttr WfdConnectionChangedMsg (Int32 × UInt64 × Text × Text × Text × Text × Text) where
  attrs m := (m.state, m.surfaceId, m.ip, m.mac, m.deviceName, m.primaryDeviceType, m.secondaryDeviceType)
  ofAttrs | (state, surfaceId, ip, mac, deviceName, primaryDeviceType, secondaryDeviceType) =>
            { state, surfaceId, ip, mac, deviceName, primaryDeviceType, secondaryDeviceType }
  ofAttrs_attrs _ := rfl

instance : IpcBindAttr WfdDecoderAccelerationDoneMsg UInt64 := ⟨(·.surfaceId), (⟨·⟩), fun _ => rfl⟩

instance : IpcBindAttr WfdSurfaceFailureMsg (UInt64 × Text) where
  attrs m := (m.surfaceId, m.mac)
  ofAttrs | (surfaceId, mac) => { surfaceId, mac }
  ofAttrs_attrs _ := rfl

instance : IpcBindAttr WfdGetBoundDevicesReq Unit := ⟨fun _ => (), fun _ => {}, fun _ => rfl⟩

instance : IpcBindAttr WfdGetBoundDevicesRsp (List BoundDeviceInfo) :=
  ⟨(·.trustDevices), (⟨·⟩), fun _ => rfl⟩

instance : IpcBindAttr WfdDeleteBoundDeviceReq Text := ⟨(·.deviceAddress), (⟨·⟩), fun _ => rfl⟩

instance : IpcBindAttr WfdIsPcSourceMsg Unit := ⟨fun _ => (), fun _ => {}, fun _ => rfl⟩

end Bindings

section BoundDevices

open Parcel Access

variable {Obj : Type} {P : MessageParcel Obj}

/-- `WriteString` whose result nothing looks at. -/
def writeString (text : Text) : IpcAccess P Unit :=
  tryCatch (.write .refused .string text) fun _ => pure ()

/-- `ReadString`, which gives the empty text where it finds nothing. -/
def readString : IpcAccess P Text := .readD (P := P) .string []

/-- `IpcSerialize` and `IpcDeserialize` written out, with 0 for their results. -/
instance : IpcAttr P BoundDeviceInfo where
  ipcEncodeBindAttr m := do
    writeString m.deviceId
    writeString m.deviceName
    writeString m.deviceAddress
    writeString m.networkId
  ipcDecodeBindAttr := do
    let deviceId ← readString
    let deviceName ← readString
    let deviceAddress ← readString
    let networkId ← readString
    pure { deviceId, deviceName, deviceAddress, networkId }

instance : IpcItems Obj BoundDeviceInfo where
  items m := [⟨.string, m.deviceId⟩, ⟨.string, m.deviceName⟩, ⟨.string, m.deviceAddress⟩,
    ⟨.string, m.networkId⟩]
  Sound _ := True

variable {fits : List (ParcelItem Obj) → Prop} {contents : P.Data → List (ParcelItem Obj)}

theorem writes_writeString (hP : P.Lawful fits contents) (text : Text) :
    (writeString text : IpcAccess P Unit).Writes fits contents [⟨.string, text⟩] :=
  (writes_write hP IpcFailure.refused ParcelKind.string text).tryCatch _

theorem reads_readString (hP : P.Lawful fits contents) (text : Text) :
    (readString : IpcAccess P Text).Reads contents [⟨.string, text⟩] text :=
  reads_readD hP ParcelKind.string [] text

instance : LawfulIpcAttr P BoundDeviceInfo where
  writes hP m := by
    refine (writes_writeString hP m.deviceId).seq hP ?_
    refine (writes_writeString hP m.deviceName).seq hP ?_
    exact (writes_writeString hP m.deviceAddress).seq hP (writes_writeString hP m.networkId)
  reads hP m _ := by
    refine (reads_readString hP m.deviceId).bind ?_
    refine (reads_readString hP m.deviceName).bind ?_
    refine (reads_readString hP m.deviceAddress).bind ?_
    exact (reads_readString hP m.networkId).map _

end BoundDevices

/-- The class of the messages with an id. The switches have no case for the ids of `Empty`. -/
def Message (Obj : Type) : WfdMsgId → Type
  | .commonRsp => WfdCommonRsp
  | .sinkStartReq => WfdSinkStartReq
  | .sinkStopReq => WfdSinkStopReq
  | .setSurfaceReq => WfdAppendSurfaceReq Obj
  | .addSurfaceReq => Empty
  | .delSurfaceReq => WfdRemoveSurfaceReq
  | .setMediaFormatReq => SetMediaFormatReq
  | .playReq => WfdPlayReq
  | .pauseReq => WfdPauseReq
  | .closeReq => WfdCloseReq
  | .setSceneTypeReq => SetSceneTypeReq
  | .muteReq => MuteReq
  | .unmuteReq => UnMuteReq
  | .getSinkConfigReq => GetSinkConfigReq
  | .getSinkConfigRsp => GetSinkConfigRsp
  | .connectionChangedMsg => WfdConnectionChangedMsg
  | .decoderAccelerationDone => WfdDecoderAccelerationDoneMsg
  | .errorMsg => WfdErrorMsg
  | .infoMsg => Empty
  | .surfaceFailure => WfdSurfaceFailureMsg
  | .sourceStartDiscoveryReq => WfdSourceStartDiscoveryReq
  | .sourceStopDiscoveryReq => WfdSourceStopDiscoveryReq
  | .sourceDeviceFoundMsg => WfdSourceDeviceFoundMsg
  | .sourceAddDeviceReq => WfdSourceAddDeviceReq
  | .sourceRemoveDeviceReq => WfdSourceRemoveDeviceReq
  | .sourceDestroyScreenCaptureReq => DestroyScreenCaptureReq
  | .getBoundDevicesReq => WfdGetBoundDevicesReq
  | .getBoundDevicesRsp => WfdGetBoundDevicesRsp
  | .deleteBoundDeviceReq => WfdDeleteBoundDeviceReq
  | .isPcSourceMsg => WfdIsPcSourceMsg

/-- All that the codec has for one class. -/
structure IpcOverloads (Obj M : Type) where
  attr (P : MessageParcel Obj) : IpcAttr P M
  items : IpcItems Obj M
  lawful (P : MessageParcel Obj) : LawfulIpcAttr P M

def IpcOverloads.of (Obj M : Type) [attr : ∀ P : MessageParcel Obj, IpcAttr P M] [items : IpcItems Obj M]
    [lawful : ∀ P : MessageParcel Obj, LawfulIpcAttr P M] : IpcOverloads Obj M :=
  ⟨attr, items, lawful⟩

section Messages

variable {Obj : Type} {P : MessageParcel Obj}

instance : IpcAttr P Empty := ⟨nofun, throw .refused⟩

instance : IpcItems Obj Empty := ⟨nofun, nofun⟩

instance : LawfulIpcAttr P Empty := ⟨fun _ => nofun, fun _ => nofun⟩

def Message.overloads (Obj : Type) : (id : WfdMsgId) → IpcOverloads Obj (Message Obj id)
  | .commonRsp => .of Obj WfdCommonRsp
  | .sinkStartReq => .of Obj WfdSinkStartReq
  | .sinkStopReq => .of Obj WfdSinkStopReq
  | .setSurfaceReq => .of Obj (WfdAppendSurfaceReq Obj)
  | .addSurfaceReq => .of Obj Empty
  | .delSurfaceReq => .of Obj WfdRemoveSurfaceReq
  | .setMediaFormatReq => .of Obj SetMediaFormatReq
  | .playReq => .of Obj WfdPlayReq
  | .pauseReq => .of Obj WfdPauseReq
  | .closeReq => .of Obj WfdCloseReq
  | .setSceneTypeReq => .of Obj SetSceneTypeReq
  | .muteReq => .of Obj MuteReq
  | .unmuteReq => .of Obj UnMuteReq
  | .getSinkConfigReq => .of Obj GetSinkConfigReq
  | .getSinkConfigRsp => .of Obj GetSinkConfigRsp
  | .connectionChangedMsg => .of Obj WfdConnectionChangedMsg
  | .decoderAccelerationDone => .of Obj WfdDecoderAccelerationDoneMsg
  | .errorMsg => .of Obj WfdErrorMsg
  | .infoMsg => .of Obj Empty
  | .surfaceFailure => .of Obj WfdSurfaceFailureMsg
  | .sourceStartDiscoveryReq => .of Obj WfdSourceStartDiscoveryReq
  | .sourceStopDiscoveryReq => .of Obj WfdSourceStopDiscoveryReq
  | .sourceDeviceFoundMsg => .of Obj WfdSourceDeviceFoundMsg
  | .sourceAddDeviceReq => .of Obj WfdSourceAddDeviceReq
  | .sourceRemoveDeviceReq => .of Obj WfdSourceRemoveDeviceReq
  | .sourceDestroyScreenCaptureReq => .of Obj DestroyScreenCaptureReq
  | .getBoundDevicesReq => .of Obj WfdGetBoundDevicesReq
  | .getBoundDevicesRsp => .of Obj WfdGetBoundDevicesRsp
  | .deleteBoundDeviceReq => .of Obj WfdDeleteBoundDeviceReq
  | .isPcSourceMsg => .of Obj WfdIsPcSourceMsg

instance (id : WfdMsgId) : IpcAttr P (Message Obj id) := (Message.overloads Obj id).attr P

instance (id : WfdMsgId) : IpcItems Obj (Message Obj id) := (Message.overloads Obj id).items

instance (id : WfdMsgId) : LawfulIpcAttr P (Message Obj id) := (Message.overloads Obj id).lawful P

end Messages

end WifiDisplay
