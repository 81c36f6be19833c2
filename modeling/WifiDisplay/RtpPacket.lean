import WifiDisplay.Basic

/-! RTP packets as byte buffers and the fields of their header. -/

namespace WifiDisplay

inductive TrackType where
  | trackInvalid
  | trackVideo
  | trackAudio
  | trackTitle
  | trackApplication
  deriving DecidableEq, Repr

def avRb16 (x : List Byte) : Nat := (x.getD 0 0 ++ x.getD 1 0).toNat

/-! `RtpHeader` is laid over the first bytes of a buffer. -/

abbrev RtpHeader := List Byte

def rtpHeaderSize : Nat := 12

def rtpVersion : Nat := 2

namespace RtpHeader

def version (h : RtpHeader) : Nat := (h.getD 0 0).toNat / 64

def padding (h : RtpHeader) : Bool := (h.getD 0 0).getLsbD 5

def ext (h : RtpHeader) : Bool := (h.getD 0 0).getLsbD 4

def csrc (h : RtpHeader) : Nat := (h.getD 0 0).toNat % 16

def mark (h : RtpHeader) : Bool := (h.getD 1 0).getLsbD 7

def pt (h : RtpHeader) : Nat := (h.getD 1 0).toNat % 128

def seq (h : RtpHeader) : BitVec 16 := h.getD 2 0 ++ h.getD 3 0

def stamp (h : RtpHeader) : BitVec 32 := h.getD 4 0 ++ h.getD 5 0 ++ h.getD 6 0 ++ h.getD 7 0

def ssrc (h : RtpHeader) : BitVec 32 := h.getD 8 0 ++ h.getD 9 0 ++ h.getD 10 0 ++ h.getD 11 0

def getCsrcSize (h : RtpHeader) : Nat := h.csrc * 4

def getExtSize (h : RtpHeader) (rtpSize : Nat) : Nat :=
  if ¬ h.ext then 0
  else if rtpHeaderSize + h.getCsrcSize + 4 > rtpSize then 0
  else avRb16 (h.drop (rtpHeaderSize + h.getCsrcSize + 2)) * 4

def getPayloadOffset (h : RtpHeader) (rtpSize : Nat) : Nat :=
  h.getCsrcSize + if h.ext then 4 + h.getExtSize rtpSize else 0

def getPaddingSize (h : RtpHeader) (rtpSize : Nat) : Nat :=
  if ¬ h.padding then 0
  else
    let last := (h.getD (rtpSize - 1) 0).toNat
    if last + rtpHeaderSize > rtpSize then 0 else last

def getPayloadSize (h : RtpHeader) (rtpSize : Nat) : Nat :=
  let invalidSize := h.getPayloadOffset rtpSize + h.getPaddingSize rtpSize
  if invalidSize + rtpHeaderSize ≥ rtpSize then 0 else rtpSize - invalidSize - rtpHeaderSize

def getPayloadData (h : RtpHeader) (rtpSize : Nat) : List Byte :=
  h.drop (rtpHeaderSize + h.getPayloadOffset rtpSize)

end RtpHeader

structure RtpPacket where
  data : List Byte
  sampleRate : BitVec 32
  type : TrackType := .trackInvalid
  deriving DecidableEq, Repr

namespace RtpPacket

def getHeader (p : RtpPacket) : RtpHeader := p.data

def size (p : RtpPacket) : Nat := p.data.length

def getSeq (p : RtpPacket) : BitVec 16 := p.getHeader.seq

def getStamp (p : RtpPacket) : BitVec 32 := p.getHeader.stamp

def getSSRC (p : RtpPacket) : BitVec 32 := p.getHeader.ssrc

def getStampMS (p : RtpPacket) : BitVec 32 :=
  if p.sampleRate = 0 then 0
  else BitVec.ofNat 32 (p.getStamp.toNat * 1000 / p.sampleRate.toNat)

def getPayload (p : RtpPacket) : List Byte := p.getHeader.getPayloadData p.size

def getPayloadSize (p : RtpPacket) : Nat := p.getHeader.getPayloadSize p.size

end RtpPacket

end WifiDisplay
