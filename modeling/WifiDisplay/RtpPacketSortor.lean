import WifiDisplay.RtpPacket
import WifiDisplay.OrderedMap

/-! `RtpPacketSortor`: packets wait in a map by sequence number until the next
expected one is there, or the cache is full. Every function returns the packets
it hands to `onSort_`, in order. -/

namespace WifiDisplay

def maxSeq : BitVec 16 := 0xFFFF

def halfMaxSeq : Nat := maxSeq.toNat / 2

def rtpPacketLostThreshold : Nat := 5

structure RtpPacketSortor where
  nextSeqOut : BitVec 16 := 0
  ssrc : BitVec 32 := 0
  sampleRate : BitVec 32
  kMin : Nat
  kMax : Nat
  maxSortSize : Nat := kMin
  pktSortCacheMap : OrderedMap (BitVec 16) RtpPacket := .empty
  rtpPacketLostCount : Nat := 0
  rtpPacketLostConsecutiveCount : Nat := 0

namespace RtpPacketSortor

/-- The arguments of one `onSort_` call. -/
abbrev Sorted := BitVec 16 × RtpPacket

/-- The constructor, with `SORT_CACHE_MIN_SIZE` as its default minimum. -/
def create (sampleRate : BitVec 32) (kMax : Nat := 1024) (kMin : Nat := 64) : RtpPacketSortor :=
  { sampleRate, kMin, kMax }

def clear (s : RtpPacketSortor) : RtpPacketSortor :=
  { s with pktSortCacheMap := .empty, nextSeqOut := 0, maxSortSize := s.kMin }

def getJitterSize (s : RtpPacketSortor) : Nat := s.pktSortCacheMap.size

def isSeqValid (s : RtpPacketSortor) (seq : BitVec 16) : Bool :=
  if seq < s.nextSeqOut then
    if s.nextSeqOut.toNat - seq.toNat < halfMaxSeq then false else true
  else if seq.toNat - s.nextSeqOut.toNat > halfMaxSeq then false
  else true

/-- What `PopIterator` does to the sortor; the entry itself is emitted. -/
def popIterator (s : RtpPacketSortor) (seq : BitVec 16) : RtpPacketSortor :=
  { s with
    pktSortCacheMap := s.pktSortCacheMap.erase seq
    nextSeqOut := if seq = maxSeq then 0 else seq + 1 }

def setSortSize (s : RtpPacketSortor) : RtpPacketSortor :=
  let size := s.kMin + s.pktSortCacheMap.size
  { s with maxSortSize := if size > s.kMax then s.kMax else size }

/-- The loop of `TryPopPacket`. Each round removes an entry of the cache, so its
size bounds the rounds. -/
def popExpected : Nat → RtpPacketSortor → RtpPacketSortor × List Sorted
  | 0, s => (s, [])
  | n + 1, s =>
    match s.pktSortCacheMap.lowerBound s.nextSeqOut with
    | none => (s, [])
    | some (seq, packet) =>
      if seq = s.nextSeqOut then
        let (s', out) := popExpected n (s.popIterator seq)
        (s', (seq, packet) :: out)
      else (s, [])

def popAndResize (s : RtpPacketSortor) : RtpPacketSortor × List Sorted :=
  let (s', out) := popExpected s.pktSortCacheMap.size s
  (s'.setSortSize, out)

def tryPopPacket (s : RtpPacketSortor) : RtpPacketSortor × List Sorted :=
  let it := s.pktSortCacheMap.lowerBound s.nextSeqOut
  if it.map Prod.fst ≠ some s.nextSeqOut then
    if s.pktSortCacheMap.size ≤ s.maxSortSize then (s, [])
    else
      match it.or s.pktSortCacheMap.begin? with
      | none => (s, [])
      | some (seq, _) => { s with nextSeqOut := seq }.popAndResize
  else s.popAndResize

def sortPacket (s : RtpPacketSortor) (seq : BitVec 16) (packet : RtpPacket) :
    RtpPacketSortor × List Sorted :=
  if ¬ s.isSeqValid seq then
    let count := s.rtpPacketLostConsecutiveCount + 1
    if count ≥ rtpPacketLostThreshold then
      ({ s with rtpPacketLostCount := s.rtpPacketLostCount + 1,
                rtpPacketLostConsecutiveCount := 0 }, [])
    else ({ s with rtpPacketLostConsecutiveCount := count }, [])
  else
    { s with rtpPacketLostConsecutiveCount := 0,
             pktSortCacheMap := s.pktSortCacheMap.emplace seq packet }.tryPopPacket

/-- The loop of `Flush`. -/
def popBegin : Nat → RtpPacketSortor → RtpPacketSortor × List Sorted
  | 0, s => (s, [])
  | n + 1, s =>
    match s.pktSortCacheMap.begin? with
    | none => (s, [])
    | some (seq, packet) =>
      let (s', out) := popBegin n (s.popIterator seq)
      (s', (seq, packet) :: out)

def flush (s : RtpPacketSortor) : RtpPacketSortor × List Sorted :=
  popBegin s.pktSortCacheMap.size s

/-- What one `InputRtp` hands to the callback: first the packets of the SSRC it
leaves, if it leaves one, then those of its own. -/
structure Emitted where
  flushed : Option (List Sorted) := none
  sorted : List Sorted := []

/-- The checks of `InputRtp` before it looks at the SSRC. `Size()` is an
`int32_t`, so longer buffers do not pass the comparison with `len`. -/
def wellFormed (s : RtpPacketSortor) (ptr : RtpHeader) : Bool :=
  rtpHeaderSize ≤ ptr.length && s.sampleRate ≠ 0 && ptr.version = rtpVersion &&
    ptr.getPayloadSize ptr.length ≠ 0 && ptr.length < 2 ^ 31

def changeSsrc (s : RtpPacketSortor) (rtp : RtpPacket) : RtpPacketSortor × List Sorted :=
  let (s', flushed) := { s with ssrc := rtp.getSSRC }.flush
  ({ s'.clear with nextSeqOut := rtp.getSeq }, flushed)

def inputRtp (s : RtpPacketSortor) (type : TrackType) (ptr : Option (List Byte)) :
    RtpPacketSortor × Emitted :=
  match ptr with
  | none => (s, {})
  | some bytes =>
    if ¬ s.wellFormed bytes then (s, {})
    else
      let rtp : RtpPacket := { data := bytes, sampleRate := s.sampleRate, type }
      if s.ssrc ≠ rtp.getSSRC then
        let (s₁, flushed) := s.changeSsrc rtp
        let (s₂, sorted) := s₁.sortPacket rtp.getSeq rtp
        (s₂, { flushed := some flushed, sorted })
      else
        let (s₁, sorted) := s.sortPacket rtp.getSeq rtp
        (s₁, { sorted })

end RtpPacketSortor

end WifiDisplay
