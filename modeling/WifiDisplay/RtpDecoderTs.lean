import WifiDisplay.GuardedRuns
import WifiDisplay.RtpDecoderG711
import WifiDisplay.RtpPacketFormat

/-! `RtpDecoderTs`: packets wait in a queue for the calls of `ReadPacket` by which FFmpeg reads the
transport stream. -/

namespace WifiDisplay

structure RtpDecoderTs where
  exit : Bool := false
  decodeThread : Bool := false
  dataQueue : List RtpPacket := []
  deriving DecidableEq, Repr

/-- What a call of `ReadPacket` comes to: it sleeps until the next `notify_one`, or it returns with
bytes in the buffer. -/
inductive TsRead where
  | waits
  | returns (value : Int) (bytes : List Byte)
  deriving DecidableEq, Repr

namespace TsRead

def bytes : TsRead → List Byte
  | waits => []
  | returns _ bytes => bytes

end TsRead

namespace RtpDecoderTs

/-- The payload of a packet as `GetPayload` and `GetPayloadSize` give it. -/
def payload (rtp : RtpPacket) : List Byte := rtp.getPayload.take rtp.getPayloadSize

def inputRtp (d : RtpDecoderTs) (rtp : Option RtpPacket) : RtpDecoderTs :=
  match rtp with
  | none => d
  | some rtp =>
    if d.exit then d
    else if rtp.getPayloadSize = 0 then { d with decodeThread := true }
    else { d with decodeThread := true, dataQueue := d.dataQueue ++ [rtp] }

/-- FFmpeg's buffer has `bufSize` bytes. `memcpy_s` refuses to copy nothing, and the packet is
removed behind the copy. -/
def readPacket (d : RtpDecoderTs) (bufSize : Int) : RtpDecoderTs × TsRead :=
  match d.dataQueue with
  | [] => if d.exit then (d, .returns (-1) []) else (d, .waits)
  | rtp :: queue =>
    if rtp.getPayloadSize > bufSize then (d, .returns 0 [])
    else if rtp.getPayloadSize = 0 then (d, .returns 0 [])
    else ({ d with dataQueue := queue }, .returns rtp.getPayloadSize (payload rtp))

/-- The first part of `Release`, and the one behind the join. -/
def release (d : RtpDecoderTs) : RtpDecoderTs := { d with exit := true }

def releaseQueue (d : RtpDecoderTs) : RtpDecoderTs := if d.exit then { d with dataQueue := [] } else d

/-! Runs with the bytes that went in and out. -/

inductive Call where
  | inputRtp (rtp : Option RtpPacket)
  | readPacket (bufSize : Int)
  | release
  | releaseQueue

/-- `stuck` stays set when a call on a queue with packets has neither returned a byte nor removed a
packet. -/
structure Feed where
  decoder : RtpDecoderTs := {}
  accepted : List Byte := []
  read : List Byte := []
  stuck : Bool := false

variable {s : Feed} {call : Call} {calls : List Call}

namespace Feed

def queued (s : Feed) : List Byte := s.decoder.dataQueue.flatMap payload

/-- What `InputRtp` takes of the packet. -/
def taken (s : Feed) : Option RtpPacket → List Byte
  | none => []
  | some rtp => if s.decoder.exit ∨ rtp.getPayloadSize = 0 then [] else payload rtp

def step (s : Feed) : Call → Feed
  | .inputRtp rtp => { s with decoder := s.decoder.inputRtp rtp, accepted := s.accepted ++ s.taken rtp }
  | .readPacket bufSize =>
    let (decoder, result) := s.decoder.readPacket bufSize
    { s with
      decoder
      read := s.read ++ result.bytes
      stuck := s.stuck || ! s.decoder.exit && s.decoder.dataQueue ≠ [] && result.bytes = [] &&
        decoder.dataQueue.length = s.decoder.dataQueue.length }
  | .release => { s with decoder := s.decoder.release }
  | .releaseQueue => { s with decoder := s.decoder.releaseQueue }

def run (calls : List Call) : Feed := calls.foldl step {}

/-- While the decoder runs the bytes read are the payloads in order as far as they have left the
queue, and every call on a queue with packets has made progress. -/
structure Flows (s : Feed) : Prop where
  inOrder : s.decoder.exit = false → s.read ++ s.queued = s.accepted
  progress : s.stuck = false

/-- The payload at the front of the queue fits into the buffer. -/
def FitsBuffer (s : Feed) : Call → Prop
  | .readPacket bufSize =>
    s.decoder.exit = false → ∀ rtp ∈ s.decoder.dataQueue.head?, rtp.getPayloadSize ≤ bufSize
  | _ => True

/-- Only packets with a payload wait. -/
structure Sound (s : Feed) : Prop where
  payloads : ∀ rtp ∈ s.decoder.dataQueue, rtp.getPayloadSize ≠ 0
  inOrder : s.decoder.exit = false → s.read ++ s.queued = s.accepted

theorem sound_init : Sound {} := ⟨List.forall_mem_nil _, fun _ => rfl⟩

theorem readPacket_fits {d : RtpDecoderTs} {rtp : RtpPacket} {queue : List RtpPacket} {bufSize : Int}
    (hqueue : d.dataQueue = rtp :: queue) (hsize : rtp.getPayloadSize ≠ 0)
    (hfits : rtp.getPayloadSize ≤ bufSize) :
    d.readPacket bufSize =
      ({ d with dataQueue := queue }, .returns rtp.getPayloadSize (payload rtp)) := by
  rw [RtpDecoderTs.readPacket, hqueue]
  simp only [gt_iff_lt, Int.not_lt.mpr hfits, if_false, hsize]

theorem readPacket_long {d : RtpDecoderTs} {rtp : RtpPacket} {queue : List RtpPacket} {bufSize : Int}
    (hqueue : d.dataQueue = rtp :: queue) (hlong : ¬ (rtp.getPayloadSize : Int) ≤ bufSize) :
    d.readPacket bufSize = (d, .returns 0 []) := by
  rw [RtpDecoderTs.readPacket, hqueue]
  exact if_pos (Int.not_le.mp hlong)

theorem readPacket_empty {d : RtpDecoderTs} (hqueue : d.dataQueue = []) (bufSize : Int) :
    (d.readPacket bufSize).1 = d ∧ (d.readPacket bufSize).2.bytes = [] := by
  rw [RtpDecoderTs.readPacket, hqueue]
  dsimp only
  split <;> exact ⟨rfl, rfl⟩

theorem Sound.step (h : Sound s) (call : Call) : Sound (s.step call) := by
  cases call with
  | inputRtp rtp =>
    cases rtp with
    | none => exact ⟨h.payloads, fun hexit => by
      simpa [Feed.step, RtpDecoderTs.inputRtp, taken, queued] using h.inOrder hexit⟩
    | some rtp =>
      by_cases hexit : s.decoder.exit = true
      · refine ⟨?_, fun hrun => ?_⟩
        · simpa [Feed.step, RtpDecoderTs.inputRtp, hexit] using h.payloads
        · simp [Feed.step, RtpDecoderTs.inputRtp, hexit] at hrun
      · have horder := h.inOrder (Bool.eq_false_iff.mpr hexit)
        by_cases hsize : rtp.getPayloadSize = 0
        · refine ⟨?_, fun _ => ?_⟩
          · simpa [Feed.step, RtpDecoderTs.inputRtp, hexit, hsize] using h.payloads
          · simpa [Feed.step, RtpDecoderTs.inputRtp, hexit, hsize, taken, queued] using horder
        · refine ⟨?_, fun _ => ?_⟩
          · have hall : ∀ rtp' ∈ s.decoder.dataQueue ++ [rtp], rtp'.getPayloadSize ≠ 0 := by
              intro rtp' hmem
              rcases List.mem_append.mp hmem with hmem | hmem
              · exact h.payloads rtp' hmem
              · rw [List.mem_singleton.mp hmem]
                exact hsize
            simpa [Feed.step, RtpDecoderTs.inputRtp, hexit, hsize] using hall
          · have hqueued : (s.step (.inputRtp (some rtp))).queued = s.queued ++ payload rtp := by
              simp [Feed.step, RtpDecoderTs.inputRtp, hexit, hsize, queued]
            rw [hqueued, ← List.append_assoc]
            show s.read ++ s.queued ++ payload rtp = s.accepted ++ s.taken (some rtp)
            rw [horder]
            simp [taken, hexit, hsize]
  | readPacket bufSize =>
    cases hqueue : s.decoder.dataQueue with
    | nil =>
      obtain ⟨hdecoder, hbytes⟩ := readPacket_empty hqueue bufSize
      refine ⟨?_, fun hexit => ?_⟩
      · simpa [Feed.step, hdecoder] using h.payloads
      · have horder := h.inOrder (by simpa [Feed.step, hdecoder] using hexit)
        simpa [Feed.step, hdecoder, hbytes, queued] using horder
    | cons rtp queue =>
      have hpayloads := h.payloads
      rw [hqueue] at hpayloads
      by_cases hfits : (rtp.getPayloadSize : Int) ≤ bufSize
      · have hread := readPacket_fits hqueue (hpayloads rtp List.mem_cons_self) hfits
        refine ⟨?_, fun hexit => ?_⟩
        · simpa [Feed.step, hread] using fun rtp' hmem => hpayloads rtp' (List.mem_cons_of_mem _ hmem)
        · have horder := h.inOrder (by simpa [Feed.step, hread] using hexit)
          simpa [Feed.step, hread, queued, hqueue, TsRead.bytes] using horder
      · have hread := readPacket_long hqueue hfits
        refine ⟨?_, fun hexit => ?_⟩
        · simpa [Feed.step, hread] using h.payloads
        · have horder := h.inOrder (by simpa [Feed.step, hread] using hexit)
          simpa [Feed.step, hread, queued, TsRead.bytes] using horder
  | release => exact ⟨h.payloads, nofun⟩
  | releaseQueue =>
    by_cases hexit : s.decoder.exit = true
    · refine ⟨?_, fun hrun => ?_⟩
      · simp [Feed.step, RtpDecoderTs.releaseQueue, hexit]
      · simp [Feed.step, RtpDecoderTs.releaseQueue, hexit] at hrun
    · refine ⟨?_, fun hrun => ?_⟩
      · simpa [Feed.step, RtpDecoderTs.releaseQueue, hexit] using h.payloads
      · simpa [Feed.step, RtpDecoderTs.releaseQueue, hexit, queued] using
          h.inOrder (Bool.eq_false_iff.mpr hexit)

/-- A call gets stuck exactly when the payload in front does not fit. -/
theorem stuck_step (h : Sound s) (call : Call) :
    (s.step call).stuck = false ↔ s.stuck = false ∧ s.FitsBuffer call := by
  cases call with
  | readPacket bufSize =>
    cases hqueue : s.decoder.dataQueue with
    | nil => simp [Feed.step, FitsBuffer, hqueue]
    | cons rtp queue =>
      have hsize : rtp.getPayloadSize ≠ 0 := h.payloads rtp (hqueue ▸ List.mem_cons_self)
      by_cases hfits : (rtp.getPayloadSize : Int) ≤ bufSize
      · have hne : payload rtp ≠ [] := RtpDecoderG711.payload_ne_nil hsize
        simp [Feed.step, FitsBuffer, hqueue, readPacket_fits hqueue hsize hfits, TsRead.bytes, hne, hfits]
      · simp [Feed.step, FitsBuffer, hqueue, readPacket_long hqueue hfits, TsRead.bytes, hfits]
  | inputRtp rtp => simp [Feed.step, FitsBuffer]
  | release => simp [Feed.step, FitsBuffer]
  | releaseQueue => simp [Feed.step, FitsBuffer]

/-- The stream flows exactly when every call finds a payload that fits into its buffer. -/
theorem run_flows_iff (calls : List Call) : Flows (run calls) ↔ AllMeet step FitsBuffer {} calls := by
  have hstep (s : Feed) (call : Call) (hs : Sound s) :
      Flows (s.step call) ↔ Flows s ∧ s.FitsBuffer call := by
    constructor
    · intro h
      obtain ⟨hstuck, hfits⟩ := (stuck_step hs call).mp h.progress
      exact ⟨⟨hs.inOrder, hstuck⟩, hfits⟩
    · rintro ⟨h, hfits⟩
      exact ⟨(hs.step call).inOrder, (stuck_step hs call).mpr ⟨h.progress, hfits⟩⟩
  rw [run, AllMeet.foldl_iff (fun s call hs => Sound.step hs call) hstep sound_init]
  exact and_iff_right ⟨fun _ => rfl, rfl⟩

/-- A payload of 1501 bytes stays in front of FFmpeg's buffer of 1500. -/
theorem longPayload_not_flows : ¬ ∀ calls, Flows (run calls) := by
  intro hall
  have hstuck := (hall [.inputRtp (some ((RtpMaker.create 1 7 2000 33 90000 0 90000).built
    (List.replicate 1501 0x47) true 0)), .readPacket 1500]).progress
  revert hstuck
  decide +kernel

end Feed

end RtpDecoderTs

end WifiDisplay
