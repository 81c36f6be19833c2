import Mathlib.Data.List.Chain
import WifiDisplay.AudioPcmProcessor

/-! The runs of `AudioPcmProcessor` in which no sample is lost and the time goes on as it should. -/

namespace WifiDisplay

open ByteOrder

namespace AudioPcmProcessor

variable {p : AudioPcmProcessor} {statics : PcmStatics} {fifo : AudioFifo} {data : List Byte}

/-! The change of byte order. -/

theorem foldl_swapAt_cons (a b : Byte) (data : List Byte) (l : List Nat) :
    l.foldl (fun data i => swapAt data ((i + 1) * 2)) (a :: b :: data) =
      a :: b :: l.foldl (fun data i => swapAt data (i * 2)) data := by
  induction l generalizing data with
  | nil => rfl
  | cons i l ih =>
    rw [List.foldl_cons, List.foldl_cons, ← ih]
    congr 1
    rw [swapAt, Nat.succ_mul]
    rfl

theorem foldl_swapAt (n : Nat) (h : data.length = 2 * n) :
    (List.range n).foldl (fun data i => swapAt data (i * 2)) data = reverseChunks 2 data := by
  induction n generalizing data with
  | zero =>
    obtain rfl := List.length_eq_zero_iff.mp h
    rw [reverseChunks_nil]
    rfl
  | succ n ih =>
    match data, h with
    | a :: b :: data, h =>
      have hdata : data.length = 2 * n := by simp only [List.length_cons] at h; omega
      have hpair : reverseChunks 2 (a :: b :: data) = b :: a :: reverseChunks 2 data := by
        rw [show a :: b :: data = [a, b] ++ data from rfl, reverseChunks_append ⟨1, rfl⟩,
          (reverseChunks_self rfl : reverseChunks 2 [a, b] = [b, a])]
        rfl
      rw [List.range_succ_eq_map, List.foldl_cons, List.foldl_map, hpair, ← ih hdata]
      exact foldl_swapAt_cons b a data (List.range n)

theorem pcmLittleToBigEndian_eq (hchannels : p.channels ≠ 0) (hsize : p.sampleSize / p.channels = 2)
    (h : 2 ∣ data.length) : p.pcmLittleToBigEndian data = reverseChunks 2 data := by
  obtain ⟨n, hn⟩ := h
  rw [pcmLittleToBigEndian, if_neg hchannels, hsize]
  show (List.range (data.length / 2)).foldl _ data = _
  rw [hn, Nat.mul_div_cancel_left n (by omega)]
  exact foldl_swapAt n hn

/-! The loop over the payloads. -/

theorem length_samples {pcmFrames : List PcmFrame} (h : ∀ f ∈ pcmFrames, f.samples.length = 1920) :
    (pcmFrames.flatMap PcmFrame.samples).length = 1920 * pcmFrames.length := by
  induction pcmFrames with
  | nil => rfl
  | cons f pcmFrames ih =>
    rw [List.flatMap_cons, List.length_append, h f List.mem_cons_self,
      ih fun g hg => h g (List.mem_cons_of_mem _ hg), List.length_cons]
    omega

/-- What the loop leaves, from what it finds. -/
structure Delivered (statics : PcmStatics) (fifo : AudioFifo) (statics' : PcmStatics) (fifo' : AudioFifo)
    (pcmFrames : List PcmFrame) : Prop where
  blockSize : fifo'.blockSize = fifo.blockSize
  data : statics'.data.length = 1920
  bytes : pcmFrames.flatMap PcmFrame.samples ++ fifo'.bytes = fifo.bytes
  rest : fifo'.bytes.length < 1920
  header : ∀ f ∈ pcmFrames, f.bytes.take 4 = payloadHeader
  size : ∀ f ∈ pcmFrames, f.samples.length = 1920
  head : ∀ f ∈ pcmFrames.head?, f.pts = statics.duration
  duration : statics'.duration = statics.duration + 10 * UInt64.ofNat pcmFrames.length
  times : pcmFrames.IsChain fun f g => f.samples.length = 1920 ∧ g.pts = f.pts + 10

theorem size_lt_iff {num : Nat} (hnum : num * fifo.blockSize = 1920) :
    fifo.size < num ↔ fifo.bytes.length < 1920 := by
  have hpos : 0 < fifo.blockSize := by
    rcases Nat.eq_zero_or_pos fifo.blockSize with h | h
    · rw [h] at hnum
      omega
    · exact h
  rw [AudioFifo.size, Nat.div_lt_iff_lt_mul hpos, hnum]

theorem read_eq {num : Nat} (hnum : num * fifo.blockSize = 1920) (hdata : data.length = 1920)
    (hsize : ¬ fifo.size < num) : fifo.read data num =
      .ok ({ fifo with bytes := fifo.bytes.drop 1920 }, fifo.bytes.take 1920) := by
  rw [AudioFifo.read, Nat.min_eq_left (Nat.not_lt.mp hsize), hnum]
  show (if 1920 ≤ data.length then _ else _) = _
  rw [if_pos (Nat.le_of_eq hdata.symm), List.drop_eq_nil_of_le (Nat.le_of_eq hdata), List.append_nil]

/-- A queue that is too short for a payload. -/
theorem Delivered.nil (hdata : statics.data.length = 1920) (hrest : fifo.bytes.length < 1920) :
    Delivered statics fifo statics fifo [] where
  blockSize := rfl
  data := hdata
  bytes := rfl
  rest := hrest
  header _ hf := absurd hf List.not_mem_nil
  size _ hf := absurd hf List.not_mem_nil
  head := by rintro f ⟨⟩
  duration := (UInt64.add_zero _).symm
  times := .nil

theorem deliver_short {num : Nat} (h : fifo.size < num) (rounds : Nat) :
    deliver num rounds statics fifo = .ok (statics, fifo, []) := by
  cases rounds with
  | zero => rfl
  | succ rounds => rw [deliver, if_pos h]

theorem deliver_ok {num : Nat} (hnum : num * fifo.blockSize = 1920) (hdata : statics.data.length = 1920)
    (rounds : Nat) (hrounds : fifo.bytes.length < (rounds + 1) * 1920) :
    ∃ statics' fifo' pcmFrames, deliver num rounds statics fifo = .ok (statics', fifo', pcmFrames) ∧
      Delivered statics fifo statics' fifo' pcmFrames := by
  induction rounds generalizing statics fifo with
  | zero => exact ⟨statics, fifo, [], rfl, .nil hdata (by omega)⟩
  | succ rounds ih =>
    by_cases hsize : fifo.size < num
    · exact ⟨statics, fifo, [], deliver_short hsize _, .nil hdata ((size_lt_iff hnum).mp hsize)⟩
    · have hlen : 1920 ≤ fifo.bytes.length := Nat.not_lt.mp ((size_lt_iff hnum).not.mp hsize)
      have htake : (fifo.bytes.take 1920).length = 1920 := by rw [List.length_take]; omega
      obtain ⟨statics', fifo', pcmFrames, hdeliver, hdelivered⟩ :=
        @ih ⟨statics.duration + 10, fifo.bytes.take 1920⟩ { fifo with bytes := fifo.bytes.drop 1920 } hnum htake
          (by simp only [List.length_drop]; omega)
      rw [deliver, if_neg hsize, read_eq hnum hdata hsize]
      refine ⟨statics', fifo', ⟨statics.duration, payloadHeader ++ fifo.bytes.take 1920⟩ :: pcmFrames, ?_,
        hdelivered.blockSize, hdelivered.data, ?_, hdelivered.rest, ?_, ?_, ?_, ?_, ?_⟩
      · show (deliver num rounds _ _ >>= _) = _
        rw [hdeliver]
        rfl
      · rw [List.flatMap_cons, List.append_assoc, hdelivered.bytes]
        exact List.take_append_drop 1920 fifo.bytes
      · intro f hf
        rcases List.mem_cons.mp hf with rfl | hf
        · rfl
        · exact hdelivered.header f hf
      · intro f hf
        rcases List.mem_cons.mp hf with rfl | hf
        · exact htake
        · exact hdelivered.size f hf
      · rintro f ⟨⟩
        rfl
      · rw [hdelivered.duration, List.length_cons, UInt64.ofNat_add]
        grind
      · refine List.isChain_cons.mpr ⟨fun g hg => ?_, hdelivered.times⟩
        exact ⟨htake, hdelivered.head g hg⟩

/-! A processor for 16-bit samples. -/

theorem Delivered.length_eq {statics' : PcmStatics} {fifo' : AudioFifo} {pcmFrames : List PcmFrame}
    (h : Delivered statics fifo statics' fifo' pcmFrames) :
    1920 * pcmFrames.length + fifo'.bytes.length = fifo.bytes.length := by
  rw [← h.bytes, List.length_append, length_samples h.size]

/-- What an accepted processor keeps, whatever its parameters. -/
structure Sound (p : AudioPcmProcessor) (h : PcmHistory) : Prop where
  lossless : Lossless p h
  channels : p.channels ≠ 0
  sampleBit : p.sampleBit ≠ 0
  sampleRate : p.sampleRate ≠ 0
  sampleSize : p.sampleSize = p.sampleBit * p.channels / 8
  blockSize : ∀ fifo, p.fifo = some fifo → fifo.blockSize = 2 * p.channels.toNat
  even : p.sampleBit = 16 → 2 ∣ h.received.length

variable {h : PcmHistory} {frame : List Byte} {elapsed : UInt64}

theorem Sound.init {channels sampleBit sampleRate : UInt32} (hchannels : channels ≠ 0)
    (hsampleBit : sampleBit ≠ 0) (hsampleRate : sampleRate ≠ 0) :
    Sound ⟨channels, sampleBit, sampleRate, sampleBit * channels / 8, some (.alloc channels)⟩ {} where
  lossless :=
    { samples := ⟨.alloc channels, rfl, Nat.succ_pos _, reverseChunks_nil.symm⟩
      header := fun _ hf => absurd hf List.not_mem_nil
      size := fun _ hf => absurd hf List.not_mem_nil
      times := .nil }
  channels := hchannels
  sampleBit := hsampleBit
  sampleRate := hsampleRate
  sampleSize := rfl
  blockSize _ hfifo := by
    cases hfifo
    rfl
  even _ := ⟨0, rfl⟩

theorem Sound.channels_pos (hs : Sound p h) : 0 < p.channels.toNat :=
  Nat.pos_of_ne_zero fun hzero => hs.channels (UInt32.toNat_inj.mp hzero)

theorem Sound.received_length (hs : Sound p h) (hbit : p.sampleBit = 16) (hfifo : p.fifo = some fifo) :
    fifo.bytes.length < 1920 ∧ 1920 * h.delivered.length + fifo.bytes.length = h.received.length := by
  obtain ⟨fifo', hfifo', hrest, hsamples⟩ := hs.lossless.samples
  rw [hfifo] at hfifo'
  cases hfifo'
  rw [hbit] at hsamples
  have hlength := congrArg List.length hsamples
  rw [List.length_append, length_samples hs.lossless.size] at hlength
  exact ⟨hrest, hlength.trans (length_reverseChunks (hs.even hbit))⟩

/-- The size of a sample of all channels does not overflow. -/
theorem Sound.sampleSize_toNat (hs : Sound p h) (hbit : p.sampleBit = 16) (hle : p.channels.toNat ≤ 960) :
    p.sampleSize.toNat = 2 * p.channels.toNat := by
  rw [hs.sampleSize, hbit, UInt32.toNat_div, UInt32.toNat_mul]
  show 16 * p.channels.toNat % 2 ^ 32 / 8 = _
  omega

theorem Sound.sampleSize_div (hs : Sound p h) (hbit : p.sampleBit = 16) (hle : p.channels.toNat ≤ 960) :
    p.sampleSize / p.channels = 2 := by
  apply UInt32.toNat_inj.mp
  rw [UInt32.toNat_div, hs.sampleSize_toNat hbit hle, Nat.mul_div_cancel _ hs.channels_pos]
  rfl

/-- A frame with whole samples goes into the queue in big endian. -/
theorem Sound.write_eq (hs : Sound p h) (hbit : p.sampleBit = 16) (hle : p.channels.toNat ≤ 960)
    (hfifo : p.fifo = some fifo) (hwhole : 2 * p.channels.toNat ∣ frame.length) :
    fifo.write (p.pcmLittleToBigEndian frame) (frame.length / p.sampleSize.toNat) =
      .ok { fifo with bytes := fifo.bytes ++ reverseChunks 2 frame } := by
  have heven : 2 ∣ frame.length := (Nat.dvd_mul_right 2 _).trans hwhole
  have hlength : frame.length / (2 * p.channels.toNat) * (2 * p.channels.toNat) = frame.length :=
    Nat.div_mul_cancel hwhole
  rw [AudioFifo.write, hs.sampleSize_toNat hbit hle, hs.blockSize fifo hfifo, hlength,
    pcmLittleToBigEndian_eq hs.channels (hs.sampleSize_div hbit hle) heven,
    if_pos (Nat.le_of_eq (length_reverseChunks heven).symm),
    List.take_of_length_le (Nat.le_of_eq (length_reverseChunks heven))]

/-- The loop comes to its end, be it at once. -/
theorem Sound.delivered (hs : Sound p h) (hbit : p.sampleBit = 16) (hle : p.channels.toNat ≤ 960)
    (hfifo : p.fifo = some fifo) (hdata : statics.data.length = 1920) (data : List Byte)
    (hchannels : p.channels.toNat ∣ 960 ∨ (fifo.bytes ++ data).length <
      1920 / (2 * p.channels.toNat) * (2 * p.channels.toNat)) :
    let fifo' : AudioFifo := { fifo with bytes := fifo.bytes ++ data }
    ∃ statics' fifo'' pcmFrames, deliver (1920 / p.sampleSize.toNat) fifo'.size statics fifo' =
      .ok (statics', fifo'', pcmFrames) ∧ Delivered statics fifo' statics' fifo'' pcmFrames := by
  intro fifo'
  have hblock : fifo'.blockSize = 2 * p.channels.toNat := hs.blockSize fifo hfifo
  have hpos : 0 < 2 * p.channels.toNat := by have := hs.channels_pos; omega
  rw [hs.sampleSize_toNat hbit hle]
  rcases hchannels with hdvd | hshort
  · have hnum : 1920 / (2 * p.channels.toNat) * fifo'.blockSize = 1920 := by
      rw [hblock]
      exact Nat.div_mul_cancel (Nat.mul_dvd_mul_left 2 hdvd)
    refine deliver_ok hnum hdata fifo'.size ?_
    have hrounds : fifo'.bytes.length < (fifo'.size + 1) * fifo'.blockSize := by
      rw [AudioFifo.size, Nat.mul_comm]
      exact Nat.lt_mul_div_succ _ (hblock ▸ hpos)
    exact Nat.lt_of_lt_of_le hrounds (Nat.mul_le_mul_left _ (by omega))
  · have hsize : fifo'.size < 1920 / (2 * p.channels.toNat) := by
      rw [AudioFifo.size, hblock, Nat.div_lt_iff_lt_mul hpos]
      exact hshort
    exact ⟨statics, fifo', [], deliver_short hsize _,
      .nil hdata (Nat.lt_of_lt_of_le hshort (Nat.div_mul_le_self 1920 _))⟩

theorem onFrame_eq (hs : Sound p h) (hsize : p.sampleSize ≠ 0) (hfifo : p.fifo = some fifo)
    {fifo' fifo'' : AudioFifo} {statics' : PcmStatics} {pcmFrames : List PcmFrame}
    (hwrite : fifo.write (p.pcmLittleToBigEndian frame) (frame.length / p.sampleSize.toNat) = .ok fifo')
    (hnum : 1920 / p.sampleSize.toNat ≠ 0)
    (hdeliver : deliver (1920 / p.sampleSize.toNat) fifo'.size (timeBase statics elapsed) fifo' =
      .ok (statics', fifo'', pcmFrames)) :
    p.onFrame statics (some frame) elapsed = .ok ({ p with fifo := some fifo'' }, statics', pcmFrames) := by
  rw [onFrame, if_neg (not_or.mpr ⟨hs.channels, not_or.mpr ⟨hs.sampleBit, hs.sampleRate⟩⟩), if_neg hsize,
    hfifo]
  show (fifo.write _ _ >>= _) = _
  rw [hwrite]
  show (if 1920 / p.sampleSize.toNat = 0 then _ else _ >>= _) = _
  rw [if_neg hnum, hdeliver]
  rfl

/-- From one of the processor's payloads to the next, at the rate that 10 ms are for. -/
theorem times_of_rate (hrate : p.sampleRate.toNat * p.channels.toNat = 96000) (hbit : p.sampleBit = 16)
    {f g : PcmFrame} (hsize : f.samples.length = 1920) (hpts : g.pts = f.pts + 10) :
    (g.pts - f.pts).toNat * (p.sampleRate.toNat * (p.channels.toNat * (p.sampleBit.toNat / 8))) =
      f.samples.length * 1000 := by
  have hdiff : g.pts - f.pts = 10 := by rw [hpts, UInt64.add_comm, UInt64.add_sub_cancel]
  rw [hdiff, hsize, ← Nat.mul_assoc p.sampleRate.toNat, hrate, hbit]
  rfl

theorem Sound.onFrame (hs : Sound p h) (hdata : statics.data.length = 1920) (hbit : p.sampleBit = 16)
    (hwhole : 2 * p.channels.toNat ∣ frame.length)
    (hchannels : p.channels.toNat ∣ 960 ∨ h.received.length + frame.length <
      1920 / (2 * p.channels.toNat) * (2 * p.channels.toNat))
    (hrate : p.sampleRate.toNat * p.channels.toNat = 96000 ∨ h.received.length + frame.length < 3840)
    (hduration : h.received.length % 1920 + frame.length < 1920 ∨
      ∀ f ∈ h.delivered.getLast?, (timeBase statics elapsed).duration = f.pts + 10) :
    ∃ fifo fifo' statics' pcmFrames,
      p.onFrame statics (some frame) elapsed = .ok ({ p with fifo := some fifo' }, statics', pcmFrames) ∧
      Delivered (timeBase statics elapsed) fifo statics' fifo' pcmFrames ∧
      Sound { p with fifo := some fifo' }
        { received := h.received ++ frame, delivered := h.delivered ++ pcmFrames } := by
  obtain ⟨fifo, hfifo, hrest, hsamples⟩ := hs.lossless.samples
  have hpos := hs.channels_pos
  have hle : p.channels.toNat ≤ 960 := by
    rcases hchannels with hdvd | hshort
    · exact Nat.le_of_dvd (by omega) hdvd
    · by_contra hgt
      rw [Nat.div_eq_of_lt (by omega), Nat.zero_mul] at hshort
      exact Nat.not_lt_zero _ hshort
  have hsize := hs.sampleSize_toNat hbit hle
  have heven : 2 ∣ frame.length := (Nat.dvd_mul_right 2 _).trans hwhole
  have hframe : (reverseChunks 2 frame).length = frame.length := length_reverseChunks heven
  have hreceived := (hs.received_length hbit hfifo).2
  have hbase : (timeBase statics elapsed).data.length = 1920 := by
    rw [timeBase]
    split <;> exact hdata
  obtain ⟨statics', fifo', pcmFrames, hdeliver, hdelivered⟩ :=
    hs.delivered hbit hle hfifo hbase (reverseChunks 2 frame)
      (hchannels.imp_right fun hshort => by rw [List.length_append, hframe]; omega)
  have hlength := hdelivered.length_eq
  simp only [List.length_append, hframe] at hlength
  have hnum : 1920 / p.sampleSize.toNat ≠ 0 := by
    rw [hsize]
    exact Nat.pos_iff_ne_zero.mp (Nat.div_pos (by omega) (by omega))
  have hsizes : ∀ f ∈ h.delivered ++ pcmFrames, f.samples.length = 1920 := fun f hf =>
    (List.mem_append.mp hf).elim (hs.lossless.size f) (hdelivered.size f)
  refine ⟨_, fifo', statics', pcmFrames,
    onFrame_eq hs (fun hzero => ?_) hfifo (hs.write_eq hbit hle hfifo hwhole) hnum hdeliver,
    hdelivered, ⟨⟨⟨fifo', rfl, hdelivered.rest, ?_⟩, ?_, hsizes, ?_⟩, hs.channels, hs.sampleBit,
      hs.sampleRate, hs.sampleSize, ?_, fun _ => ?_⟩⟩
  · rw [hzero] at hsize
    have hzero' : 0 = 2 * p.channels.toNat := hsize
    omega
  · rw [hbit] at hsamples ⊢
    rw [List.flatMap_append, List.append_assoc, hdelivered.bytes, ← List.append_assoc, hsamples]
    exact (reverseChunks_append (hs.even hbit)).symm
  · exact fun f hf => (List.mem_append.mp hf).elim (hs.lossless.header f) (hdelivered.header f)
  · show (h.delivered ++ pcmFrames).IsChain _
    rcases hrate with hrate | hshort
    · refine List.isChain_append.mpr ⟨hs.lossless.times, hdelivered.times.imp fun f g hfg =>
        times_of_rate hrate hbit hfg.1 hfg.2, fun f hf g hg => ?_⟩
      have hfsize := hs.lossless.size f (List.mem_of_mem_getLast? hf)
      refine times_of_rate hrate hbit hfsize ?_
      rcases hduration with hnone | hduration
      · have hcount : pcmFrames.length = 0 := by omega
        rw [List.length_eq_zero_iff.mp hcount] at hg
        cases hg
      · rw [hdelivered.head g hg, hduration f hf]
    · have hone : (h.delivered ++ pcmFrames).length ≤ 1 := by
        rw [List.length_append]
        omega
      match h.delivered ++ pcmFrames, hone with
      | [], _ => exact .nil
      | [f], _ => exact .singleton f
  · intro fifo'' hfifo''
    cases hfifo''
    exact hdelivered.blockSize.trans (hs.blockSize fifo hfifo)
  · rw [List.length_append]
    exact Nat.dvd_add (hs.even hbit) heven

end AudioPcmProcessor

namespace PcmProcessors

open AudioPcmProcessor

variable {ι : Type*} [DecidableEq ι] {s : PcmProcessors ι} {call : PcmCall ι}

structure Sound (s : PcmProcessors ι) : Prop where
  data : s.statics.data.length = 1920
  histories : ∀ i h, s.histories i = some h → AudioPcmProcessor.Sound (s.processors i) h

omit [DecidableEq ι] in
theorem sound_init : Sound ({} : PcmProcessors ι) where
  data := List.length_replicate
  histories _ _ h := by cases h

/-- A step changes one processor. -/
theorem Sound.update (hs : s.Sound) {statics : PcmStatics} (hdata : statics.data.length = 1920) {i : ι}
    {p : AudioPcmProcessor} {history : Option PcmHistory}
    (hp : ∀ h, history = some h → AudioPcmProcessor.Sound p h) :
    Sound { statics, processors := Function.update s.processors i p,
            histories := Function.update s.histories i history } := by
  refine ⟨hdata, fun j h hj => ?_⟩
  dsimp only at hj ⊢
  by_cases hji : j = i
  · subst hji
    rw [Function.update_self] at hj ⊢
    exact hp h hj
  · rw [Function.update_of_ne hji] at hj ⊢
    exact hs.histories j h hj

theorem run_init (i : ι) (channels sampleBit sampleRate : UInt32) (allocated : Bool) :
    s.run (.init i channels sampleBit sampleRate allocated) = .ok
      { statics := s.statics,
        processors := Function.update s.processors i
          ((s.processors i).init channels sampleBit sampleRate allocated).1,
        histories := Function.update s.histories i
          (if ((s.processors i).init channels sampleBit sampleRate allocated).2 = 0 then some {} else none) } :=
  rfl

theorem Sound.run_init (hs : s.Sound) (i : ι) (channels sampleBit sampleRate : UInt32) (allocated : Bool) :
    ∃ s', s.run (.init i channels sampleBit sampleRate allocated) = .ok s' ∧ s'.Sound := by
  refine ⟨_, PcmProcessors.run_init .., hs.update hs.data fun h hh => ?_⟩
  by_cases hzero : channels = 0 ∨ sampleBit = 0 ∨ sampleRate = 0
  · have hinit : (s.processors i).init channels sampleBit sampleRate allocated =
        ({ s.processors i with channels, sampleBit, sampleRate }, 1) := if_pos hzero
    rw [hinit] at hh
    cases hh
  · have hinit : (s.processors i).init channels sampleBit sampleRate allocated = if allocated then _ else _ :=
      if_neg hzero
    rw [hinit] at hh ⊢
    cases allocated with
    | false => cases hh
    | true =>
      cases hh
      obtain ⟨hchannels, hzero⟩ := not_or.mp hzero
      exact .init hchannels (not_or.mp hzero).1 (not_or.mp hzero).2

theorem run_onFrame {i : ι} {frame : Option (List Byte)} {elapsed : UInt64} {p : AudioPcmProcessor}
    {statics : PcmStatics} {pcmFrames : List PcmFrame}
    (h : (s.processors i).onFrame s.statics frame elapsed = .ok (p, statics, pcmFrames)) :
    s.run (.onFrame i frame elapsed) = .ok
      { statics, processors := Function.update s.processors i p,
        histories := Function.update s.histories i ((s.histories i).map fun h =>
          { received := h.received ++ frame.getD [], delivered := h.delivered ++ pcmFrames }) } := by
  rw [run, h]
  rfl

theorem Sound.run (hs : s.Sound) (hsafe : s.Safe call) : ∃ s', s.run call = .ok s' ∧ s'.Sound := by
  cases call with
  | init i channels sampleBit sampleRate allocated => exact hs.run_init i channels sampleBit sampleRate allocated
  | onFrame i frame elapsed =>
    cases frame with
    | none =>
      refine ⟨_, run_onFrame rfl, hs.update hs.data fun h hh => ?_⟩
      obtain ⟨h', hh', rfl⟩ := Option.map_eq_some_iff.mp hh
      rw [List.append_nil, Option.getD_none, List.append_nil]
      exact hs.histories i h' hh'
    | some frame =>
      rw [Safe] at hsafe
      cases hhistory : s.histories i with
      | none =>
        rw [hhistory] at hsafe
        have hframe : (s.processors i).onFrame s.statics (some frame) elapsed =
            .ok (s.processors i, s.statics, []) := by
          rw [onFrame, if_pos hsafe]
        refine ⟨_, run_onFrame hframe, hs.update hs.data fun h hh => ?_⟩
        rw [hhistory] at hh
        cases hh
      | some h =>
        rw [hhistory] at hsafe
        obtain ⟨hbit, hwhole, hchannels, hrate, hduration⟩ := hsafe
        obtain ⟨_, _, statics, pcmFrames, hframe, hdelivered, hp⟩ :=
          (hs.histories i h hhistory).onFrame hs.data hbit hwhole hchannels hrate hduration
        refine ⟨_, run_onFrame hframe, hs.update hdelivered.data fun h' hh' => ?_⟩
        rw [hhistory] at hh'
        cases hh'
        exact hp

theorem step_eq {s' : PcmProcessors ι} (h : s.run call = .ok s') : s.step call = s' := by
  rw [step, h]

/-- Whatever processors there are, and whatever frames they are given, as long as the frames are safe. -/
theorem payloads_lossless (calls : List (PcmCall ι)) (h : AllMeet step Safe {} calls) :
    AllMeet step Right {} calls := by
  have hstep (s : PcmProcessors ι) (call : PcmCall ι) (hs : s.Sound) (hsafe : s.Safe call) :
      (s.Right call ↔ True) ∧ (s.Right call → (s.step call).Sound) := by
    obtain ⟨s', hrun, hs'⟩ := hs.run hsafe
    refine ⟨iff_of_true ⟨s', hrun, fun i h hh => (hs'.histories i h hh).lossless⟩ trivial, fun _ => ?_⟩
    rw [step_eq hrun]
    exact hs'
  have hiff : AllMeet step Right {} calls ↔ AllMeet step (fun _ _ => True) {} calls :=
    AllMeet.congr (I := Sound) hstep sound_init h
  exact hiff.mpr (AllMeet.of_forall fun _ _ => trivial)

/-- A stereo processor at 48 kHz, just initialised. -/
def stereo : PcmProcessors Unit := step {} (.init () 2 16 48000 true)

theorem sound_stereo : AudioPcmProcessor.Sound (stereo.processors ()) {} :=
  .init (by decide) (by decide) (by decide)

/-- The time goes on from the first frame's payload to the second one's. -/
theorem safe_stereo {first second : List Byte} (hfirst : first.length = 1924) (hsecond : second.length = 1924) :
    AllMeet step Safe stereo [.onFrame () (some first) 7, .onFrame () (some second) 17] := by
  have hwhole {frame : List Byte} (h : frame.length = 1924) : 2 * (2 : UInt32).toNat ∣ frame.length :=
    h ▸ ⟨481, rfl⟩
  have hchannels : (2 : UInt32).toNat ∣ 960 := ⟨480, rfl⟩
  have hrate : (48000 : UInt32).toNat * (2 : UInt32).toNat = 96000 := rfl
  obtain ⟨_, fifo, statics, pcmFrames, hframe, hdelivered, hsound⟩ :=
    @AudioPcmProcessor.Sound.onFrame _ stereo.statics {} first 7 sound_stereo List.length_replicate rfl
      (hwhole hfirst) (.inl hchannels) (.inl hrate) (.inr nofun)
  obtain ⟨f, rfl⟩ : ∃ f, pcmFrames = [f] := by
    obtain ⟨hrest, hlength⟩ := hsound.received_length rfl rfl
    have hlength : 1920 * pcmFrames.length + fifo.bytes.length = 1924 := hlength.trans hfirst
    exact List.length_eq_one_iff.mp (by omega)
  have hpts : f.pts = 7 := hdelivered.head f rfl
  have hduration : statics.duration = 17 := hdelivered.duration
  refine ⟨⟨rfl, hwhole hfirst, .inl hchannels, .inl hrate, .inr nofun⟩, ?_, trivial⟩
  rw [step_eq (run_onFrame hframe)]
  refine ⟨rfl, hwhole hsecond, .inl hchannels, .inl hrate, .inr ?_⟩
  rintro g ⟨⟩
  rw [timeBase, if_neg (by rw [hduration]; decide), hduration, List.getLast_singleton, hpts]
  rfl

/-- Two frames, each of which completes a payload. -/
theorem payloads_lossless_stereo : AllMeet step Right ({} : PcmProcessors Unit)
    [.init () 2 16 48000 true, .onFrame () (some (List.replicate 1924 1)) 7,
      .onFrame () (some (List.replicate 1924 2)) 17] :=
  payloads_lossless _ ⟨trivial, safe_stereo List.length_replicate List.length_replicate⟩

/-- Of a frame that ends within a sample, the rest is gone; and of 8-bit samples, more are read than the
frame has. -/
theorem samples_lost :
    ¬ AllMeet step Right ({} : PcmProcessors Unit)
      [.init () 2 16 48000 true, .onFrame () (some [1, 2, 3]) 7] ∧
    ¬ AllMeet step Right ({} : PcmProcessors Unit)
      [.init () 1 8 48000 true, .onFrame () (some [1]) 7] := by
  constructor
  · rintro ⟨-, ⟨s', hrun, hright⟩, -⟩
    cases hrun
    obtain ⟨fifo, hfifo, -, hsamples⟩ := (hright () _ rfl).samples
    cases hfifo
    exact absurd hsamples (by decide)
  · rintro ⟨-, ⟨s', hrun, -⟩, -⟩
    cases hrun

end PcmProcessors

end WifiDisplay
