import Mathlib.Data.List.TakeWhile
import WifiDisplay.EventLog
import WifiDisplay.NumberExtent
import WifiDisplay.Rtcp

/-! The receiver's count of lost packets. The packets of a stream are numbered without
wrapping, and the receiver sees the low bits of the numbers. -/

namespace WifiDisplay

open NumberExtent

/-- A packet of the stream and the rest of what `OnRtp` is told. -/
structure Arrival where
  number : ℕ
  stamp : BitVec 32 := 0
  ntpStampMs : BitVec 64 := 0
  sampleRate : BitVec 32 := 0
  bytes : BitVec 64 := 0
  now : BitVec 64 := 0

namespace RtcpReceiverContext

def receive (r : RtcpReceiverContext) (a : Arrival) : RtcpReceiverContext :=
  r.onRtp (BitVec.ofNat 16 a.number) a.stamp a.ntpStampMs a.sampleRate a.bytes a.now

def received (arrivals : List Arrival) : RtcpReceiverContext := arrivals.foldl receive {}

end RtcpReceiverContext

/-- What has arrived since the first packet of the newest cycle. -/
def newest (before : List ℕ) : List ℕ :=
  before.dropWhile fun e => e / 2 ^ 16 < highest before / 2 ^ 16

/-- When `OnRtp` counts a cycle, by the numbers that arrived before. -/
def CountsCycle (before : List ℕ) (x : ℕ) : Prop :=
  0xFF00 < before.getLastD 0 % 2 ^ 16 ∧ x % 2 ^ 16 < 0xFF ∧
    (highest before / 2 ^ 16 = lowest before / 2 ^ 16 ∨ 0x1FFF < (newest before).length % 2 ^ 64)

/-- A packet after which the counters can be right: a cycle is counted where one begins,
and a packet of an older cycle does not pass for the highest or the first one. -/
structure Recognised (before : List ℕ) (x : ℕ) : Prop where
  base : lowest before % 2 ^ 16 ≠ 0
  cycle : CountsCycle before x ↔ highest before / 2 ^ 16 < x / 2 ^ 16
  next : x / 2 ^ 16 ≤ highest before / 2 ^ 16 + 1
  late : x / 2 ^ 16 < highest before / 2 ^ 16 → x % 2 ^ 16 ≤ highest before % 2 ^ 16 ∧ lowest before ≤ x
  few : x / 2 ^ 16 < lowest before / 2 ^ 16 + 2 ^ 15

def AllRecognised (numbers : List ℕ) : Prop :=
  EventLog.Guarded (fun before x => before ≠ [] → Recognised before x) numbers

instance (before : List ℕ) (x : ℕ) : Decidable (CountsCycle before x) :=
  inferInstanceAs (Decidable (_ ∧ _ ∧ _))

instance (before : List ℕ) (x : ℕ) : Decidable (Recognised before x) :=
  decidable_of_iff (lowest before % 2 ^ 16 ≠ 0 ∧
      (CountsCycle before x ↔ highest before / 2 ^ 16 < x / 2 ^ 16) ∧
      x / 2 ^ 16 ≤ highest before / 2 ^ 16 + 1 ∧
      (x / 2 ^ 16 < highest before / 2 ^ 16 →
        x % 2 ^ 16 ≤ highest before % 2 ^ 16 ∧ lowest before ≤ x) ∧
      x / 2 ^ 16 < lowest before / 2 ^ 16 + 2 ^ 15)
    ⟨fun ⟨h₁, h₂, h₃, h₄, h₅⟩ => ⟨h₁, h₂, h₃, h₄, h₅⟩, fun ⟨h₁, h₂, h₃, h₄, h₅⟩ => ⟨h₁, h₂, h₃, h₄, h₅⟩⟩

instance (numbers : List ℕ) : Decidable (AllRecognised numbers) :=
  inferInstanceAs (Decidable (EventLog.Guarded _ _))

/-- The counters are those of the numbers that arrived. -/
structure Accounts (r : RtcpReceiverContext) (numbers : List ℕ) : Prop where
  packets : r.packets = BitVec.ofNat 64 numbers.length
  last : r.lastRtpSeq = BitVec.ofNat 16 (numbers.getLastD 0)
  seqMax : r.seqMax = BitVec.ofNat 16 (highest numbers)
  seqBase : r.seqBase = BitVec.ofNat 16 (lowest numbers)
  cycles : r.seqCycles = BitVec.ofNat 16 (highest numbers / 2 ^ 16 - lowest numbers / 2 ^ 16)
  few : highest numbers / 2 ^ 16 < lowest numbers / 2 ^ 16 + 2 ^ 15
  span : highest numbers - lowest numbers + 1 < 2 ^ 31
  cycleStart : lowest numbers / 2 ^ 16 < highest numbers / 2 ^ 16 →
    r.lastCyclePackets = BitVec.ofNat 64 (numbers.length - (newest numbers).length)

variable {r : RtcpReceiverContext} {numbers : List ℕ}

theorem newest_length_le (numbers : List ℕ) : (newest numbers).length ≤ numbers.length :=
  (List.dropWhile_sublist _).length_le

theorem newest_ne_nil (h : numbers ≠ []) : newest numbers ≠ [] := by
  intro hnil
  have hall := List.dropWhile_eq_nil_iff.mp hnil (highest numbers) (highest_mem h)
  simp at hall

theorem dropWhile_snoc {p : ℕ → Bool} (h : numbers.dropWhile p ≠ []) (x : ℕ) :
    (numbers ++ [x]).dropWhile p = numbers.dropWhile p ++ [x] := by
  rw [List.dropWhile_append, if_neg]
  simpa using h

/-- A packet that does not begin a cycle. -/
theorem newest_snoc_same {x : ℕ} (hne : numbers ≠ []) (h : x / 2 ^ 16 ≤ highest numbers / 2 ^ 16) :
    newest (numbers ++ [x]) = newest numbers ++ [x] := by
  have hcycle : max (highest numbers) x / 2 ^ 16 = highest numbers / 2 ^ 16 := by omega
  simp only [newest, highest_snoc, hcycle]
  exact dropWhile_snoc (newest_ne_nil hne) x

theorem newest_snoc_next {x : ℕ} (h : highest numbers / 2 ^ 16 < x / 2 ^ 16) :
    newest (numbers ++ [x]) = [x] := by
  have hcycle : max (highest numbers) x / 2 ^ 16 = x / 2 ^ 16 := by omega
  have hall : numbers.dropWhile (fun e => e / 2 ^ 16 < x / 2 ^ 16) = [] := by
    refine List.dropWhile_eq_nil_iff.mpr fun e he => ?_
    have hle := (mem_extent he).2
    simp only [decide_eq_true_eq]
    omega
  simp only [newest, highest_snoc, hcycle, List.dropWhile_append, hall]
  simp

namespace Accounts

theorem first (a : Arrival) : Accounts (RtcpReceiverContext.receive {} a) [a.number] where
  packets := rfl
  last := rfl
  seqMax := by
    simp only [RtcpReceiverContext.receive, RtcpReceiverContext.onRtp, highest, List.foldl_cons,
      List.foldl_nil, Nat.zero_max]
    split
    · rfl
    · apply BitVec.eq_of_toNat_eq
      simp_all [BitVec.lt_def]
  seqBase := by
    simp [RtcpReceiverContext.receive, RtcpReceiverContext.onRtp]
  cycles := by
    simp [RtcpReceiverContext.receive, RtcpReceiverContext.onRtp, highest]
  few := by simp [highest]
  span := by simp [highest]
  cycleStart h := by simp [highest] at h

/-- The condition in the code is the one on the numbers. -/
theorem countsCycle_iff (h : Accounts r numbers) (x : ℕ) :
    (0xFF00 < r.lastRtpSeq ∧ BitVec.ofNat 16 x < 0xFF ∧
      (r.seqCycles = 0 ∨ 0x1FFF < r.packets - r.lastCyclePackets)) ↔ CountsCycle numbers x := by
  have hfew := h.few
  have hlow := Nat.div_le_div_right (c := 2 ^ 16) (lowest_le_highest numbers)
  have hlast : 0xFF00 < r.lastRtpSeq ↔ 0xFF00 < numbers.getLastD 0 % 2 ^ 16 := by
    rw [h.last, BitVec.lt_def, BitVec.toNat_ofNat]
    exact Iff.rfl
  have hseq : BitVec.ofNat 16 x < 0xFF ↔ x % 2 ^ 16 < 0xFF := by
    rw [BitVec.lt_def, BitVec.toNat_ofNat]
    exact Iff.rfl
  have hzero : r.seqCycles = 0 ↔ highest numbers / 2 ^ 16 = lowest numbers / 2 ^ 16 := by
    rw [h.cycles, ← BitVec.toNat_inj, BitVec.toNat_ofNat]
    change _ = 0 ↔ _
    omega
  rw [CountsCycle, hlast, hseq, hzero]
  refine and_congr_right fun _ => and_congr_right fun _ => or_congr_right' fun hne => ?_
  have hstart := h.cycleStart (by omega)
  have hle := newest_length_le numbers
  have hsince : (r.packets - r.lastCyclePackets).toNat = (newest numbers).length % 2 ^ 64 := by
    rw [h.packets, hstart, BitVec.toNat_sub, BitVec.toNat_ofNat, BitVec.toNat_ofNat]
    omega
  rw [BitVec.lt_def, hsince]
  exact Iff.rfl

theorem seqBase_ne_zero (h : Accounts r numbers) (hbase : lowest numbers % 2 ^ 16 ≠ 0) :
    r.seqBase ≠ 0 := by
  rw [h.seqBase]
  intro heq
  have hnat := congrArg BitVec.toNat heq
  rw [BitVec.toNat_ofNat] at hnat
  exact hbase hnat

theorem packets_snoc (h : Accounts r numbers) (x : ℕ) :
    r.packets + 1 = BitVec.ofNat 64 (numbers ++ [x]).length := by
  rw [h.packets, List.length_append, List.length_singleton, BitVec.ofNat_add]
  rfl

/-- The first packet of a cycle. -/
theorem snoc_next (h : Accounts r numbers) (hne : numbers ≠ []) (a : Arrival)
    (ha : Recognised numbers a.number) (hnext : highest numbers / 2 ^ 16 < a.number / 2 ^ 16) :
    Accounts (r.receive a) (numbers ++ [a.number]) := by
  obtain ⟨x, stamp, ntp, rate, bytes, now⟩ := a
  change highest numbers / 2 ^ 16 < x / 2 ^ 16 at hnext
  obtain ⟨hbase, hcycle, hone, -, hfew⟩ : Recognised numbers x := ha
  have hcond := ((h.countsCycle_iff x).trans hcycle).mpr hnext
  have hlow := lowest_le_highest numbers
  have hmax : max (highest numbers) x = x := by omega
  have hmin : min (lowest numbers) x = lowest numbers := by omega
  have hcycles : r.seqCycles + 1 = BitVec.ofNat 16 (x / 2 ^ 16 - lowest numbers / 2 ^ 16) := by
    have hcount : x / 2 ^ 16 - lowest numbers / 2 ^ 16 =
        highest numbers / 2 ^ 16 - lowest numbers / 2 ^ 16 + 1 := by omega
    rw [h.cycles, hcount, BitVec.ofNat_add]
    rfl
  have hsome : r.seqCycles + 1 ≠ 0 := by
    rw [hcycles]
    intro heq
    have hnat := congrArg BitVec.toNat heq
    rw [BitVec.toNat_ofNat] at hnat
    change _ = 0 at hnat
    omega
  simp only [RtcpReceiverContext.receive, RtcpReceiverContext.onRtp, hcond, true_or,
    and_self, if_true, h.seqBase_ne_zero hbase, hsome, false_and, or_self, if_false]
  constructor <;> simp only [highest_snoc, lowest_snoc hne, hmax, hmin]
  case packets => exact h.packets_snoc x
  case last => simp
  case seqBase => exact h.seqBase
  case cycles => exact hcycles
  case few => exact hfew
  case span => omega
  case cycleStart =>
    intro _
    rw [newest_snoc_next hnext, h.packets]
    simp

/-- Any other packet. -/
theorem snoc_same (h : Accounts r numbers) (hne : numbers ≠ []) (a : Arrival)
    (ha : Recognised numbers a.number) (hsame : ¬ highest numbers / 2 ^ 16 < a.number / 2 ^ 16) :
    Accounts (r.receive a) (numbers ++ [a.number]) := by
  obtain ⟨x, stamp, ntp, rate, bytes, now⟩ := a
  change ¬ highest numbers / 2 ^ 16 < x / 2 ^ 16 at hsame
  obtain ⟨hbase, hcycle, -, hlate, hfew⟩ : Recognised numbers x := ha
  have hcond := mt ((h.countsCycle_iff x).trans hcycle).mp hsame
  have hlow := lowest_le_highest numbers
  have hbefore := h.few
  have hcycle_max : max (highest numbers) x / 2 ^ 16 = highest numbers / 2 ^ 16 := by omega
  have hcycle_min : min (lowest numbers) x / 2 ^ 16 = lowest numbers / 2 ^ 16 := by omega
  simp only [RtcpReceiverContext.receive, RtcpReceiverContext.onRtp, hcond, false_or, if_false,
    h.seqBase_ne_zero hbase]
  constructor <;> simp only [highest_snoc, lowest_snoc hne, hcycle_max, hcycle_min]
  case packets => exact h.packets_snoc x
  case last => simp
  case seqMax =>
    simp only [h.seqMax, BitVec.lt_def, BitVec.toNat_ofNat]
    split
    · congr 1
      omega
    · congr 1
      omega
  case seqBase =>
    have hzero : r.seqCycles = 0 ↔ highest numbers / 2 ^ 16 = lowest numbers / 2 ^ 16 := by
      rw [h.cycles, ← BitVec.toNat_inj, BitVec.toNat_ofNat]
      change _ = 0 ↔ _
      omega
    simp only [hzero, h.seqBase, BitVec.lt_def, BitVec.toNat_ofNat]
    split
    · congr 1
      omega
    · congr 1
      omega
  case cycles => exact h.cycles
  case few => exact hbefore
  case span => omega
  case cycleStart =>
    intro hwrapped
    have hle := newest_length_le numbers
    rw [h.cycleStart hwrapped, newest_snoc_same hne (by omega), List.length_append,
      List.length_append, List.length_singleton, Nat.add_sub_add_right]

theorem snoc (h : Accounts r numbers) (hne : numbers ≠ []) (a : Arrival)
    (ha : Recognised numbers a.number) : Accounts (r.receive a) (numbers ++ [a.number]) := by
  by_cases hnext : highest numbers / 2 ^ 16 < a.number / 2 ^ 16
  · exact h.snoc_next hne a ha hnext
  · exact h.snoc_same hne a ha hnext

theorem getExpectedPackets (h : Accounts r numbers) :
    r.getExpectedPackets = BitVec.ofNat 64 (highest numbers - lowest numbers + 1) := by
  obtain ⟨-, -, hmax, hbase, hcycles, hfew, hspan, -⟩ := h
  have hlow := lowest_le_highest numbers
  have hcount : (r.seqCycles.setWidth 32 <<< 16 + r.seqMax.setWidth 32 - r.seqBase.setWidth 32 + 1).toNat =
      highest numbers - lowest numbers + 1 := by
    have hshift : (r.seqCycles.setWidth 32 <<< 16).toNat =
        (highest numbers / 2 ^ 16 - lowest numbers / 2 ^ 16) * 2 ^ 16 := by
      rw [hcycles]
      simp only [BitVec.toNat_shiftLeft, BitVec.toNat_setWidth, BitVec.toNat_ofNat, Nat.shiftLeft_eq]
      omega
    have hhigh : (r.seqMax.setWidth 32).toNat = highest numbers % 2 ^ 16 := by
      rw [hmax, BitVec.toNat_setWidth, BitVec.toNat_ofNat]
      omega
    have hbottom : (r.seqBase.setWidth 32).toNat = lowest numbers % 2 ^ 16 := by
      rw [hbase, BitVec.toNat_setWidth, BitVec.toNat_ofNat]
      omega
    rw [BitVec.toNat_add, BitVec.toNat_sub, BitVec.toNat_add, hshift, hhigh, hbottom]
    change (_ + 1) % _ = _
    omega
  rw [RtcpReceiverContext.getExpectedPackets, BitVec.signExtend_eq_setWidth_of_msb_false]
  · apply BitVec.eq_of_toNat_eq
    rw [BitVec.toNat_setWidth, hcount, BitVec.toNat_ofNat]
  · refine BitVec.msb_eq_false_iff_two_mul_lt.mpr ?_
    omega

theorem getLost (h : Accounts r numbers) :
    r.getLost = BitVec.ofNat 64 (missing numbers) - BitVec.ofNat 64 (repeated numbers) := by
  have hextent := extent_add_repeated numbers
  apply BitVec.eq_of_toNat_eq
  simp only [RtcpReceiverContext.getLost, h.getExpectedPackets, h.packets, BitVec.toNat_sub,
    BitVec.toNat_ofNat]
  omega

end Accounts

theorem AllRecognised.accounts {arrivals : List Arrival} (hne : arrivals ≠ [])
    (h : AllRecognised (arrivals.map (·.number))) :
    Accounts (RtcpReceiverContext.received arrivals) (arrivals.map (·.number)) := by
  induction arrivals using List.reverseRecOn with
  | nil => exact absurd rfl hne
  | append_singleton arrivals a ih =>
    rw [RtcpReceiverContext.received, List.foldl_append, List.map_append]
    rcases eq_or_ne arrivals [] with rfl | hbefore
    · exact Accounts.first a
    · rw [List.map_append] at h
      obtain ⟨hrest, ha⟩ := EventLog.guarded_snoc.mp h
      have hsome : arrivals.map (·.number) ≠ [] := by simpa using hbefore
      exact (ih hbefore hrest).snoc hsome a (ha hsome)

/-! Every packet of a gap-free stream is recognised, as long as the first number is not
zero. -/

theorem newest_range' {start count : ℕ} (h : start / 2 ^ 16 < (start + count) / 2 ^ 16) :
    (newest (List.range' start (count + 1))).length = (start + count) % 2 ^ 16 + 1 := by
  have hsplit : List.range' start (count + 1) =
      List.range' start ((start + count) / 2 ^ 16 * 2 ^ 16 - start) ++
        List.range' ((start + count) / 2 ^ 16 * 2 ^ 16) ((start + count) % 2 ^ 16 + 1) := by
    have hcycle : start + ((start + count) / 2 ^ 16 * 2 ^ 16 - start) =
        (start + count) / 2 ^ 16 * 2 ^ 16 := by omega
    have hall : (start + count) / 2 ^ 16 * 2 ^ 16 - start + ((start + count) % 2 ^ 16 + 1) =
        count + 1 := by omega
    conv_rhs => arg 2; rw [← hcycle]
    rw [List.range'_append_1, hall]
  rw [newest, highest_range', hsplit, List.dropWhile_append_of_pos]
  · rw [List.range'_succ, List.dropWhile_cons_of_neg]
    · simp
    · simp only [decide_eq_true_eq]
      omega
  · intro e he
    have hmem := List.mem_range'_1.mp he
    simp only [decide_eq_true_eq]
    omega

theorem recognised_range' {start count : ℕ} (hbase : start % 2 ^ 16 ≠ 0)
    (hfew : (start + count + 1) / 2 ^ 16 < start / 2 ^ 16 + 2 ^ 15) :
    Recognised (List.range' start (count + 1)) (start + count + 1) := by
  have hlast : (List.range' start (count + 1)).getLastD 0 = start + count := by
    simp [List.range'_concat]
  constructor
  · rwa [lowest_range']
  · rw [CountsCycle, hlast, highest_range', lowest_range']
    constructor
    · omega
    · intro hnext
      refine ⟨by omega, by omega, ?_⟩
      by_cases hsame : (start + count) / 2 ^ 16 = start / 2 ^ 16
      · exact .inl hsame
      · rw [newest_range' (by omega)]
        right
        omega
  · rw [highest_range']
    omega
  · rw [highest_range']
    omega
  · rwa [lowest_range']

theorem allRecognised_range' {start count : ℕ} (hbase : start % 2 ^ 16 ≠ 0)
    (hfew : (start + count) / 2 ^ 16 < start / 2 ^ 16 + 2 ^ 15) :
    AllRecognised (List.range' start (count + 1)) := by
  induction count with
  | zero =>
    intro n hn
    simp only [List.length_range'] at hn
    obtain rfl : n = 0 := by omega
    simp
  | succ count ih =>
    rw [List.range'_concat, Nat.one_mul]
    refine EventLog.guarded_snoc.mpr ⟨ih (by omega), fun _ => ?_⟩
    exact recognised_range' hbase hfew

/-- The count is that of the packets missing between the lowest and the highest one,
less those that came again; a gap-free stream has lost none. -/
theorem getLost_received {arrivals : List Arrival} (hne : arrivals ≠ []) :
    (AllRecognised (arrivals.map (·.number)) →
      (RtcpReceiverContext.received arrivals).getLost =
        BitVec.ofNat 64 (missing (arrivals.map (·.number))) -
          BitVec.ofNat 64 (repeated (arrivals.map (·.number)))) ∧
    (∀ start count, arrivals.map (·.number) = List.range' start (count + 1) → start % 2 ^ 16 ≠ 0 →
      (start + count) / 2 ^ 16 < start / 2 ^ 16 + 2 ^ 15 →
      (RtcpReceiverContext.received arrivals).getLost = 0) := by
  constructor
  · intro h
    exact (h.accounts hne).getLost
  · intro start count hnumbers hbase hfew
    have h := allRecognised_range' hbase hfew
    rw [← hnumbers] at h
    rw [(h.accounts hne).getLost, hnumbers, missing_range', repeated_of_nodup List.nodup_range']
    rfl

/-- Across a wrap, with the second packet lost and the first one received twice, and a
gap-free stream. -/
theorem getLost_received_wrap :
    (RtcpReceiverContext.received
        ([65533, 65533, 65535, 65536].map fun number => { number : Arrival })).getLost =
      BitVec.ofNat 64 (missing [65533, 65533, 65535, 65536]) -
        BitVec.ofNat 64 (repeated [65533, 65533, 65535, 65536]) ∧
    (RtcpReceiverContext.received
        ([65534, 65535, 65536].map fun number => { number : Arrival })).getLost = 0 :=
  ⟨(getLost_received (by decide)).1 (by decide +kernel),
    (getLost_received (by decide)).2 65534 2 rfl (by decide) (by decide)⟩

/-- A packet received twice counts against a lost one, and the last packet of a stream
is not missed. -/
theorem received_miscounted :
    ¬ (∀ arrivals : List Arrival, arrivals ≠ [] →
      0 ≤ (RtcpReceiverContext.received arrivals).getLost.toInt) ∧
    ¬ (∀ (start count : ℕ) (arrivals : List Arrival), arrivals ≠ [] →
      (∀ a ∈ arrivals, start ≤ a.number ∧ a.number < start + count) →
      (arrivals.map (·.number)).Nodup →
      (RtcpReceiverContext.received arrivals).getLost = BitVec.ofNat 64 (count - arrivals.length)) := by
  constructor
  · intro h
    have hnegative := h [{ number := 5 }, { number := 5 }] (by simp)
    revert hnegative
    decide +kernel
  · intro h
    have htail := h 5 2 [{ number := 5 }] (by simp) (by simp) (by simp)
    revert htail
    decide +kernel

end WifiDisplay
