import WifiDisplay.BufferDispatcherSteps

/-! What a read does: it moves the index of one receiver and marks frames as read by it. -/

namespace WifiDisplay

/-- `SetReceiverReadFlag` on one frame, for the slot that was found. -/
def DataSpec.markedBy (slot : Index) (d : DataSpec) : DataSpec :=
  match slot with
  | none => d
  | some index => { d with reserveFlag := setFlag d.reserveFlag index true }

namespace DataSpec

variable (slot : Index) (d : DataSpec)

@[simp] theorem markedBy_mediaData : (d.markedBy slot).mediaData = d.mediaData := by
  cases slot <;> rfl

@[simp] theorem markedBy_seq : (d.markedBy slot).seq = d.seq := by cases slot <;> rfl

theorem getLsbD_markedBy (k : Nat) : (d.markedBy slot).reserveFlag.getLsbD k =
    if slot = some k ∧ k < 16 then true else d.reserveFlag.getLsbD k := by
  cases slot with
  | none => simp [markedBy]
  | some index =>
    by_cases hk : k = index
    · subst hk
      simp [markedBy]
    · simp [markedBy, hk, Ne.symm hk]

end DataSpec

/-- The same frames, of which those that satisfy `P` are marked in a slot. -/
def Marks (P : Nat → Nat → Prop) (l l' : List DataSpec) : Prop :=
  l'.length = l.length ∧ ∀ i d', l'[i]? = some d' → ∃ d, l[i]? = some d ∧
    d'.mediaData = d.mediaData ∧ d'.seq = d.seq ∧
      ∀ k < 16, d'.reserveFlag.getLsbD k = true ↔ d.reserveFlag.getLsbD k = true ∨ P i k

namespace Marks

variable {P Q : Nat → Nat → Prop} {l l' l'' : List DataSpec}

theorem refl (l : List DataSpec) : Marks (fun _ _ => False) l l :=
  ⟨rfl, fun _ d hd => ⟨d, hd, rfl, rfl, fun _ _ => by simp⟩⟩

theorem trans (h : Marks P l l') (h' : Marks Q l' l'') :
    Marks (fun i k => P i k ∨ Q i k) l l'' := by
  refine ⟨h'.1.trans h.1, fun i d'' hd'' => ?_⟩
  obtain ⟨d', hd', hm', hseq', hf'⟩ := h'.2 i d'' hd''
  obtain ⟨d, hd, hm, hseq, hf⟩ := h.2 i d' hd'
  refine ⟨d, hd, hm'.trans hm, hseq'.trans hseq, fun k hk => ?_⟩
  rw [hf' k hk, hf k hk, or_assoc]

theorem congr (h : Marks P l l') (hPQ : ∀ i < l.length, ∀ k < 16, P i k ↔ Q i k) :
    Marks Q l l' := by
  refine ⟨h.1, fun i d' hd' => ?_⟩
  obtain ⟨d, hd, hm, hseq, hf⟩ := h.2 i d' hd'
  have hi : i < l.length := (List.getElem?_eq_some_iff.mp hd).1
  exact ⟨d, hd, hm, hseq, fun k hk => by rw [hf k hk, hPQ i hi k hk]⟩

/-- Every frame is still there, in its place. -/
theorem get (h : Marks P l l') {i : Nat} {d : DataSpec} (hd : l[i]? = some d) :
    ∃ d', l'[i]? = some d' ∧ d'.mediaData = d.mediaData ∧ d'.seq = d.seq ∧
      ∀ k < 16, d'.reserveFlag.getLsbD k = true ↔ d.reserveFlag.getLsbD k = true ∨ P i k := by
  have hi : i < l'.length := h.1 ▸ (List.getElem?_eq_some_iff.mp hd).1
  obtain ⟨d₀, hd₀, hrest⟩ := h.2 i l'[i] (List.getElem?_eq_getElem hi)
  cases hd.symm.trans hd₀
  exact ⟨l'[i], List.getElem?_eq_getElem hi, hrest⟩

theorem frames (h : Marks P l l') :
    l'.map (fun d => (d.mediaData, d.seq)) = l.map fun d => (d.mediaData, d.seq) := by
  apply List.ext_getElem?
  intro i
  rw [List.getElem?_map, List.getElem?_map]
  cases hd : l[i]? with
  | none =>
    have hlen : l'.length ≤ i := by
      rw [h.1]
      exact List.getElem?_eq_none_iff.mp hd
    rw [List.getElem?_eq_none hlen]
  | some d =>
    obtain ⟨d', hd', hm, hseq, -⟩ := h.get hd
    rw [hd', Option.map_some, Option.map_some, hm, hseq]

end Marks

namespace BufferDispatcher

variable {s s' : BufferDispatcher} {receiverId : Nat} {type : MediaType}

theorem setReceiverReadFlags_eq (s : BufferDispatcher) (receiverId first last : Nat) :
    s.setReceiverReadFlags receiverId first last =
      { s with circularBuffer := { s.circularBuffer with
          items := s.circularBuffer.items.mapIdx fun i d =>
            if first ≤ i ∧ i < last then d.markedBy (s.findReceiverIndex receiverId) else d } } := by
  rw [setReceiverReadFlags]
  cases s.findReceiverIndex receiverId with
  | none =>
    have hid : (s.circularBuffer.items.mapIdx fun i d =>
        if first ≤ i ∧ i < last then d.markedBy none else d) = s.circularBuffer.items := by
      apply List.ext_getElem?
      simp [DataSpec.markedBy]
    rw [hid]
  | some index => rfl

theorem frames_mapIdx {items : List DataSpec} {f : Nat → DataSpec → DataSpec}
    (hf : ∀ i d, (f i d).mediaData = d.mediaData ∧ (f i d).seq = d.seq) :
    (items.mapIdx f).map (fun d => (d.mediaData, d.seq)) =
      items.map fun d => (d.mediaData, d.seq) := by
  apply List.ext_getElem?
  intro i
  simp only [List.getElem?_map, List.getElem?_mapIdx]
  cases items[i]? with
  | none => rfl
  | some d => simp [hf]

theorem still_setReceiverReadFlags (s : BufferDispatcher) (receiverId first last : Nat) :
    Still s (s.setReceiverReadFlags receiverId first last) := by
  rw [setReceiverReadFlags_eq]
  refine { Still.refl s with frames := frames_mapIdx fun i d => ?_ }
  by_cases hi : first ≤ i ∧ i < last <;> simp [hi]

theorem getElem?_setReceiverReadFlags (s : BufferDispatcher) (receiverId first last i : Nat) :
    (s.setReceiverReadFlags receiverId first last).circularBuffer.items[i]? =
      s.circularBuffer.items[i]?.map fun d =>
        if first ≤ i ∧ i < last then d.markedBy (s.findReceiverIndex receiverId) else d := by
  rw [setReceiverReadFlags_eq, List.getElem?_mapIdx]

theorem marks_setReceiverReadFlags (s : BufferDispatcher) (receiverId first last : Nat) :
    Marks (fun i k => first ≤ i ∧ i < last ∧ s.findReceiverIndex receiverId = some k)
      s.circularBuffer.items (s.setReceiverReadFlags receiverId first last).circularBuffer.items := by
  constructor
  · rw [setReceiverReadFlags_eq, List.length_mapIdx]
  · intro i d' hd'
    rw [getElem?_setReceiverReadFlags] at hd'
    obtain ⟨d, hd, rfl⟩ := Option.map_eq_some_iff.mp hd'
    refine ⟨d, hd, ?_⟩
    by_cases hi : first ≤ i ∧ i < last
    · rw [if_pos hi]
      refine ⟨d.markedBy_mediaData _, d.markedBy_seq _, fun k hk => ?_⟩
      rw [DataSpec.getLsbD_markedBy]
      by_cases hslot : s.findReceiverIndex receiverId = some k
      · simp [hslot, hk, hi]
      · simp [hslot]
    · rw [if_neg hi]
      refine ⟨rfl, rfl, fun k _ => ?_⟩
      have hno : ¬ (first ≤ i ∧ i < last ∧ s.findReceiverIndex receiverId = some k) :=
        fun h => hi ⟨h.1, h.2.1⟩
      simp [hno]

theorem notifiers_setReceiverReadFlags (s : BufferDispatcher) (receiverId first last : Nat) :
    (s.setReceiverReadFlags receiverId first last).notifiers = s.notifiers := by
  rw [setReceiverReadFlags_eq]

theorem size_of_frames (h : s'.frames = s.frames) : s'.circularBuffer.size = s.circularBuffer.size := by
  have hlen := congrArg List.length h
  simpa [frames, CircularBuffer.size] using hlen

theorem wanted_congr {keyMode : Bool} {d d' : DataSpec} (h : d'.mediaData = d.mediaData) :
    wanted keyMode type d' = wanted keyMode type d := by
  simp [wanted, DataSpec.isKeyVideoFrame, DataSpec.isVideoData, h]

/-- Where a read moves an index: one frame further, to the next frame of the type, or nowhere. -/
theorem findNextIndex_cases (s : BufferDispatcher) (i : Nat) (type : MediaType) (keyMode : Bool) :
    (s.findNextIndex i type keyMode = i ∧
      (type ≠ .av → ∀ p d, i < p → s.circularBuffer.items[p]? = some d →
        wanted keyMode type d = false) ∧
      (type = .av → s.circularBuffer.size ≤ i + 1)) ∨
    (i < s.findNextIndex i type keyMode ∧
      (type = .av → s.findNextIndex i type keyMode = i + 1) ∧
      ∃ d, s.circularBuffer.items[s.findNextIndex i type keyMode]? = some d ∧
        (type ≠ .av → wanted keyMode type d ∧ ∀ p d, i < p → p < s.findNextIndex i type keyMode →
          s.circularBuffer.items[p]? = some d → wanted keyMode type d = false)) := by
  rw [findNextIndex]
  by_cases hend : i + 1 ≥ s.circularBuffer.size
  · left
    rw [if_pos hend]
    refine ⟨rfl, fun _ p d hp hd => ?_, fun _ => hend⟩
    have hlt := (List.getElem?_eq_some_iff.mp hd).1
    rw [CircularBuffer.size] at hend
    omega
  rw [if_neg hend]
  have hlt : i + 1 < s.circularBuffer.items.length := Nat.not_le.mp hend
  by_cases hav : type = .av
  · right
    rw [if_pos hav]
    exact ⟨Nat.lt_succ_self i, fun _ => rfl, _, List.getElem?_eq_getElem hlt, fun h => absurd hav h⟩
  rw [if_neg hav]
  cases hfind : (s.circularBuffer.items.drop (i + 1)).findIdx? (wanted keyMode type) with
  | none =>
    left
    refine ⟨rfl, fun _ p d hp hd => ?_, fun h => absurd h hav⟩
    have hd' : (s.circularBuffer.items.drop (i + 1))[p - (i + 1)]? = some d := by
      rw [List.getElem?_drop, Nat.add_sub_cancel' hp, hd]
    exact List.findIdx?_eq_none_iff.mp hfind d (List.mem_of_getElem? hd')
  | some k =>
    right
    dsimp only
    obtain ⟨hk, hwant, hbefore⟩ := List.findIdx?_eq_some_iff_getElem.mp hfind
    refine ⟨by omega, fun h => absurd h hav, (s.circularBuffer.items.drop (i + 1))[k], ?_, fun _ => ⟨hwant, ?_⟩⟩
    · rw [← List.getElem?_drop, List.getElem?_eq_getElem hk]
    · intro p d hp hpk hd
      have hj : p - (i + 1) < k := by omega
      have hd' : (s.circularBuffer.items.drop (i + 1))[p - (i + 1)]? = some d := by
        rw [List.getElem?_drop, Nat.add_sub_cancel' hp, hd]
      have hget : (s.circularBuffer.items.drop (i + 1))[p - (i + 1)] = d :=
        (List.getElem?_eq_some_iff.mp hd').2
      have hnot := hbefore _ hj
      rw [hget] at hnot
      simpa using hnot

theorem findNextIndex_lt {i : Nat} (hi : i < s.circularBuffer.size) (type : MediaType) (keyMode : Bool) :
    s.findNextIndex i type keyMode < s.circularBuffer.size := by
  rcases findNextIndex_cases s i type keyMode with ⟨heq, -⟩ | ⟨-, -, d, hd, -⟩
  · rw [heq]
    exact hi
  · exact (List.getElem?_eq_some_iff.mp hd).1

theorem findNextIndex_congr (h : s'.frames = s.frames) (i : Nat) (type : MediaType) (keyMode : Bool) :
    s'.findNextIndex i type keyMode = s.findNextIndex i type keyMode := by
  have hfind : (s'.circularBuffer.items.drop (i + 1)).findIdx? (wanted keyMode type) =
      (s.circularBuffer.items.drop (i + 1)).findIdx? (wanted keyMode type) := by
    have hw : wanted keyMode type = (fun f : MediaData × Nat => wanted keyMode type ⟨f.1, 0, f.2⟩) ∘
        fun d : DataSpec => (d.mediaData, d.seq) := funext fun d => wanted_congr rfl
    rw [hw, ← List.findIdx?_map, ← List.findIdx?_map, List.map_drop, List.map_drop]
    change (s'.frames.drop (i + 1)).findIdx? _ = (s.frames.drop (i + 1)).findIdx? _
    rw [h]
  rw [findNextIndex, findNextIndex, size_of_frames h, hfind]

/-- In key mode only key frames are read. -/
def keyMode (s : BufferDispatcher) (n : DataNotifier) : Bool := s.keyOnly || n.isKeyModeReceiver

theorem keyMode_setReceiverReadFlags (s : BufferDispatcher) (receiverId first last : Nat)
    (n : DataNotifier) : (s.setReceiverReadFlags receiverId first last).keyMode n = s.keyMode n := by
  rw [setReceiverReadFlags_eq]
  rfl

/-- The receiver's read finds a frame: its notifier, its index and the frame. -/
structure ReadsAt (s : BufferDispatcher) (receiverId : Nat) (type : MediaType) (n : DataNotifier)
    (i : Nat) (d : DataSpec) : Prop where
  found : s.findNotifier receiverId = some n
  index : n.getReceiverReadIndex type = some i
  data : s.circularBuffer.items[i]? = some d

def PassesOver (s : BufferDispatcher) (type : MediaType) (n : DataNotifier) (d : DataSpec) : Prop :=
  s.keyMode n ∧ type = .video ∧ ¬ d.isKeyVideoFrame

theorem readBufferData_cases (s : BufferDispatcher) (receiverId : Nat) (type : MediaType) :
    s.readBufferData receiverId type = (none, s) ∨ ∃ n i d, ReadsAt s receiverId type n i d ∧
      ((s.PassesOver type n d ∨ s.isDataReaded receiverId d = true) ∧
          s.readBufferData receiverId type = (none, s.updateReceiverReadIndex n i type) ∨
        ¬ s.PassesOver type n d ∧ s.isDataReaded receiverId d = false ∧
          s.readBufferData receiverId type =
            (some d, (s.setReceiverReadFlags receiverId i (i + 1)).updateReceiverReadIndex n i type)) := by
  cases hn : s.findNotifier receiverId with
  | none =>
    left
    rw [readBufferData, hn]
  | some n =>
    cases hi : n.getReceiverReadIndex type with
    | none =>
      left
      simp only [readBufferData, hn, hi]
    | some i =>
      cases hd : s.circularBuffer.items[i]? with
      | none =>
        left
        simp only [readBufferData, hn, hi, hd]
      | some d =>
        right
        refine ⟨n, i, d, ⟨hn, hi, hd⟩, ?_⟩
        by_cases hpass : s.PassesOver type n d
        · left
          refine ⟨Or.inl hpass, ?_⟩
          simp only [readBufferData, hn, hi, hd]
          exact if_pos hpass
        by_cases hread : s.isDataReaded receiverId d
        · left
          refine ⟨Or.inr hread, ?_⟩
          simp only [readBufferData, hn, hi, hd, hread, if_true]
          exact if_neg hpass
        · right
          refine ⟨hpass, by simpa using hread, ?_⟩
          simp only [readBufferData, hn, hi, hd, hread, if_false, Bool.false_eq_true]
          exact if_neg hpass

theorem updateReceiverReadIndex_eq (s : BufferDispatcher) (n : DataNotifier) (i : Nat)
    (type : MediaType) :
    s.updateReceiverReadIndex n i type =
      (if s.keyMode n ∧ type = .video then
        s.setReceiverReadFlags n.receiverId (i + 1) (s.findNextIndex i type (s.keyMode n))
      else s).modifyNotifier n.receiverId
        fun n' => n'.setReadIndexes (some (s.findNextIndex i type (s.keyMode n))) type := rfl

theorem still_modifyNotifier (s : BufferDispatcher) (receiverId : Nat)
    (f : DataNotifier → DataNotifier) : Still s (s.modifyNotifier receiverId f) := { Still.refl s with }

theorem still_updateReceiverReadIndex (s : BufferDispatcher) (n : DataNotifier) (i : Nat)
    (type : MediaType) : Still s (s.updateReceiverReadIndex n i type) := by
  rw [updateReceiverReadIndex_eq]
  split
  · exact (still_setReceiverReadFlags s _ _ _).trans (still_modifyNotifier _ _ _)
  · exact still_modifyNotifier _ _ _

theorem notifiers_updateReceiverReadIndex (s : BufferDispatcher) (n : DataNotifier) (i : Nat)
    (type : MediaType) :
    (s.updateReceiverReadIndex n i type).notifiers = s.notifiers.map fun n' =>
      if n'.receiverId = n.receiverId then
        n'.setReadIndexes (some (s.findNextIndex i type (s.keyMode n))) type
      else n' := by
  rw [updateReceiverReadIndex_eq]
  split
  · rw [modifyNotifier, notifiers_setReceiverReadFlags]
  · rfl

theorem findReceiverIndex_setReceiverReadFlags (s : BufferDispatcher) (receiverId first last id : Nat) :
    (s.setReceiverReadFlags receiverId first last).findReceiverIndex id = s.findReceiverIndex id := by
  rw [setReceiverReadFlags_eq]
  rfl

theorem marks_updateReceiverReadIndex (s : BufferDispatcher) (n : DataNotifier) (i : Nat)
    (type : MediaType) :
    Marks (fun p k => s.findReceiverIndex n.receiverId = some k ∧ s.keyMode n ∧ type = .video ∧
        i < p ∧ p < s.findNextIndex i type (s.keyMode n))
      s.circularBuffer.items (s.updateReceiverReadIndex n i type).circularBuffer.items := by
  rw [updateReceiverReadIndex_eq]
  by_cases hmode : s.keyMode n ∧ type = .video
  · rw [if_pos hmode]
    refine (marks_setReceiverReadFlags s n.receiverId (i + 1) _).congr fun p _ k _ => ?_
    simp only [hmode, true_and]
    exact ⟨fun h => ⟨h.2.2, h.1, h.2.1⟩, fun h => ⟨h.2.1, h.2.2, h.1⟩⟩
  · rw [if_neg hmode]
    exact (Marks.refl _).congr fun p _ k _ => ⟨False.elim, fun h => hmode ⟨h.2.1, h.2.2.1⟩⟩

/-- What a read does that finds a frame: it hands the frame over unless it is read or
passed over, it marks the frame that it hands over and in key mode those behind it that it
passes over, and it moves its receiver's index. -/
structure Reads (s : BufferDispatcher) (receiverId : Nat) (type : MediaType) (n : DataNotifier)
    (i : Nat) (d : DataSpec) : Prop extends ReadsAt s receiverId type n i d where
  out : (s.readBufferData receiverId type).1 = none ∧
      (s.PassesOver type n d ∨ s.isDataReaded receiverId d = true) ∨
    (s.readBufferData receiverId type).1 = some d ∧ ¬ s.PassesOver type n d ∧
      s.isDataReaded receiverId d = false
  still : Still s (s.readBufferData receiverId type).2
  marks : Marks (fun p k => s.findReceiverIndex receiverId = some k ∧
      ((s.readBufferData receiverId type).1.isSome ∧ p = i ∨
        s.keyMode n ∧ type = .video ∧ i < p ∧ p < s.findNextIndex i type (s.keyMode n)))
    s.circularBuffer.items (s.readBufferData receiverId type).2.circularBuffer.items
  notifiers : (s.readBufferData receiverId type).2.notifiers = s.notifiers.map fun n' =>
    if n'.receiverId = receiverId then
      n'.setReadIndexes (some (s.findNextIndex i type (s.keyMode n))) type
    else n'

theorem Reads.out_eq {n : DataNotifier} {i : Nat} {d out : DataSpec} (h : Reads s receiverId type n i d)
    (hout : (s.readBufferData receiverId type).1 = some out) : out = d := by
  rcases h.out with ⟨hnone, -⟩ | ⟨hsome, -⟩
  · rw [hnone] at hout
    cases hout
  · exact Option.some_inj.mp (hout.symm.trans hsome)

theorem readBufferData_spec (s : BufferDispatcher) (receiverId : Nat) (type : MediaType) :
    s.readBufferData receiverId type = (none, s) ∨ ∃ n i d, Reads s receiverId type n i d := by
  rcases readBufferData_cases s receiverId type with h | ⟨n, i, d, hat, ⟨hskip, h⟩ | ⟨hpass, hread, h⟩⟩
  · exact Or.inl h
  · right
    have hid : n.receiverId = receiverId := by simpa using List.find?_some hat.found
    have hmarks := marks_updateReceiverReadIndex s n i type
    rw [hid] at hmarks
    refine ⟨n, i, d, { hat with out := ?_, still := ?_, marks := ?_, notifiers := ?_ }⟩
    · rw [h]
      exact Or.inl ⟨rfl, hskip⟩
    · rw [h]
      exact still_updateReceiverReadIndex s n i type
    · rw [h]
      exact hmarks.congr fun p _ k _ => by simp
    · rw [h, notifiers_updateReceiverReadIndex, hid]
  · right
    have hid : n.receiverId = receiverId := by simpa using List.find?_some hat.found
    have hstill := still_setReceiverReadFlags s receiverId i (i + 1)
    have hmarks := marks_updateReceiverReadIndex (s.setReceiverReadFlags receiverId i (i + 1)) n i type
    rw [hid, findReceiverIndex_setReceiverReadFlags, keyMode_setReceiverReadFlags,
      findNextIndex_congr hstill.frames] at hmarks
    refine ⟨n, i, d, { hat with out := ?_, still := ?_, marks := ?_, notifiers := ?_ }⟩
    · rw [h]
      exact Or.inr ⟨rfl, hpass, hread⟩
    · rw [h]
      exact hstill.trans (still_updateReceiverReadIndex _ n i type)
    · rw [h]
      refine ((marks_setReceiverReadFlags s receiverId i (i + 1)).trans hmarks).congr fun p _ k _ => ?_
      have hp : i ≤ p ∧ p < i + 1 ↔ p = i := by omega
      rw [← and_assoc, hp]
      simp only [Option.isSome_some, true_and]
      tauto
    · rw [h, notifiers_updateReceiverReadIndex, hid, notifiers_setReceiverReadFlags,
        findNextIndex_congr hstill.frames, keyMode_setReceiverReadFlags]

end BufferDispatcher

end WifiDisplay
