import WifiDisplay.DispatcherOrder

/-! Delivery in order: what a receiver was handed, and what a read does to it. -/

namespace WifiDisplay

open QueueReader

namespace History

open BufferDispatcher

variable {h h' : History} {call : Call} {mixed : Nat → Bool} {n n' : DataNotifier}

/-- The frames in the callbacks of the reads of one type of the receiver of an attachment. -/
def handedTo (h : History) (attachment : Nat) (type : MediaType) : List DataSpec :=
  (h.handed.filter fun x => x.attachment = attachment ∧ x.type = type).map (·.data)

theorem handedTo_step (hs : h.step call = .ok h') (attachment : Nat) (type : MediaType) :
    h'.handedTo attachment type = h.handedTo attachment type ++
      ((h.dispatcher.handedBy call).filter fun x => x.attachment = attachment ∧ x.type = type).map
        (·.data) := by
  rw [handedTo, (step_ok hs).2.2.1, List.filter_append, List.map_append]
  rfl

theorem handedTo_of_none (hs : h.step call = .ok h') (hhanded : h.dispatcher.handedBy call = [])
    (attachment : Nat) (type : MediaType) :
    h'.handedTo attachment type = h.handedTo attachment type := by
  rw [handedTo_step hs, hhanded]
  simp

theorem mem_handedTo {attachment : Nat} {type : MediaType} {d : DataSpec} :
    d ∈ h.handedTo attachment type ↔
      ∃ x ∈ h.handed, x.attachment = attachment ∧ x.type = type ∧ x.data = d := by
  simp [handedTo, and_assoc]

theorem HasPassed.step (hs : h.step call = .ok h') {a q : Nat} (hpass : h.HasPassed a q) :
    h'.HasPassed a q := (hasPassed_step hs a q).mpr (Or.inl hpass)

/-- A reader that has been handed frames and has an index in a list of frames. -/
abbrev ReadsBehind (handed : List DataSpec) (passed : Nat → Prop) (type : MediaType) (slot : Nat) :
    List DataSpec → Nat → Prop :=
  Behind DataSpec.seq (fun d => type.covers d.mediaData = true)
    (fun d => d.reserveFlag.getLsbD slot = true) (handed.map (·.seq)) passed

/-- The reads of one type of an attached receiver are in order. -/
structure Ordered (h : History) (n : DataNotifier) (type : MediaType) : Prop where
  behind : ∀ i, n.getReceiverReadIndex type = some i →
    ReadsBehind (h.handedTo n.attachment type) (h.HasPassed n.attachment) type n.readIndex
      h.dispatcher.circularBuffer.items i
  dormant : h.handedTo n.attachment type ≠ [] → n.getReceiverReadIndex type = none →
    h.dispatcher.Dormant type

theorem Ordered.of_unread {type : MediaType} (hnone : h.handedTo n.attachment type = []) :
    Ordered h n type := by
  refine ⟨fun i _ => ?_, fun hne => absurd hnone hne⟩
  rw [hnone]
  exact Behind.of_nil

/-- What holds of an attached receiver: it reads only as it may, what is marked as read
it has passed, and its reads are in order. -/
structure Served (mixed : Nat → Bool) (h : History) (n : DataNotifier) : Prop where
  unread : ∀ type, ¬ (type = .av ↔ mixed n.receiverId = true) → h.handedTo n.attachment type = []
  marked : ∀ d ∈ h.dispatcher.circularBuffer.items, d.reserveFlag.getLsbD n.readIndex = true →
    h.HasPassed n.attachment d.seq
  ordered : ∀ type, h.Ordered n type

/-- The same frames in the same places, with the same flags of one slot. -/
def SameFlags (slot : Nat) (l l' : List DataSpec) : Prop :=
  ∀ (p : Nat) (e' : DataSpec), l'[p]? = some e' → ∃ e : DataSpec, l[p]? = some e ∧
    e'.mediaData = e.mediaData ∧ e'.seq = e.seq ∧
      e'.reserveFlag.getLsbD slot = e.reserveFlag.getLsbD slot

theorem SameFlags.refl (slot : Nat) (l : List DataSpec) : SameFlags slot l l :=
  fun _ e he => ⟨e, he, rfl, rfl, rfl⟩

/-- A step that does not touch the receiver, nor its flags. -/
theorem Served.carry (hserved : Served mixed h n) (hs : h.step call = .ok h')
    (hslot : n'.slot = n.slot)
    (hindex : ∀ type, n'.getReceiverReadIndex type = n.getReceiverReadIndex type)
    (hitems : SameFlags n.readIndex h.dispatcher.circularBuffer.items
      h'.dispatcher.circularBuffer.items)
    (hhanded : ∀ type, h'.handedTo n.attachment type = h.handedTo n.attachment type)
    (hdormant : ∀ type, h.dispatcher.Dormant type → h'.dispatcher.Dormant type) :
    Served mixed h' n' := by
  have hid : n'.receiverId = n.receiverId := congrArg (·.1) hslot
  have hattachment : n'.attachment = n.attachment := congrArg (·.2.1) hslot
  have hreadIndex : n'.readIndex = n.readIndex := congrArg (·.2.2) hslot
  refine ⟨fun type hno => ?_, fun d' hd' hmark => ?_, fun type => ⟨fun i hi => ?_, fun hne hnone => ?_⟩⟩
  · rw [hattachment, hhanded]
    exact hserved.unread type (hid ▸ hno)
  · obtain ⟨p, hp⟩ := List.mem_iff_getElem?.mp hd'
    obtain ⟨d, hd, -, hseq, hflag⟩ := hitems p d' hp
    rw [hreadIndex, hflag] at hmark
    rw [hattachment, hseq]
    exact (hserved.marked d (List.mem_of_getElem? hd) hmark).step hs
  · rw [hindex] at hi
    have hbehind := (hserved.ordered type).behind i hi
    rw [hattachment, hreadIndex, hhanded]
    refine (hbehind.imp fun q hpass => hpass.step hs).change fun p e' he' => ?_
    obtain ⟨e, he, hmedia, hseq, hflag⟩ := hitems p e' he'
    exact ⟨e, he, hseq, by rw [hmedia]; exact id, by rw [hflag]; exact id⟩
  · rw [hattachment, hhanded] at hne
    rw [hindex] at hnone
    exact hdormant type ((hserved.ordered type).dormant hne hnone)

section Read

variable {receiverId i : Nat} {type : MediaType} {d : DataSpec}

theorem increasing_items (hnum : Numbered h) :
    (h.dispatcher.circularBuffer.items.map (·.seq)).Pairwise (· < ·) := by
  rw [List.pairwise_map, List.pairwise_iff_getElem]
  intro i j hi hj hij
  exact (hnum.increasing.lt_iff (List.getElem?_eq_getElem hi) (List.getElem?_eq_getElem hj)).mpr hij

theorem handedTo_read (hstep : h.step (.readBufferData receiverId type) = .ok h')
    (hfind : h.dispatcher.findNotifier receiverId = some n) (attachment : Nat) (T : MediaType) :
    h'.handedTo attachment T = h.handedTo attachment T ++
      if attachment = n.attachment ∧ T = type then
        (h.dispatcher.readBufferData receiverId type).1.toList
      else [] := by
  rw [handedTo_step hstep, handedBy_read hfind rfl]
  congr 1
  cases (h.dispatcher.readBufferData receiverId type).1 with
  | none => simp
  | some d =>
    by_cases hmine : attachment = n.attachment ∧ T = type
    · simp [hmine]
    · have hother : ¬ (n.attachment = attachment ∧ type = T) := fun heq => hmine ⟨heq.1.symm, heq.2.symm⟩
      simp [hmine, hother]

theorem flag_eq_isDataReaded (hs : h.dispatcher.Slots)
    (hfind : h.dispatcher.findNotifier receiverId = some n) (d : DataSpec) :
    h.dispatcher.isDataReaded receiverId d = d.reserveFlag.getLsbD n.readIndex := by
  obtain ⟨hn, hid⟩ := mem_of_find hfind
  rw [isDataReaded, ← hid, hs.findIndex hn]

theorem hasPassed_of_handed (hstep : h.step (.readBufferData receiverId type) = .ok h')
    (hreads : h.dispatcher.Reads receiverId type n i d)
    (hout : (h.dispatcher.readBufferData receiverId type).1.isSome) : h'.HasPassed n.attachment d.seq := by
  obtain ⟨out, hout⟩ := Option.isSome_iff_exists.mp hout
  refine (hasPassed_step hstep _ _).mpr (Or.inr (Or.inl ⟨⟨receiverId, n.attachment, type, d⟩, ?_, rfl, rfl⟩))
  rw [handedBy_read hreads.found hout, hreads.out_eq hout]
  exact List.mem_singleton_self _

/-- In key mode a read of video passes what lies between the two indexes. -/
theorem hasPassed_of_keyMode (hs : h.dispatcher.Slots) (hord : h.dispatcher.InOrder)
    (hstep : h.step (.readBufferData receiverId type) = .ok h')
    (hreads : h.dispatcher.Reads receiverId type n i d)
    (hmode : h.dispatcher.keyMode n = true ∧ type = .video) {p : Nat} {e : DataSpec}
    (he : h.dispatcher.circularBuffer.items[p]? = some e) (hip : i ≤ p)
    (hp : p < h.dispatcher.findNextIndex i type (h.dispatcher.keyMode n)) :
    h'.HasPassed n.attachment e.seq := by
  obtain ⟨hn, -⟩ := mem_of_find hreads.found
  have hpassings := mem_passings_read hs hord hreads.toReadsAt hn he hreads.still.frames
    (findNotifier_read hs hreads.found hreads.notifiers)
  refine (hasPassed_step hstep _ _).mpr (Or.inr (Or.inr ?_))
  rw [dispatcher_of_step hstep rfl, hpassings]
  exact ⟨rfl, hmode.1, hmode.2, hip, hp⟩

/-- A read moves its index over frames that its receiver has passed then. -/
theorem hasPassed_over (hserved : Served mixed h n) (hs : h.dispatcher.Slots)
    (hord : h.dispatcher.InOrder) (hstep : h.step (.readBufferData receiverId type) = .ok h')
    (hreads : h.dispatcher.Reads receiverId type n i d) {p : Nat} {e : DataSpec}
    (he : h.dispatcher.circularBuffer.items[p]? = some e) (hcovers : type.covers e.mediaData = true)
    (hip : i ≤ p) (hp : p < h.dispatcher.findNextIndex i type (h.dispatcher.keyMode n)) :
    h'.HasPassed n.attachment e.seq := by
  by_cases hmode : h.dispatcher.keyMode n = true ∧ type = .video
  · exact hasPassed_of_keyMode hs hord hstep hreads hmode he hip hp
  rcases Nat.lt_or_eq_of_le hip with hlt | rfl
  · exfalso
    rcases findNextIndex_cases h.dispatcher i type (h.dispatcher.keyMode n) with
      ⟨hsame, -⟩ | ⟨-, hnext, _, -, hwanted⟩
    · omega
    · by_cases hav : type = .av
      · have hone := hnext hav
        omega
      · have hnot := (hwanted hav).2 p e hlt hp he
        rw [covers_of_ne_av hav] at hcovers
        have hoff : (h.dispatcher.keyMode n && decide (type = .video)) = false := by
          simpa using hmode
        simp [wanted, hcovers, hoff] at hnot
  · cases hreads.data.symm.trans he
    rcases hreads.out with ⟨-, hover | hread⟩ | ⟨hout, -⟩
    · exact absurd ⟨hover.1, hover.2.1⟩ hmode
    · rw [flag_eq_isDataReaded hs hreads.found] at hread
      exact (hserved.marked d (List.mem_of_getElem? he) hread).step hstep
    · exact hasPassed_of_handed hstep hreads (by rw [hout]; rfl)

/-- What a read marks its receiver has passed then. -/
theorem Served.marked_read (hserved : Served mixed h n) (hs : h.dispatcher.Slots)
    (hord : h.dispatcher.InOrder) (hstep : h.step (.readBufferData receiverId type) = .ok h')
    (hreads : h.dispatcher.Reads receiverId type n i d) {d' : DataSpec}
    (hd' : d' ∈ h'.dispatcher.circularBuffer.items)
    (hmark : d'.reserveFlag.getLsbD n.readIndex = true) : h'.HasPassed n.attachment d'.seq := by
  obtain ⟨hn, -⟩ := mem_of_find hreads.found
  obtain ⟨p, hp⟩ := List.mem_iff_getElem?.mp hd'
  rw [dispatcher_of_step hstep rfl] at hp
  obtain ⟨e, he, -, hseq, hflag⟩ := hreads.marks.2 p d' hp
  rw [hflag n.readIndex (hs.lt n hn)] at hmark
  rw [hseq]
  rcases hmark with hmark | ⟨-, ⟨hout, rfl⟩ | ⟨hmode, hvideo, hip, hnext⟩⟩
  · exact (hserved.marked e (List.mem_of_getElem? he) hmark).step hstep
  · cases hreads.data.symm.trans he
    exact hasPassed_of_handed hstep hreads hout
  · exact hasPassed_of_keyMode hs hord hstep hreads ⟨hmode, hvideo⟩ he (Nat.le_of_lt hip) hnext

theorem getReceiverReadIndex_setReadIndexes (n : DataNotifier) (j : Nat) (type : MediaType) :
    (n.setReadIndexes (some j) type).getReceiverReadIndex type = some j := by
  cases type <;> simp [DataNotifier.setReadIndexes, DataNotifier.getReceiverReadIndex]

theorem getReceiverReadIndex_of_other (n : DataNotifier) (j : Nat) {T : MediaType} (hne : T ≠ type)
    (hav : T = .av ↔ type = .av) :
    (n.setReadIndexes (some j) type).getReceiverReadIndex T = n.getReceiverReadIndex T := by
  cases type <;> cases T <;> simp_all [DataNotifier.setReadIndexes, DataNotifier.getReceiverReadIndex]

theorem findNextIndex_ge (s : BufferDispatcher) (i : Nat) (type : MediaType) (keyMode : Bool) :
    i ≤ s.findNextIndex i type keyMode := by
  rcases findNextIndex_cases s i type keyMode with ⟨hsame, -⟩ | ⟨hlt, -⟩
  · exact Nat.le_of_eq hsame.symm
  · exact Nat.le_of_lt hlt

/-- The reads of its own type: the frame at the index is handed over, and the index moves on. -/
theorem Ordered.read (hserved : Served mixed h n) (hs : h.dispatcher.Slots) (hnum : Numbered h)
    (hnum' : Numbered h') (hstep : h.step (.readBufferData receiverId type) = .ok h')
    (hreads : h.dispatcher.Reads receiverId type n i d) :
    Ordered h' (n.setReadIndexes
      (some (h.dispatcher.findNextIndex i type (h.dispatcher.keyMode n))) type) type := by
  obtain ⟨hn, hid⟩ := mem_of_find hreads.found
  have hdisp := dispatcher_of_step hstep rfl
  have hmarks := hreads.marks
  rw [← hdisp] at hmarks
  refine ⟨fun j hj => ?_, fun _ hnone => ?_⟩
  · rw [getReceiverReadIndex_setReadIndexes] at hj
    cases hj
    have hslot := slot_setReadIndexes n
      (some (h.dispatcher.findNextIndex i type (h.dispatcher.keyMode n))) type
    rw [show (n.setReadIndexes _ type).attachment = n.attachment from congrArg (·.2.1) hslot,
      show (n.setReadIndexes _ type).readIndex = n.readIndex from congrArg (·.2.2) hslot]
    have hinc' := increasing_items hnum'
    have hkept : ReadsBehind (h.handedTo n.attachment type) (h'.HasPassed n.attachment) type n.readIndex
        h'.dispatcher.circularBuffer.items i := by
      refine (((hserved.ordered type).behind i hreads.index).imp
        fun q hpass => HasPassed.step hstep hpass).change fun p e' he' => ?_
      obtain ⟨e, he, hmedia, hseq, hflag⟩ := hmarks.2 p e' he'
      refine ⟨e, he, hseq, by rw [hmedia]; exact id, fun hmark => ?_⟩
      rw [hflag _ (hs.lt n hn)]
      exact Or.inl hmark
    refine Behind.advance ?_ hinc' (findNextIndex_ge _ _ _ _) fun p hip hp e' he' hcovers => ?_
    · rw [handedTo_read hstep hreads.found, if_pos ⟨rfl, rfl⟩]
      rcases hreads.out with ⟨hout, -⟩ | ⟨hout, -⟩
      · rw [hout]
        simpa using hkept
      · obtain ⟨d', hd', -, hseq, hflag⟩ := hmarks.get hreads.data
        have hmark : d'.reserveFlag.getLsbD n.readIndex = true := by
          rw [hflag _ (hs.lt n hn)]
          refine Or.inr ⟨?_, Or.inl ⟨by rw [hout]; rfl, rfl⟩⟩
          rw [← hid, hs.findIndex hn]
        have hhanded := hkept.hand hinc' hd' hmark
        rw [hout, Option.toList_some, List.map_append, List.map_singleton, ← hseq]
        exact hhanded
    · obtain ⟨e, he, hmedia, hseq, -⟩ := hmarks.2 p e' he'
      rw [hmedia] at hcovers
      rw [hseq]
      exact hasPassed_over hserved hs hnum.increasing hstep hreads he hcovers hip hp
  · rw [getReceiverReadIndex_setReadIndexes] at hnone
    cases hnone

/-- The reads of the other types, which are those of the other kind of single reads or none. -/
theorem Ordered.read_other (hserved : Served mixed h n) (hs : h.dispatcher.Slots)
    (hok : type = .av ↔ mixed receiverId = true)
    (hstep : h.step (.readBufferData receiverId type) = .ok h')
    (hreads : h.dispatcher.Reads receiverId type n i d) {T : MediaType} (hne : T ≠ type) :
    Ordered h' (n.setReadIndexes
      (some (h.dispatcher.findNextIndex i type (h.dispatcher.keyMode n))) type) T := by
  obtain ⟨hn, hid⟩ := mem_of_find hreads.found
  have hslot := slot_setReadIndexes n
    (some (h.dispatcher.findNextIndex i type (h.dispatcher.keyMode n))) type
  have hattachment : (n.setReadIndexes (some (h.dispatcher.findNextIndex i type
      (h.dispatcher.keyMode n))) type).attachment = n.attachment := congrArg (·.2.1) hslot
  have hreadIndex : (n.setReadIndexes (some (h.dispatcher.findNextIndex i type
      (h.dispatcher.keyMode n))) type).readIndex = n.readIndex := congrArg (·.2.2) hslot
  have hhanded : h'.handedTo n.attachment T = h.handedTo n.attachment T := by
    rw [handedTo_read hstep hreads.found, if_neg fun hmine => hne hmine.2, List.append_nil]
  by_cases hown : T = .av ↔ mixed n.receiverId = true
  · rw [← hid] at hok
    have hindex := getReceiverReadIndex_of_other n
      (h.dispatcher.findNextIndex i type (h.dispatcher.keyMode n)) hne (hown.trans hok.symm)
    have hdisp := dispatcher_of_step hstep rfl
    have hmarks := hreads.marks
    rw [← hdisp] at hmarks
    refine ⟨fun j hj => ?_, fun hneeds hnone => ?_⟩
    · rw [hindex] at hj
      rw [hattachment, hreadIndex, hhanded]
      refine (((hserved.ordered T).behind j hj).imp fun q hpass => HasPassed.step hstep hpass).change
        fun p e' he' => ?_
      obtain ⟨e, he, hmedia, hseq, hflag⟩ := hmarks.2 p e' he'
      refine ⟨e, he, hseq, by rw [hmedia]; exact id, fun hmark => ?_⟩
      rw [hflag _ (hs.lt n hn)]
      exact Or.inl hmark
    · rw [hattachment, hhanded] at hneeds
      rw [hindex] at hnone
      rw [hdisp]
      exact ((hserved.ordered T).dormant hneeds hnone).of_still hreads.still
  · apply Ordered.of_unread
    rw [hattachment, hhanded]
    exact hserved.unread T hown

theorem Served.read (hserved : Served mixed h n) (hs : h.dispatcher.Slots) (hnum : Numbered h)
    (hnum' : Numbered h') (hok : type = .av ↔ mixed receiverId = true)
    (hstep : h.step (.readBufferData receiverId type) = .ok h')
    (hreads : h.dispatcher.Reads receiverId type n i d) :
    Served mixed h' (n.setReadIndexes
      (some (h.dispatcher.findNextIndex i type (h.dispatcher.keyMode n))) type) := by
  obtain ⟨-, hid⟩ := mem_of_find hreads.found
  have hslot := slot_setReadIndexes n
    (some (h.dispatcher.findNextIndex i type (h.dispatcher.keyMode n))) type
  refine ⟨fun T hno => ?_, fun d' hd' hmark => ?_, fun T => ?_⟩
  · rw [show (n.setReadIndexes _ type).receiverId = n.receiverId from congrArg (·.1) hslot] at hno
    rw [show (n.setReadIndexes _ type).attachment = n.attachment from congrArg (·.2.1) hslot,
      handedTo_read hstep hreads.found, hserved.unread T hno, if_neg, List.append_nil]
    rintro ⟨-, rfl⟩
    exact hno (hid ▸ hok)
  · rw [show (n.setReadIndexes _ type).readIndex = n.readIndex from congrArg (·.2.2) hslot] at hmark
    rw [show (n.setReadIndexes _ type).attachment = n.attachment from congrArg (·.2.1) hslot]
    exact hserved.marked_read hs hnum.increasing hstep hreads hd' hmark
  · by_cases hT : T = type
    · subst hT
      exact Ordered.read hserved hs hnum hnum' hstep hreads
    · exact Ordered.read_other hserved hs hok hstep hreads hT

/-- The other receivers do not notice. -/
theorem Served.read_other (hserved : Served mixed h n') (hs : h.dispatcher.Slots)
    (hn' : n' ∈ h.dispatcher.notifiers) (hne : n'.receiverId ≠ receiverId)
    (hstep : h.step (.readBufferData receiverId type) = .ok h')
    (hreads : h.dispatcher.Reads receiverId type n i d) : Served mixed h' n' := by
  obtain ⟨hn, hid⟩ := mem_of_find hreads.found
  have hdisp := dispatcher_of_step hstep rfl
  have hmarks := hreads.marks
  rw [← hdisp] at hmarks
  refine hserved.carry hstep rfl (fun _ => rfl) (fun p e' he' => ?_) (fun T => ?_) (fun T hdormant => ?_)
  · obtain ⟨e, he, hmedia, hseq, hflag⟩ := hmarks.2 p e' he'
    refine ⟨e, he, hmedia, hseq, Bool.eq_iff_iff.mpr ?_⟩
    rw [hflag _ (hs.lt n' hn')]
    refine or_iff_left ?_
    rintro ⟨hslot, -⟩
    rw [← hid, hs.findIndex hn, Option.some_inj] at hslot
    exact hne (hs.eq_of_index hn hn' hslot ▸ hid)
  · rw [handedTo_read hstep hreads.found, if_neg, List.append_nil]
    rintro ⟨hattachment, -⟩
    exact hne (hs.eq_of_attachment hn' hn hattachment ▸ hid)
  · rw [hdisp]
    exact hdormant.of_still hreads.still

end Read

end History

end WifiDisplay
