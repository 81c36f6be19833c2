import WifiDisplay.RtspFields
import WifiDisplay.WfdMessages

/-! The ports in a transport field. -/

namespace WifiDisplay

open TextSplit

theorem breakOn_key_none {k a b : Text} (hk : '=' ∉ k) (ha : '=' ∉ a) (hb : '=' ∉ b)
    (hne : ¬ k <:+ a) : breakOn (k ++ ['=']) (a ++ '=' :: b) = none := by
  cases hs : breakOn (k ++ ['=']) (a ++ '=' :: b) with
  | none => rfl
  | some q =>
    obtain ⟨p, r⟩ := q
    have heq : a ++ '=' :: b = (p ++ k) ++ '=' :: r := by simpa using breakOn_eq_some hs
    have hcount := congrArg (List.count '=') heq
    simp only [List.count_append, List.count_cons_self, List.count_eq_zero_of_not_mem ha,
      List.count_eq_zero_of_not_mem hb, List.count_eq_zero_of_not_mem hk] at hcount
    have hp : '=' ∉ p := List.count_eq_zero.mp (by omega)
    have hpk : '=' ∉ p ++ k := by simp [hp, hk]
    have hidx := congrArg (List.idxOf '=') heq
    rw [List.idxOf_append_of_notMem ha, List.idxOf_append_of_notMem hpk, List.idxOf_cons_self,
      List.idxOf_cons_self] at hidx
    have hprefix := (List.append_inj heq (by omega)).1
    exact absurd ⟨p, hprefix.symm⟩ hne

theorem breakOn_key_isSome {key : Text} (hne : key ≠ []) (s : Text) :
    (breakOn key (key ++ s)).isSome := by
  rw [breakOn_delimiter hne]
  rfl

theorem drop_key {k s : Text} (hk : '=' ∉ k) :
    (k ++ '=' :: s).drop ((k ++ '=' :: s).idxOf '=' + 1) = s := by
  rw [List.idxOf_append_of_notMem hk, List.idxOf_cons_self, Nat.add_zero, ← List.drop_drop,
    List.drop_left]
  rfl

def clientPortKey : Text := "client_port".toList
def serverPortKey : Text := "server_port".toList

/-- An item of a transport. -/
def item (key value : Text) : Text := key ++ '=' :: value

theorem item_other {key key' value : Text} (hk : '=' ∉ key) (hk' : '=' ∉ key') (hv : '=' ∉ value)
    (hne : ¬ key <:+ key') : (breakOn (key ++ ['=']) (item key' value)).isSome = false := by
  rw [item, breakOn_key_none hk hk' hv hne]
  rfl

theorem item_own (key value : Text) : (breakOn (key ++ ['=']) (item key value)).isSome := by
  have h : (breakOn (key ++ ['=']) (key ++ ['='] ++ value)).isSome :=
    breakOn_key_isSome (by simp) value
  rwa [List.append_assoc] at h

theorem not_mem_decimal_equals (n : Int) : '=' ∉ decimal n := not_mem_decimal (by decide) (by decide) n

theorem item_ne_nil (key value : Text) : item key value ≠ [] := by simp [item]

theorem item_no_semicolon {key value : Text} (hk : ';' ∉ key) (hv : ';' ∉ value) :
    ';' ∉ item key value := by simp [item, hk, hv]

theorem key_append (key value : Text) : (key ++ ['=']) ++ value = item key value := by
  rw [item, List.append_assoc, List.singleton_append]

/-- What is read behind the `=` of the first item with the key. -/
def portAmong (read : Text → Int) (key : Text) (items : List Text) : Int :=
  match items.find? fun i => (breakOn key i).isSome with
  | some i => read (i.drop (i.idxOf '=' + 1))
  | none => 0

/-- The number behind the dash of a range, whose first letter can be a sign. -/
def upperOf (value : Text) : Int := atoi (((value.drop 1).dropWhile (· ≠ '-')).drop 1)

/-- The upper end of a range of the transport, in the item in which `transportPort` finds the
lower one. -/
def transportUpper (r : RtspResponseObject) (key : Text) : Int :=
  portAmong upperOf key (RtspCommon.split (r.getToken rtspTokenTransport) [';'])

theorem split_items {items : List Text} (hne : ended [';'] items ≠ [])
    (hitems : ∀ i ∈ items, ';' ∉ i) : RtspCommon.split (ended [';'] items) [';'] = items := by
  apply split_ended (d := []) _ hitems
  rintro rfl
  exact hne rfl

theorem transportPorts_items {r : RtspResponseObject} {items : List Text} (key : Text)
    (htoken : r.tokens.find? rtspTokenTransport = some (ended [';'] items))
    (hne : ended [';'] items ≠ []) (hitems : ∀ i ∈ items, ';' ∉ i) :
    transportPort r (key ++ ['=']) = portAmong atoi (key ++ ['=']) items ∧
      transportUpper r (key ++ ['=']) = portAmong upperOf (key ++ ['=']) items := by
  have hget : r.getToken rtspTokenTransport = ended [';'] items := by
    rw [RtspResponseObject.getToken, htoken, Option.getD_some]
  simp only [transportPort, transportUpper, hget, if_neg hne, split_items hne hitems]
  exact ⟨rfl, trivial⟩

theorem transportPort_joined {r : RtspResponseObject} {items : List Text} (key : Text)
    (htoken : r.tokens.find? rtspTokenTransport = some (join [';'] items)) (hne : items ≠ [])
    (hitems : ∀ i ∈ items, ';' ∉ i ∧ i ≠ []) :
    transportPort r (key ++ ['=']) = portAmong atoi (key ++ ['=']) items := by
  have hsplit : RtspCommon.split (join [';'] items) [';'] = items := by
    apply split_join (d := []) hne fun i hi => (hitems i hi).1
    intro hlast
    exact (hitems [] (List.mem_of_getLast? hlast)).2 rfl
  have hjoin : join [';'] items ≠ [] := by
    obtain ⟨i, items, rfl⟩ := List.exists_cons_of_ne_nil hne
    have hi := (hitems i (by simp)).2
    cases items with
    | nil => simpa using hi
    | cons j items => simp [join_cons_cons]
  have hget : r.getToken rtspTokenTransport = join [';'] items := by
    rw [RtspResponseObject.getToken, htoken, Option.getD_some]
  simp only [transportPort, hget, if_neg hjoin, hsplit]
  rfl

theorem atoi_item {key : Text} (hk : '=' ∉ key) {n : Int} (hlow : -2 ^ 31 ≤ n) (hhigh : n < 2 ^ 31)
    {t : Text} (ht : ∀ c, t.head? = some c → c.isDigit = false) :
    atoi ((item key (decimal n ++ t)).drop ((item key (decimal n ++ t)).idxOf '=' + 1)) = n := by
  rw [item, drop_key hk, atoi_decimal_append hlow hhigh ht]

theorem decimal_drop_no_dash (n : Int) : '-' ∉ (decimal n).drop 1 := by
  have hdigits (m : Nat) : '-' ∉ Nat.toDigits 10 m := fun h => by
    have hdigit := toDigits_isDigit h
    exact absurd hdigit (by decide)
  rw [decimal]
  split
  · exact hdigits _
  · exact fun h => hdigits _ (List.mem_of_mem_drop h)

theorem upperOf_range {lower upper : Int} (hlow : -2 ^ 31 ≤ upper) (hhigh : upper < 2 ^ 31) :
    upperOf (decimal lower ++ '-' :: decimal upper) = upper := by
  have hdash := decimal_drop_no_dash lower
  have hskip : (((decimal lower).drop 1 ++ '-' :: decimal upper).dropWhile (· ≠ '-')) =
      '-' :: decimal upper := by
    rw [List.dropWhile_append_of_pos fun c hc => by
      have hne : c ≠ '-' := fun h => hdash (h ▸ hc)
      simpa using hne]
    exact List.dropWhile_cons_of_neg (by simp)
  have hdrop : (decimal lower ++ '-' :: decimal upper).drop 1 =
      (decimal lower).drop 1 ++ '-' :: decimal upper :=
    List.drop_append_of_le_length (List.length_pos_iff.mpr (decimal_ne_nil lower))
  rw [upperOf, hdrop, hskip, List.drop_one, List.tail_cons, atoi_decimal hlow hhigh]

/-- The upper end that is printed for a range: the next port where none above the lower end is
given. -/
def upperEnd (range : Int × Int) : Int :=
  if range.2 > range.1 then range.2 else int32 (range.1 + 1)

theorem upperEnd_bounds {range : Int × Int} (h : -2 ^ 31 ≤ range.2 ∧ range.2 < 2 ^ 31) :
    -2 ^ 31 ≤ upperEnd range ∧ upperEnd range < 2 ^ 31 := by
  rw [upperEnd]
  split
  · exact h
  · exact ⟨BitVec.le_toInt _, BitVec.toInt_lt⟩

/-- With another upper end `kept` in the place of the range's own the same one is printed. -/
def UpperKept (range : Int × Int) (kept : Int) : Prop :=
  if range.2 > range.1 then kept = range.2 ∨ kept ≤ range.1 ∧ range.2 = range.1 + 1
  else kept ≤ range.1 + 1

theorem upperEnd_kept {lower upper kept : Int} (hl : -2 ^ 31 ≤ lower) (hu : upper < 2 ^ 31)
    (hk : kept < 2 ^ 31) : upperEnd (lower, kept) = upperEnd (lower, upper) ↔
      UpperKept (lower, upper) kept := by
  simp only [upperEnd, UpperKept]
  by_cases hupper : upper > lower
  · rw [if_pos hupper, if_pos hupper]
    by_cases hkept : kept > lower
    · rw [if_pos hkept]
      omega
    · rw [if_neg hkept, int32_of_bounds (by omega) (by omega)]
      omega
  · rw [if_neg hupper, if_neg hupper]
    by_cases hkept : kept > lower
    · rw [if_pos hkept, int32_of_bounds (by omega) (by omega)]
      omega
    · rw [if_neg hkept]
      exact ⟨fun _ => by omega, fun _ => rfl⟩

/-- The transport of the M6 response as items. -/
def m6Items (clientPort serverPort : Int) : List Text :=
  ["RTP/AVP/UDP".toList, "unicast".toList, item clientPortKey (decimal clientPort),
    item serverPortKey (decimal serverPort)]

theorem m6Items_join (clientPort serverPort : Int) :
    "RTP/AVP/UDP;unicast;client_port=".toList ++ decimal clientPort ++ ";server_port=".toList ++
        decimal serverPort = join [';'] (m6Items clientPort serverPort) := by
  rw [m6Items, join_cons_cons, join_cons_cons, join_cons_cons, join_singleton, item, item]
  simp only [List.append_assoc]
  rfl

theorem m6Items_read {r : RtspResponseObject} {clientPort serverPort : Int}
    (htoken : r.tokens.find? rtspTokenTransport = some (join [';'] (m6Items clientPort serverPort)))
    (hc : -2 ^ 31 ≤ clientPort ∧ clientPort < 2 ^ 31)
    (hs : -2 ^ 31 ≤ serverPort ∧ serverPort < 2 ^ 31) :
    r.getClientPort = clientPort ∧ r.getServerPort = serverPort := by
  have hsemi (n : Int) : ';' ∉ decimal n := not_mem_decimal (by decide) (by decide) n
  have hitems : ∀ i ∈ m6Items clientPort serverPort, ';' ∉ i ∧ i ≠ [] := by
    intro i hi
    simp only [m6Items, List.mem_cons, List.not_mem_nil, or_false] at hi
    rcases hi with rfl | rfl | rfl | rfl
    · decide
    · decide
    · exact ⟨item_no_semicolon (by decide) (hsemi _), item_ne_nil _ _⟩
    · exact ⟨item_no_semicolon (by decide) (hsemi _), item_ne_nil _ _⟩
  have hclient := item_own clientPortKey (decimal clientPort)
  have hserver := item_own serverPortKey (decimal serverPort)
  have hother : (breakOn (serverPortKey ++ ['=']) (item clientPortKey (decimal clientPort))).isSome =
      false :=
    item_other (by decide) (by decide) (not_mem_decimal_equals _) (by decide)
  have hprofile (key : Text) (hkey : key = clientPortKey ∨ key = serverPortKey) :
      (breakOn (key ++ ['=']) "RTP/AVP/UDP".toList).isSome = false ∧
        (breakOn (key ++ ['=']) "unicast".toList).isSome = false := by
    rcases hkey with rfl | rfl <;> decide
  have hnone : ∀ c, ([] : Text).head? = some c → c.isDigit = false := by simp
  constructor
  · have hport := transportPort_joined clientPortKey htoken (by simp [m6Items]) hitems
    rw [portAmong, m6Items, List.find?_cons_of_neg, List.find?_cons_of_neg,
      List.find?_cons_of_pos (by exact hclient)] at hport
    · have hkey : '=' ∉ clientPortKey := by decide
      have hread := atoi_item hkey hc.1 hc.2 hnone
      rw [List.append_nil] at hread
      exact hport.trans hread
    · simpa using (hprofile clientPortKey (Or.inl rfl)).2
    · simpa using (hprofile clientPortKey (Or.inl rfl)).1
  · have hport := transportPort_joined serverPortKey htoken (by simp [m6Items]) hitems
    rw [portAmong, m6Items, List.find?_cons_of_neg, List.find?_cons_of_neg, List.find?_cons_of_neg,
      List.find?_cons_of_pos (by exact hserver)] at hport
    · have hkey : '=' ∉ serverPortKey := by decide
      have hread := atoi_item hkey hs.1 hs.2 hnone
      rw [List.append_nil] at hread
      exact hport.trans hread
    · simpa using hother
    · simpa using (hprofile serverPortKey (Or.inr rfl)).2
    · simpa using (hprofile serverPortKey (Or.inr rfl)).1

namespace RtspResponseSetup

variable (r : RtspResponseSetup)

def rangeItems (key : Text) (minPort maxPort : Int) : List Text :=
  if minPort ≠ 0 then [item key (decimal minPort ++ '-' :: decimal (upperEnd (minPort, maxPort)))]
  else []

def addressItems : List Text :=
  ["RTP/AVP".toList, "unicast".toList] ++
    (if r.destination ≠ [] then [item "destination".toList r.destination] else []) ++
    (if r.source ≠ [] then [item "source".toList r.source] else [])

def items : List Text :=
  r.addressItems ++ rangeItems clientPortKey r.minClientPort r.maxClientPort ++
    rangeItems serverPortKey r.minServerPort r.maxServerPort

theorem portRange_eq (key : Text) (minPort maxPort : Int) :
    portRange (key ++ ['=']) minPort maxPort = ended [';'] (rangeItems key minPort maxPort) := by
  rw [portRange, rangeItems]
  split
  · simp [item, upperEnd]
  · rfl

theorem transport_eq : r.transport = ended [';'] r.items := by
  have haddress : ended [';'] r.addressItems = "RTP/AVP;unicast;".toList ++
      (if r.destination ≠ [] then "destination=".toList ++ r.destination ++ [';'] else []) ++
      (if r.source ≠ [] then "source=".toList ++ r.source ++ [';'] else []) := by
    have hd : "destination=".toList ++ r.destination = item "destination".toList r.destination :=
      key_append "destination".toList r.destination
    have hs : "source=".toList ++ r.source = item "source".toList r.source :=
      key_append "source".toList r.source
    rw [addressItems, ended_append, ended_append, hd, hs]
    congr 1
    · congr 1
      split
      · rw [ended_cons, ended_nil, List.append_nil]
      · rfl
    · split
      · rw [ended_cons, ended_nil, List.append_nil]
      · rfl
  rw [items, ended_append, ended_append, haddress, ← portRange_eq, ← portRange_eq]
  rfl

theorem transport_line {r : RtspResponseSetup} (hd : LineText r.destination)
    (hs : LineText r.source) : LineText r.transport := by
  have hsemi : LineText [';'] := by decide
  have hrange (key : Text) (hk : LineText key) (minPort maxPort : Int) :
      LineText (portRange key minPort maxPort) := by
    rw [portRange]
    split
    · have hdash : LineText ['-'] := by decide
      have hmax := lineText_decimal (if maxPort > minPort then maxPort else int32 (minPort + 1))
      exact ((hk.append (lineText_decimal _)).append (hdash.append hmax)).append hsemi
    · decide
  have haddress (key value : Text) (hk : LineText key) (hv : LineText value) :
      LineText (if value ≠ [] then key ++ value ++ [';'] else []) := by
    split
    · exact (hk.append hv).append hsemi
    · decide
  have hstart : LineText "RTP/AVP;unicast;".toList := by decide
  exact (((hstart.append (haddress _ _ (by decide) hd)).append (haddress _ _ (by decide) hs)).append
    (hrange _ (by decide) _ _)).append (hrange _ (by decide) _ _)

theorem transport_ne_nil : r.transport ≠ [] := by
  rw [transport_eq, Ne, ended_eq_nil (by simp)]
  exact List.cons_ne_nil _ _

theorem transport_trimmed : Trimmed r.transport := by
  have hitems : r.items = "RTP/AVP".toList :: r.items.tail := rfl
  constructor
  · rw [transport_eq, hitems, ended_cons, List.append_assoc,
      List.head?_append_of_ne_nil _ (by decide)]
    decide
  · rw [transport_eq, hitems, ← join_append_delimiter (List.cons_ne_nil _ _),
      List.getLast?_append_of_ne_nil _ (by decide)]
    decide

theorem not_mem_range {c : Char} (hc : c ≠ '-') (hd : c.isDigit = false) (n m : Int) :
    c ∉ decimal n ++ '-' :: decimal m := by
  simp [not_mem_decimal hc hd, hc]

variable {r} (hd : ';' ∉ r.destination ∧ '=' ∉ r.destination) (hs : ';' ∉ r.source ∧ '=' ∉ r.source)
include hd hs

theorem items_no_semicolon : ∀ i ∈ r.items, ';' ∉ i := by
  have hrange (key : Text) (hk : ';' ∉ key) (minPort maxPort : Int) :
      ∀ i ∈ rangeItems key minPort maxPort, ';' ∉ i := by
    intro i hi
    rw [rangeItems] at hi
    split at hi
    · rw [List.mem_singleton] at hi
      rw [hi]
      exact item_no_semicolon hk (not_mem_range (by decide) (by decide) _ _)
    · cases hi
  intro i hi
  simp only [items, addressItems, List.mem_append] at hi
  rcases hi with (((hi | hi) | hi) | hi) | hi
  · have hfixed : ∀ i ∈ ["RTP/AVP".toList, "unicast".toList], ';' ∉ i := by decide
    exact hfixed i hi
  · split at hi
    · rw [List.mem_singleton.mp hi]
      exact item_no_semicolon (by decide) hd.1
    · cases hi
  · split at hi
    · rw [List.mem_singleton.mp hi]
      exact item_no_semicolon (by decide) hs.1
    · cases hi
  · exact hrange _ (by decide) _ _ i hi
  · exact hrange _ (by decide) _ _ i hi

theorem addressItems_other {key : Text} (hk : '=' ∉ key)
    (hne : ∀ i ∈ ["RTP/AVP".toList, "unicast".toList], (breakOn (key ++ ['=']) i).isSome = false)
    (hdest : ¬ key <:+ "destination".toList) (hsource : ¬ key <:+ "source".toList) :
    r.addressItems.find? (fun i => (breakOn (key ++ ['=']) i).isSome) = none := by
  rw [List.find?_eq_none]
  intro i hi
  rw [Bool.not_eq_true]
  simp only [addressItems, List.mem_append] at hi
  rcases hi with (hi | hi) | hi
  · exact hne i hi
  · split at hi
    · rw [List.mem_singleton.mp hi]
      exact item_other hk (by decide) hd.2 hdest
    · cases hi
  · split at hi
    · rw [List.mem_singleton.mp hi]
      exact item_other hk (by decide) hs.2 hsource
    · cases hi

omit hd hs in
theorem rangeItems_read (read : Text → Int) {key : Text} (hk : '=' ∉ key) (minPort maxPort : Int)
    {rest : List Text} (hrest : rest.find? (fun i => (breakOn (key ++ ['=']) i).isSome) = none) :
    portAmong read (key ++ ['=']) (rangeItems key minPort maxPort ++ rest) =
      if minPort = 0 then 0
      else read (decimal minPort ++ '-' :: decimal (upperEnd (minPort, maxPort))) := by
  by_cases hzero : minPort = 0
  · rw [portAmong, rangeItems, if_neg (not_not.mpr hzero), List.nil_append, hrest, if_pos hzero]
  · rw [portAmong, rangeItems, if_pos hzero, List.singleton_append,
      List.find?_cons_of_pos (by exact item_own key _), if_neg hzero]
    simp only [item, drop_key hk]

omit hd hs in
theorem rangeItems_other {key key' : Text} (hk : '=' ∉ key) (hk' : '=' ∉ key') (hne : ¬ key <:+ key')
    (minPort maxPort : Int) :
    (rangeItems key' minPort maxPort).find? (fun i => (breakOn (key ++ ['=']) i).isSome) = none := by
  rw [rangeItems]
  split
  · rw [List.find?_cons_of_neg, List.find?_nil]
    rw [item_other hk hk' (not_mem_range (by decide) (by decide) _ _) hne]
    simp
  · rfl

/-- Both readers look for the items of a range alone: the addresses and the other range have other
keys. -/
theorem items_read (read : Text → Int) :
    portAmong read (clientPortKey ++ ['=']) r.items =
        portAmong read (clientPortKey ++ ['='])
          (rangeItems clientPortKey r.minClientPort r.maxClientPort ++
            rangeItems serverPortKey r.minServerPort r.maxServerPort) ∧
      portAmong read (serverPortKey ++ ['=']) r.items =
        portAmong read (serverPortKey ++ ['='])
          (rangeItems serverPortKey r.minServerPort r.maxServerPort ++ []) := by
  constructor
  · rw [portAmong, items, List.append_assoc, List.find?_append,
      addressItems_other hd hs (by decide) (by decide) (by decide) (by decide), Option.none_or]
    rfl
  · rw [portAmong, items, List.append_assoc, List.find?_append,
      addressItems_other hd hs (by decide) (by decide) (by decide) (by decide), Option.none_or,
      List.find?_append, rangeItems_other (by decide) (by decide) (by decide) _ _, Option.none_or,
      List.append_nil]
    rfl

/-- The lower ends of both ranges are read as they were set, the upper ones as they are printed. -/
theorem transport_read {o : RtspResponseObject}
    (htoken : o.tokens.find? rtspTokenTransport = some r.transport)
    (hc : -2 ^ 31 ≤ r.minClientPort ∧ r.minClientPort < 2 ^ 31)
    (hp : -2 ^ 31 ≤ r.minServerPort ∧ r.minServerPort < 2 ^ 31)
    (hc' : -2 ^ 31 ≤ r.maxClientPort ∧ r.maxClientPort < 2 ^ 31)
    (hp' : -2 ^ 31 ≤ r.maxServerPort ∧ r.maxServerPort < 2 ^ 31) :
    (o.getClientPort = r.minClientPort ∧ o.getServerPort = r.minServerPort) ∧
      transportUpper o (clientPortKey ++ ['=']) =
        (if r.minClientPort = 0 then 0 else upperEnd (r.minClientPort, r.maxClientPort)) ∧
      transportUpper o (serverPortKey ++ ['=']) =
        (if r.minServerPort = 0 then 0 else upperEnd (r.minServerPort, r.maxServerPort)) := by
  have hne : ended [';'] r.items ≠ [] := by
    rw [← transport_eq]
    exact transport_ne_nil r
  have hlower {lower upper : Int} (h : -2 ^ 31 ≤ lower ∧ lower < 2 ^ 31) :
      (if lower = 0 then 0 else atoi (decimal lower ++ '-' :: decimal upper)) = lower := by
    split
    · rename_i hzero
      exact hzero.symm
    · exact atoi_decimal_append h.1 h.2 (by simp)
  have hupper {lower upper : Int} (h : -2 ^ 31 ≤ upper ∧ upper < 2 ^ 31) :
      upperOf (decimal lower ++ '-' :: decimal (upperEnd (lower, upper))) = upperEnd (lower, upper) :=
    upperOf_range (upperEnd_bounds h).1 (upperEnd_bounds h).2
  rw [transport_eq] at htoken
  have hclient := transportPorts_items clientPortKey htoken hne (items_no_semicolon hd hs)
  have hserver := transportPorts_items serverPortKey htoken hne (items_no_semicolon hd hs)
  have hother := @rangeItems_other clientPortKey serverPortKey (by decide) (by decide) (by decide)
    r.minServerPort r.maxServerPort
  rw [(items_read hd hs _).1, (items_read hd hs _).1, rangeItems_read _ (by decide) _ _ hother,
    rangeItems_read _ (by decide) _ _ hother, hlower hc, hupper hc'] at hclient
  rw [(items_read hd hs _).2, (items_read hd hs _).2, rangeItems_read _ (by decide) _ _ rfl,
    rangeItems_read _ (by decide) _ _ rfl, hlower hp, hupper hp'] at hserver
  exact ⟨⟨hclient.1, hserver.1⟩, hclient.2, hserver.2⟩

end RtspResponseSetup

end WifiDisplay
