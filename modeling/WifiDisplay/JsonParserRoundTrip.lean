import WifiDisplay.JsonParser

/-! What `JsonParser` loads of the documents that it saves, and of others. -/

namespace WifiDisplay

namespace JsonParser

open LastWrites

variable {root doc : Json} {value loaded d : SharingData} {module tag key : String}

/-! The loops of the reader. -/

theorem readModuleConfig_eq (modules : Json) (value : SharingData) :
    readModuleConfig value modules = insertAll readModule modules.members value := by
  cases modules <;> rfl

theorem getConfig_eq (root : Json) (value : SharingData) :
    getConfig root value = insertAll readModule (root.children.flatMap Json.members) value := by
  rw [getConfig]
  induction root.children generalizing value with
  | nil => rfl
  | cons modules rest ih =>
    rw [List.foldlM_cons, readModuleConfig_eq, List.flatMap_cons, insertAll_append]
    cases insertAll readModule modules.members value with
    | error fault => rfl
    | ok value' => exact ih value'

theorem readKey_ok {item : String × Json} {e} (h : readKey item = .ok e) :
    item.1 = "tag" ∧ e = none ∨
      ∃ data, item.1 ≠ "tag" ∧ readValue item.2 = .ok data ∧ e = some (item.1, data) := by
  rw [readKey] at h
  split at h
  · rename_i htag
    cases h
    exact .inl ⟨htag, rfl⟩
  · rename_i htag
    obtain ⟨data, hread, rfl⟩ := map_ok_iff.mp h
    exact .inr ⟨data, htag, hread, rfl⟩

theorem readTag_ok {item : Json} {e} (h : readTag item = .ok e) :
    tagOf item = none ∧ e = none ∨
      ∃ tag tagValue, tagOf item = some tag ∧ insertAll readKey item.members ∅ = .ok tagValue ∧
        e = some (tag, some tagValue) := by
  rw [readTag] at h
  rw [tagOf]
  cases htag : item.member "tag" with
  | error fault =>
    rw [htag] at h
    cases h
  | ok tag =>
    rw [htag] at h
    cases tag with
    | string tag =>
      obtain ⟨tagValue, hkeys, rfl⟩ := map_ok_iff.mp h
      exact .inr ⟨tag, tagValue, rfl, hkeys, rfl⟩
    | _ =>
      cases h
      exact .inl ⟨rfl, rfl⟩

theorem readModule_ok {item : String × Json} {e} (h : readModule item = .ok e) :
    ∃ moduleValue, insertAll readTag item.2.children ∅ = .ok moduleValue ∧
      e = some (item.1, some moduleValue) := by
  obtain ⟨moduleValue, htags, rfl⟩ := map_ok_iff.mp h
  exact ⟨moduleValue, htags, rfl⟩

theorem readKey_fst (item : String × Json) (e) (h : readKey item = .ok e) :
    e.map Prod.fst = keyOf item := by
  rw [keyOf]
  rcases readKey_ok h with ⟨htag, rfl⟩ | ⟨data, htag, -, rfl⟩
  · rw [if_pos htag]
    rfl
  · rw [if_neg htag]
    rfl

theorem readTag_fst (item : Json) (e) (h : readTag item = .ok e) : e.map Prod.fst = tagOf item := by
  rcases readTag_ok h with ⟨htag, rfl⟩ | ⟨tag, tagValue, htag, -, rfl⟩
  · rw [htag]
    rfl
  · rw [htag]
    rfl

theorem readModule_fst (item : String × Json) (e) (h : readModule item = .ok e) :
    e.map Prod.fst = some item.1 := by
  obtain ⟨moduleValue, -, rfl⟩ := readModule_ok h
  rfl

/-! What is loaded, group by group. -/

theorem key_loaded {item : Json} {tagValue : TagDatas}
    (h : insertAll readKey item.members ∅ = .ok tagValue) (key : String) :
    (∃ m data, lastFor keyOf key item.members = some m ∧ readValue m.2 = .ok data ∧
      tagValue.lookup key = some data) ∨
    lastFor keyOf key item.members = none ∧ tagValue.lookup key = none := by
  cases hlast : lastFor keyOf key item.members with
  | none =>
    rw [lookup_of_no_last readKey_fst h hlast]
    exact .inr ⟨rfl, AList.lookup_empty key⟩
  | some m =>
    obtain ⟨data, hread, hlookup⟩ := lookup_of_last readKey_fst h hlast
    rcases readKey_ok hread with ⟨-, hnone⟩ | ⟨data', -, hvalue, heq⟩
    · cases hnone
    · cases heq
      exact .inl ⟨m, data, rfl, hvalue, hlookup⟩

theorem tag_loaded {module : Json} {moduleValue : ModuleDatas}
    (h : insertAll readTag module.children ∅ = .ok moduleValue) (tag : String) :
    (∃ item tagValue, lastFor tagOf tag module.children = some item ∧
      insertAll readKey item.members ∅ = .ok tagValue ∧ moduleValue.lookup tag = some (some tagValue)) ∨
    lastFor tagOf tag module.children = none ∧ moduleValue.lookup tag = none := by
  cases hlast : lastFor tagOf tag module.children with
  | none =>
    rw [lookup_of_no_last readTag_fst h hlast]
    exact .inr ⟨rfl, AList.lookup_empty tag⟩
  | some item =>
    obtain ⟨tagValue, hread, hlookup⟩ := lookup_of_last readTag_fst h hlast
    rcases readTag_ok hread with ⟨-, hnone⟩ | ⟨tag', tagValue', -, hkeys, heq⟩
    · cases hnone
    · cases heq
      exact .inl ⟨item, tagValue', rfl, hkeys, hlookup⟩

theorem module_loaded (h : getConfig doc ∅ = .ok loaded) (module : String) :
    let modules := doc.children.flatMap Json.members
    (∃ m moduleValue, lastFor (fun m => some m.1) module modules = some m ∧
      insertAll readTag m.2.children ∅ = .ok moduleValue ∧
        loaded.lookup module = some (some moduleValue)) ∨
    lastFor (fun m => some m.1) module modules = none ∧ loaded.lookup module = none := by
  rw [getConfig_eq] at h
  intro modules
  cases hlast : lastFor (fun m => some m.1) module modules with
  | none =>
    rw [lookup_of_no_last readModule_fst h hlast]
    exact .inr ⟨rfl, AList.lookup_empty module⟩
  | some m =>
    obtain ⟨moduleValue, hread, hlookup⟩ := lookup_of_last readModule_fst h hlast
    obtain ⟨moduleValue', htags, heq⟩ := readModule_ok hread
    cases heq
    exact .inl ⟨m, moduleValue', rfl, htags, hlookup⟩

/-- A setting that is loaded is what has been read of the document's value for it. -/
theorem setting_loaded (h : getConfig doc ∅ = .ok loaded) (module tag key : String) :
    (∃ json data, documented doc module tag key = some json ∧ readValue json = .ok data ∧
      setting loaded module tag key = some data) ∨
    documented doc module tag key = none ∧ setting loaded module tag key = none := by
  rcases module_loaded h module with ⟨m, moduleValue, hlast, htags, hlookup⟩ | ⟨hlast, hlookup⟩
  · rcases tag_loaded htags tag with ⟨item, tagValue, hlast', hkeys, hlookup'⟩ | ⟨hlast', hlookup'⟩
    · rcases key_loaded hkeys key with ⟨member, data, hlast'', hread, hlookup''⟩ | ⟨hlast'', hlookup''⟩
      · refine .inl ⟨member.2, data, ?_, hread, ?_⟩
        · simp [documented, hlast, hlast', hlast'']
        · simp [setting, hlookup, hlookup', hlookup'']
      · refine .inr ⟨?_, ?_⟩
        · simp [documented, hlast, hlast', hlast'']
        · simp [setting, hlookup, hlookup', hlookup'']
    · refine .inr ⟨?_, ?_⟩
      · simp [documented, hlast, hlast']
      · simp [setting, hlookup, hlookup']
  · refine .inr ⟨?_, ?_⟩
    · simp [documented, hlast]
    · simp [setting, hlookup]

theorem readValue_none_iff {json : Json} {data : Option SharingValue} (h : readValue json = .ok data) :
    data = none ↔ ¬ Supported json := by
  have hnumber (hread : (if json.isInt then json.asInt.map fun data => some (SharingValue.int32 data)
      else .ok none) = .ok data) : data = none ↔ ¬ json.isInt = true := by
    split at hread
    · rename_i hint
      obtain ⟨data', -, rfl⟩ := map_ok_iff.mp hread
      exact iff_of_false nofun fun hnot => hnot hint
    · rename_i hint
      cases hread
      exact iff_of_true rfl hint
  cases json with
  | string data' =>
    cases h
    exact iff_of_false nofun fun hnot => hnot trivial
  | bool data' =>
    cases h
    exact iff_of_false nofun fun hnot => hnot trivial
  | array elements =>
    obtain ⟨data', -, rfl⟩ := map_ok_iff.mp h
    exact iff_of_false nofun fun hnot => hnot trivial
  | _ => exact hnumber h

theorem nonNull_iff (h : getConfig doc ∅ = .ok loaded) :
    NonNull loaded ↔ ∀ module tag key json, documented doc module tag key = some json →
      Supported json := by
  constructor
  · intro hnonNull module tag key json hdoc
    rcases setting_loaded h module tag key with ⟨json', data, hdoc', hread, hset⟩ | ⟨hdoc', -⟩
    · rw [hdoc] at hdoc'
      cases hdoc'
      by_contra hjson
      rw [(readValue_none_iff hread).mpr hjson] at hset
      exact hnonNull module tag key hset
    · rw [hdoc] at hdoc'
      cases hdoc'
  · intro hsupported module tag key hnull
    rcases setting_loaded h module tag key with ⟨json, data, hdoc, hread, hset⟩ | ⟨-, hset⟩
    · rw [hnull] at hset
      cases hset
      exact (readValue_none_iff hread).mp rfl (hsupported module tag key json hdoc)
    · rw [hnull] at hset
      cases hset

/-! What can be saved. -/

/-- The pointers that the writer follows are not null. -/
def Savable (value : SharingData) : Prop :=
  ∀ module moduleValue, value.lookup module = some (some moduleValue) →
    ∀ tag tagValue, moduleValue.lookup tag = some tagValue →
      ∃ tagValue', tagValue = some tagValue' ∧ ∀ key, tagValue'.lookup key ≠ some none

theorem Savable.of_loaded (h : getConfig doc ∅ = .ok loaded) (hnonNull : NonNull loaded) :
    Savable loaded := by
  intro module moduleValue hmodule tag tagValue htag
  rcases module_loaded h module with ⟨m, moduleValue', -, htags, hlookup⟩ | ⟨-, hlookup⟩
  · rw [hmodule] at hlookup
    cases hlookup
    rcases tag_loaded htags tag with ⟨item, tagValue', -, -, hlookup⟩ | ⟨-, hlookup⟩
    · rw [htag] at hlookup
      cases hlookup
      refine ⟨tagValue', rfl, fun key hkey => hnonNull module tag key ?_⟩
      simp [setting, hmodule, htag, hkey]
    · rw [htag] at hlookup
      cases hlookup
  · rw [hmodule] at hlookup
    cases hlookup

/-- The order of the entries does not matter. -/
theorem Savable.congr (h : Savable value) (hsame : content d = content value) : Savable d := by
  intro module moduleValue hmodule tag tagValue htag
  have hmodule' := congrFun hsame module
  rw [content, content, hmodule] at hmodule'
  obtain ⟨_ | moduleValue', hlookup, htags⟩ := Option.map_eq_some_iff.mp hmodule'.symm
  · cases htags
  have htag' := congrFun (Option.some.inj htags) tag
  dsimp only at htag'
  rw [htag] at htag'
  obtain ⟨tagValue', hlookup', hkeys⟩ := Option.map_eq_some_iff.mp htag'
  obtain ⟨tagValue', rfl, hkey⟩ := h module moduleValue' hlookup tag tagValue' hlookup'
  cases tagValue with
  | none => cases hkeys
  | some tagValue =>
    refine ⟨tagValue, rfl, fun key hnull => hkey key ?_⟩
    rw [← hnull]
    exact congrFun (Option.some.inj hkeys) key

theorem saveKey_isOk {value : Option SharingValue} (h : value ≠ none)
    (tagObject : List (String × Json)) (key : String) : ∃ r, saveKey tagObject key value = .ok r := by
  cases value with
  | none => exact absurd rfl h
  | some value => cases value <;> exact ⟨_, rfl⟩

theorem saveTag_isOk {tagValue : TagDatas} (h : ∀ key, tagValue.lookup key ≠ some none) (tag : String) :
    ∃ r, saveTag tag (some tagValue) = .ok r := by
  have hstep : ∀ e ∈ tagValue.entries, ∀ tagObject, ∃ r, saveKey tagObject e.1 e.2 = .ok r := by
    intro e he tagObject
    refine saveKey_isOk (fun hnull => h e.1 ?_) tagObject e.1
    rw [← hnull]
    exact AList.mem_lookup_iff.mpr he
  obtain ⟨members, hmembers⟩ := foldlM_isOk hstep [("tag", .string tag)]
  exact ⟨.object members, map_ok_iff.mpr ⟨members, hmembers, rfl⟩⟩

theorem Savable.isOk (h : Savable value) : ∃ root, saveConfig value = .ok root := by
  have hmodule : ∀ e ∈ value.entries, ∃ r, saveModuleConfig e.2 = .ok r := by
    rintro ⟨module, _ | moduleValue⟩ he
    · exact ⟨[], rfl⟩
    · have htag : ∀ e ∈ moduleValue.entries, ∀ elements : List Json,
          ∃ r, ((saveTag e.1 e.2).map fun tag => elements ++ [tag]) = .ok r := by
        intro e he' elements
        obtain ⟨tagValue, htagValue, hkeys⟩ :=
          h module moduleValue (AList.mem_lookup_iff.mpr he) e.1 e.2 (AList.mem_lookup_iff.mpr he')
        obtain ⟨tag, htag⟩ := saveTag_isOk hkeys e.1
        rw [htagValue]
        exact ⟨elements ++ [tag], map_ok_iff.mpr ⟨tag, htag, rfl⟩⟩
      exact foldlM_isOk htag []
  have hstep : ∀ e ∈ value.entries, ∀ root : List (String × Json), ∃ r,
      ((saveModuleConfig e.2).map fun module => Json.setMember root e.1 (.array module)) = .ok r := by
    intro e he root
    obtain ⟨module, hr⟩ := hmodule e he
    exact ⟨Json.setMember root e.1 (.array module), map_ok_iff.mpr ⟨module, hr, rfl⟩⟩
  obtain ⟨members, hmembers⟩ := foldlM_isOk hstep []
  exact ⟨.object members, map_ok_iff.mpr ⟨members, hmembers, rfl⟩⟩

/-! What is saved is an object of arrays, while objects of objects are read. -/

theorem saveConfig_arrays (h : saveConfig d = .ok root) :
    ∀ modules ∈ root.children, ∃ elements, modules = .array elements := by
  obtain ⟨members, hmembers, rfl⟩ := map_ok_iff.mp h
  have harrays : ∀ m ∈ members, ∃ elements, m.2 = .array elements := by
    refine foldlM_keeps (I := fun members => ∀ m ∈ members, ∃ elements, m.2 = Json.array elements)
      ?_ (fun m hm => absurd hm List.not_mem_nil) hmembers
    intro root root' e hroot hstep m hm
    obtain ⟨module, -, rfl⟩ := map_ok_iff.mp hstep
    rcases List.mem_append.mp hm with hm | hm
    · exact hroot m (List.mem_of_mem_filter hm)
    · obtain rfl := List.mem_singleton.mp hm
      exact ⟨module, rfl⟩
  intro modules hmodules
  obtain ⟨m, hm, rfl⟩ := List.mem_map.mp hmodules
  exact harrays m hm

theorem getConfig_arrays (h : ∀ modules ∈ root.children, ∃ elements, modules = .array elements) :
    getConfig root value = .ok value := by
  rw [getConfig]
  revert h
  induction root.children with
  | nil => exact fun _ => rfl
  | cons modules rest ih =>
    intro h
    obtain ⟨elements, rfl⟩ := h modules List.mem_cons_self
    exact ih fun modules hmem => h modules (List.mem_cons_of_mem _ hmem)

/-- Nothing of what has been saved is loaded. -/
theorem getConfig_saveConfig (h : saveConfig d = .ok root) : getConfig root ∅ = .ok ∅ :=
  getConfig_arrays (saveConfig_arrays h)

theorem eq_empty_of_content (h : content ∅ = content d) : d = ∅ := by
  apply AList.ext
  rw [AList.empty_entries, List.eq_nil_iff_forall_not_mem]
  intro e he
  have hmodule := congrFun h e.1
  rw [content, content, AList.lookup_empty, AList.mem_lookup_iff.mpr he] at hmodule
  cases hmodule

/-- Only an empty configuration comes back as it was saved, and what a document has loaded can be saved
if and only if the document has values of the supported types only. -/
theorem save_load_iff (d : SharingData) (doc : Json) :
    ((∃ root loaded, saveConfig d = .ok root ∧ getConfig root ∅ = .ok loaded ∧
      content loaded = content d) ↔ d = ∅) ∧
    ∀ loaded, getConfig doc ∅ = .ok loaded →
      ((NonNull loaded ∧ ∀ d', content d' = content loaded → ∃ root, saveConfig d' = .ok root) ↔
        ∀ module tag key json, documented doc module tag key = some json → Supported json) := by
  refine ⟨⟨?_, ?_⟩, fun loaded hloaded => ⟨?_, ?_⟩⟩
  · rintro ⟨root, loaded, hsave, hload, hsame⟩
    rw [getConfig_saveConfig hsave] at hload
    cases hload
    exact eq_empty_of_content hsame
  · rintro rfl
    exact ⟨.object [], ∅, rfl, rfl, rfl⟩
  · rintro ⟨hnonNull, -⟩
    exact (nonNull_iff hloaded).mp hnonNull
  · intro hsupported
    have hnonNull := (nonNull_iff hloaded).mpr hsupported
    exact ⟨hnonNull, fun d' hsame => ((Savable.of_loaded hloaded hnonNull).congr hsame).isOk⟩

/-- The media log is enabled. -/
def mediaLogData : SharingData :=
  (∅ : SharingData).insert "common" (some ((∅ : ModuleDatas).insert "mediaLog"
    (some ((∅ : TagDatas).insert "isEnable" (some (.bool true))))))

/-- A document with a limit that is not given. -/
def timeoutDocument : Json :=
  .object [("module", .object [("mediachannel",
    .array [.object [("tag", .string "rtcpLimit"), ("timeout", .null)]])])]

/-- The data of that document. -/
def timeoutData : SharingData :=
  (∅ : SharingData).insert "mediachannel" (some ((∅ : ModuleDatas).insert "rtcpLimit"
    (some ((∅ : TagDatas).insert "timeout" none))))

theorem mediaLog_dropped :
    (∃ root, saveConfig mediaLogData = .ok root ∧ getConfig root ∅ = .ok ∅ ∧
      content ∅ ≠ content mediaLogData) ∧
    getConfig timeoutDocument ∅ = .ok timeoutData ∧ ¬ NonNull timeoutData ∧
      saveConfig timeoutData = .error .nullPointer := by
  refine ⟨⟨_, rfl, rfl, fun hsame => ?_⟩, rfl, fun h => ?_, rfl⟩
  · exact List.cons_ne_nil _ _ (congrArg AList.entries (eq_empty_of_content hsame))
  · exact h "mediachannel" "rtcpLimit" "timeout" rfl

end JsonParser

end WifiDisplay
