import WifiDisplay.Config

/-! The runs of `Config` in which every call sets what it says it has set, and nothing else. -/

namespace WifiDisplay

namespace Config

variable {s s' : Config} {module tag key : String} {values : Option Nat} {value : Option SharingValue}
  {group tagGroup : Nat} {call : ConfigCall} {error : ConfigureError}

/-- The value of a setting. -/
def content (s : Config) (module tag key : String) : Option SharingValue :=
  s.tagContent (s.path module tag) key

/-- All pointers lead to groups that have been made. -/
structure Sound (s : Config) : Prop where
  modules : ∀ module values, s.datass module = some values → ∃ group < s.moduleGroupsMade, values = some group
  tags : ∀ group < s.moduleGroupsMade, ∀ tag values, s.moduleGroups group tag = some values →
    ∃ tagGroup < s.tagGroupsMade, values = some tagGroup

theorem sound_init : Sound {} where
  modules _ _ h := by cases h
  tags _ h := absurd h (Nat.not_lt_zero _)

theorem path_eq (h : s.datass module = some (some group)) :
    s.path module tag = (s.moduleGroups group tag).join := by
  rw [path, h]
  rfl

theorem path_none (h : s.datass module = none) : s.path module tag = none := by
  rw [path, h]
  rfl

theorem Sound.getConfig_eq (hs : s.Sound) (module tag key : String) :
    s.getConfig module tag key = .ok (s.content module tag key) := by
  rw [getConfig, getTag, content, getSharingValue]
  cases hmodule : s.datass module with
  | none => rw [path_none hmodule]; rfl
  | some values =>
    obtain ⟨group, hgroup, rfl⟩ := hs.modules module values hmodule
    rw [path_eq hmodule]
    cases htag : s.moduleGroups group tag with
    | none => simp [htag, tagContent]; rfl
    | some values =>
      obtain ⟨tagGroup, -, rfl⟩ := hs.tags group hgroup tag values htag
      simp [htag, tagContent]
      rfl

theorem Sound.path_lt (hs : s.Sound) (h : s.path module tag = some tagGroup) :
    tagGroup < s.tagGroupsMade := by
  cases hmodule : s.datass module with
  | none =>
    rw [path_none hmodule] at h
    cases h
  | some values =>
    obtain ⟨group, hgroup, rfl⟩ := hs.modules module values hmodule
    rw [path_eq hmodule] at h
    obtain ⟨tagGroup', hlt, heq⟩ := hs.tags group hgroup tag _ (Option.join_eq_some_iff.mp h)
    exact Option.some.inj heq ▸ hlt

/-- The law for a call that leaves a sound state. -/
theorem Sound.right (hs : s.Sound) (hs' : s'.Sound) (hrun : s.run call = .ok (s', error))
    (h : ∀ module tag key, s'.content module tag key =
      s.expected (s.content module tag key) module tag key call) : s.Right call := by
  refine ⟨s', error, hrun, fun _ module tag key => ⟨_, hs.getConfig_eq module tag key, ?_⟩⟩
  rw [hs'.getConfig_eq, h]

/-! New groups. -/

theorem newTagGroup_self (s : Config) (datas : SharingDataGroupByTag) :
    (s.newTagGroup datas).tagGroups s.tagGroupsMade = datas := Function.update_self _ _ _

theorem newTagGroup_of_ne (h : tagGroup ≠ s.tagGroupsMade) (datas : SharingDataGroupByTag) :
    (s.newTagGroup datas).tagGroups tagGroup = s.tagGroups tagGroup := Function.update_of_ne h _ _

theorem newModuleGroup_self (s : Config) (datass : SharingDataGroupByModule) :
    (s.newModuleGroup datass).moduleGroups s.moduleGroupsMade = datass := Function.update_self _ _ _

theorem newModuleGroup_of_ne (h : group ≠ s.moduleGroupsMade) (datass : SharingDataGroupByModule) :
    (s.newModuleGroup datass).moduleGroups group = s.moduleGroups group := Function.update_of_ne h _ _

theorem Sound.newTagGroup (hs : s.Sound) (datas : SharingDataGroupByTag) : (s.newTagGroup datas).Sound where
  modules := hs.modules
  tags group hgroup tag values h := by
    obtain ⟨tagGroup, hlt, heq⟩ := hs.tags group hgroup tag values h
    exact ⟨tagGroup, Nat.lt_succ_of_lt hlt, heq⟩

theorem tagContent_newTagGroup (datas : SharingDataGroupByTag) (h : tagGroup < s.tagGroupsMade) :
    (s.newTagGroup datas).tagContent (some tagGroup) key = s.tagContent (some tagGroup) key :=
  congrFun (newTagGroup_of_ne (Nat.ne_of_lt h) datas) key

theorem Sound.content_newTagGroup (hs : s.Sound) (datas : SharingDataGroupByTag) :
    (s.newTagGroup datas).content module tag key = s.content module tag key := by
  show (s.newTagGroup datas).tagContent (s.path module tag) key = s.tagContent (s.path module tag) key
  cases hpath : s.path module tag with
  | none => rfl
  | some tagGroup => exact tagContent_newTagGroup datas (hs.path_lt hpath)

theorem Sound.newModuleGroup (hs : s.Sound) {datass : SharingDataGroupByModule}
    (hdatass : ∀ tag values, datass tag = some values → ∃ tagGroup < s.tagGroupsMade, values = some tagGroup) :
    (s.newModuleGroup datass).Sound where
  modules module values h := by
    obtain ⟨group, hlt, heq⟩ := hs.modules module values h
    exact ⟨group, Nat.lt_succ_of_lt hlt, heq⟩
  tags group hgroup tag values h := by
    by_cases hnew : group = s.moduleGroupsMade
    · subst hnew
      rw [newModuleGroup_self] at h
      exact hdatass tag values h
    · rw [newModuleGroup_of_ne hnew] at h
      exact hs.tags group (Nat.lt_of_le_of_ne (Nat.le_of_lt_succ hgroup) hnew) tag values h

/-- Module groups that no module has. -/
theorem path_congr (hdatass : s'.datass = s.datass)
    (h : ∀ module group, s.datass module = some (some group) → s'.moduleGroups group = s.moduleGroups group) :
    s'.path module tag = s.path module tag := by
  rw [path, path, hdatass]
  cases hmodule : s.datass module with
  | none => rfl
  | some values =>
    cases values with
    | none => rfl
    | some group => simp [h module group hmodule]

theorem Sound.content_newModuleGroup (hs : s.Sound) (datass : SharingDataGroupByModule) :
    (s.newModuleGroup datass).content module tag key = s.content module tag key := by
  have hpath : (s.newModuleGroup datass).path module tag = s.path module tag := by
    refine path_congr rfl fun module group hmodule => ?_
    obtain ⟨group', hlt, heq⟩ := hs.modules module _ hmodule
    obtain rfl := Option.some.inj heq
    exact newModuleGroup_of_ne (Nat.ne_of_lt hlt) datass
  rw [content, hpath]
  rfl

/-! A group is put into a group, or a value. -/

theorem putGroup_self (s : Config) (group : Nat) (tag : String) (values : Option Nat) :
    (s.putGroup group tag values).moduleGroups group =
      Function.update (s.moduleGroups group) tag (some values) := Function.update_self _ _ _

theorem putGroup_of_ne {other : Nat} (h : other ≠ group) (tag : String) (values : Option Nat) :
    (s.putGroup group tag values).moduleGroups other = s.moduleGroups other := Function.update_of_ne h _ _

theorem Sound.putGroup (hs : s.Sound) (group : Nat) (tag : String) (h : tagGroup < s.tagGroupsMade) :
    (s.putGroup group tag (some tagGroup)).Sound where
  modules := hs.modules
  tags other hother tag' values hvalues := by
    by_cases hgroup : other = group
    · subst hgroup
      rw [putGroup_self] at hvalues
      by_cases htag : tag' = tag
      · subst htag
        rw [Function.update_self] at hvalues
        exact ⟨tagGroup, h, (Option.some.inj hvalues).symm⟩
      · rw [Function.update_of_ne htag] at hvalues
        exact hs.tags other hother tag' values hvalues
    · rw [putGroup_of_ne hgroup] at hvalues
      exact hs.tags other hother tag' values hvalues

/-- A group put into the group of one module alone is set in that module. -/
theorem path_putGroup (hmodule : s.datass module = some (some group))
    (hother : ∀ other ≠ module, s.datass other ≠ s.datass module) (tag : String) (values : Option Nat)
    (module' tag' : String) : (s.putGroup group tag values).path module' tag' =
      if module' = module ∧ tag' = tag then values else s.path module' tag' := by
  by_cases heq : module' = module
  · subst heq
    rw [path_eq (show (s.putGroup group tag values).datass module' = some (some group) from hmodule),
      path_eq hmodule, putGroup_self]
    by_cases htag : tag' = tag
    · simp [htag]
    · simp [htag]
  · rw [if_neg fun h => heq h.1]
    show (s.datass module').join.bind _ = (s.datass module').join.bind _
    cases hmodule' : (s.datass module').join with
    | none => rfl
    | some group' =>
      have hne : group' ≠ group := by
        rintro rfl
        exact hother module' heq ((Option.join_eq_some_iff.mp hmodule').trans hmodule.symm)
      simp [putGroup_of_ne hne]

theorem Sound.setTag (hs : s.Sound) (hmodule : s.datass module ≠ none)
    (hother : ∀ other ≠ module, s.datass other ≠ s.datass module) (h : tagGroup < s.tagGroupsMade) :
    ∃ s', s.setTag module tag (some tagGroup) = (s', .CONFIGURE_ERROR_NONE) ∧ s'.Sound ∧
      ∀ module' tag' key', s'.content module' tag' key' =
        if module' = module ∧ tag' = tag then s.tagContent (some tagGroup) key'
        else s.content module' tag' key' := by
  obtain ⟨values, hvalues⟩ := Option.ne_none_iff_exists'.mp hmodule
  obtain ⟨group, -, rfl⟩ := hs.modules module values hvalues
  refine ⟨s.putGroup group tag (some tagGroup), ?_, hs.putGroup group tag h, fun module' tag' key' => ?_⟩
  · rw [Config.setTag, hvalues]
  · rw [content, path_putGroup hvalues hother]
    split <;> rfl

theorem putValue_self (s : Config) (tagGroup : Nat) (key : String) (value : Option SharingValue) :
    (s.putValue tagGroup key value).tagGroups tagGroup =
      Function.update (s.tagGroups tagGroup) key value := Function.update_self _ _ _

theorem putValue_of_ne {other : Nat} (h : other ≠ tagGroup) (key : String) (value : Option SharingValue) :
    (s.putValue tagGroup key value).tagGroups other = s.tagGroups other := Function.update_of_ne h _ _

theorem Sound.putValue (hs : s.Sound) (tagGroup : Nat) (key : String) (value : Option SharingValue) :
    (s.putValue tagGroup key value).Sound := ⟨hs.modules, hs.tags⟩

/-- A value put into the group of one tag alone is set in that tag. -/
theorem content_putValue (hpath : s.path module tag = some tagGroup)
    (hother : ∀ module' tag', s.path module' tag' = s.path module tag → module' = module ∧ tag' = tag)
    (key : String) (value : Option SharingValue) (module' tag' key' : String) :
    (s.putValue tagGroup key value).content module' tag' key' =
      if module' = module ∧ tag' = tag ∧ key' = key then value else s.content module' tag' key' := by
  show (s.putValue tagGroup key value).tagContent (s.path module' tag') key' =
    if _ then value else s.tagContent (s.path module' tag') key'
  by_cases heq : s.path module' tag' = s.path module tag
  · obtain ⟨rfl, rfl⟩ := hother module' tag' heq
    rw [hpath]
    show (s.putValue tagGroup key value).tagGroups tagGroup key' = if _ then value else s.tagGroups tagGroup key'
    rw [putValue_self]
    by_cases hkey : key' = key
    · simp [hkey]
    · simp [hkey]
  · rw [if_neg fun h => heq (by rw [h.1, h.2.1])]
    cases hpath' : s.path module' tag' with
    | none => rfl
    | some other =>
      have hne : other ≠ tagGroup := by
        rintro rfl
        exact heq (hpath'.trans hpath.symm)
      exact congrFun (putValue_of_ne hne key value) key'

/-- A new group with one value is nowhere yet. -/
theorem Sound.newTagGroupWith (hs : s.Sound) (key : String) (value : Option SharingValue) :
    (s.newTagGroupWith key value).Sound ∧
      (∀ module tag key', (s.newTagGroupWith key value).content module tag key' = s.content module tag key') ∧
      ∀ key', (s.newTagGroupWith key value).tagContent (some s.tagGroupsMade) key' =
        if key' = key then value else none := by
  refine ⟨(hs.newTagGroup _).putValue _ key value, fun module tag key' => ?_, fun key' => ?_⟩
  · rw [← hs.content_newTagGroup fun _ => none]
    show (s.newTagGroupWith key value).tagContent (s.path module tag) key' =
      (s.newTagGroup fun _ => none).tagContent (s.path module tag) key'
    cases hpath : s.path module tag with
    | none => rfl
    | some tagGroup => exact congrFun (putValue_of_ne (Nat.ne_of_lt (hs.path_lt hpath)) key value) key'
  · show ((s.newTagGroup fun _ => none).putValue s.tagGroupsMade key value).tagGroups s.tagGroupsMade key' = _
    rw [putValue_self, newTagGroup_self]
    by_cases hkey : key' = key
    · simp [hkey]
    · simp [hkey]

/-! The calls. -/

theorem Sound.setModule (hs : s.Sound) (module : String) (h : group < s.moduleGroupsMade) :
    (s.setModule module (some group)).1.Sound ∧ ∀ module' tag key,
      (s.setModule module (some group)).1.content module' tag key =
        if module' = module then s.moduleContent (some group) tag key else s.content module' tag key := by
  refine ⟨⟨fun module' values hvalues => ?_, hs.tags⟩, fun module' tag key => ?_⟩
  · by_cases heq : module' = module
    · subst heq
      have hnew : Function.update s.datass module' (some (some group)) module' = some values := hvalues
      rw [Function.update_self] at hnew
      exact ⟨group, h, (Option.some.inj hnew).symm⟩
    · have hold : Function.update s.datass module (some (some group)) module' = some values := hvalues
      rw [Function.update_of_ne heq] at hold
      exact hs.modules module' values hold
  · by_cases heq : module' = module
    · subst heq
      have hmodule : (s.setModule module' (some group)).1.datass module' = some (some group) :=
        Function.update_self _ _ _
      rw [if_pos rfl, content, path_eq hmodule]
      rfl
    · have hmodule : (s.setModule module (some group)).1.datass module' = s.datass module' :=
        Function.update_of_ne heq _ _
      rw [if_neg heq, content, path, hmodule]
      rfl

/-- A key of a missing module: its group and the group of its tag are made, and the module is set. -/
theorem Sound.setKey_missing (hs : s.Sound) (hmodule : s.datass module = none) (tag key : String)
    (value : Option SharingValue) :
    ∃ s', s.setKey module tag key value = .ok (s', .CONFIGURE_ERROR_NONE) ∧ s'.Sound ∧
      ∀ module' tag' key', s'.content module' tag' key' =
        if module' = module ∧ tag' = tag ∧ key' = key then value else s.content module' tag' key' := by
  let s₀ := s.newModuleGroup fun _ => none
  let s₁ := s₀.newTagGroupWith key value
  let s₂ := s₁.putGroup s.moduleGroupsMade tag (some s.tagGroupsMade)
  have hs₀ : s₀.Sound := @Sound.newModuleGroup s hs (fun _ => none) nofun
  obtain ⟨hs₁, hcontent₁, hnew⟩ := hs₀.newTagGroupWith key value
  have hs₂ : s₂.Sound := hs₁.putGroup s.moduleGroupsMade tag (Nat.lt_succ_self s.tagGroupsMade)
  obtain ⟨hs₃, hcontent₃⟩ := hs₂.setModule module (Nat.lt_succ_self s.moduleGroupsMade)
  refine ⟨_, by rw [Config.setKey, hmodule]; rfl, hs₃, fun module' tag' key' => ?_⟩
  have hcontent₂ : s₂.content module' tag' key' = s.content module' tag' key' := by
    rw [← hs.content_newModuleGroup fun _ => none, ← hcontent₁]
    have hpath : s₂.path module' tag' = s₁.path module' tag' := by
      refine path_congr rfl fun other group hother => putGroup_of_ne ?_ tag _
      obtain ⟨group', hlt, heq⟩ := hs.modules other _ hother
      obtain rfl := Option.some.inj heq
      exact Nat.ne_of_lt hlt
    rw [content, hpath]
    rfl
  have hgroup (tag' : String) : s₂.moduleGroups s.moduleGroupsMade tag' =
      if tag' = tag then some (some s.tagGroupsMade) else none := by
    show (s₁.putGroup s.moduleGroupsMade tag (some s.tagGroupsMade)).moduleGroups _ tag' = _
    rw [putGroup_self, show s₁.moduleGroups s.moduleGroupsMade = fun _ => none from newModuleGroup_self s _]
    by_cases htag : tag' = tag
    · simp [htag]
    · simp [htag]
  have hmissing (tag' key' : String) : s.content module tag' key' = none := by
    rw [content, path_none hmodule]
    rfl
  rw [hcontent₃, hcontent₂, moduleContent, Option.bind_some, hgroup]
  by_cases hmod : module' = module
  · by_cases htag : tag' = tag
    · have hvalue : s₂.tagContent (some s.tagGroupsMade) key' = if key' = key then value else none :=
        hnew key'
      simpa [hmod, htag, hmissing] using hvalue
    · simp [hmod, htag, hmissing, tagContent]
  · simp [hmod]

theorem Sound.setKey (hs : s.Sound) (hsafe : s.Safe (.setKey module tag key value)) :
    ∃ s', s.setKey module tag key value = .ok (s', .CONFIGURE_ERROR_NONE) ∧ s'.Sound ∧
      ∀ module' tag' key', s'.content module' tag' key' =
        if module' = module ∧ tag' = tag ∧ key' = key then value else s.content module' tag' key' := by
  cases hmodule : s.datass module with
  | none => exact hs.setKey_missing hmodule tag key value
  | some values =>
    obtain ⟨group, hgroup, rfl⟩ := hs.modules module values hmodule
    have hsafe' := hsafe (by simp [hmodule])
    rw [Config.setKey, hmodule]
    dsimp only
    cases htag : s.moduleGroups group tag with
    | none =>
      have hpath : s.path module tag = none := by rw [path_eq hmodule, htag]; rfl
      rw [if_pos (by simp [hpath])] at hsafe'
      obtain ⟨hs₁, hcontent, hnew⟩ := hs.newTagGroupWith key value
      have hmodule₁ : (s.newTagGroupWith key value).datass module ≠ none := by
        show s.datass module ≠ none
        simp [hmodule]
      obtain ⟨s', heq, hs', hcontent'⟩ := @Sound.setTag (s.newTagGroupWith key value) module tag
        s.tagGroupsMade hs₁ hmodule₁ hsafe' (Nat.lt_succ_self _)
      refine ⟨s', congrArg _ heq, hs', fun module' tag' key' => ?_⟩
      rw [hcontent', hcontent, hnew]
      by_cases hkey : key' = key
      · simp [hkey]
      · split
        · rename_i hplace
          rw [if_neg fun h => hkey h.2.2, hplace.1, hplace.2, content, hpath]
          simp [tagContent]
        · rw [if_neg fun h => hkey h.2.2]
    | some values =>
      obtain ⟨tagGroup, hlt, rfl⟩ := hs.tags group hgroup tag values htag
      have hpath : s.path module tag = some tagGroup := by rw [path_eq hmodule, htag]; rfl
      rw [if_neg (by simp [hpath])] at hsafe'
      exact ⟨_, rfl, hs.putValue tagGroup key value, content_putValue hpath hsafe' key value⟩

theorem Sound.step (hs : s.Sound) (hsafe : s.Safe call) : s.Right call ∧ (s.step call).Sound := by
  cases call with
  | newTagGroup datas =>
    have hs' := hs.newTagGroup datas
    exact ⟨hs.right hs' rfl fun _ _ _ => hs.content_newTagGroup datas, hs'⟩
  | newModuleGroup datass =>
    have hs' := hs.newModuleGroup hsafe
    exact ⟨hs.right hs' rfl fun _ _ _ => hs.content_newModuleGroup datass, hs'⟩
  | setModule module values =>
    obtain ⟨group, hgroup, rfl⟩ := hsafe
    obtain ⟨hs', hcontent⟩ := hs.setModule module hgroup
    exact ⟨hs.right hs' rfl hcontent, hs'⟩
  | setTag module tag values =>
    obtain ⟨⟨tagGroup, hlt, rfl⟩, hmodule, hother⟩ := hsafe
    obtain ⟨s', heq, hs', hcontent⟩ := @Sound.setTag s module tag tagGroup hs hmodule hother hlt
    have hrun : s.run (.setTag module tag (some tagGroup)) = .ok (s', .CONFIGURE_ERROR_NONE) :=
      congrArg _ heq
    refine ⟨hs.right hs' hrun hcontent, ?_⟩
    rwa [Config.step, hrun]
  | setKey module tag key value =>
    obtain ⟨s', hrun, hs', hcontent⟩ := hs.setKey hsafe
    refine ⟨hs.right hs' hrun hcontent, ?_⟩
    rwa [Config.step, show s.run (.setKey module tag key value) = _ from hrun]

/-- In a run of such calls each of them keeps to the law. -/
theorem set_get_law (calls : List ConfigCall) (h : AllMeet step Safe {} calls) :
    AllMeet step Right {} calls := by
  have hiff : AllMeet step Right {} calls ↔ AllMeet step (fun _ _ => True) {} calls :=
    AllMeet.congr (I := Sound)
      (fun s call hs hsafe => ⟨iff_true_intro (hs.step hsafe).1, fun _ => (hs.step hsafe).2⟩) sound_init h
  exact hiff.mpr (AllMeet.of_forall fun _ _ => trivial)

/-- A key of a missing module, and then the whole tag. -/
theorem set_get_law_replaced : AllMeet step Right {} [.newTagGroup fun _ => none,
    .setKey "module" "tag" "key" (some (.bool true)), .setTag "module" "tag" (some 0)] := by
  refine set_get_law _ ⟨trivial, fun h => absurd rfl h, ⟨⟨0, by decide, rfl⟩, by decide, ?_⟩, trivial⟩
  intro other hother
  have hmissing : Function.update (fun _ => none) "module" (some (some 0)) other = none :=
    Function.update_of_ne hother _ _
  exact fun heq => nomatch hmissing.symm.trans heq

/-- The tag of a module that is not there is set in a group that nothing refers to. -/
theorem missing_module_not_set : ¬ ∀ calls : List ConfigCall, AllMeet step Right {} calls := by
  intro hall
  obtain ⟨-, ⟨s', error, hrun, hlaw⟩, -⟩ := hall
    [.newTagGroup fun _ => some (.bool true), .setTag "module" "tag" (some 0)]
  obtain ⟨rfl, rfl⟩ := Prod.mk.inj (Except.ok.inj hrun)
  obtain ⟨before, -, hafter⟩ := hlaw rfl "module" "tag" "key"
  have hnone : Except.ok none = (Except.ok (some (.bool true)) : Except ConfigFault (Option SharingValue)) :=
    hafter
  cases hnone

end Config

end WifiDisplay
