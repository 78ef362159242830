import LinSight.Sensors.Hwmon

set_option autoImplicit false

/-! The names, the ids and the files of the hwmon and thermal sensors. -/

namespace LinSight.Hwmon

open Ieee (Value)
open Words (stripPrefix stripSuffix)

/-- The sensor ids of both plugins. -/
def allIds (devices : List HwmonDeviceInfo) (zones : List ThermalZone) : List String :=
  (devices.flatMap fun device => device.sensors.map (·.id)) ++ zones.map fun zone => zone.id.asStr

/-- Names, labels and ids are pairwise different, and an id reads its own file. -/
structure Told (devices : List HwmonDeviceInfo) (zones : List ThermalZone) : Prop where
  deviceNames : (devices.map (·.name)).Nodup
  zoneLabels : (zones.map (·.safeLabel)).Nodup
  ids : (allIds devices zones).Nodup
  valid : ∀ id ∈ allIds devices zones, SensorId.tryNew id = .ok ⟨id⟩
  hwmonReads : ∀ device ∈ devices, ∀ s ∈ device.sensors, ∀ read,
    sampleInner devices read ⟨s.id⟩ = readSensor read s
  thermalReads : ∀ zone ∈ zones, ∀ read, sampleThermal (thermalSnapshot zones read) zone.id =
    some (match readU64 read zone.tempPath with
      | some milli => .ok (.scalar (milliCelsius milli))
      | none => .error (.unsupported zone.id.asStr))

/-- A chip with a sensor. -/
def Shown (raw : Raw) : Prop := inputs raw.dir ≠ []

/-- No name with an index is the bare name of another chip or zone, the name of a chip has no
blanks, and no two inputs of a chip are of one kind with one label. -/
structure Separate (hwmon : HwmonClass) (thermal : ThermalClass) : Prop where
  chips : Suffixes.Apart Raw.name Raw.index (rawChips hwmon) Shown
  plain : ∀ raw ∈ rawChips hwmon, Shown raw → ∀ c ∈ raw.name.toList, isWhitespace c = false
  labels : ∀ raw ∈ rawChips hwmon, ((inputs raw.dir).map Input.tail).Nodup
  zones : Suffixes.Apart RawZone.baseSafeLabel RawZone.zoneIndex (rawZones thermal) fun _ => True

section Labels

theorem isKeyChar_safe (c : Char) :
    isKeyChar (if c.isAlphanum || c = '_' then c.toLower else '_') = true ∧
      (if c.isAlphanum || c = '_' then c.toLower else '_') ≠ '.' := by
  by_cases kept : (c.isAlphanum || c = '_') = true
  · rw [if_pos kept]
    rw [Bool.or_eq_true, Char.isAlphanum, Bool.or_eq_true] at kept
    rcases kept with (letter | digit) | same
    · have lower : c.toLower.isAlpha = true := by rw [Char.isAlpha_toLower_eq_isAlpha, letter]
      refine ⟨by simp [isKeyChar, Char.isAlphanum, lower], fun dot => ?_⟩
      rw [dot] at lower
      exact absurd lower (by decide)
    · have same : c.toLower = c := by
        unfold Char.toLower
        rw [dif_neg]
        rintro ⟨upper, _⟩
        simp only [Char.isDigit, Bool.and_eq_true, decide_eq_true_eq] at digit
        have low : 65 ≤ c.toNat := upper
        have high : c.toNat ≤ 57 := digit.2
        omega
      rw [same]
      refine ⟨by simp [isKeyChar, Char.isAlphanum, digit], fun dot => ?_⟩
      rw [dot] at digit
      exact absurd digit (by decide)
    · rw [of_decide_eq_true same]
      decide
  · rw [if_neg kept]
    decide

theorem safeLabel_plain (label : String) :
    '.' ∉ (safeLabel label).toList ∧ (safeLabel label).toList.any isWhitespace = false := by
  unfold safeLabel
  rw [String.toList_ofList]
  constructor
  · intro member
    obtain ⟨c, _, same⟩ := List.mem_map.mp member
    exact (isKeyChar_safe c).2 same
  · rw [List.any_eq_false]
    intro c member
    obtain ⟨c', _, rfl⟩ := List.mem_map.mp member
    rw [isWhitespace_of_isKeyChar (isKeyChar_safe c').1]
    exact Bool.false_ne_true

theorem inputKind_plain {typePrefix : List Char} {unit : LinSight.Unit} {kind : SensorKind}
    {suffix : String} (known : inputKind typePrefix = some (unit, kind, suffix)) :
    '.' ∉ suffix.toList ∧ suffix.toList.any isWhitespace = false := by
  unfold inputKind at known
  repeat' split at known
  all_goals cases known
  all_goals decide +kernel

/-- The end of an id is the one of the kind of its input. -/
theorem of_readInput {dir : HwmonDir} {file : String} {input : Input}
    (read : readInput dir file = some input) :
    ∃ typePrefix, inputKind typePrefix = some (input.unit, input.kind, input.labelSuffix) := by
  unfold readInput at read
  split at read
  · cases read
  · split at read
    · cases read
    · split at read
      · cases read
      · rename_i known
        split at read
        · cases read
        · cases read
          exact ⟨_, known⟩

end Labels

section Chips

variable {hwmon : HwmonClass} {thermal : ThermalClass} {taken : List String} {raws : List Raw}

/-- The second pass gives each chip with sensors its name. -/
theorem nameChips_eq : nameChips taken raws =
    ((Suffixes.named Raw.name Raw.index taken raws).filter fun p => inputs p.1.dir ≠ []).map
      fun p => ⟨p.2, discoverSensors p.1.dir p.2⟩ := by
  induction raws generalizing taken with
  | nil => rfl
  | cons raw rest ih =>
      unfold nameChips Suffixes.named
      dsimp only
      have empty : (discoverSensors raw.dir (Suffixes.claim taken raw.name raw.index).1).isEmpty =
          (inputs raw.dir).isEmpty := by
        rw [discoverSensors, List.isEmpty_map]
      rw [empty, ih]
      cases found : inputs raw.dir with
      | nil => rw [List.filter_cons_of_neg (by simp [found])]; rfl
      | cons input more =>
          rw [List.filter_cons_of_pos (by simp [found]), List.map_cons]
          rfl

theorem nameZones_eq {raws : List RawZone} : nameZones taken raws =
    (Suffixes.named RawZone.baseSafeLabel RawZone.zoneIndex taken raws).map
      fun p => ⟨p.1.label, p.2, p.1.tempPath⟩ := by
  induction raws generalizing taken with
  | nil => rfl
  | cons raw rest ih =>
      unfold nameZones Suffixes.named
      dsimp only
      rw [ih, List.map_cons]

/-- What is kept of a list keeps the order of its numbers. -/
theorem map_filterMap_sublist {α β γ : Type} {f : α → Option β} {g : α → Option γ} {h : β → γ}
    (same : ∀ a b, f a = some b → g a = some (h b)) (items : List α) :
    ((items.filterMap f).map h).Sublist (items.filterMap g) := by
  induction items with
  | nil => exact List.Sublist.refl _
  | cons a rest ih =>
      cases kept : f a with
      | none =>
          rw [List.filterMap_cons_none kept]
          refine ih.trans ?_
          cases numbered : g a with
          | none =>
              rw [List.filterMap_cons_none numbered]
          | some n =>
              rw [List.filterMap_cons_some numbered]
              exact List.sublist_cons_self n _
      | some b =>
          rw [List.filterMap_cons_some kept, List.filterMap_cons_some (same a b kept), List.map_cons]
          exact ih.cons_cons _

theorem rawChips_numbers (hwmon : HwmonClass) : ((rawChips hwmon).map Raw.index).Nodup := by
  have listed := map_filterMap_sublist (f := rawChip) (g := hwmonIndex) (h := Raw.index) (by
    intro dir raw made
    unfold rawChip at made
    split at made
    · cases made
    · rename_i index found
      split at made
      · cases made
      · dsimp only at made
        split at made
        · cases made
        · cases made
          exact found) hwmon.dirs
  exact ((List.perm_insertionSort _ _).map Raw.index).nodup_iff.mpr (hwmon.distinct.sublist listed)

theorem rawZones_numbers (thermal : ThermalClass) :
    ((rawZones thermal).map RawZone.zoneIndex).Nodup := by
  have listed := map_filterMap_sublist (f := rawZone) (g := zoneIndex) (h := RawZone.zoneIndex) (by
    intro dir raw made
    unfold rawZone at made
    split at made
    · rename_i index text found _
      split at made
      · cases made
        exact found
      · cases made
    · cases made) thermal.dirs
  exact ((List.perm_insertionSort _ _).map RawZone.zoneIndex).nodup_iff.mpr
    (thermal.distinct.sublist listed)

theorem deviceNames_iff (hwmon : HwmonClass) :
    ((enumerateHwmon hwmon).map (·.name)).Nodup ↔
      Suffixes.Apart Raw.name Raw.index (rawChips hwmon) Shown := by
  rw [← Suffixes.named_distinct_iff (rawChips_numbers hwmon), enumerateHwmon, nameChips_eq,
    List.map_map, List.Nodup, List.pairwise_map, List.pairwise_filter]
  simp only [decide_eq_true_eq]
  rfl

theorem zoneLabels_iff (thermal : ThermalClass) :
    ((enumerateThermalZones thermal).map (·.safeLabel)).Nodup ↔
      Suffixes.Apart RawZone.baseSafeLabel RawZone.zoneIndex (rawZones thermal) fun _ => True := by
  rw [← Suffixes.named_distinct_iff (rawZones_numbers thermal), enumerateThermalZones,
    nameZones_eq, List.map_map, List.Nodup, List.pairwise_map]
  simp only [true_implies]
  rfl

end Chips

section Ids

variable {hwmon : HwmonClass} {thermal : ThermalClass} {device device' : HwmonDeviceInfo}

/-- A device is a chip with inputs, under its bare name or with its index. -/
theorem of_mem_enumerateHwmon (member : device ∈ enumerateHwmon hwmon) :
    ∃ raw ∈ rawChips hwmon, Shown raw ∧
      device.sensors = discoverSensors raw.dir device.name ∧
      (device.name = raw.name ∨ device.name = Suffixes.suffixed raw.name raw.index) := by
  rw [enumerateHwmon, nameChips_eq] at member
  obtain ⟨⟨raw, name⟩, kept, rfl⟩ := List.mem_map.mp member
  obtain ⟨named, shown⟩ := List.mem_filter.mp kept
  obtain ⟨front, back, whole, _⟩ := Suffixes.mem_named.mp named
  have filled : inputs raw.dir ≠ [] := of_decide_eq_true shown
  refine ⟨raw, whole ▸ List.mem_append_right front List.mem_cons_self, filled, rfl, ?_⟩
  rcases Suffixes.mem_named_iff.mp named with ⟨_, suffixed⟩ | ⟨_, bare⟩
  · exact .inr suffixed
  · exact .inl bare

theorem exists_device {raw : Raw} (member : raw ∈ rawChips hwmon) (shown : Shown raw) :
    ∃ device ∈ enumerateHwmon hwmon, device.sensors = discoverSensors raw.dir device.name ∧
      (device.name = raw.name ∨ device.name = Suffixes.suffixed raw.name raw.index) := by
  have listed : raw ∈ (Suffixes.named Raw.name Raw.index [] (rawChips hwmon)).map Prod.fst := by
    rw [Suffixes.map_fst_named]
    exact member
  obtain ⟨⟨raw, name⟩, named, rfl⟩ := List.mem_map.mp listed
  refine ⟨⟨name, discoverSensors raw.dir name⟩, ?_, rfl, ?_⟩
  · rw [enumerateHwmon, nameChips_eq]
    exact List.mem_map.mpr ⟨(raw, name), List.mem_filter.mpr ⟨named, decide_eq_true shown⟩, rfl⟩
  · rcases Suffixes.mem_named_iff.mp named with ⟨_, suffixed⟩ | ⟨_, bare⟩
    · exact .inr suffixed
    · exact .inl bare

theorem map_id_discoverSensors (dir : HwmonDir) (name : String) :
    (discoverSensors dir name).map (·.id) =
      ((inputs dir).map Input.tail).map fun tail => "hwmon." ++ name ++ "." ++ tail := by
  rw [discoverSensors, List.map_map, List.map_map]
  rfl

theorem tail_plain {dir : HwmonDir} {tail : String} (member : tail ∈ (inputs dir).map Input.tail) :
    '.' ∉ tail.toList ∧ tail.toList.any isWhitespace = false := by
  obtain ⟨input, inside, rfl⟩ := List.mem_map.mp member
  obtain ⟨file, read⟩ : ∃ file, readInput dir file = some input := by
    unfold inputs at inside
    split at inside
    · cases inside
    · obtain ⟨file, _, read⟩ := List.mem_filterMap.mp inside
      exact ⟨file, read⟩
  obtain ⟨typePrefix, known⟩ := of_readInput read
  obtain ⟨label, label_blank⟩ := safeLabel_plain input.label
  obtain ⟨suffix, suffix_blank⟩ := inputKind_plain known
  rw [Input.tail, String.toList_append]
  refine ⟨fun dot => ?_, ?_⟩
  · rcases List.mem_append.mp dot with front | back
    · exact label front
    · exact suffix back
  · rw [List.any_append, label_blank, suffix_blank]
    rfl

theorem hwmonId_inj {name name' tail tail' : String} (plain : '.' ∉ tail.toList)
    (plain' : '.' ∉ tail'.toList)
    (same : "hwmon." ++ name ++ "." ++ tail = "hwmon." ++ name' ++ "." ++ tail') :
    name = name' ∧ tail = tail' := by
  have chars := congrArg String.toList same
  simp only [String.toList_append, List.append_assoc] at chars
  have cut := Words.cut_last_inj plain plain' (List.append_cancel_left chars)
  exact ⟨String.toList_injective cut.1, String.toList_injective cut.2⟩

theorem suffixed_blank_iff (base : String) (n : Nat) :
    (Suffixes.suffixed base n).toList.any isWhitespace = base.toList.any isWhitespace := by
  have digits : (Nat.toDigits 10 n).any isWhitespace = false := by
    rw [List.any_eq_false]
    intro c member
    have digit := Nat.isDigit_of_mem_toDigits (by decide) (by decide) member
    simp [isWhitespace_of_isDigit digit]
  rw [Suffixes.toList_suffixed, List.any_append, List.any_cons, digits]
  simp [isWhitespace]

/-- An index brings no blank into a name. -/
theorem device_blank_iff {name : String} {raw : Raw}
    (named : name = raw.name ∨ name = Suffixes.suffixed raw.name raw.index) :
    name.toList.any isWhitespace = raw.name.toList.any isWhitespace := by
  rcases named with rfl | rfl
  · rfl
  · exact suffixed_blank_iff raw.name raw.index

/-- The ids of one chip are pairwise different where its inputs are told apart. -/
theorem ids_nodup_iff (dir : HwmonDir) (name : String) :
    ((discoverSensors dir name).map (·.id)).Nodup ↔ ((inputs dir).map Input.tail).Nodup := by
  rw [map_id_discoverSensors]
  constructor
  · exact List.Nodup.of_map _
  · intro tails
    refine tails.map_on fun tail inside tail' inside' same => ?_
    exact (hwmonId_inj (tail_plain inside).1 (tail_plain inside').1 same).2

/-- Ids of chips with different names are different. -/
theorem ids_disjoint (member : device ∈ enumerateHwmon hwmon)
    (member' : device' ∈ enumerateHwmon hwmon) (names : device.name ≠ device'.name) :
    (device.sensors.map (·.id)).Disjoint (device'.sensors.map (·.id)) := by
  intro id inside inside'
  obtain ⟨raw, _, _, sensors, _⟩ := of_mem_enumerateHwmon member
  obtain ⟨raw', _, _, sensors', _⟩ := of_mem_enumerateHwmon member'
  rw [sensors, map_id_discoverSensors] at inside
  rw [sensors', map_id_discoverSensors] at inside'
  obtain ⟨tail, known, rfl⟩ := List.mem_map.mp inside
  obtain ⟨tail', known', same⟩ := List.mem_map.mp inside'
  exact names (hwmonId_inj (tail_plain known').1 (tail_plain known).1 same).1.symm

theorem hwmonId_valid_iff {name tail : String} (plain : tail.toList.any isWhitespace = false) :
    SensorId.tryNew ("hwmon." ++ name ++ "." ++ tail) =
        .ok ⟨"hwmon." ++ name ++ "." ++ tail⟩ ↔ name.toList.any isWhitespace = false := by
  have text : ("hwmon." ++ name ++ "." ++ tail).toList =
      ['h', 'w', 'm', 'o', 'n', '.'] ++ (name.toList ++ '.' :: tail.toList) := by
    simp only [String.toList_append, List.append_assoc]
    rfl
  have front : ['h', 'w', 'm', 'o', 'n', '.'].any isWhitespace = false := by decide
  have dot : isWhitespace '.' = false := by decide
  rw [SensorId.tryNew_iff, text]
  simp only [List.any_append, List.any_cons, front, dot, plain, Bool.false_or, Bool.or_false]
  exact ⟨fun valid => valid.2, fun blank => ⟨List.cons_ne_nil _ _, blank⟩⟩

end Ids

section Zones

variable {thermal : ThermalClass} {zones : List ThermalZone} {zone : ThermalZone}

/-- Every label is made of the characters of a safe label and digits. -/
theorem zone_plain (member : zone ∈ enumerateThermalZones thermal) :
    zone.safeLabel.toList.any isWhitespace = false := by
  rw [enumerateThermalZones, nameZones_eq] at member
  obtain ⟨⟨raw, name⟩, named, rfl⟩ := List.mem_map.mp member
  rcases Suffixes.mem_named_iff.mp named with ⟨_, rfl⟩ | ⟨_, rfl⟩
  · rw [suffixed_blank_iff]
    exact (safeLabel_plain raw.label).2
  · exact (safeLabel_plain raw.label).2

theorem toList_zoneId (zone : ThermalZone) : zone.id.asStr.toList =
    "thermal.".toList ++ (zone.safeLabel.toList ++ ".temp_c".toList) := by
  simp only [ThermalZone.id, String.toList_append, List.append_assoc]

theorem zoneId_valid (member : zone ∈ enumerateThermalZones thermal) :
    SensorId.tryNew zone.id.asStr = .ok ⟨zone.id.asStr⟩ := by
  have front : "thermal.".toList.any isWhitespace = false := by decide +kernel
  have back : ".temp_c".toList.any isWhitespace = false := by decide +kernel
  rw [SensorId.tryNew_iff, toList_zoneId]
  refine ⟨?_, ?_⟩
  · exact List.append_ne_nil_of_left_ne_nil (by decide +kernel) _
  · rw [List.any_append, List.any_append, front, back, zone_plain member]
    rfl

theorem zoneId_inj {zone zone' : ThermalZone} (same : zone.id.asStr = zone'.id.asStr) :
    zone.safeLabel = zone'.safeLabel := by
  have chars := congrArg String.toList same
  rw [toList_zoneId, toList_zoneId] at chars
  exact String.toList_injective (List.append_cancel_right (List.append_cancel_left chars))

/-- A label stands for its zone in a snapshot. -/
theorem lookup_thermalSnapshot (labels : (zones.map (·.safeLabel)).Nodup) (member : zone ∈ zones)
    (read : SysPath → Except String String) :
    (thermalSnapshot zones read).lookup zone.safeLabel =
      (readU64 read zone.tempPath).map milliCelsius := by
  let entry := fun zone : ThermalZone =>
    (readU64 read zone.tempPath).map fun milli => (zone.safeLabel, milliCelsius milli)
  have inserted : thermalSnapshot zones read =
      (zones.filterMap entry).foldl (fun thermal e => thermal.insert e.1 e.2) ∅ := by
    rw [List.foldl_filterMap]
    refine congrArg (fun f => zones.foldl f ∅) ?_
    funext snapshot zone
    cases found : readU64 read zone.tempPath with
    | none => simp only [entry, found, Option.map_none]
    | some milli => simp only [entry, found, Option.map_some]
  have distinct : ((zones.filterMap entry).map Prod.fst).Nodup := by
    have listed := map_filterMap_sublist (f := entry) (g := fun zone => some zone.safeLabel)
      (h := Prod.fst) (by
        intro zone e made
        obtain ⟨milli, _, rfl⟩ := Option.map_eq_some_iff.mp made
        rfl) zones
    rw [List.filterMap_eq_map'] at listed
    exact labels.sublist listed
  ext temp
  rw [inserted, KeyMap.lookup_foldl_insert Prod.fst Prod.snd distinct]
  constructor
  · rintro (⟨e, made, same, rfl⟩ | ⟨_, nothing⟩)
    · obtain ⟨other, inside, found⟩ := List.mem_filterMap.mp made
      obtain ⟨milli, known, rfl⟩ := Option.map_eq_some_iff.mp found
      obtain rfl := List.inj_on_of_nodup_map labels inside member same
      rw [known]
      rfl
    · cases nothing
  · intro found
    obtain ⟨milli, known, rfl⟩ := Option.map_eq_some_iff.mp found
    refine .inl ⟨(zone.safeLabel, milliCelsius milli), ?_, rfl, rfl⟩
    exact List.mem_filterMap.mpr ⟨zone, member, by simp only [entry, known, Option.map_some]⟩

theorem sampleThermal_id (thermal : KeyMap String Value) (zone : ThermalZone) :
    sampleThermal thermal zone.id = some ((thermal.lookup zone.safeLabel).elim
      (.error (.unsupported zone.id.asStr)) fun temp => .ok (.scalar temp)) := by
  have ends : "thermal.".toList <+: zone.id.asStr.toList ∧ ".temp_c".toList <:+
      zone.id.asStr.toList := by
    rw [toList_zoneId]
    exact ⟨List.prefix_append _ _, by rw [← List.append_assoc]; exact List.suffix_append _ _⟩
  unfold sampleThermal
  dsimp only
  rw [if_pos ends, toList_zoneId, Words.stripPrefix_append, Option.bind_some,
    Words.stripSuffix_append, Option.map_some, String.ofList_toList]
  cases thermal.lookup zone.safeLabel <;> rfl

end Zones

section Whole

variable {hwmon : HwmonClass} {thermal : ThermalClass}

theorem told_of_separate (separate : Separate hwmon thermal) :
    Told (enumerateHwmon hwmon) (enumerateThermalZones thermal) := by
  have names := (deviceNames_iff hwmon).mpr separate.chips
  have labels := (zoneLabels_iff thermal).mpr separate.zones
  have ids : (allIds (enumerateHwmon hwmon) (enumerateThermalZones thermal)).Nodup := by
    refine List.nodup_append.mpr ⟨?_, ?_, ?_⟩
    · refine List.nodup_flatMap.mpr ⟨?_, ?_⟩
      · intro device member
        obtain ⟨raw, listed, _, sensors, _⟩ := of_mem_enumerateHwmon member
        rw [sensors, ids_nodup_iff]
        exact separate.labels raw listed
      · exact (List.pairwise_map.mp names).imp_of_mem fun inside inside' different =>
          ids_disjoint inside inside' different
    · have zones := List.Nodup.of_map (fun zone : ThermalZone => zone.safeLabel) labels
      exact zones.map_on fun zone inside zone' inside' same =>
        List.inj_on_of_nodup_map labels inside inside' (zoneId_inj same)
    · intro id inside other inside' same
      obtain ⟨device, chip, here⟩ := List.mem_flatMap.mp inside
      obtain ⟨raw, _, _, sensors, _⟩ := of_mem_enumerateHwmon chip
      rw [sensors, map_id_discoverSensors] at here
      obtain ⟨tail, _, rfl⟩ := List.mem_map.mp here
      obtain ⟨zone, _, rfl⟩ := List.mem_map.mp inside'
      have heads := congrArg (fun id => id.toList.head?) same
      rw [toList_zoneId] at heads
      simp only [String.toList_append] at heads
      cases heads
  refine ⟨names, labels, ids, ?_, ?_, ?_⟩
  · intro id member
    rcases List.mem_append.mp member with chip | zone
    · obtain ⟨device, inside, here⟩ := List.mem_flatMap.mp chip
      obtain ⟨raw, listed, shown, sensors, name⟩ := of_mem_enumerateHwmon inside
      rw [sensors, map_id_discoverSensors] at here
      obtain ⟨tail, known, rfl⟩ := List.mem_map.mp here
      rw [hwmonId_valid_iff (tail_plain known).2, device_blank_iff name, List.any_eq_false]
      exact fun c letter => by simp [separate.plain raw listed shown c letter]
    · obtain ⟨zone, inside, rfl⟩ := List.mem_map.mp zone
      exact zoneId_valid inside
  · intro device inside s here read
    have flat : (((enumerateHwmon hwmon).flatMap (·.sensors)).map (·.id)).Nodup := by
      rw [List.map_flatMap]
      exact (List.nodup_append.mp ids).1
    have found := Suffixes.find_name flat (List.mem_flatMap.mpr ⟨device, inside, here⟩)
    unfold sampleInner
    dsimp only
    rw [found]
  · intro zone member read
    rw [sampleThermal_id, lookup_thermalSnapshot labels member]
    cases readU64 read zone.tempPath <;> rfl

theorem separate_of_told (told : Told (enumerateHwmon hwmon) (enumerateThermalZones thermal)) :
    Separate hwmon thermal := by
  refine ⟨(deviceNames_iff hwmon).mp told.deviceNames, ?_, ?_,
    (zoneLabels_iff thermal).mp told.zoneLabels⟩
  · intro raw listed shown c letter
    obtain ⟨device, inside, sensors, name⟩ := exists_device listed shown
    obtain ⟨input, more, found⟩ := List.exists_cons_of_ne_nil shown
    have known : input.tail ∈ (inputs raw.dir).map Input.tail := by
      rw [found]
      exact List.mem_cons_self
    have valid := told.valid ("hwmon." ++ device.name ++ "." ++ input.tail) (by
      refine List.mem_append_left _ (List.mem_flatMap.mpr ⟨device, inside, ?_⟩)
      rw [sensors, map_id_discoverSensors]
      exact List.mem_map_of_mem known)
    rw [hwmonId_valid_iff (tail_plain known).2, device_blank_iff name, List.any_eq_false] at valid
    exact Bool.not_eq_true _ ▸ valid c letter
  · intro raw listed
    by_cases shown : Shown raw
    · obtain ⟨device, inside, sensors, _⟩ := exists_device listed shown
      rw [← ids_nodup_iff raw.dir device.name, ← sensors]
      exact (List.nodup_flatMap.mp (List.nodup_append.mp told.ids).1).1 device inside
    · have empty : inputs raw.dir = [] := not_not.mp shown
      rw [empty]
      exact List.nodup_nil

end Whole

/-- Exactly when the sensors of both plugins are told apart. -/
theorem names_told_iff (hwmon : HwmonClass) (thermal : ThermalClass) :
    Told (enumerateHwmon hwmon) (enumerateThermalZones thermal) ↔ Separate hwmon thermal :=
  ⟨separate_of_told, told_of_separate⟩

/-- A chip with one temperature. -/
def oneInput (dname name : String) : HwmonDir where
  parent := "/sys/class/hwmon"
  dname := dname
  files := some ["name", "temp1_input"]
  read file :=
    if file = "name" then .ok name
    else if file = "temp1_input" then .ok "40000\n"
    else .error "No such file or directory (os error 2)"

/-- A chip with one label on two inputs. -/
def oneLabel : HwmonDir where
  parent := "/sys/class/hwmon"
  dname := "hwmon0"
  files := some ["name", "temp1_input", "temp2_input", "temp1_label", "temp2_label"]
  read file :=
    if file = "name" then .ok "it8792\n"
    else if file = "temp1_label" ∨ file = "temp2_label" then .ok "CPU\n"
    else .ok "40000\n"

def zoneOf (dname typeText : String) : ZoneDir := ⟨"/sys/class/thermal", dname, .ok typeText, true⟩

/-- The third chip gets the name of the first one. -/
def collidedChips : HwmonClass :=
  ⟨[oneInput "hwmon0" "nvme_2\n", oneInput "hwmon1" "nvme\n", oneInput "hwmon2" "nvme\n"],
    by decide +kernel⟩

def collidedLabels : HwmonClass := ⟨[oneLabel], by decide +kernel⟩

def collidedZones : ThermalClass :=
  ⟨[zoneOf "thermal_zone0" "acpitz_2\n", zoneOf "thermal_zone1" "acpitz\n",
    zoneOf "thermal_zone2" "acpitz\n"], by decide +kernel⟩

def noChips : HwmonClass := ⟨[], List.nodup_nil⟩

def noZones : ThermalClass := ⟨[], List.nodup_nil⟩

theorem names_not_told :
    ¬ Told (enumerateHwmon collidedChips) (enumerateThermalZones noZones) ∧
    ¬ Told (enumerateHwmon collidedLabels) (enumerateThermalZones noZones) ∧
    ¬ Told (enumerateHwmon noChips) (enumerateThermalZones collidedZones) := by
  refine ⟨fun told => ?_, fun told => ?_, fun told => ?_⟩
  · have names : (enumerateHwmon collidedChips).map (·.name) = ["nvme_2", "nvme", "nvme_2"] := by
      decide +kernel
    have distinct := told.deviceNames
    rw [names] at distinct
    exact absurd distinct (by decide)
  · have ids : allIds (enumerateHwmon collidedLabels) (enumerateThermalZones noZones) =
        ["hwmon.it8792.cpu_temp_c", "hwmon.it8792.cpu_temp_c"] := by decide +kernel
    have distinct := told.ids
    rw [ids] at distinct
    exact absurd distinct (by decide)
  · have labels : (enumerateThermalZones collidedZones).map (·.safeLabel) =
        ["acpitz_2", "acpitz", "acpitz_2"] := by decide +kernel
    have distinct := told.zoneLabels
    rw [labels] at distinct
    exact absurd distinct (by decide)

end LinSight.Hwmon
