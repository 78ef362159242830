import LinSight.Gui.Dashboards

set_option autoImplicit false

/-! Saving a layout over the steps of the atomic write, and loading it. -/

namespace LinSight.Gui

/-- The step of `atomic_write_json` that fails. -/
inductive WriteFault where
  | createDirAll (e : String)
  | openTmp (e : String)
  | writeAll (e : String) (part : String)
  | syncAll (e : String)
  | rename (e : String)

/-- What a write meets: the process, its counter of temporary files and the failing step. -/
structure WriteEnv where
  pid : Nat
  counter : Nat
  fault : Option WriteFault

/-- `path.with_extension(format!("json.tmp.{pid}.{suffix}"))`. -/
def WriteEnv.tmp (env : WriteEnv) (slug : String) : String :=
  slug ++ ".json.tmp." ++ toString env.pid ++ "." ++ toString env.counter

/-- A failed write of the body leaves the temporary file behind, a failed rename removes it. -/
def atomicWriteJson (env : WriteEnv) (dir : Directory) (slug body : String) :
    Except String Unit × Directory :=
  let tmp := env.tmp slug
  match env.fault with
  | some (.createDirAll e) => (.error e, dir)
  | some (.openTmp e) => (.error e, dir)
  | fault =>
      if tmp ∈ dir then (.error "File exists", dir)
      else match fault with
        | some (.writeAll e part) => (.error e, dir.insert tmp part)
        | some (.syncAll e) => (.error e, dir.insert tmp body)
        | some (.rename e) => (.error e, dir)
        | _ => (.ok (), dir.insert (fileName slug) body)

section Saving

variable (serde : Serde) (layoutToString : List DashboardTile → String) (env : WriteEnv)
  (dir : Directory)

/-- `write_one` over the steps of its write. -/
def writeOneIn (d : DashboardFile) : Except String String × Directory :=
  match dashboardPath d.slug with
  | none => (.error "invalid slug", dir)
  | some path =>
      let (written, dir) := atomicWriteJson env dir d.slug (serde.toStringPretty d)
      (written.map fun _ => path, dir)

/-- `save_layout` over the steps of its write. -/
def saveLayoutIn (slug layoutJson now : String) : Except String String × Directory :=
  match dashboardPath slug with
  | none => (.error s!"save failed: invalid slug `{slug}`", dir)
  | some path =>
      match readOne serde dir path with
      | none => (.error s!"save failed: dashboard `{slug}` not found", dir)
      | some d =>
          match serde.layoutFromStr layoutJson with
          | .error e => (.error s!"save failed: invalid layout JSON: {e}", dir)
          | .ok layout =>
              match layoutError "save" layout with
              | some e => (.error e, dir)
              | none =>
                  failed "save" (writeOneIn serde env dir { d with layout, updatedAt := now })

def loadLayout (slug : String) : String :=
  match dashboardPath slug with
  | none => "[]"
  | some path =>
      match readOne serde dir path with
      | some d => layoutToString d.layout
      | none => "[]"

/-- A saved layout is what loading gives, and a save changes no other file and none if it fails.
A temporary file may stay behind. -/
def SaveKept (slug layoutJson now : String) : Prop :=
  match saveLayoutIn serde env dir slug layoutJson now with
  | (.ok _, next) =>
      (∀ layout, serde.layoutFromStr layoutJson = .ok layout →
        loadLayout serde layoutToString next slug = layoutToString layout) ∧
      ∀ file, file ≠ fileName slug → next.lookup file = dir.lookup file
  | (.error _, next) =>
      (∀ file ∈ dir, next.lookup file = dir.lookup file) ∧
      ∀ other, next.lookup (fileName other) = dir.lookup (fileName other)

/-- The dashboard of the requested file, the layout to save in it and a write that goes through. -/
structure GoesThrough (slug layoutJson : String) (d : DashboardFile)
    (layout : List DashboardTile) : Prop where
  requested : isValidSlug slug = true
  read : readOne serde dir (fileName slug) = some d
  parsed : serde.layoutFromStr layoutJson = .ok layout
  checked : layoutError "save" layout = none
  stored : isValidSlug d.slug = true
  flawless : env.fault = none
  unused : env.tmp d.slug ∉ dir

/-- What `load_layout` makes of a text. -/
def layoutOfText (text : String) : String :=
  match serde.fromStr text with
  | some d => layoutToString d.layout
  | none => "[]"

/-- Either the file carries its own slug and `serde_json` reads back what it writes, or nothing
is to be changed in the file of the slug inside. -/
def Settled (slug now : String) (d : DashboardFile) (layout : List DashboardTile) : Prop :=
  let text := serde.toStringPretty { d with layout, updatedAt := now }
  if d.slug = slug then layoutOfText serde layoutToString text = layoutToString layout
  else layoutToString d.layout = layoutToString layout ∧
    dir.lookup (fileName d.slug) = some text

end Saving

section

variable {serde : Serde} {layoutToString : List DashboardTile → String} {env : WriteEnv}
  {dir : Directory} {slug layoutJson now : String}

/-- Where no step fails, the write is the plain one. -/
theorem writeOneIn_eq {d : DashboardFile} (flawless : env.fault = none)
    (unused : env.tmp d.slug ∉ dir) : writeOneIn serde env dir d = writeOne serde dir d := by
  unfold writeOneIn writeOne
  cases resolved : dashboardPath d.slug with
  | none => rfl
  | some path =>
      obtain ⟨_, rfl⟩ := eq_fileName_of_dashboardPath resolved
      simp only [atomicWriteJson, flawless, unused, ↓reduceIte]
      rfl

theorem saveLayoutIn_eq (flawless : env.fault = none) (unused : ∀ inner, env.tmp inner ∉ dir) :
    saveLayoutIn serde env dir slug layoutJson now = saveLayout serde dir slug layoutJson now := by
  have plain (d : DashboardFile) : writeOneIn serde env dir d = writeOne serde dir d :=
    writeOneIn_eq flawless (unused d.slug)
  unfold saveLayoutIn saveLayout
  cases dashboardPath slug with
  | none => rfl
  | some path =>
      dsimp only
      cases readOne serde dir path with
      | none => rfl
      | some d =>
          dsimp only
          cases serde.layoutFromStr layoutJson with
          | error e => rfl
          | ok layout =>
              dsimp only
              cases layoutError "save" layout with
              | some e => rfl
              | none => simp only [plain]

/-- A temporary file ends in a digit. -/
theorem fileName_ne_tmp (env : WriteEnv) (other slug : String) : fileName other ≠ env.tmp slug := by
  intro same
  have texts := congrArg (fun text => text.toList.getLast?) same
  have some_digits : (Nat.toDigits 10 env.counter) ≠ [] := Nat.toDigits_ne_nil
  simp only [fileName, WriteEnv.tmp, String.toList_append, Nat.toString_eq_repr, Nat.toList_repr,
    List.getLast?_append_of_ne_nil _ some_digits, List.getLast?_eq_some_getLast some_digits]
    at texts
  have last : (Nat.toDigits 10 env.counter).getLast some_digits = 'n' := by
    have name : (other.toList ++ ".json".toList).getLast? = some 'n' := by simp
    rw [name] at texts
    exact (Option.some.inj texts).symm
  have digit := Nat.isDigit_of_mem_toDigits (by decide) (by decide) (List.getLast_mem some_digits)
  rw [last] at digit
  cases digit

/-- A directory as a failed write leaves it: with a new temporary file at most. -/
def LeftBehind (dir next : Directory) : Prop :=
  next = dir ∨ ∃ tmp text, (∀ other, fileName other ≠ tmp) ∧ tmp ∉ dir ∧ next = dir.insert tmp text

theorem atomicWriteJson_cases (env : WriteEnv) (dir : Directory) (slug body : String) :
    (env.fault = none ∧ env.tmp slug ∉ dir ∧
        atomicWriteJson env dir slug body = (.ok (), dir.insert (fileName slug) body)) ∨
      ¬ (env.fault = none ∧ env.tmp slug ∉ dir) ∧
        ∃ e next, atomicWriteJson env dir slug body = (.error e, next) ∧ LeftBehind dir next := by
  have apart (other : String) := fileName_ne_tmp env other slug
  by_cases used : env.tmp slug ∈ dir
  · refine .inr ⟨fun both => both.2 used, ?_⟩
    rcases stopped : env.fault with _ | ⟨e⟩ | ⟨e⟩ | ⟨e, part⟩ | ⟨e⟩ | ⟨e⟩
    all_goals simp only [atomicWriteJson, stopped, used, ↓reduceIte]
    all_goals exact ⟨_, dir, rfl, .inl rfl⟩
  · rcases stopped : env.fault with _ | ⟨e⟩ | ⟨e⟩ | ⟨e, part⟩ | ⟨e⟩ | ⟨e⟩
    all_goals simp only [atomicWriteJson, stopped, used, ↓reduceIte]
    · exact .inl ⟨trivial, not_false, trivial⟩
    · exact .inr ⟨fun both => (by cases both.1), e, dir, rfl, .inl rfl⟩
    · exact .inr ⟨fun both => (by cases both.1), e, dir, rfl, .inl rfl⟩
    · exact .inr ⟨fun both => (by cases both.1), e, _, rfl, .inr ⟨_, part, apart, used, rfl⟩⟩
    · exact .inr ⟨fun both => (by cases both.1), e, _, rfl, .inr ⟨_, body, apart, used, rfl⟩⟩
    · exact .inr ⟨fun both => (by cases both.1), e, dir, rfl, .inl rfl⟩

theorem writeOneIn_cases (serde : Serde) (env : WriteEnv) (dir : Directory) (d : DashboardFile) :
    (isValidSlug d.slug = true ∧ env.fault = none ∧ env.tmp d.slug ∉ dir ∧
        writeOneIn serde env dir d =
          (.ok (fileName d.slug), dir.insert (fileName d.slug) (serde.toStringPretty d))) ∨
      ¬ (isValidSlug d.slug = true ∧ env.fault = none ∧ env.tmp d.slug ∉ dir) ∧
        ∃ e next, writeOneIn serde env dir d = (.error e, next) ∧ LeftBehind dir next := by
  unfold writeOneIn
  cases resolved : dashboardPath d.slug with
  | none =>
      refine .inr ⟨fun all => ?_, _, dir, rfl, .inl rfl⟩
      rw [dashboardPath, if_pos all.1] at resolved
      cases resolved
  | some path =>
      obtain ⟨stored, rfl⟩ := eq_fileName_of_dashboardPath resolved
      rcases atomicWriteJson_cases env dir d.slug (serde.toStringPretty d) with
        ⟨flawless, unused, written⟩ | ⟨stopped, e, next, written, left⟩
      · refine .inl ⟨stored, flawless, unused, ?_⟩
        simp only [written]
        rfl
      · refine .inr ⟨fun all => stopped all.2, e, next, ?_, left⟩
        simp only [written]
        rfl

theorem LeftBehind.kept {next : Directory} (left : LeftBehind dir next) :
    (∀ file ∈ dir, next.lookup file = dir.lookup file) ∧
      ∀ other, next.lookup (fileName other) = dir.lookup (fileName other) := by
  rcases left with rfl | ⟨tmp, text, apart, unused, rfl⟩
  · exact ⟨fun _ _ => rfl, fun _ => rfl⟩
  · constructor
    · intro file present
      have other : file ≠ tmp := fun same => unused (same ▸ present)
      rw [AList.lookup_insert_ne other]
    · intro other
      rw [AList.lookup_insert_ne (apart other)]

/-- Either the save goes through to the file of the slug inside, or it fails. -/
theorem saveLayoutIn_cases (serde : Serde) (env : WriteEnv) (dir : Directory)
    (slug layoutJson now : String) :
    (∃ d layout, GoesThrough serde env dir slug layoutJson d layout ∧
        saveLayoutIn serde env dir slug layoutJson now =
          (.ok (fileName d.slug), dir.insert (fileName d.slug)
            (serde.toStringPretty { d with layout, updatedAt := now }))) ∨
      (∀ d layout, ¬ GoesThrough serde env dir slug layoutJson d layout) ∧
        ∃ e next, saveLayoutIn serde env dir slug layoutJson now = (.error e, next) ∧
          LeftBehind dir next := by
  unfold saveLayoutIn
  cases resolved : dashboardPath slug with
  | none =>
      refine .inr ⟨fun d layout through => ?_, _, dir, rfl, .inl rfl⟩
      rw [dashboardPath, if_pos through.requested] at resolved
      cases resolved
  | some path =>
      obtain ⟨requested, rfl⟩ := eq_fileName_of_dashboardPath resolved
      dsimp only
      cases read : readOne serde dir (fileName slug) with
      | none =>
          refine .inr ⟨fun d layout through => ?_, _, dir, rfl, .inl rfl⟩
          cases read.symm.trans through.read
      | some d =>
          dsimp only
          cases parsed : serde.layoutFromStr layoutJson with
          | error e =>
              refine .inr ⟨fun d layout through => ?_, _, dir, rfl, .inl rfl⟩
              cases parsed.symm.trans through.parsed
          | ok layout =>
              dsimp only
              have only {d' layout'} (through : GoesThrough serde env dir slug layoutJson d' layout') :
                  d' = d ∧ layout' = layout :=
                ⟨Option.some.inj (through.read.symm.trans read),
                  Except.ok.inj (through.parsed.symm.trans parsed)⟩
              cases checked : layoutError "save" layout with
              | some e =>
                  refine .inr ⟨fun d layout through => ?_, e, dir, rfl, .inl rfl⟩
                  cases checked.symm.trans ((only through).2 ▸ through.checked)
              | none =>
                  rcases writeOneIn_cases serde env dir { d with layout, updatedAt := now } with
                    ⟨stored, flawless, unused, written⟩ | ⟨stopped, e, next, written, left⟩
                  · refine .inl ⟨d, layout,
                      ⟨requested, read, parsed, checked, stored, flawless, unused⟩, ?_⟩
                    simp only [written]
                    rfl
                  · refine .inr ⟨fun d' layout' through => ?_, s!"save failed: {e}", next, ?_, left⟩
                    · have same := (only through).1
                      subst same
                      exact stopped ⟨through.stored, through.flawless, through.unused⟩
                    · simp only [written]
                      rfl

theorem loadLayout_insert (layoutToString : List DashboardTile → String)
    (requested : isValidSlug slug = true) (text : String) :
    loadLayout serde layoutToString (dir.insert (fileName slug) text) slug =
      layoutOfText serde layoutToString text := by
  have resolved : dashboardPath slug = some (fileName slug) := if_pos requested
  rw [loadLayout, resolved]
  simp only [readOne, AList.lookup_insert, Option.bind_some]
  rfl

theorem loadLayout_insert_ne (layoutToString : List DashboardTile → String) {d : DashboardFile}
    (requested : isValidSlug slug = true) (read : readOne serde dir (fileName slug) = some d)
    {file : String} (other : fileName slug ≠ file) (text : String) :
    loadLayout serde layoutToString (dir.insert file text) slug = layoutToString d.layout := by
  have resolved : dashboardPath slug = some (fileName slug) := if_pos requested
  have same : readOne serde (dir.insert file text) (fileName slug) = some d := by
    rw [readOne, AList.lookup_insert_ne other]
    exact read
  simp only [loadLayout, resolved, same]

end

/-- A save is read back and changes no other file exactly where the file that it goes to is
settled. -/
theorem saveKept_iff (serde : Serde) (layoutToString : List DashboardTile → String)
    (env : WriteEnv) (dir : Directory) (slug layoutJson now : String) :
    SaveKept serde layoutToString env dir slug layoutJson now ↔
      ∀ d layout, GoesThrough serde env dir slug layoutJson d layout →
        Settled serde layoutToString dir slug now d layout := by
  rcases saveLayoutIn_cases serde env dir slug layoutJson now with
    ⟨d, layout, through, saved⟩ | ⟨never, e, next, saved, left⟩
  · have only : (∀ d layout, GoesThrough serde env dir slug layoutJson d layout →
        Settled serde layoutToString dir slug now d layout) ↔
        Settled serde layoutToString dir slug now d layout := by
      refine ⟨fun all => all d layout through, fun settled d' layout' through' => ?_⟩
      cases through.read.symm.trans through'.read
      cases through.parsed.symm.trans through'.parsed
      exact settled
    have parses : (∀ parsed, serde.layoutFromStr layoutJson = .ok parsed →
        loadLayout serde layoutToString (dir.insert (fileName d.slug)
          (serde.toStringPretty { d with layout, updatedAt := now })) slug =
          layoutToString parsed) ↔
        loadLayout serde layoutToString (dir.insert (fileName d.slug)
          (serde.toStringPretty { d with layout, updatedAt := now })) slug =
          layoutToString layout := by
      refine ⟨fun all => all layout through.parsed, fun loaded parsed same => ?_⟩
      cases through.parsed.symm.trans same
      exact loaded
    rw [only]
    simp only [SaveKept, saved]
    rw [parses]
    unfold Settled
    by_cases own : d.slug = slug
    · dsimp only
      rw [if_pos own, own, loadLayout_insert layoutToString through.requested, and_iff_left]
      intro file other
      rw [AList.lookup_insert_ne other]
    · have other : fileName slug ≠ fileName d.slug := fun same => own (fileName_injective same).symm
      dsimp only
      rw [if_neg own, loadLayout_insert_ne layoutToString through.requested through.read other]
      refine and_congr_right fun _ => ⟨fun kept => ?_, fun stored file _ => ?_⟩
      · rw [← kept _ other.symm, AList.lookup_insert]
      · by_cases inner : file = fileName d.slug
        · rw [inner, AList.lookup_insert, stored]
        · rw [AList.lookup_insert_ne inner]
  · refine iff_of_true ?_ fun d layout through => absurd through (never d layout)
    simp only [SaveKept, saved]
    exact left.kept

def tileJson : String :=
  "[\x7b\"id\":\"cpu.util\",\"x\":0,\"y\":0,\"w\":2,\"h\":1,\"options\":null\x7d]"

def utilTile : DashboardTile := ⟨"cpu.util", 0, 0, 2, 1, .null⟩

def gpuTileText : String :=
  "\x7b\n  \"schema_version\": 1,\n  \"name\": \"GPU\",\n  \"slug\": \"gpu\",\n  \"layout\": [\n    \x7b\n      \"id\": \"cpu.util\",\n      \"x\": 0,\n      \"y\": 0,\n      \"w\": 2,\n      \"h\": 1,\n      \"options\": null\n    \x7d\n  ],\n  \"created_at\": \"\",\n  \"updated_at\": \"\"\n\x7d"

/-- A `serde_json` for one dashboard with and without its tile. -/
def oneTile : Serde where
  toStringPretty d := if d.layout.isEmpty then gpuText else gpuTileText
  fromStr raw :=
    if raw = gpuText then some ⟨1, "GPU", "gpu", [], "", ""⟩
    else if raw = gpuTileText then some ⟨1, "GPU", "gpu", [utilTile], "", ""⟩
    else none
  valueFromStr _ := .error "expected value"
  layoutFromStr raw := if raw = tileJson then .ok [utilTile] else .error "expected value"
  layoutFromValue _ := .error "expected value"
  slugOf _ := some "gpu"

/-- The file of the dashboard `gpu`, copied by hand to `cpu.json`. -/
def copiedFile : Directory := AList.insert (fileName "cpu") gpuText ∅

/-- What `load_layout` says is still the old layout. -/
theorem saveKept_copied :
    ¬ SaveKept oneTile (fun layout => if layout.isEmpty then "[]" else tileJson) ⟨1, 0, none⟩
      copiedFile "cpu" tileJson "" := by
  intro kept
  have parsed : oneTile.layoutFromStr tileJson = .ok [utilTile] := by
    simp only [oneTile, ↓reduceIte]
  have through : (saveLayoutIn oneTile ⟨1, 0, none⟩ copiedFile "cpu" tileJson "").1.toOption =
      some "gpu.json" := by decide +kernel
  have old : loadLayout oneTile (fun layout => if layout.isEmpty then "[]" else tileJson)
      (saveLayoutIn oneTile ⟨1, 0, none⟩ copiedFile "cpu" tileJson "").2 "cpu" = "[]" := by
    decide +kernel
  unfold SaveKept at kept
  cases saved : saveLayoutIn oneTile ⟨1, 0, none⟩ copiedFile "cpu" tileJson "" with
  | mk outcome next =>
      rw [saved] at kept through old
      cases outcome with
      | error e => cases through
      | ok path =>
          have loaded := kept.1 [utilTile] parsed
          rw [old] at loaded
          exact absurd loaded (by decide)

end LinSight.Gui
