import LinSight.Library.KeyMap
import LinSight.Library.Run
import LinSight.Gui.Slugs

set_option autoImplicit false

/-! The dashboards directory: one file for each dashboard, named by its slug. `serde_json` is a
parameter, and so is the clock. -/

namespace LinSight.Gui

inductive Json where
  | null
  | bool (value : Bool)
  | number (text : String)
  | string (text : String)
  | array (items : List Json)
  | object (members : List (String × Json))

def Json.get (field : String) : Json → Option Json
  | .object members => members.lookup field
  | _ => none

def Json.asStr : Json → Option String
  | .string text => some text
  | _ => none

structure DashboardTile where
  id : String
  x : Int32
  y : Int32
  w : Int32
  h : Int32
  options : Json

structure DashboardFile where
  schemaVersion : Nat
  name : String
  slug : String
  layout : List DashboardTile
  createdAt : String
  updatedAt : String

def defaultSchemaVersion : Nat := 1

/-- What the model uses of `serde_json`. -/
structure Serde where
  toStringPretty : DashboardFile → String
  fromStr : String → Option DashboardFile
  valueFromStr : String → Except String Json
  layoutFromStr : String → Except String (List DashboardTile)
  layoutFromValue : Json → Except String (List DashboardTile)
  /-- The member `slug` of a text that is an object. -/
  slugOf : String → Option String

/-- The member `slug` of a text is what is written there and what is read from there. -/
structure Serde.Faithful (serde : Serde) : Prop where
  written : ∀ d, serde.slugOf (serde.toStringPretty d) = some d.slug
  read : ∀ raw d, serde.fromStr raw = some d → serde.slugOf raw = some d.slug

/-- File names and what is in the files. -/
abbrev Directory := KeyMap String String

def fileName (slug : String) : String := slug ++ ".json"

def dashboardPath (slug : String) : Option String :=
  if isValidSlug slug then some (fileName slug) else none

structure ReservedDashboardFile where
  slug : String
  path : String

def slugCandidate (base : String) (i : Nat) : String :=
  if i = 0 then base else base ++ "-" ++ toString (i + 1)

/-- `create_new` makes an empty file. -/
def allocateUniqueSlug (dir : Directory) (base : String) :
    Except String (ReservedDashboardFile × Directory) :=
  if !isValidSlug base then .error "invalid slug base"
  else
    let found := (List.range 99).findSome? fun i =>
      let candidate := slugCandidate base i
      if !isValidSlug candidate then none
      else if fileName candidate ∈ dir then none
      else some candidate
    match found with
    | some candidate =>
        .ok (⟨candidate, fileName candidate⟩, dir.insert (fileName candidate) "")
    | none => .error "too many similarly-named dashboards"

section Operations

variable (serde : Serde) (hash : String → UInt64) (dir : Directory)

def readOne (path : String) : Option DashboardFile := (dir.lookup path).bind serde.fromStr

def writeOne (d : DashboardFile) : Except String String × Directory :=
  match dashboardPath d.slug with
  | none => (.error "invalid slug", dir)
  | some path => (.ok path, dir.insert path (serde.toStringPretty d))

def writeReservedDashboardFile (reservation : ReservedDashboardFile) (d : DashboardFile) :
    Except String String × Directory :=
  if d.slug ≠ reservation.slug then
    (.error "reserved slug does not match dashboard slug", dir.erase reservation.path)
  else (.ok reservation.path, dir.insert reservation.path (serde.toStringPretty d))

/-- Reserve a slug for `base` and write the dashboard that `build` makes for it. -/
def writeNew (base : String) (build : String → DashboardFile) :
    Except String String × Directory :=
  match allocateUniqueSlug dir base with
  | .error e => (.error e, dir)
  | .ok (reservation, dir) =>
      let (written, dir) :=
        writeReservedDashboardFile serde dir reservation (build reservation.slug)
      (written.map fun _ => reservation.slug, dir)

def renameDashboardFile (oldSlug newName now : String) : Except String String × Directory :=
  match dashboardPath oldSlug with
  | none => (.error s!"invalid slug `{oldSlug}`", dir)
  | some oldPath =>
      match readOne serde dir oldPath with
      | none => (.error s!"dashboard `{oldSlug}` not found", dir)
      | some d =>
          let base := deriveSlug hash newName
          if base = oldSlug then
            let (written, dir) := writeOne serde dir { d with name := newName, updatedAt := now }
            (written.map fun _ => oldSlug, dir)
          else
            let (written, dir) := writeNew serde dir base fun newSlug =>
              { d with name := newName, slug := newSlug, updatedAt := now }
            match written with
            | .error e => (.error e, dir)
            | .ok newSlug => (.ok newSlug, dir.erase oldPath)

def duplicateDashboardFile (slug now : String) : Except String String × Directory :=
  match dashboardPath slug with
  | none => (.error s!"invalid slug `{slug}`", dir)
  | some src =>
      match readOne serde dir src with
      | none => (.error s!"dashboard `{slug}` not found", dir)
      | some d =>
          let name := d.name ++ " (copy)"
          writeNew serde dir (deriveSlug hash name) fun newSlug =>
            ⟨defaultSchemaVersion, name, newSlug, d.layout, now, now⟩

/-- `report_err` behind the name of the operation. -/
def failed (operation : String) (result : Except String String × Directory) :
    Except String String × Directory :=
  (result.1.mapError fun e => s!"{operation} failed: {e}", result.2)

def create (name now : String) : Except String String × Directory :=
  failed "create" (writeNew serde dir (deriveSlug hash name) fun slug =>
    ⟨defaultSchemaVersion, name, slug, [], now, now⟩)

def rename (slug newName now : String) : Except String String × Directory :=
  failed "rename" (renameDashboardFile serde hash dir slug newName now)

def duplicate (slug now : String) : Except String String × Directory :=
  failed "duplicate" (duplicateDashboardFile serde hash dir slug now)

def remove (slug : String) : Except String Bool × Directory :=
  match dashboardPath slug with
  | none => (.error s!"remove rejected: invalid slug `{slug}`", dir)
  | some path => (.ok (path ∈ dir), dir.erase path)

/-- The check of a layout that comes from outside. -/
def tileError (operation : String) (i : Nat) : DashboardTile → Option String
  | ⟨id, x, y, w, h, _⟩ =>
      if id.isEmpty then some s!"{operation} failed: tile {i} has empty id"
      else if w ≤ 0 ∨ h ≤ 0 ∨ x < 0 ∨ y < 0 then
        some s!"{operation} failed: tile {i} `{id}` has invalid geometry ({w}x{h} @ {x},{y})"
      else none

def layoutError (operation : String) (layout : List DashboardTile) : Option String :=
  layout.zipIdx.findSome? fun (tile, i) => tileError operation i tile

def saveLayout (slug layoutJson now : String) : Except String String × Directory :=
  match dashboardPath slug with
  | none => (.error s!"save failed: invalid slug `{slug}`", dir)
  | some path =>
      match readOne serde dir path with
      | none => (.error s!"save failed: dashboard `{slug}` not found", dir)
      | some d =>
          match serde.layoutFromStr layoutJson with
          | .error e => (.error s!"save failed: invalid layout JSON: {e}", dir)
          | .ok layout =>
              match layoutError "save" layout with
              | some e => (.error e, dir)
              | none => failed "save" (writeOne serde dir { d with layout, updatedAt := now })

/-- The name and the layout of an exported dashboard. -/
def parseImport (raw : Except String String) : Except String (String × List DashboardTile) := do
  let raw ← raw.mapError fun e => s!"import failed: {e}"
  let parsed ← (serde.valueFromStr raw).mapError fun e => s!"import failed: invalid JSON: {e}"
  let named := ((parsed.get "name").bind Json.asStr).filter fun name => !name.isEmpty
  let some name := named | .error "import failed: missing or empty name"
  let some value := parsed.get "layout" | .error "import failed: missing layout"
  let layout ← (serde.layoutFromValue value).mapError fun e =>
    s!"import failed: invalid layout: {e}"
  match layoutError "import" layout with
  | some e => .error e
  | none => .ok (name, layout)

/-- `raw` is what reading the file gives, which may be any file. -/
def importDashboard (raw : Except String String) (now : String) :
    Except String String × Directory :=
  match parseImport serde raw with
  | .error e => (.error e, dir)
  | .ok (name, layout) =>
      failed "import" (writeNew serde dir (deriveSlug hash name) fun slug =>
        ⟨defaultSchemaVersion, name, slug, layout, now, now⟩)

inductive DashboardCall where
  | create (name now : String)
  | duplicate (slug now : String)
  | rename (slug newName now : String)
  | importDashboard (raw : Except String String) (now : String)
  | saveLayout (slug layoutJson now : String)
  | remove (slug : String)

/-- The dashboard that a call may change. -/
def DashboardCall.target : DashboardCall → Option String
  | .create _ _ | .duplicate _ _ | .importDashboard _ _ => none
  | .rename slug _ _ | .saveLayout slug _ _ | .remove slug => some slug

/-- What a call leaves in the directory. -/
def perform : DashboardCall → Directory
  | .create name now => (create serde hash dir name now).2
  | .duplicate slug now => (duplicate serde hash dir slug now).2
  | .rename slug newName now => (rename serde hash dir slug newName now).2
  | .importDashboard raw now => (importDashboard serde hash dir raw now).2
  | .saveLayout slug layoutJson now => (saveLayout serde dir slug layoutJson now).2
  | .remove slug => (remove dir slug).2

def dashboardStep (call : DashboardCall) : Option Directory := some (perform serde hash dir call)

end Operations

/-- Every file has its name from the slug inside it. -/
def Directory.Named (serde : Serde) (dir : Directory) : Prop :=
  ∀ file text, dir.lookup file = some text →
    ∃ slug, serde.slugOf text = some slug ∧ isValidSlug slug = true ∧ file = fileName slug

/-- What a call with a given target can do to the directory. -/
inductive Change (serde : Serde) (dir : Directory) : Option String → Directory → Prop
  | unchanged (target : Option String) : Change serde dir target dir
  | added (target : Option String) (d : DashboardFile) (valid : isValidSlug d.slug = true)
      (fresh : fileName d.slug ∉ dir) :
      Change serde dir target (dir.insert (fileName d.slug) (serde.toStringPretty d))
  | rewritten (d : DashboardFile) (valid : isValidSlug d.slug = true) :
      Change serde dir (some d.slug) (dir.insert (fileName d.slug) (serde.toStringPretty d))
  | moved (old : String) (d : DashboardFile) (valid : isValidSlug d.slug = true)
      (fresh : fileName d.slug ∉ dir) :
      Change serde dir (some old)
        ((dir.insert (fileName d.slug) (serde.toStringPretty d)).erase (fileName old))
  | removed (slug : String) : Change serde dir (some slug) (dir.erase (fileName slug))

@[simp] theorem failed_snd (operation : String) (result : Except String String × Directory) :
    (failed operation result).2 = result.2 := rfl

theorem fileName_injective {first second : String} (same : fileName first = fileName second) :
    first = second := by
  have texts := congrArg String.toList same
  simp only [fileName, String.toList_append, List.append_cancel_right_eq] at texts
  exact String.toList_inj.mp texts

theorem eq_fileName_of_dashboardPath {slug path : String}
    (resolved : dashboardPath slug = some path) :
    isValidSlug slug = true ∧ path = fileName slug := by
  unfold dashboardPath at resolved
  split at resolved
  · rename_i valid
    exact ⟨valid, (Option.some.inj resolved).symm⟩
  · cases resolved

section Changes

variable {serde : Serde} {dir next : Directory} {target : Option String}

theorem Directory.Named.insert (named : dir.Named serde) (faithful : serde.Faithful)
    {d : DashboardFile} (valid : isValidSlug d.slug = true) :
    Directory.Named serde (dir.insert (fileName d.slug) (serde.toStringPretty d)) := by
  intro file text stored
  rw [KeyMap.lookup_insert_eq] at stored
  by_cases same : file = fileName d.slug
  · rw [if_pos same, Option.some.injEq] at stored
    exact ⟨d.slug, stored ▸ faithful.written d, valid, same⟩
  · rw [if_neg same] at stored
    exact named file text stored

theorem Directory.Named.erase (named : dir.Named serde) (path : String) :
    Directory.Named serde (dir.erase path) := by
  intro file text stored
  rw [KeyMap.lookup_erase_eq] at stored
  by_cases same : file = path
  · rw [if_pos same] at stored
    cases stored
  · rw [if_neg same] at stored
    exact named file text stored

theorem Change.named (change : Change serde dir target next) (faithful : serde.Faithful)
    (named : dir.Named serde) : next.Named serde := by
  cases change with
  | unchanged => exact named
  | added _ d valid fresh => exact named.insert faithful valid
  | rewritten d valid => exact named.insert faithful valid
  | moved old d valid fresh => exact (named.insert faithful valid).erase _
  | removed slug => exact named.erase _

/-- A change leaves every dashboard but its target's alone. -/
theorem Change.kept (change : Change serde dir target next) {file text : String}
    (stored : dir.lookup file = some text) (other : ∀ slug ∈ target, file ≠ fileName slug) :
    next.lookup file = some text := by
  have distinct {path : String} (fresh : path ∉ dir) : file ≠ path := by
    rintro rfl
    exact fresh (KeyMap.mem_of_lookup stored)
  cases change with
  | unchanged => exact stored
  | added _ d valid fresh => rw [KeyMap.lookup_insert_eq, if_neg (distinct fresh), stored]
  | rewritten d valid => rw [KeyMap.lookup_insert_eq, if_neg (other d.slug rfl), stored]
  | moved old d valid fresh =>
      rw [KeyMap.lookup_erase_eq, if_neg (other old rfl), KeyMap.lookup_insert_eq,
        if_neg (distinct fresh), stored]
  | removed slug => rw [KeyMap.lookup_erase_eq, if_neg (other slug rfl), stored]

/-- In a directory with names from slugs, a dashboard is read under its own slug. -/
theorem readOne_slug (named : dir.Named serde) (faithful : serde.Faithful) {slug : String}
    {d : DashboardFile} (read : readOne serde dir (fileName slug) = some d) : d.slug = slug := by
  obtain ⟨text, stored, parsed⟩ := Option.bind_eq_some_iff.mp read
  obtain ⟨inner, found, _, same⟩ := named _ _ stored
  have slugs := found.symm.trans (faithful.read text d parsed)
  rw [fileName_injective same]
  exact (Option.some.inj slugs).symm

theorem allocateUniqueSlug_fresh {base : String} {reservation : ReservedDashboardFile}
    (reserved : allocateUniqueSlug dir base = .ok (reservation, next)) :
    isValidSlug reservation.slug = true ∧ reservation.path = fileName reservation.slug ∧
      reservation.path ∉ dir ∧ next = dir.insert reservation.path "" := by
  unfold allocateUniqueSlug at reserved
  split at reserved
  · cases reserved
  · dsimp only at reserved
    split at reserved
    · rename_i candidate found
      cases reserved
      obtain ⟨i, _, picked⟩ := List.exists_of_findSome?_eq_some found
      split at picked
      · cases picked
      · rename_i valid
        split at picked
        · cases picked
        · rename_i fresh
          cases picked
          exact ⟨by simpa using valid, rfl, fresh, rfl⟩
    · cases reserved

/-- A dashboard under a new slug does not overwrite one that is there. -/
theorem writeNew_spec (serde : Serde) (dir : Directory) (base : String) {build : String → DashboardFile}
    (keeps : ∀ slug, (build slug).slug = slug) :
    ((writeNew serde dir base build).2 = dir ∧
        ∃ e, (writeNew serde dir base build).1 = .error e) ∨
      ∃ d, isValidSlug d.slug = true ∧ fileName d.slug ∉ dir ∧
        writeNew serde dir base build =
          (.ok d.slug, dir.insert (fileName d.slug) (serde.toStringPretty d)) := by
  unfold writeNew
  cases reserved : allocateUniqueSlug dir base with
  | error e => exact .inl ⟨rfl, e, rfl⟩
  | ok result =>
      obtain ⟨⟨slug, path⟩, occupied⟩ := result
      obtain ⟨valid, named, fresh, rfl⟩ := allocateUniqueSlug_fresh reserved
      dsimp only at valid named fresh
      subst named
      have same : (build slug).slug = slug := keeps slug
      refine .inr ⟨build slug, by rw [same]; exact valid, by rw [same]; exact fresh, ?_⟩
      simp only [writeReservedDashboardFile, same, ne_eq, not_true_eq_false, ↓reduceIte,
        Except.map, AList.insert_insert]

theorem writeNew_change (base : String) {build : String → DashboardFile}
    (keeps : ∀ slug, (build slug).slug = slug) :
    Change serde dir target (writeNew serde dir base build).2 := by
  rcases writeNew_spec serde dir base keeps with ⟨same, _⟩ | ⟨d, valid, fresh, made⟩
  · rw [same]
    exact .unchanged target
  · rw [made]
    exact .added target d valid fresh

/-- Writing a dashboard back where it was read. -/
theorem writeOne_change {d : DashboardFile} :
    Change serde dir (some d.slug) (writeOne serde dir d).2 := by
  unfold writeOne
  cases resolved : dashboardPath d.slug with
  | none => exact .unchanged _
  | some path =>
      obtain ⟨valid, rfl⟩ := eq_fileName_of_dashboardPath resolved
      exact .rewritten d valid

theorem rename_change (named : dir.Named serde) (faithful : serde.Faithful)
    (hash : String → UInt64) (oldSlug newName now : String) :
    Change serde dir (some oldSlug)
      (renameDashboardFile serde hash dir oldSlug newName now).2 := by
  unfold renameDashboardFile
  cases resolved : dashboardPath oldSlug with
  | none => exact .unchanged _
  | some oldPath =>
      obtain ⟨_, rfl⟩ := eq_fileName_of_dashboardPath resolved
      dsimp only
      cases read : readOne serde dir (fileName oldSlug) with
      | none => exact .unchanged _
      | some d =>
          dsimp only
          split
          · have same : d.slug = oldSlug := readOne_slug named faithful read
            rw [← same]
            exact writeOne_change (d := { d with name := newName, updatedAt := now })
          · generalize moved : (fun newSlug =>
              ({ d with name := newName, slug := newSlug, updatedAt := now } : DashboardFile)) = build
            have keeps : ∀ slug, (build slug).slug = slug := fun slug => by rw [← moved]
            rcases writeNew_spec serde dir (deriveSlug hash newName) keeps with
              ⟨same, e, failure⟩ | ⟨d', valid, fresh, made⟩
            · simp only [failure, same]
              exact .unchanged _
            · simp only [made]
              exact .moved oldSlug d' valid fresh

theorem duplicate_change (hash : String → UInt64) (slug now : String) :
    Change serde dir target (duplicateDashboardFile serde hash dir slug now).2 := by
  unfold duplicateDashboardFile
  cases dashboardPath slug with
  | none => exact .unchanged _
  | some src =>
      dsimp only
      cases readOne serde dir src with
      | none => exact .unchanged _
      | some d => exact writeNew_change _ fun _ => rfl

theorem remove_change (slug : String) : Change serde dir (some slug) (remove dir slug).2 := by
  unfold remove
  cases resolved : dashboardPath slug with
  | none => exact .unchanged _
  | some path =>
      obtain ⟨_, rfl⟩ := eq_fileName_of_dashboardPath resolved
      exact .removed slug

theorem saveLayout_change (named : dir.Named serde) (faithful : serde.Faithful)
    (slug layoutJson now : String) :
    Change serde dir (some slug) (saveLayout serde dir slug layoutJson now).2 := by
  unfold saveLayout
  cases resolved : dashboardPath slug with
  | none => exact .unchanged _
  | some path =>
      obtain ⟨_, rfl⟩ := eq_fileName_of_dashboardPath resolved
      dsimp only
      cases read : readOne serde dir (fileName slug) with
      | none => exact .unchanged _
      | some d =>
          dsimp only
          cases serde.layoutFromStr layoutJson with
          | error e => exact .unchanged _
          | ok layout =>
              dsimp only
              cases layoutError "save" layout with
              | some e => exact .unchanged _
              | none =>
                  simp only [failed_snd]
                  have same : d.slug = slug := readOne_slug named faithful read
                  rw [← same]
                  exact writeOne_change (d := { d with layout, updatedAt := now })

theorem import_change (hash : String → UInt64) (raw : Except String String) (now : String) :
    Change serde dir target (importDashboard serde hash dir raw now).2 := by
  unfold importDashboard
  cases parseImport serde raw with
  | error e => exact .unchanged _
  | ok parsed =>
      simp only [failed_snd]
      exact writeNew_change _ fun _ => rfl

/-- What a call does to the directory, whatever it returns. -/
theorem perform_change (named : dir.Named serde) (faithful : serde.Faithful)
    (hash : String → UInt64) (call : DashboardCall) :
    Change serde dir call.target (perform serde hash dir call) := by
  cases call with
  | create name now =>
      simp only [perform, create, failed_snd]
      exact writeNew_change _ fun _ => rfl
  | duplicate slug now =>
      simp only [perform, duplicate, failed_snd]
      exact duplicate_change hash slug now
  | rename slug newName now =>
      simp only [perform, rename, failed_snd]
      exact rename_change named faithful hash slug newName now
  | importDashboard raw now => exact import_change hash raw now
  | saveLayout slug layoutJson now => exact saveLayout_change named faithful slug layoutJson now
  | remove slug => exact remove_change slug

theorem named_of_reaches (faithful : serde.Faithful) {hash : String → UInt64}
    (reached : Run.Reaches (dashboardStep serde hash) ∅ dir) : dir.Named serde := by
  refine reached.invariant ?_ (fun file text stored => ?_)
  · intro dir call next taken named
    rw [← Option.some.inj taken]
    exact (perform_change named faithful hash call).named faithful named
  · rw [AList.lookup_empty] at stored
    cases stored

end Changes

/-- After any calls every file is named by its slug, which is valid and no other file's, and
the next call changes no dashboard but the one that it names. -/
theorem dashboards_kept (serde : Serde) (hash : String → UInt64) (faithful : serde.Faithful)
    {dir : Directory} (reached : Run.Reaches (dashboardStep serde hash) ∅ dir) :
    (∀ file text, dir.lookup file = some text → ∃ slug,
        serde.slugOf text = some slug ∧ isValidSlug slug = true ∧ file = fileName slug) ∧
      (∀ file₁ file₂ text₁ text₂, dir.lookup file₁ = some text₁ → dir.lookup file₂ = some text₂ →
        serde.slugOf text₁ = serde.slugOf text₂ → file₁ = file₂) ∧
      ∀ (call : DashboardCall) (file text : String), dir.lookup file = some text →
        (∀ slug ∈ call.target, file ≠ fileName slug) →
          (perform serde hash dir call).lookup file = some text := by
  have named := named_of_reaches faithful reached
  refine ⟨named, ?_, ?_⟩
  · intro file₁ file₂ text₁ text₂ stored₁ stored₂ same
    obtain ⟨slug₁, slug_one, _, rfl⟩ := named _ _ stored₁
    obtain ⟨slug₂, slug_two, _, rfl⟩ := named _ _ stored₂
    rw [slug_one, slug_two, Option.some.injEq] at same
    rw [same]
  · intro call file text stored other
    exact (perform_change named faithful hash call).kept stored other

def cpuText : String :=
  "\x7b\n  \"schema_version\": 1,\n  \"name\": \"CPU\",\n  \"slug\": \"cpu\",\n  \"layout\": [],\n  \"created_at\": \"\",\n  \"updated_at\": \"\"\n\x7d"

def gpuText : String :=
  "\x7b\n  \"schema_version\": 1,\n  \"name\": \"GPU\",\n  \"slug\": \"gpu\",\n  \"layout\": [],\n  \"created_at\": \"\",\n  \"updated_at\": \"\"\n\x7d"

/-- A `serde_json` for two dashboards without tiles. -/
def twoDashboards : Serde where
  toStringPretty d :=
    if d.slug = "cpu" then cpuText
    else if d.slug = "gpu" then gpuText
    else String.ofList (' ' :: d.slug.toList)
  fromStr raw :=
    if raw = cpuText then some ⟨1, "CPU", "cpu", [], "", ""⟩
    else if raw = gpuText then some ⟨1, "GPU", "gpu", [], "", ""⟩
    else none
  valueFromStr _ := .error "expected value"
  layoutFromStr _ := .error "expected value"
  layoutFromValue _ := .error "expected value"
  slugOf raw :=
    if raw = cpuText then some "cpu"
    else if raw = gpuText then some "gpu"
    else some (String.ofList raw.toList.tail)

theorem gpuText_ne : gpuText ≠ cpuText := by simp [gpuText, cpuText]

theorem twoDashboards_faithful : twoDashboards.Faithful where
  written d := by
    have apart (text : String) (other : text.toList.head? ≠ some ' ') :
        String.ofList (' ' :: d.slug.toList) ≠ text := by
      rintro rfl
      rw [String.toList_ofList, List.head?_cons] at other
      exact other rfl
    have cpuApart := apart cpuText (by simp [cpuText])
    have gpuApart := apart gpuText (by simp [gpuText])
    simp only [twoDashboards]
    by_cases cpu : d.slug = "cpu"
    · simp only [cpu, ↓reduceIte]
    · by_cases gpu : d.slug = "gpu"
      · have other : ¬ "gpu" = "cpu" := by simp
        simp only [gpu, other, gpuText_ne, ↓reduceIte]
      · simp only [cpu, gpu, cpuApart, gpuApart, ↓reduceIte, String.toList_ofList,
          List.tail_cons, String.ofList_toList]
  read raw d parsed := by
    simp only [twoDashboards] at parsed ⊢
    split at parsed
    · rename_i cpu
      cases parsed
      simp only [cpu, ↓reduceIte]
    · split at parsed
      · rename_i gpu
        cases parsed
        simp only [gpu, gpuText_ne, ↓reduceIte]
      · cases parsed

theorem dashboards_kept_renamed :
    ∃ dir, Run.Reaches (dashboardStep twoDashboards fun _ => 0) ∅ dir ∧
      dir.lookup "gpu.json" = some gpuText ∧
      ∀ (call : DashboardCall) (file text : String), dir.lookup file = some text →
        (∀ slug ∈ call.target, file ≠ fileName slug) →
          (perform twoDashboards (fun _ => 0) dir call).lookup file = some text := by
  have reached : Run.Reaches (dashboardStep twoDashboards fun _ => 0) ∅
      (perform twoDashboards (fun _ => 0)
        (perform twoDashboards (fun _ => 0) ∅ (.create "CPU" "")) (.rename "cpu" "GPU" "")) :=
    ⟨[.create "CPU" "", .rename "cpu" "GPU" ""], rfl⟩
  refine ⟨_, reached, by decide +kernel, ?_⟩
  exact (dashboards_kept twoDashboards (fun _ => 0) twoDashboards_faithful reached).2.2

end LinSight.Gui
