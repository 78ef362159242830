import LinSight.Core.Hardware
import LinSight.Gui.Tiles
import LinSight.Library.Words
import Mathlib

set_option autoImplicit false

/-! The saved hosts of `HostsModel`: what `hosts.json` holds after any edits. -/

namespace LinSight.Gui

open DebugText (Message debugStr)

structure Host where
  name : String
  url : String
deriving DecidableEq

/-- What is behind the last `@`. -/
def hostPart (target : String) : String :=
  ((Words.rsplitOnce '@' target.toList).map fun parts => String.ofList parts.2).getD target

/-- The host without its port. -/
def hostOf (target : String) : String :=
  ((splitOnce ':' (hostPart target)).map (·.1)).getD (hostPart target)

def startsWithDash (text : String) : Bool := text.toList.head? = some '-'

section Validation

variable (printable : Char → Bool)

def validateSshTarget (target : String) : Except String PUnit.{1} :=
  if target.toList.isEmpty then .error "empty SSH target"
  else if startsWithDash target then
    .error (Message.render printable ("invalid SSH target: " ++ debugStr target ++
      " starts with '-'; possible option injection"))
  else if startsWithDash (hostOf target) then
    .error (Message.render printable ("invalid SSH host: " ++ debugStr (hostOf target) ++
      " starts with '-'; possible option injection"))
  else if target.toList.any isControl then
    .error "invalid SSH target: contains control characters"
  else .ok ⟨⟩

def validateHost (name url : String) (existing : List Host) (editingName : Option String) :
    Except String PUnit.{1} :=
  let name := trim name
  if name.toList.isEmpty then .error "Host name is required."
  else if 64 < name.toList.length then .error "Host name must be 64 characters or fewer."
  else if existing.any fun h => h.name = name && some h.name ≠ editingName then
    .error s!"A host named '{name}' already exists."
  else
    match stripPrefix "ssh://" (trim url) with
    | none => .error "URL must use the ssh:// scheme."
    | some target => validateSshTarget printable target

end Validation

/-- `hosts.json`. -/
inductive HostsFile where
  | missing
  | unreadable
  | malformed
  | saved (hosts : List Host)
deriving DecidableEq

structure SavedHosts where
  disk : HostsFile
  hostsJson : List Host
  lastError : String
deriving DecidableEq

/-- An edit with what becomes of its save. -/
inductive HostEdit where
  | reload
  | add (name url : String) (save : Except String PUnit.{1})
  | remove (name : String) (save : Except String PUnit.{1})
  | rename (oldName newName : String) (save : Except String PUnit.{1})

namespace SavedHosts

/-- `load_hosts`; a malformed file is renamed. -/
def loadHosts (s : SavedHosts) : List Host × SavedHosts :=
  match s.disk with
  | .saved hosts => (hosts, s)
  | .malformed => ([], { s with disk := .missing })
  | .missing | .unreadable => ([], s)

def fail (s : SavedHosts) (error : String) : SavedHosts := { s with lastError := error }

/-- `save_hosts` writes all or nothing. -/
def saveHosts (s : SavedHosts) (hosts : List Host) : Except String PUnit.{1} → SavedHosts
  | .ok _ => ⟨.saved hosts, hosts, ""⟩
  | .error e => s.fail ("save failed: " ++ e)

def apply (printable : Char → Bool) (s : SavedHosts) : HostEdit → SavedHosts
  | .reload =>
      let (hosts, s) := s.loadHosts
      { s with hostsJson := hosts, lastError := "" }
  | .add name url save =>
      let (hosts, s) := s.loadHosts
      match validateHost printable name url hosts none with
      | .error e => s.fail e
      | .ok _ => s.saveHosts (hosts ++ [⟨trim name, trim url⟩]) save
  | .remove name save =>
      let (hosts, s) := s.loadHosts
      let left := hosts.filter fun h => h.name ≠ name
      if left.length = hosts.length then s.fail s!"host '{name}' not found"
      else s.saveHosts left save
  | .rename oldName newName save =>
      let (hosts, s) := s.loadHosts
      match hosts.findIdx? fun h => h.name = oldName with
      | none => s.fail s!"host '{oldName}' not found"
      | some pos =>
          match hosts[pos]? with
          | none => s
          | some host =>
              match validateHost printable newName host.url hosts (some oldName) with
              | .error e => s.fail e
              | .ok _ => s.saveHosts (hosts.set pos { host with name := trim newName }) save

end SavedHosts

/-- A target that `ssh` cannot take for an option. -/
structure SafeTarget (target : String) : Prop where
  nonempty : target.toList ≠ []
  noOption : target.toList.head? ≠ some '-'
  hostNoOption : (hostOf target).toList.head? ≠ some '-'
  plain : ∀ c ∈ target.toList, isControl c = false

structure ValidHost (host : Host) : Prop where
  trimmed : trim host.name = host.name
  named : host.name.toList ≠ []
  short : host.name.toList.length ≤ 64
  target : ∃ target, stripPrefix "ssh://" (trim host.url) = some target ∧ SafeTarget target

/-- The hosts are valid, and no two of them have one name. -/
structure ValidHosts (hosts : List Host) : Prop where
  each : ∀ host ∈ hosts, ValidHost host
  distinct : (hosts.map Host.name).Nodup

theorem append_ne_empty {front : String} (filled : front ≠ "") (back : String) :
    front ++ back ≠ "" := by
  intro empty
  have chars := congrArg String.toList empty
  rw [String.toList_append] at chars
  exact filled (String.toList_injective (List.append_eq_nil_iff.mp chars).1)

variable {printable : Char → Bool}

theorem validateSshTarget_told {target e : String}
    (refused : validateSshTarget printable target = .error e) : e ≠ "" := by
  unfold validateSshTarget at refused
  split at refused
  · cases refused
    decide
  · split at refused
    · cases refused
      rw [List.append_assoc, List.singleton_append, DebugText.render_text_cons]
      exact append_ne_empty (by decide) _
    · split at refused
      · cases refused
        rw [List.append_assoc, List.singleton_append, DebugText.render_text_cons]
        exact append_ne_empty (by decide) _
      · split at refused
        · cases refused
          decide
        · cases refused

/-- Every refusal has a text. -/
theorem validateHost_told {name url e : String} {existing : List Host}
    {editingName : Option String}
    (refused : validateHost printable name url existing editingName = .error e) : e ≠ "" := by
  unfold validateHost at refused
  dsimp only at refused
  split at refused
  · cases refused
    decide
  · split at refused
    · cases refused
      decide
    · split at refused
      · cases refused
        exact append_ne_empty (append_ne_empty (by decide) _) _
      · split at refused
        · cases refused
          decide
        · exact validateSshTarget_told refused

theorem validateSshTarget_ok {target : String} (valid : validateSshTarget printable target = .ok ⟨⟩) :
    SafeTarget target := by
  unfold validateSshTarget at valid
  split at valid
  · cases valid
  · rename_i nonempty
    split at valid
    · cases valid
    · rename_i plain_front
      split at valid
      · cases valid
      · rename_i host_front
        split at valid
        · cases valid
        · rename_i plain
          constructor
          · intro empty
            exact nonempty (by rw [empty]; rfl)
          · intro dash
            exact plain_front (decide_eq_true dash)
          · intro dash
            exact host_front (decide_eq_true dash)
          · intro c member
            by_contra control
            have found : target.toList.any isControl = true :=
              List.any_eq_true.mpr ⟨c, member, Bool.eq_true_of_not_eq_false control⟩
            exact plain found

/-- What a check of a host says: its fields are good, and no other host has its name. -/
theorem validateHost_ok {name url : String} {existing : List Host} {editingName : Option String}
    (valid : validateHost printable name url existing editingName = .ok ⟨⟩) :
    (trim name).toList ≠ [] ∧ (trim name).toList.length ≤ 64 ∧
      (∀ h ∈ existing, h.name = trim name → some h.name = editingName) ∧
      ∃ target, stripPrefix "ssh://" (trim url) = some target ∧ SafeTarget target := by
  unfold validateHost at valid
  dsimp only at valid
  split at valid
  · cases valid
  · rename_i named
    split at valid
    · cases valid
    · rename_i short
      split at valid
      · cases valid
      · rename_i free
        split at valid
        · cases valid
        · rename_i target stripped
          refine ⟨?_, by omega, ?_, target, stripped, validateSshTarget_ok valid⟩
          · intro empty
            exact named (by rw [empty]; rfl)
          · intro h member same
            by_contra other
            apply free
            rw [List.any_eq_true]
            refine ⟨h, member, ?_⟩
            rw [Bool.and_eq_true, decide_eq_true_eq, decide_eq_true_eq]
            exact ⟨same, other⟩

theorem ValidHosts.nil : ValidHosts [] where
  each := nofun
  distinct := List.nodup_nil

theorem ValidHosts.add {hosts : List Host} (valid : ValidHosts hosts) {name url : String}
    (checked : validateHost printable name url hosts none = .ok ⟨⟩) :
    ValidHosts (hosts ++ [⟨trim name, trim url⟩]) := by
  obtain ⟨named, short, free, target, stripped, safe⟩ := validateHost_ok checked
  constructor
  · intro host member
    rcases List.mem_append.mp member with before | last
    · exact valid.each host before
    · rw [List.mem_singleton.mp last]
      exact ⟨trim_idempotent name, named, short, target, by rw [trim_idempotent, stripped], safe⟩
  · rw [List.map_append, List.nodup_append]
    refine ⟨valid.distinct, List.nodup_singleton _, ?_⟩
    intro name' before last member
    obtain ⟨h, inside, rfl⟩ := List.mem_map.mp before
    rw [List.map_singleton, List.mem_singleton] at member
    rintro rfl
    cases free h inside member

theorem ValidHosts.filter {hosts : List Host} (valid : ValidHosts hosts) (keep : Host → Bool) :
    ValidHosts (hosts.filter keep) where
  each host member := valid.each host (List.mem_filter.mp member).1
  distinct := (List.filter_sublist.map Host.name).nodup valid.distinct

/-- A host keeps its URL, and may keep its name. -/
theorem ValidHosts.rename {hosts : List Host} (valid : ValidHosts hosts) {pos : Nat} {host : Host}
    (here : hosts[pos]? = some host) {newName : String}
    (checked : validateHost printable newName host.url hosts (some host.name) = .ok ⟨⟩) :
    ValidHosts (hosts.set pos { host with name := trim newName }) := by
  obtain ⟨named, short, free, target, stripped, safe⟩ := validateHost_ok checked
  constructor
  · intro other member
    rcases List.mem_or_eq_of_mem_set member with before | new
    · exact valid.each other before
    · rw [new]
      exact ⟨trim_idempotent newName, named, short, target, stripped, safe⟩
  · have names : (hosts.set pos { host with name := trim newName }).map Host.name =
        (hosts.map Host.name).set pos (trim newName) := List.map_set
    rw [names]
    by_cases taken : trim newName ∈ hosts.map Host.name
    · obtain ⟨h, member, same⟩ := List.mem_map.mp taken
      have own : h.name = host.name := Option.some.inj (free h member same)
      have kept : (hosts.map Host.name).set pos (trim newName) = hosts.map Host.name := by
        obtain ⟨inside, at_pos⟩ := List.getElem?_eq_some_iff.mp here
        rw [← same, own, ← at_pos]
        have bound : pos < (hosts.map Host.name).length := by rwa [List.length_map]
        have itself := List.set_getElem_self bound
        rwa [List.getElem_map] at itself
      rw [kept]
      exact valid.distinct
    · exact valid.distinct.set taken

/-- The list in the file; none where there is no list. -/
def HostsFile.hosts : HostsFile → List Host
  | .saved hosts => hosts
  | .missing | .unreadable | .malformed => []

/-- What is saved and what is shown are valid lists. -/
structure Clean (s : SavedHosts) : Prop where
  disk : ValidHosts s.disk.hosts
  shown : ValidHosts s.hostsJson

namespace SavedHosts

theorem loadHosts_eq (s : SavedHosts) :
    s.loadHosts.1 = s.disk.hosts ∧ s.loadHosts.2.disk.hosts = s.disk.hosts ∧
      s.loadHosts.2.hostsJson = s.hostsJson := by
  unfold loadHosts
  cases disk : s.disk <;> simp [HostsFile.hosts, disk]

/-- The edit has succeeded and shows what is saved, or it has failed and has changed no list. -/
structure Done (before after : SavedHosts) : Prop where
  clean : Clean after
  reported : after.lastError = "" ∧ after.hostsJson = after.disk.hosts ∨
    after.lastError ≠ "" ∧ after.disk.hosts = before.disk.hosts ∧
      after.hostsJson = before.hostsJson

variable {s : SavedHosts}

theorem done_fail (clean : Clean s) {error : String} (told : error ≠ "") :
    Done s (s.loadHosts.2.fail error) := by
  obtain ⟨_, disk, shown⟩ := s.loadHosts_eq
  refine ⟨⟨?_, ?_⟩, .inr ⟨told, disk, shown⟩⟩
  · show ValidHosts s.loadHosts.2.disk.hosts
    rw [disk]
    exact clean.disk
  · show ValidHosts s.loadHosts.2.hostsJson
    rw [shown]
    exact clean.shown

theorem done_save (clean : Clean s) {hosts : List Host} (valid : ValidHosts hosts)
    (save : Except String PUnit.{1}) : Done s (s.loadHosts.2.saveHosts hosts save) := by
  cases save with
  | ok done => exact ⟨⟨valid, valid⟩, .inl ⟨rfl, rfl⟩⟩
  | error e =>
      exact done_fail clean (append_ne_empty (by decide) e)

/-- One edit. -/
theorem apply_done (clean : Clean s) (edit : HostEdit) : Done s (s.apply printable edit) := by
  obtain ⟨loaded, disk, _⟩ := s.loadHosts_eq
  have valid : ValidHosts s.loadHosts.1 := loaded ▸ clean.disk
  cases edit with
  | reload =>
      refine ⟨⟨?_, ?_⟩, .inl ⟨rfl, ?_⟩⟩
      · show ValidHosts s.loadHosts.2.disk.hosts
        rw [disk]
        exact clean.disk
      · exact valid
      · show s.loadHosts.1 = s.loadHosts.2.disk.hosts
        rw [loaded, disk]
  | add name url save =>
      show Done s (match validateHost printable name url s.loadHosts.1 none with
        | .error e => s.loadHosts.2.fail e
        | .ok _ => s.loadHosts.2.saveHosts (s.loadHosts.1 ++ [⟨trim name, trim url⟩]) save)
      cases checked : validateHost printable name url s.loadHosts.1 none with
      | error e => exact done_fail clean (validateHost_told checked)
      | ok done => exact done_save clean (valid.add checked) save
  | remove name save =>
      show Done s (if (s.loadHosts.1.filter fun h => h.name ≠ name).length = s.loadHosts.1.length
        then s.loadHosts.2.fail s!"host '{name}' not found"
        else s.loadHosts.2.saveHosts (s.loadHosts.1.filter fun h => h.name ≠ name) save)
      split
      · exact done_fail clean (append_ne_empty (append_ne_empty (by decide) _) _)
      · exact done_save clean (valid.filter _) save
  | rename oldName newName save =>
      show Done s (match s.loadHosts.1.findIdx? fun h => h.name = oldName with
        | none => s.loadHosts.2.fail s!"host '{oldName}' not found"
        | some pos =>
            match s.loadHosts.1[pos]? with
            | none => s.loadHosts.2
            | some host =>
                match validateHost printable newName host.url s.loadHosts.1 (some oldName) with
                | .error e => s.loadHosts.2.fail e
                | .ok _ =>
                    s.loadHosts.2.saveHosts
                      (s.loadHosts.1.set pos { host with name := trim newName }) save)
      cases found : s.loadHosts.1.findIdx? fun h => h.name = oldName with
      | none => exact done_fail clean (append_ne_empty (append_ne_empty (by decide) _) _)
      | some pos =>
          obtain ⟨inside, named, _⟩ := List.findIdx?_eq_some_iff_getElem.mp found
          have here := List.getElem?_eq_getElem inside
          dsimp only
          rw [here]
          have own : s.loadHosts.1[pos].name = oldName := of_decide_eq_true named
          subst own
          dsimp only
          cases checked : validateHost printable newName s.loadHosts.1[pos].url s.loadHosts.1
              (some s.loadHosts.1[pos].name) with
          | error e => exact done_fail clean (validateHost_told checked)
          | ok done => exact done_save clean (valid.rename here checked) save

/-- From a valid list on, whatever is edited and whether or not a save succeeds, the saved hosts
have names of their own and no target that is an option of `ssh`. After each edit there is an error
and the lists are as before it, or there is none and the list shown is the one saved. -/
theorem saved_hosts_stay_valid (clean : Clean s) (edits : List HostEdit) :
    Clean (edits.foldl (apply printable) s) ∧ ∀ front edit, front ++ [edit] <+: edits →
      Done (front.foldl (apply printable) s) ((front ++ [edit]).foldl (apply printable) s) := by
  have kept : ∀ edits : List HostEdit, Clean (edits.foldl (apply printable) s) := by
    intro edits
    induction edits using List.reverseRecOn with
    | nil => exact clean
    | append_singleton front edit ih =>
        rw [List.foldl_append]
        exact (apply_done ih edit).clean
  refine ⟨kept edits, fun front edit _ => ?_⟩
  rw [List.foldl_append]
  exact apply_done (kept front) edit

/-- A host is added, a second one of that name is refused, and the save of a rename fails. -/
theorem saved_hosts_stay_valid_added :
    Clean ([HostEdit.add " lab " "ssh://me@lab:22" (.ok ⟨⟩), .add "lab" "ssh://other" (.ok ⟨⟩),
      .rename "lab" "home" (.error "disk full")].foldl (apply fun _ => false) ⟨.missing, [], ""⟩) :=
  (saved_hosts_stay_valid (s := ⟨.missing, [], ""⟩) ⟨ValidHosts.nil, ValidHosts.nil⟩ _).1

end SavedHosts

end LinSight.Gui
