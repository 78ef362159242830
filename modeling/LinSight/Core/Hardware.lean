import LinSight.Core.Types
import LinSight.Library.KeyMap

set_option autoImplicit false

namespace LinSight

open DebugText (Message debugChar)

inductive HardwareCategory where
  | gpu
  | storage
  | network
  | cpu
  | other
deriving DecidableEq

inductive KeyError where
  | empty
  | tooLong (bytes : Nat)
  | noScheme
  | unknownScheme (scheme : String)
  | emptyPayload (scheme : String)
  | badChar (c : Char)
deriving DecidableEq

def KeyError.toString : KeyError → Message
  | .empty => "hardware device key is empty"
  | .tooLong bytes => "hardware device key too long (" ++ Nat.repr bytes ++ " bytes, max 140)"
  | .noScheme =>
      "hardware device key missing scheme prefix (expected one of: pci, nvml, nvme, net, cpu, plugin)"
  | .unknownScheme scheme => "hardware device key has unknown scheme '" ++ scheme ++ "'"
  | .emptyPayload scheme => "hardware device key payload empty after '" ++ scheme ++ ":'"
  | .badChar c => "hardware device key contains invalid character " ++ debugChar c

def allowedSchemes : List String :=
  ["pci", "nvml", "nvme", "net", "cpu", "system", "block", "hwmon", "fs", "amdgpu", "zram",
    "i915", "plugin"]

def keyMaxLen : Nat := 140

/-- `str::split_once` with a one-character separator. -/
def splitOnce (separator : Char) (s : String) : Option (String × String) :=
  match s.toList.dropWhile (· ≠ separator) with
  | [] => none
  | _ :: rest =>
      some (String.ofList (s.toList.takeWhile (· ≠ separator)), String.ofList rest)

def isKeyChar (c : Char) : Bool :=
  c.isAlphanum || c == '_' || c == ':' || c == '.' || c == '-'

theorem isKeyChar_range {c : Char} (plain : isKeyChar c = true) :
    45 ≤ c.toNat ∧ c.toNat ≤ 122 := by
  simp only [isKeyChar, Char.isAlphanum, Char.isAlpha, Char.isUpper, Char.isLower, Char.isDigit,
    Bool.or_eq_true, Bool.and_eq_true, decide_eq_true_eq, beq_iff_eq] at plain
  rcases plain with ((((letter | digit) | rfl) | rfl) | rfl) | rfl
  · rcases letter with ⟨low, high⟩ | ⟨low, high⟩
    · have low' : 65 ≤ c.toNat := low
      have high' : c.toNat ≤ 90 := high
      omega
    · have low' : 97 ≤ c.toNat := low
      have high' : c.toNat ≤ 122 := high
      omega
  · have low : 48 ≤ c.toNat := digit.1
    have high : c.toNat ≤ 57 := digit.2
    omega
  all_goals decide

theorem isWhitespace_of_isKeyChar {c : Char} (plain : isKeyChar c = true) :
    isWhitespace c = false := by
  have range := isKeyChar_range plain
  simp only [isWhitespace]
  simp
  omega

/-- The checks of `HardwareDeviceKey::try_new`, in its order. -/
def keyError (s : String) : Option KeyError :=
  if s.toList.isEmpty then some .empty
  else if keyMaxLen < s.utf8ByteSize then some (.tooLong s.utf8ByteSize)
  else match splitOnce ':' s with
    | none => some .noScheme
    | some (scheme, rest) =>
        if scheme ∉ allowedSchemes then some (.unknownScheme scheme)
        else if rest.toList.isEmpty then some (.emptyPayload scheme)
        else (rest.toList.find? fun c => !isKeyChar c).map .badChar

structure HardwareDeviceKey where
  asStr : String
  valid : keyError asStr = none
deriving DecidableEq

def HardwareDeviceKey.tryNew (s : String) : Except KeyError HardwareDeviceKey :=
  match valid : keyError s with
  | none => .ok ⟨s, valid⟩
  | some e => .error e

@[simp] theorem HardwareDeviceKey.tryNew_asStr (key : HardwareDeviceKey) :
    HardwareDeviceKey.tryNew key.asStr = .ok key := by
  obtain ⟨s, valid⟩ := key
  unfold HardwareDeviceKey.tryNew
  split
  · rfl
  · rename_i failed
    rw [valid] at failed
    cases failed

theorem HardwareDeviceKey.asStr_of_tryNew {s : String} {key : HardwareDeviceKey}
    (parsed : HardwareDeviceKey.tryNew s = .ok key) : key.asStr = s := by
  unfold HardwareDeviceKey.tryNew at parsed
  split at parsed
  · cases parsed
    rfl
  · cases parsed

theorem HardwareDeviceKey.asStr_injective {a b : HardwareDeviceKey}
    (same : a.asStr = b.asStr) : a = b := by
  cases a
  cases b
  cases same
  rfl

structure HardwareDevice where
  key : HardwareDeviceKey
  category : HardwareCategory
  model : String
  vendor : Option String
  location : Option String
  pluginId : String
  pluginDeviceId : String
  sensorIds : List SensorId
deriving DecidableEq

inductive NicknameError where
  | tooLong (chars : Nat)
  | controlChar (c : Char)
deriving DecidableEq

def NicknameError.toString : NicknameError → Message
  | .tooLong chars => "nickname too long (" ++ Nat.repr chars ++ " chars, max 64)"
  | .controlChar c => "nickname contains control char " ++ debugChar c

def nicknameMaxChars : Nat := 64

/-- `str::trim`. -/
def trim (s : String) : String :=
  String.ofList ((s.toList.dropWhile isWhitespace).rdropWhile isWhitespace)

/-- `Ok(None)` is the delete intent of an empty field. -/
def validateNickname (input : String) : Except NicknameError (Option String) :=
  let trimmed := trim input
  if trimmed.toList.isEmpty then .ok none
  else if nicknameMaxChars < trimmed.toList.length then .error (.tooLong trimmed.toList.length)
  else match trimmed.toList.find? isControl with
    | some c => .error (.controlChar c)
    | none => .ok (some trimmed)

theorem trim_idempotent (s : String) : trim (trim s) = trim s := by
  unfold trim
  rw [String.toList_ofList]
  congr 1
  generalize front : s.toList.dropWhile isWhitespace = chars
  have first_kept : ∀ nonempty : chars.rdropWhile isWhitespace ≠ [],
      ¬ isWhitespace ((chars.rdropWhile isWhitespace).head nonempty) := by
    intro nonempty
    have whole : chars ≠ [] := fun empty => nonempty (by rw [empty]; rfl)
    have same := (List.rdropWhile_prefix isWhitespace chars).head nonempty
    rw [same]
    subst front
    have first := List.head_dropWhile_not isWhitespace whole
    rw [first]
    exact Bool.false_ne_true
  have stays : (chars.rdropWhile isWhitespace).dropWhile isWhitespace =
      chars.rdropWhile isWhitespace := by
    cases rest : chars.rdropWhile isWhitespace with
    | nil => rfl
    | cons c tail =>
        have kept := first_kept (by rw [rest]; exact List.cons_ne_nil c tail)
        simp only [rest, List.head_cons] at kept
        exact List.dropWhile_cons_of_neg kept
  rw [stays, List.rdropWhile_idempotent]

/-- Checking a normalized nickname again changes nothing. -/
theorem validateNickname_normalized {input nickname : String}
    (valid : validateNickname input = .ok (some nickname)) :
    validateNickname nickname = .ok (some nickname) := by
  have trimmed : nickname = trim input := by
    unfold validateNickname at valid
    dsimp only at valid
    split at valid
    · cases valid
    · split at valid
      · cases valid
      · split at valid <;> cases valid
        rfl
  have again : trim nickname = trim input := by rw [trimmed, trim_idempotent]
  unfold validateNickname at valid ⊢
  rw [again]
  exact valid

/-- The nickname; else the model, with the payload of the key where another
device without nickname is of the same model. -/
def computeDeviceLabel (target : HardwareDevice) (allDevices : List HardwareDevice)
    (nicknames : KeyMap String String) : String :=
  match nicknames.lookup target.key.asStr with
  | some nick => nick
  | none =>
      let needsDisambig := allDevices.any fun d =>
        d.key ≠ target.key && d.model = target.model && (nicknames.lookup d.key.asStr).isNone
      if needsDisambig then
        let suffix := ((splitOnce ':' target.key.asStr).map (·.2)).getD target.key.asStr
        target.model ++ " (" ++ suffix ++ ")"
      else target.model

end LinSight
