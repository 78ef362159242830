import LinSight.Hardware.Registry

set_option autoImplicit false

namespace LinSight

def currentSchemaVersion : Nat := 1

structure NicknameStore where
  schemaVersion : Nat
  nicknames : KeyMap String String

namespace NicknameStore

def default : NicknameStore := ⟨currentSchemaVersion, ∅⟩

/-- The JSON text of a store, written pretty and read back. Reading back gives
the same version and the same nicknames, in an order of its own. -/
structure Codec (Text : Type) where
  toStringPretty : NicknameStore → Text
  fromStr : Text → Option NicknameStore
  roundTrip : ∀ store, ∃ back, fromStr (toStringPretty store) = some back ∧
    back.schemaVersion = store.schemaVersion ∧ KeyMap.Same back.nicknames store.nicknames

variable {Text : Type} (codec : Codec Text)

/-- What is read from the path, and what the path holds afterwards: a malformed
file is renamed away. `none` is a file that is missing or cannot be read. -/
def load (file : Option Text) : NicknameStore × Option Text :=
  match file with
  | none => (default, none)
  | some raw =>
      match codec.fromStr raw with
      | some store => (store, file)
      | none => (default, none)

/-- The file after `save`: the rename replaces it whole, a failure leaves it. -/
def save (store : NicknameStore) (failed : Bool) (file : Option Text) : Option Text :=
  if failed then file else some (codec.toStringPretty store)

theorem load_save (store : NicknameStore) (file : Option Text) :
    KeyMap.Same (load codec (save codec store false file)).1.nicknames store.nicknames := by
  obtain ⟨back, decoded, _, same⟩ := codec.roundTrip store
  have read : load codec (save codec store false file) =
      (back, some (codec.toStringPretty store)) := by
    simp only [load, save, Bool.false_eq_true, ↓reduceIte, decoded]
  rw [read]
  exact same

/-- Reading the path once more gives the same store. -/
theorem load_again (file : Option Text) :
    (load codec (load codec file).2).1 = (load codec file).1 := by
  cases file with
  | none => rfl
  | some raw =>
      cases decoded : codec.fromStr raw with
      | none => simp only [load, decoded]
      | some store => simp only [load, decoded]

end NicknameStore

end LinSight
