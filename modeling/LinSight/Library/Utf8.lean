import Mathlib

set_option autoImplicit false

/-! Bytes read as UTF-8, one after another, where every longest beginning of a character that is
not completed is one part that cannot be read. -/

namespace Utf8

/-- The bytes of a character so far: their bits, how many bytes are owed, and the bounds of the
next one. -/
structure Begun where
  bits : Nat
  owed : Nat
  low : Nat
  high : Nat

inductive Fed where
  | char (c : Char)
  | more (begun : Begun)
  | refused

/-- The first byte of a character. -/
def first (b : Nat) : Fed :=
  if b ≤ 0x7F then .char (Char.ofNat b)
  else if 0xC2 ≤ b ∧ b ≤ 0xDF then .more ⟨b - 0xC0, 1, 0x80, 0xBF⟩
  else if b = 0xE0 then .more ⟨0, 2, 0xA0, 0xBF⟩
  else if b = 0xED then .more ⟨0xD, 2, 0x80, 0x9F⟩
  else if 0xE1 ≤ b ∧ b ≤ 0xEF then .more ⟨b - 0xE0, 2, 0x80, 0xBF⟩
  else if b = 0xF0 then .more ⟨0, 3, 0x90, 0xBF⟩
  else if 0xF1 ≤ b ∧ b ≤ 0xF3 then .more ⟨b - 0xF0, 3, 0x80, 0xBF⟩
  else if b = 0xF4 then .more ⟨4, 3, 0x80, 0x8F⟩
  else .refused

/-- The next byte of a character. -/
def Begun.next (begun : Begun) (b : Nat) : Fed :=
  if begun.low ≤ b ∧ b ≤ begun.high then
    let bits := begun.bits * 64 + (b - 0x80)
    if begun.owed ≤ 1 then .char (Char.ofNat bits)
    else .more ⟨bits, begun.owed - 1, 0x80, 0xBF⟩
  else .refused

/-- What a byte between two characters gives; `none` is a part that cannot be read. -/
def start (b : UInt8) : List (Option Char) × Option Begun :=
  match first b.toNat with
  | .char c => ([some c], none)
  | .more begun => ([], some begun)
  | .refused => ([none], none)

/-- A byte that does not go on with the character starts another one. -/
def Begun.feed (begun : Begun) (b : UInt8) : List (Option Char) × Option Begun :=
  match begun.next b.toNat with
  | .char c => ([some c], none)
  | .more begun => ([], some begun)
  | .refused => (none :: (start b).1, (start b).2)

def feed (state : Option Begun) (b : UInt8) : List (Option Char) × Option Begun :=
  match state with
  | none => start b
  | some begun => begun.feed b

def partsFrom : Option Begun → List UInt8 → List (Option Char)
  | none, [] => []
  | some _, [] => [none]
  | state, b :: rest => (feed state b).1 ++ partsFrom (feed state b).2 rest

def parts (bytes : List UInt8) : List (Option Char) := partsFrom none bytes

/-- The text of bytes that are UTF-8. -/
def decode (bytes : List UInt8) : Option (List Char) :=
  if (parts bytes).all Option.isSome then some (parts bytes).reduceOption else none

/-- The text with U+FFFD for each part that cannot be read. -/
def lossy (bytes : List UInt8) : List Char := (parts bytes).map fun part => part.getD '\uFFFD'

/-- The bytes of a text in ASCII. -/
def ascii (text : List Char) : List UInt8 := text.map fun c => UInt8.ofNat c.toNat

/-- What is begun is no ASCII character, whatever follows. -/
def Begun.Wide (begun : Begun) : Prop :=
  128 ≤ begun.low ∧
    ((begun.owed = 1 ∧ 128 ≤ begun.bits * 64 + (begun.low - 128)) ∨
      (begun.owed = 2 ∧ 128 ≤ (begun.bits * 64 + (begun.low - 128)) * 64) ∨
      begun.owed = 3 ∧ 128 ≤ (begun.bits * 64 + (begun.low - 128)) * 4096)

section Feeding

theorem first_ascii {b : Nat} (small : b < 128) : first b = .char (Char.ofNat b) :=
  if_pos (Nat.le_of_lt_succ small)

theorem start_ascii {b : UInt8} (small : b.toNat < 128) :
    start b = ([some (Char.ofNat b.toNat)], none) := by
  rw [start, first_ascii small]

theorem wide_of_first {b : Nat} {begun : Begun} (more : first b = .more begun) : begun.Wide := by
  unfold first at more
  split_ifs at more with ascii two e0 ed three f0 four f4
  · obtain rfl := Fed.more.inj more
    exact ⟨le_rfl, .inl ⟨rfl, by dsimp only; omega⟩⟩
  · obtain rfl := Fed.more.inj more
    exact ⟨by decide, .inr (.inl ⟨rfl, by decide⟩)⟩
  · obtain rfl := Fed.more.inj more
    exact ⟨by decide, .inr (.inl ⟨rfl, by decide⟩)⟩
  · obtain rfl := Fed.more.inj more
    exact ⟨le_rfl, .inr (.inl ⟨rfl, by dsimp only; omega⟩)⟩
  · obtain rfl := Fed.more.inj more
    exact ⟨by decide, .inr (.inr ⟨rfl, by decide⟩)⟩
  · obtain rfl := Fed.more.inj more
    exact ⟨le_rfl, .inr (.inr ⟨rfl, by dsimp only; omega⟩)⟩
  · obtain rfl := Fed.more.inj more
    exact ⟨le_rfl, .inr (.inr ⟨rfl, by decide⟩)⟩

theorem Begun.Wide.next {begun begun' : Begun} (wide : begun.Wide) {b : Nat}
    (more : begun.next b = .more begun') : begun'.Wide := by
  obtain ⟨low, wide⟩ := wide
  unfold Begun.next at more
  split_ifs at more with inside last
  obtain rfl := Fed.more.inj more
  rcases wide with ⟨owed, bits⟩ | ⟨owed, bits⟩ | ⟨owed, bits⟩
  · exact absurd owed.le last
  · refine ⟨le_rfl, .inl ⟨by dsimp only; omega, ?_⟩⟩
    dsimp only
    omega
  · refine ⟨le_rfl, .inr (.inl ⟨by dsimp only; omega, ?_⟩)⟩
    dsimp only
    omega

/-- A byte of ASCII does not go on with a character. -/
theorem Begun.Wide.refuses {begun : Begun} (wide : begun.Wide) {b : Nat} (small : b < 128) :
    begun.next b = .refused := by
  refine if_neg fun inside => ?_
  have low := wide.1
  omega

/-- A character of several bytes is not in ASCII. -/
theorem Begun.Wide.char {begun : Begun} (wide : begun.Wide) {b : Nat} {c : Char}
    (done : begun.next b = .char c) : ∃ n, 128 ≤ n ∧ c = Char.ofNat n := by
  obtain ⟨low, wide⟩ := wide
  unfold Begun.next at done
  split_ifs at done with inside last
  obtain rfl := Fed.char.inj done
  refine ⟨_, ?_, rfl⟩
  rcases wide with ⟨owed, bits⟩ | ⟨owed, bits⟩ | ⟨owed, bits⟩
  · omega
  · omega
  · omega

theorem wide_of_feed {state : Option Begun} (wide : ∀ begun ∈ state, begun.Wide) {b : UInt8} :
    ∀ begun ∈ (feed state b).2, begun.Wide := by
  have started : ∀ begun ∈ (start b).2, begun.Wide := by
    intro begun member
    unfold start at member
    cases fed : first b.toNat with
    | char c =>
        rw [fed] at member
        cases member
    | refused =>
        rw [fed] at member
        cases member
    | more other =>
        rw [fed] at member
        cases member
        exact wide_of_first fed
  cases state with
  | none => exact started
  | some before =>
      intro begun member
      change begun ∈ (before.feed b).2 at member
      unfold Begun.feed at member
      cases fed : before.next b.toNat with
      | char c =>
          rw [fed] at member
          cases member
      | refused =>
          rw [fed] at member
          exact started begun member
      | more other =>
          rw [fed] at member
          cases member
          exact (wide before rfl).next fed

end Feeding

section Parts

/-- A byte of ASCII starts anew, whatever is before it. -/
theorem partsFrom_append {state : Option Begun} (wide : ∀ begun ∈ state, begun.Wide)
    (front : List UInt8) {b : UInt8} (small : b.toNat < 128) (rest : List UInt8) :
    partsFrom state (front ++ b :: rest) = partsFrom state front ++ parts (b :: rest) := by
  induction front generalizing state with
  | nil =>
      cases state with
      | none => rfl
      | some begun =>
          have refused := (wide begun rfl).refuses small
          have flushed : feed (some begun) b = (none :: (start b).1, (start b).2) := by
            change begun.feed b = _
            rw [Begun.feed, refused]
          change (feed (some begun) b).1 ++ partsFrom (feed (some begun) b).2 rest = _
          rw [flushed]
          rfl
  | cons c front ih =>
      rw [List.cons_append, partsFrom, ih (wide_of_feed wide), partsFrom, List.append_assoc]

theorem parts_append (front : List UInt8) {b : UInt8} (small : b.toNat < 128)
    (rest : List UInt8) : parts (front ++ b :: rest) = parts front ++ parts (b :: rest) :=
  partsFrom_append (by simp) front small rest

theorem toNat_ofNat {c : Char} (small : c.toNat < 128) : (UInt8.ofNat c.toNat).toNat = c.toNat := by
  rw [UInt8.toNat_ofNat']
  exact Nat.mod_eq_of_lt (by omega)

theorem parts_cons_ascii {c : Char} (small : c.toNat < 128) (rest : List UInt8) :
    parts (UInt8.ofNat c.toNat :: rest) = some c :: parts rest := by
  have code := toNat_ofNat small
  rw [parts, partsFrom, feed, start_ascii (by omega), code, Char.ofNat_toNat]
  rfl

/-- A text in ASCII is read as it is. -/
theorem parts_ascii_append {text : List Char} (small : ∀ c ∈ text, c.toNat < 128)
    (rest : List UInt8) : parts (ascii text ++ rest) = text.map some ++ parts rest := by
  induction text with
  | nil => rfl
  | cons c text ih =>
      obtain ⟨here, later⟩ := List.forall_mem_cons.mp small
      rw [ascii, List.map_cons, List.cons_append, parts_cons_ascii here, ← ascii, ih later]
      rfl

theorem parts_ascii {text : List Char} (small : ∀ c ∈ text, c.toNat < 128) :
    parts (ascii text) = text.map some := by
  have whole := parts_ascii_append small []
  rw [List.append_nil] at whole
  rw [whole]
  exact List.append_nil _

/-- Bytes in the middle of a text in ASCII are read on their own. -/
theorem parts_ascii_around {front back : List Char} (small : ∀ c ∈ front, c.toNat < 128)
    (small' : ∀ c ∈ back, c.toNat < 128) (filled : back ≠ []) (bytes : List UInt8) :
    parts (ascii front ++ bytes ++ ascii back) = front.map some ++ parts bytes ++ back.map some := by
  obtain ⟨c, rest, rfl⟩ := List.exists_cons_of_ne_nil filled
  have here := toNat_ofNat (small' c List.mem_cons_self)
  have low := small' c List.mem_cons_self
  rw [List.append_assoc, parts_ascii_append small, List.append_assoc]
  congr 1
  rw [← parts_ascii small']
  exact parts_append bytes (show (UInt8.ofNat c.toNat).toNat < 128 by omega) _

theorem lossy_ascii {text : List Char} (small : ∀ c ∈ text, c.toNat < 128) :
    lossy (ascii text) = text := by
  rw [lossy, parts_ascii small, List.map_map]
  exact List.map_id text

theorem decode_eq_some {bytes : List UInt8} {text : List Char} :
    decode bytes = some text ↔ parts bytes = text.map some := by
  unfold decode
  constructor
  · intro read
    split_ifs at read with whole
    rw [← Option.some.inj read]
    clear read
    generalize parts bytes = list at whole ⊢
    induction list with
    | nil => rfl
    | cons part rest ih =>
        rw [List.all_cons, Bool.and_eq_true] at whole
        obtain ⟨c, rfl⟩ := Option.isSome_iff_exists.mp whole.1
        rw [List.reduceOption_cons_of_some, List.map_cons, ← ih whole.2]
  · intro read
    have whole : (text.map some).all Option.isSome = true := by
      rw [List.all_map]
      exact List.all_eq_true.mpr fun _ _ => rfl
    rw [read, if_pos whole, List.reduceOption, List.filterMap_map]
    exact congrArg some List.filterMap_some

/-- What can be read has no replaced parts. -/
theorem lossy_of_decode {bytes : List UInt8} {text : List Char} (read : decode bytes = some text) :
    lossy bytes = text := by
  rw [lossy, decode_eq_some.mp read, List.map_map]
  exact List.map_id text

/-- A text in ASCII around bytes decides nothing about them. -/
theorem decode_ascii_around {front back : List Char} (small : ∀ c ∈ front, c.toNat < 128)
    (small' : ∀ c ∈ back, c.toNat < 128) (filled : back ≠ []) (bytes : List UInt8) :
    decode (ascii front ++ bytes ++ ascii back) =
      (decode bytes).map fun text => front ++ text ++ back := by
  have around := parts_ascii_around small small' filled bytes
  cases read : decode bytes with
  | some text =>
      rw [Option.map_some, decode_eq_some, around, decode_eq_some.mp read, List.map_append,
        List.map_append]
  | none =>
      unfold decode at read ⊢
      split_ifs at read with whole
      rw [around, Option.map_none, if_neg]
      rw [List.all_append, List.all_append]
      simp [whole]

/-- A character that is not made of a byte of ASCII. -/
def Foreign (part : Option Char) : Prop := ∀ c ∈ part, ∃ n, 128 ≤ n ∧ c = Char.ofNat n

theorem exists_foreign {begun : Begun} (wide : begun.Wide) (bytes : List UInt8) :
    ∃ part ∈ partsFrom (some begun) bytes, Foreign part := by
  induction bytes generalizing begun with
  | nil => exact ⟨none, List.mem_singleton_self none, by simp [Foreign]⟩
  | cons b rest ih =>
      have step : partsFrom (some begun) (b :: rest) =
          (begun.feed b).1 ++ partsFrom (begun.feed b).2 rest := rfl
      rw [step, Begun.feed]
      cases fed : begun.next b.toNat with
      | char c =>
          refine ⟨some c, List.mem_append_left _ (List.mem_singleton_self _), ?_⟩
          rintro other ⟨⟩
          exact wide.char fed
      | more other =>
          obtain ⟨part, member, foreign⟩ := ih (wide.next fed)
          exact ⟨part, List.mem_append_right _ member, foreign⟩
      | refused => exact ⟨none, List.mem_append_left _ List.mem_cons_self, by simp [Foreign]⟩

/-- Where no part is foreign, the bytes are a text in ASCII. -/
theorem ascii_of_parts {bytes : List UInt8} (own : ∀ part ∈ parts bytes, ¬ Foreign part) :
    ∃ text : List Char, bytes = ascii text ∧ (∀ c ∈ text, c.toNat < 128) ∧
      parts bytes = text.map some := by
  induction bytes with
  | nil => exact ⟨[], rfl, by simp, rfl⟩
  | cons b rest ih =>
      have step : parts (b :: rest) = (start b).1 ++ partsFrom (start b).2 rest := rfl
      by_cases small : b.toNat < 128
      · rw [start_ascii small] at step
        obtain ⟨text, bytes_eq, low, parts_eq⟩ := ih fun part member =>
          own part (by rw [step]; exact List.mem_append_right _ member)
        have valid : (Char.ofNat b.toNat).toNat = b.toNat := by
          rw [Char.toNat_ofNat, if_pos]
          exact .inl (by omega)
        refine ⟨Char.ofNat b.toNat :: text, ?_, List.forall_mem_cons.mpr ⟨by omega, low⟩, ?_⟩
        · rw [ascii, List.map_cons, valid, ← ascii, ← bytes_eq, UInt8.ofNat_toNat]
        · rw [step, List.map_cons, ← parts_eq]
          rfl
      · exfalso
        cases fed : first b.toNat with
        | char c =>
            refine small ?_
            unfold first at fed
            split_ifs at fed with ascii
            omega
        | refused =>
            rw [start, fed] at step
            exact own none (by rw [step]; exact List.mem_cons_self) (by simp [Foreign])
        | more begun =>
            rw [start, fed] at step
            obtain ⟨part, member, foreign⟩ := exists_foreign (wide_of_first fed) rest
            exact own part (by rw [step]; exact member) foreign

end Parts

end Utf8
