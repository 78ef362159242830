import LinSight.Library.FloatReading
import LinSight.Library.Words

set_option autoImplicit false

/-! A reader of JSON, and what it makes of texts that are put together from others. -/

namespace Json

inductive Value where
  | null
  | bool (b : Bool)
  | number (q : ℚ)
  | string (s : List Char)
  | array (items : List Value)
  | object (members : List (List Char × Value))

/-- The value of a member; of several with one name it is the first. -/
def Value.get (name : List Char) : Value → Option Value
  | .object members => members.lookup name
  | _ => none

def blank (c : Char) : Bool := c = ' ' || c = '\t' || c = '\n' || c = '\r'

def skip (text : List Char) : List Char := text.dropWhile blank

/-! Strings. -/

/-- What is expected in a string: text, the rest of an escape, or hexadecimal digits of a code unit
after a high surrogate or none. -/
inductive Mode where
  | plain
  | escape
  | hex (digits value : Nat) (high : Option Nat)
  | low (high : Nat)
  | lowU (high : Nat)

def hexDigit (c : Char) : Option Nat :=
  if c.isDigit then some (c.toNat - '0'.toNat)
  else if 'a' ≤ c ∧ c ≤ 'f' then some (c.toNat - 'a'.toNat + 10)
  else if 'A' ≤ c ∧ c ≤ 'F' then some (c.toNat - 'A'.toNat + 10)
  else none

/-- The character of an escape of one letter. -/
def escapes : List (Char × Char) :=
  [('"', '"'), ('\\', '\\'), ('/', '/'), ('b', '\x08'), ('f', '\x0C'), ('n', '\n'), ('r', '\r'),
    ('t', '\t')]

/-- A string up to its closing quote, and what comes after this. -/
def readString : Mode → List Char → Option (List Char × List Char)
  | _, [] => none
  | .plain, c :: rest =>
      if c = '"' then some ([], rest)
      else if c = '\\' then readString .escape rest
      else if c.toNat < 0x20 then none
      else (readString .plain rest).map fun found => (c :: found.1, found.2)
  | .escape, c :: rest =>
      if c = 'u' then readString (.hex 4 0 none) rest
      else (escapes.lookup c).bind fun escaped =>
        (readString .plain rest).map fun found => (escaped :: found.1, found.2)
  | .hex digits value high, c :: rest =>
      (hexDigit c).bind fun digit =>
        let value := value * 16 + digit
        if 1 < digits then readString (.hex (digits - 1) value high) rest
        else
          match high with
          | none =>
              if 0xD800 ≤ value ∧ value < 0xDC00 then readString (.low value) rest
              else if 0xDC00 ≤ value ∧ value < 0xE000 then none
              else (readString .plain rest).map fun found => (Char.ofNat value :: found.1, found.2)
          | some high =>
              if 0xDC00 ≤ value ∧ value < 0xE000 then
                let code := 0x10000 + (high - 0xD800) * 0x400 + (value - 0xDC00)
                (readString .plain rest).map fun found => (Char.ofNat code :: found.1, found.2)
              else none
  | .low high, c :: rest => if c = '\\' then readString (.lowU high) rest else none
  | .lowU high, c :: rest => if c = 'u' then readString (.hex 4 0 (some high)) rest else none

/-! Numbers. -/

/-- The digits behind a point, or none where there is no point. -/
def readFraction (text : List Char) : Option (List Char × List Char) :=
  if text.head? = some '.' then
    let digits := text.tail.takeWhile Char.isDigit
    if digits = [] then none else some (digits, text.tail.dropWhile Char.isDigit)
  else some ([], text)

/-- A power of ten, or zero where there is none. -/
def readExponent (text : List Char) : Option (Int × List Char) :=
  if text.head? = some 'e' ∨ text.head? = some 'E' then
    let negative : Bool := text.tail.head? = some '-'
    let text := if negative ∨ text.tail.head? = some '+' then text.tail.tail else text.tail
    let digits := text.takeWhile Char.isDigit
    if digits = [] then none
    else
      let exponent : Int := Nat.ofDigitChars 10 digits 0
      some (if negative then -exponent else exponent, text.dropWhile Char.isDigit)
  else some (0, text)

def readUnsigned (text : List Char) : Option (ℚ × List Char) := do
  let whole := text.takeWhile Char.isDigit
  if whole = [] ∨ whole.head? = some '0' ∧ whole.length ≠ 1 then none
  else
    let (fraction, text) ← readFraction (text.dropWhile Char.isDigit)
    let (exponent, text) ← readExponent text
    some (Ieee.decimalValue whole fraction * (10 : ℚ) ^ exponent, text)

def readNumber (text : List Char) : Option (ℚ × List Char) :=
  if text.head? = some '-' then (readUnsigned text.tail).map fun found => (-found.1, found.2)
  else readUnsigned text

/-! Values. -/

/-- Items with commas between them up to the closing bracket. -/
def readList {α : Type} (item : List Char → Option (α × List Char)) (close : Char) :
    Nat → List Char → Option (List α × List Char)
  | 0, _ => none
  | n + 1, text =>
      (item text).bind fun found =>
        match skip found.2 with
        | [] => none
        | c :: rest =>
            if c = close then some ([found.1], rest)
            else if c = ',' then
              (readList item close n rest).map fun others => (found.1 :: others.1, others.2)
            else none

/-- What is behind an opening bracket. -/
def readEnclosed {α : Type} (item : List Char → Option (α × List Char)) (close : Char) (n : Nat)
    (text : List Char) : Option (List α × List Char) :=
  if (skip text).head? = some close then some ([], (skip text).tail)
  else readList item close n text

def readMember (value : List Char → Option (Value × List Char)) (text : List Char) :
    Option ((List Char × Value) × List Char) :=
  if (skip text).head? = some '"' then
    (readString .plain (skip text).tail).bind fun name =>
      if (skip name.2).head? = some ':' then
        (value (skip name.2).tail).map fun found => ((name.1, found.1), found.2)
      else none
  else none

def literals : List (List Char × Value) :=
  [("null".toList, .null), ("true".toList, .bool true), ("false".toList, .bool false)]

def readLiteral (text : List Char) : Option (Value × List Char) :=
  literals.findSome? fun literal =>
    (Words.stripPrefix literal.1 text).map fun rest => (literal.2, rest)

/-- The value at the start of a text, and what comes after it; the number bounds the depth and the
items. -/
def readValue : Nat → List Char → Option (Value × List Char)
  | 0, _ => none
  | n + 1, text =>
      match skip text with
      | [] => none
      | c :: rest =>
          if c = '"' then (readString .plain rest).map fun found => (.string found.1, found.2)
          else if c = '[' then
            (readEnclosed (readValue n) ']' n rest).map fun found => (.array found.1, found.2)
          else if c = '{' then
            (readEnclosed (readMember (readValue n)) '}' n rest).map
              fun found => (.object found.1, found.2)
          else (readLiteral (c :: rest)).or
            ((readNumber (c :: rest)).map fun found => (.number found.1, found.2))

/-- The text is one of the value. -/
def Reads (text : List Char) (v : Value) : Prop :=
  ∃ n rest, readValue n text = some (v, rest) ∧ skip rest = []

/-- The text is one of the value, whatever comes after it. -/
def Stands (text : List Char) (v : Value) : Prop :=
  ∃ n, ∀ m, n ≤ m → ∀ rest, readValue m (text ++ rest) = some (v, rest)

section Fuel

variable {α : Type}

theorem readList_mono {item item' : List Char → Option (α × List Char)} {close : Char}
    (more : ∀ text found, item text = some found → item' text = some found) {n : Nat}
    {text : List Char} {found : List α × List Char}
    (done : readList item close n text = some found) :
    readList item' close (n + 1) text = some found := by
  induction n generalizing text found with
  | zero => cases done
  | succ n ih =>
      rw [readList, Option.bind_eq_some_iff] at done
      obtain ⟨first, here, done⟩ := done
      rw [readList, more _ _ here, Option.bind_some]
      cases rest : skip first.2 with
      | nil =>
          rw [rest] at done
          cases done
      | cons c later =>
          rw [rest] at done
          dsimp only at done ⊢
          split_ifs at done with closed comma
          · rw [if_pos closed]
            exact done
          · obtain ⟨others, tail, same⟩ := Option.map_eq_some_iff.mp done
            rw [if_neg closed, if_pos comma, ih tail, Option.map_some, same]

theorem readEnclosed_mono {item item' : List Char → Option (α × List Char)} {close : Char}
    (more : ∀ text found, item text = some found → item' text = some found) {n : Nat}
    {text : List Char} {found : List α × List Char}
    (done : readEnclosed item close n text = some found) :
    readEnclosed item' close (n + 1) text = some found := by
  unfold readEnclosed at done ⊢
  split_ifs at done ⊢ with empty
  · exact done
  · exact readList_mono more done

theorem readMember_mono {value value' : List Char → Option (Value × List Char)}
    (more : ∀ text found, value text = some found → value' text = some found)
    {text : List Char} {found : (List Char × Value) × List Char}
    (done : readMember value text = some found) : readMember value' text = some found := by
  unfold readMember at done ⊢
  split_ifs at done ⊢
  obtain ⟨name, named, done⟩ := Option.bind_eq_some_iff.mp done
  refine Option.bind_eq_some_iff.mpr ⟨name, named, ?_⟩
  split_ifs at done ⊢
  obtain ⟨v, here, same⟩ := Option.map_eq_some_iff.mp done
  rw [more _ _ here, Option.map_some, same]

theorem readValue_succ {n : Nat} {text : List Char} {found : Value × List Char}
    (done : readValue n text = some found) : readValue (n + 1) text = some found := by
  induction n generalizing text found with
  | zero => cases done
  | succ n ih =>
      rw [readValue] at done ⊢
      cases start : skip text with
      | nil =>
          rw [start] at done
          cases done
      | cons c rest =>
          rw [start] at done
          dsimp only at done ⊢
          split_ifs at done ⊢ with string array object
          · exact done
          · obtain ⟨items, here, same⟩ := Option.map_eq_some_iff.mp done
            rw [readEnclosed_mono (fun _ _ => ih) here, Option.map_some, same]
          · obtain ⟨members, here, same⟩ := Option.map_eq_some_iff.mp done
            rw [readEnclosed_mono (fun _ _ => readMember_mono fun _ _ => ih) here,
              Option.map_some, same]
          · exact done

theorem readValue_le {n m : Nat} (order : n ≤ m) {text : List Char} {found : Value × List Char}
    (done : readValue n text = some found) : readValue m text = some found := by
  induction order with
  | refl => exact done
  | step _ ih => exact readValue_succ ih

/-- A text has one value. -/
theorem Reads.unique {text : List Char} {v v' : Value} (reads : Reads text v)
    (reads' : Reads text v') : v = v' := by
  obtain ⟨n, rest, done, _⟩ := reads
  obtain ⟨m, rest', done', _⟩ := reads'
  have both := readValue_le (Nat.le_max_left n m) done
  rw [readValue_le (Nat.le_max_right n m) done'] at both
  exact (congrArg Prod.fst (Option.some.inj both)).symm

end Fuel

section Pieces

variable {α : Type} {item : List Char → Option (α × List Char)} {close : Char}
  {follows : List Char → Prop}

theorem skip_cons {c : Char} (solid : blank c = false) (rest : List Char) :
    skip (c :: rest) = c :: rest :=
  List.dropWhile_cons_of_neg (by rw [solid]; decide)

/-- The piece is read as the item before all that can come next. -/
def Good (item : List Char → Option (α × List Char)) (follows : List Char → Prop)
    (piece : List Char) (a : α) : Prop :=
  ∀ rest, follows rest → item (piece ++ rest) = some (a, rest)

/-- Pieces with commas between them are read one after another. -/
theorem readList_good {pieces : List (List Char)} {values : List α}
    (good : List.Forall₂ (Good item follows) pieces values) (filled : pieces ≠ [])
    (comma : ∀ rest, follows (',' :: rest)) (apart : close ≠ ',') {ending rest : List Char}
    (ends : skip ending = close :: rest) (last : follows ending) {n : Nat}
    (enough : pieces.length ≤ n) :
    readList item close n ([','].intercalate pieces ++ ending) = some (values, rest) := by
  induction good generalizing n with
  | nil => exact absurd rfl filled
  | @cons piece a pieces values here later ih =>
      obtain ⟨m, rfl⟩ := Nat.exists_eq_add_of_le' (Nat.le_of_add_left_le enough : 1 ≤ n)
      cases later with
      | nil =>
          rw [List.intercalate_singleton, readList, here _ last, Option.bind_some]
          dsimp only
          rw [ends]
          exact if_pos rfl
      | cons next others =>
          rw [List.intercalate_cons_cons, List.append_assoc, List.append_assoc, readList,
            List.singleton_append, here _ (comma _), Option.bind_some]
          dsimp only
          rw [skip_cons (by decide)]
          dsimp only
          rw [if_neg apart.symm, if_pos rfl,
            ih (by simp) (by simp only [List.length_cons] at enough ⊢; omega)]
          rfl

/-- One piece that is not read, and the list is not. -/
theorem readList_bad {pieces : List (List Char)}
    (each : ∀ piece ∈ pieces, (∃ a, Good item follows piece a) ∨ ∀ rest, item (piece ++ rest) = none)
    (bad : ∃ piece ∈ pieces, ∀ rest, item (piece ++ rest) = none)
    (comma : ∀ rest, follows (',' :: rest)) (apart : close ≠ ',') (ending : List Char) (n : Nat) :
    readList item close n ([','].intercalate pieces ++ ending) = none := by
  induction pieces generalizing n with
  | nil =>
      obtain ⟨_, member, _⟩ := bad
      cases member
  | cons piece rest ih =>
      obtain ⟨here, later⟩ := List.forall_mem_cons.mp each
      have refused (refused : ∀ rest, item (piece ++ rest) = none) (text : List Char) :
          readList item close n (piece ++ text) = none := by
        cases n with
        | zero => rfl
        | succ n => rw [readList, refused]; rfl
      obtain ⟨found, member, fails⟩ := bad
      rcases List.mem_cons.mp member with same | among
      · cases rest with
        | nil => rw [List.intercalate_singleton, refused (same ▸ fails)]
        | cons next more => rw [List.intercalate_cons_cons, List.append_assoc,
            List.append_assoc, refused (same ▸ fails)]
      · cases rest with
        | nil => cases among
        | cons next more =>
            rw [List.intercalate_cons_cons, List.append_assoc, List.append_assoc]
            rcases here with ⟨a, good⟩ | first
            · cases n with
              | zero => rfl
              | succ n =>
                  rw [readList, List.singleton_append, good _ (comma _), Option.bind_some]
                  dsimp only
                  rw [skip_cons (by decide)]
                  dsimp only
                  rw [if_neg apart.symm, if_pos rfl, ih later ⟨found, among, fails⟩]
                  rfl
            · exact refused first _

end Pieces

section Members

/-- No character of the text is escaped in a string. -/
def Unescaped (text : List Char) : Prop := ∀ c ∈ text, c ≠ '"' ∧ c ≠ '\\' ∧ ¬ c.toNat < 0x20

instance (text : List Char) : Decidable (Unescaped text) :=
  decidable_of_iff (text.all fun c => decide (c ≠ '"' ∧ c ≠ '\\' ∧ ¬ c.toNat < 0x20))
    (by simp only [List.all_eq_true, decide_eq_true_eq, Unescaped])

theorem readString_plain {name : List Char} (plain : Unescaped name) (rest : List Char) :
    readString .plain (name ++ '"' :: rest) = some (name, rest) := by
  induction name with
  | nil => rfl
  | cons c name ih =>
      obtain ⟨⟨mark, escape, control⟩, later⟩ := List.forall_mem_cons.mp plain
      rw [List.cons_append, readString, if_neg mark, if_neg escape, if_neg control, ih later]
      rfl

/-- The text before a closing quote is read as the name. -/
def Named (body name : List Char) : Prop :=
  ∀ rest, readString .plain (body ++ '"' :: rest) = some (name, rest)

/-- The text of a member. -/
def memberText (name text : List Char) : List Char := '"' :: name ++ '"' :: ':' :: text

theorem readMember_eq {value : List Char → Option (Value × List Char)} {body name : List Char}
    (named : Named body name) (text rest : List Char) :
    readMember value (memberText body text ++ rest) =
      (value (text ++ rest)).map fun found => ((name, found.1), found.2) := by
  have whole : memberText body text ++ rest = '"' :: (body ++ '"' :: ':' :: (text ++ rest)) := by
    simp [memberText]
  rw [readMember, whole, skip_cons (by decide), List.head?_cons, if_pos rfl, List.tail_cons,
    named, Option.bind_some]
  dsimp only
  rw [skip_cons (by decide), List.head?_cons, if_pos rfl, List.tail_cons]

end Members

section Numbers

/-- What can come after a number. -/
def Ends (rest : List Char) : Prop :=
  ∀ c ∈ rest.head?, c.isDigit = false ∧ c ≠ '.' ∧ c ≠ 'e' ∧ c ≠ 'E'

theorem ends_cons {c : Char} (other : c.isDigit = false ∧ c ≠ '.' ∧ c ≠ 'e' ∧ c ≠ 'E')
    (rest : List Char) : Ends (c :: rest) := by
  intro d same
  rw [List.head?_cons, Option.mem_some_iff] at same
  exact same ▸ other

variable {rest : List Char}

theorem takeWhile_digits {digits : List Char} (all : ∀ c ∈ digits, c.isDigit = true)
    (stop : ∀ c ∈ rest.head?, c.isDigit = false) :
    (digits ++ rest).takeWhile Char.isDigit = digits ∧
      (digits ++ rest).dropWhile Char.isDigit = rest := by
  rw [List.takeWhile_append_of_pos all, List.dropWhile_append_of_pos all]
  cases rest with
  | nil => exact ⟨List.append_nil digits, rfl⟩
  | cons c rest =>
      have other : ¬ c.isDigit = true := by
        rw [stop c rfl]
        decide
      rw [List.takeWhile_cons_of_neg other, List.dropWhile_cons_of_neg other, List.append_nil]
      exact ⟨rfl, rfl⟩

theorem readFraction_eq {fraction : List Char} (digits : ∀ c ∈ fraction, c.isDigit = true)
    (ends : Ends rest) :
    readFraction ((if fraction = [] then [] else '.' :: fraction) ++ rest) =
      some (fraction, rest) := by
  unfold readFraction
  split_ifs with empty point point
  · obtain ⟨_, other, _⟩ := ends '.' point
    exact absurd rfl other
  · rw [empty]
    rfl
  · obtain ⟨taken, dropped⟩ := takeWhile_digits digits fun c here => (ends c here).1
    dsimp only
    rw [List.cons_append, List.tail_cons, taken, dropped, if_neg empty]
  · exact absurd rfl point

theorem readExponent_eq (ends : Ends rest) : readExponent rest = some (0, rest) := by
  rw [readExponent, if_neg]
  rintro (same | same)
  · exact (ends 'e' same).2.2.1 rfl
  · exact (ends 'E' same).2.2.2 rfl

/-- A number without a sign and an exponent. -/
theorem readUnsigned_eq (n : Nat) {fraction : List Char}
    (digits : ∀ c ∈ fraction, c.isDigit = true) (ends : Ends rest) :
    readUnsigned ((if fraction = [] then Nat.toDigits 10 n
        else Nat.toDigits 10 n ++ '.' :: fraction) ++ rest) =
      some (Ieee.decimalValue (Nat.toDigits 10 n) fraction, rest) := by
  have whole : (if fraction = [] then Nat.toDigits 10 n
      else Nat.toDigits 10 n ++ '.' :: fraction) ++ rest =
      Nat.toDigits 10 n ++ ((if fraction = [] then [] else '.' :: fraction) ++ rest) := by
    split_ifs with empty
    · rfl
    · rw [List.append_assoc]
  have stop : ∀ c ∈ ((if fraction = [] then [] else '.' :: fraction) ++ rest).head?,
      c.isDigit = false := by
    intro c here
    split_ifs at here with empty
    · exact (ends c here).1
    · cases here
      rfl
  obtain ⟨taken, dropped⟩ := @takeWhile_digits _ (Nat.toDigits 10 n)
    (fun c member => Nat.isDigit_of_mem_toDigits (by decide) (by decide) member) stop
  have proper : ¬ (Nat.toDigits 10 n = [] ∨
      (Nat.toDigits 10 n).head? = some '0' ∧ (Nat.toDigits 10 n).length ≠ 1) := by
    rintro (none | ⟨zero, long⟩)
    · exact Nat.toDigits_ne_nil none
    · exact long (Ieee.length_of_leading_zero zero)
  unfold readUnsigned
  dsimp only
  rw [whole, taken, dropped, if_neg proper, readFraction_eq digits ends]
  change (readExponent rest).bind _ = _
  rw [readExponent_eq ends, Option.bind_some, zpow_zero, mul_one]

theorem head_ne_minus {n : Nat} {text : List Char} :
    (Nat.toDigits 10 n ++ text).head? ≠ some '-' := by
  intro same
  rw [List.head?_append_of_ne_nil _ Nat.toDigits_ne_nil] at same
  have digit := @Nat.isDigit_of_mem_toDigits 10 _ '-' (by decide) (by decide)
    (List.mem_of_head? same)
  exact absurd digit (by decide)

theorem readUnsigned_nat (n : Nat) (ends : Ends rest) :
    readUnsigned (Nat.toDigits 10 n ++ rest) = some ((n : ℚ), rest) := by
  have read := @readUnsigned_eq rest n [] (by simp) ends
  rw [if_pos rfl, Ieee.decimalValue, List.append_nil, Nat.ofDigitChars_ten_toDigits,
    List.length_nil, pow_zero, div_one] at read
  exact read

theorem readNumber_nat (n : Nat) (ends : Ends rest) :
    readNumber (Nat.toDigits 10 n ++ rest) = some ((n : ℚ), rest) := by
  rw [readNumber, if_neg head_ne_minus, readUnsigned_nat n ends]

/-- The text of a value that is not negative is a number that rounds to it. -/
theorem readUnsigned_display {q : ℚ} (float : Ieee.binary64.IsFloat q) (nonneg : 0 ≤ q) :
    ∃ r, Ieee.binary64.round r = .finite q ∧ ∃ first more,
      Ieee.decimalText (Ieee.shortestDecimal q).1 (Ieee.shortestDecimal q).2 = first :: more ∧
      first.isDigit = true ∧ ∀ rest, Ends rest →
        readUnsigned (Ieee.decimalText (Ieee.shortestDecimal q).1 (Ieee.shortestDecimal q).2 ++
          rest) = some (r, rest) := by
  obtain ⟨n, fraction, digits, value, text⟩ :=
    Ieee.decimalText_value (Ieee.shortestDecimal q).1 (Ieee.shortestDecimal q).2
  obtain ⟨first, more, split⟩ := List.exists_cons_of_ne_nil (@Nat.toDigits_ne_nil n 10)
  have digit : first.isDigit = true :=
    Nat.isDigit_of_mem_toDigits (by decide) (by decide) (split ▸ List.mem_cons_self)
  have starts : ∃ more, Ieee.decimalText (Ieee.shortestDecimal q).1 (Ieee.shortestDecimal q).2 =
      first :: more := by
    rw [text, split]
    split_ifs
    · exact ⟨_, rfl⟩
    · exact ⟨_, rfl⟩
  obtain ⟨more, starts⟩ := starts
  refine ⟨(Ieee.shortestDecimal q).1 * (10 : ℚ) ^ (Ieee.shortestDecimal q).2, ?_, first, more,
    starts, digit, fun rest ends => ?_⟩
  · exact Ieee.shortestDecimal_rounds float nonneg
  · rw [text, ← value]
    exact readUnsigned_eq n digits ends

/-- The text of a finite value is a number that rounds to it. -/
theorem readNumber_display {q : ℚ} (float : Ieee.binary64.IsFloat q) :
    ∃ r, Ieee.binary64.round r = .finite q ∧ ∃ first more,
      (Ieee.Value.finite q).display = first :: more ∧ (first.isDigit = true ∨ first = '-') ∧
      ∀ rest, Ends rest →
        readNumber ((Ieee.Value.finite q).display ++ rest) = some (r, rest) := by
  rw [Ieee.Value.display]
  dsimp only
  split_ifs with negative
  · have mirrored : Ieee.binary64.IsFloat (-q) := Ieee.round_neg float
    obtain ⟨r, rounds, _, _, _, _, read⟩ := readUnsigned_display mirrored (by linarith)
    refine ⟨-r, by rw [Ieee.round_neg rounds, neg_neg], '-', _, rfl, .inr rfl, fun rest ends => ?_⟩
    rw [abs_of_neg negative, List.cons_append, readNumber, List.head?_cons, if_pos rfl,
      List.tail_cons, read rest ends]
    rfl
  · have nonneg := not_lt.mp negative
    obtain ⟨r, rounds, first, more, starts, digit, read⟩ := readUnsigned_display float nonneg
    rw [abs_of_nonneg nonneg]
    refine ⟨r, rounds, first, more, starts, .inl digit, fun rest ends => ?_⟩
    have unsigned : (Ieee.decimalText (Ieee.shortestDecimal q).1 (Ieee.shortestDecimal q).2 ++
        rest).head? ≠ some '-' := by
      rw [starts]
      intro same
      rw [Option.some.inj same] at digit
      cases digit
    rw [readNumber, if_neg unsigned, read rest ends]

end Numbers

section Values

variable {n : Nat} {rest : List Char}

theorem skip_blank {c : Char} (empty : blank c = true) (text : List Char) :
    skip (c :: text) = skip text :=
  List.dropWhile_cons_of_pos empty

theorem readValue_blank {c : Char} (empty : blank c = true) (text : List Char) :
    readValue n (c :: text) = readValue n text := by
  cases n with
  | zero => rfl
  | succ n => rw [readValue, readValue, skip_blank empty]

/-- What starts neither a string, an array, an object nor a word is a number or nothing. -/
theorem readValue_other {c : Char} (other : blank c = false ∧ c ∉ ['"', '[', '{', 'n', 't', 'f'])
    {text text' : List Char} (starts : skip text' = c :: text) :
    readValue (n + 1) text' =
      (readNumber (c :: text)).map fun found => (.number found.1, found.2) := by
  obtain ⟨_, other⟩ := other
  simp only [List.mem_cons, List.not_mem_nil, or_false, not_or] at other
  obtain ⟨string, array, object, null, yes, no⟩ := other
  have literal : readLiteral (c :: text) = none := by
    have apart {first : Char} (word : List Char) (differs : c ≠ first) :
        Words.stripPrefix (first :: word) (c :: text) = none := by
      rw [Words.stripPrefix, if_neg]
      intro front
      exact differs (List.cons_prefix_cons.mp front).1.symm
    rw [readLiteral, literals, List.findSome?_eq_none_iff]
    intro literal member
    rw [Option.map_eq_none_iff]
    simp only [List.mem_cons, List.not_mem_nil, or_false] at member
    rcases member with rfl | rfl | rfl
    · exact apart _ null
    · exact apart _ yes
    · exact apart _ no
  rw [readValue, starts]
  dsimp only
  rw [if_neg string, if_neg array, if_neg object, literal, Option.none_or]

/-- A text that is no value ends what it stands in. -/
theorem readValue_none {c : Char} (other : blank c = false ∧ c ∉ ['"', '[', '{', 'n', 't', 'f'])
    {text text' : List Char} (starts : skip text' = c :: text)
    (unread : readNumber (c :: text) = none) : readValue n text' = none := by
  cases n with
  | zero => rfl
  | succ n => rw [readValue_other other starts, unread, Option.map_none]

theorem readNumber_none {c : Char} (other : c.isDigit = false ∧ c ≠ '-') (text : List Char) :
    readNumber (c :: text) = none ∧ readNumber ('-' :: c :: text) = none := by
  have unsigned : readUnsigned (c :: text) = none := by
    rw [readUnsigned, List.takeWhile_cons_of_neg (by rw [other.1]; decide)]
    exact if_pos (.inl rfl)
  constructor
  · rw [readNumber, if_neg, unsigned]
    intro same
    exact other.2 (Option.some.inj same)
  · rw [readNumber, List.head?_cons, if_pos rfl, List.tail_cons, unsigned]
    rfl

/-- A text that starts with a digit or a minus sign and is read as a number is one. -/
theorem good_number {text : List Char} {q : ℚ} {first : Char} {more : List Char}
    (starts : text = first :: more) (digit : first.isDigit = true ∨ first = '-')
    (read : ∀ rest, Ends rest → readNumber (text ++ rest) = some (q, rest)) :
    Good (readValue (n + 1)) Ends text (.number q) := by
  intro rest ends
  have other : blank first = false ∧ first ∉ ['"', '[', '{', 'n', 't', 'f'] := by
    rcases digit with digit | rfl
    · simp only [blank, List.mem_cons, List.not_mem_nil, or_false, not_or, Bool.or_eq_false_iff,
        decide_eq_false_iff_not]
      refine ⟨⟨⟨⟨?_, ?_⟩, ?_⟩, ?_⟩, ?_, ?_, ?_, ?_, ?_, ?_⟩ <;> rintro rfl <;> cases digit
    · decide
  have whole : text ++ rest = first :: (more ++ rest) := by
    rw [starts, List.cons_append]
  have begun : skip (text ++ rest) = first :: (more ++ rest) := by
    rw [whole, skip_cons other.1]
  rw [readValue_other other begun, ← whole, read rest ends]
  rfl

theorem good_nat (k : Nat) : Good (readValue (n + 1)) Ends (Nat.toDigits 10 k) (.number k) := by
  obtain ⟨first, more, digits⟩ := List.exists_cons_of_ne_nil (@Nat.toDigits_ne_nil k 10)
  refine good_number digits (.inl ?_) fun rest ends => readNumber_nat k ends
  exact Nat.isDigit_of_mem_toDigits (by decide) (by decide) (digits ▸ List.mem_cons_self)

theorem good_negative (k : Nat) :
    Good (readValue (n + 1)) Ends ('-' :: Nat.toDigits 10 k) (.number (-k)) := by
  refine good_number rfl (.inr rfl) fun rest ends => ?_
  rw [List.cons_append, readNumber, List.head?_cons, if_pos rfl, List.tail_cons,
    readUnsigned_nat k ends]
  rfl

/-- The text of a finite value is read as a number that rounds to it. -/
theorem good_display {q : ℚ} (float : Ieee.binary64.IsFloat q) :
    ∃ r, Ieee.binary64.round r = .finite q ∧
      ∀ n, Good (readValue (n + 1)) Ends (Ieee.Value.finite q).display (.number r) := by
  obtain ⟨r, rounds, first, more, starts, digit, read⟩ := readNumber_display float
  exact ⟨r, rounds, fun n => good_number starts digit read⟩

/-- A string, whatever comes after it. -/
theorem good_string {body s : List Char}
    (read : ∀ rest, readString .plain (body ++ rest) = some (s, rest)) (follows) :
    Good (readValue (n + 1)) follows ('"' :: body) (.string s) := by
  intro rest _
  rw [List.cons_append, readValue, skip_cons (by decide)]
  dsimp only
  rw [if_pos rfl, read rest]
  rfl

theorem open_members {members : List (List Char × List Char)} (filled : members ≠ [])
    (rest : List Char) : (skip ([','].intercalate (members.map fun m => memberText m.1 m.2) ++
      rest)).head? ≠ some '}' := by
  obtain ⟨first, more, rfl⟩ := List.exists_cons_of_ne_nil filled
  rw [List.map_cons, Words.intercalate_cons, memberText, List.cons_append, List.cons_append, List.cons_append,
    skip_cons (by decide), List.head?_cons]
  decide

/-- Members with commas between them in braces. -/
theorem good_object {members : List (List Char × List Char)} {shown : List (List Char × Value)}
    (good : List.Forall₂ (fun m v => Named m.1 v.1 ∧ Good (readValue n) Ends m.2 v.2) members shown)
    (filled : members ≠ []) (enough : members.length ≤ n) (follows) :
    Good (readValue (n + 1)) follows
      ('{' :: [','].intercalate (members.map fun m => memberText m.1 m.2) ++ ['}'])
      (.object shown) := by
  intro rest _
  have pieces : List.Forall₂ (Good (readMember (readValue n)) Ends)
      (members.map fun m => memberText m.1 m.2) shown := by
    rw [List.forall₂_map_left_iff]
    refine good.imp fun m v both rest ends => ?_
    rw [readMember_eq both.1, both.2 rest ends]
    rfl
  have ends : Ends ('}' :: rest) := ends_cons (by decide) rest
  have items := readList_good pieces (by simpa using filled) (fun rest => ends_cons (by decide) rest)
    (by decide) (skip_cons (by decide) rest) ends
    (show (members.map fun m => memberText m.1 m.2).length ≤ n by simpa using enough)
  rw [List.cons_append, List.cons_append, List.append_assoc, readValue, skip_cons (by decide)]
  dsimp only
  rw [if_neg (by decide), if_neg (by decide), if_pos rfl, readEnclosed, List.singleton_append,
    if_neg (open_members filled _), items]
  rfl

/-- One member whose value is not read, and the object is not. -/
theorem bad_object {members : List (List Char × List Char)}
    (plain : ∀ m ∈ members, Unescaped m.1)
    (each : ∀ m ∈ members, ∀ n, (∃ v, Good (readValue n) Ends m.2 v) ∨
      ∀ rest, readValue n (m.2 ++ rest) = none)
    (bad : ∃ m ∈ members, ∀ n rest, readValue n (m.2 ++ rest) = none) (rest : List Char) :
    readValue n ('{' :: [','].intercalate (members.map fun m => memberText m.1 m.2) ++
      '}' :: rest) = none := by
  cases n with
  | zero => rfl
  | succ n =>
      obtain ⟨found, member, fails⟩ := bad
      have pieces : ∀ piece ∈ members.map fun m => memberText m.1 m.2,
          (∃ a, Good (readMember (readValue n)) Ends piece a) ∨
            ∀ rest, readMember (readValue n) (piece ++ rest) = none := by
        rw [List.forall_mem_map]
        intro m inside
        rcases each m inside n with ⟨v, good⟩ | refused
        · refine .inl ⟨(m.1, v), fun rest ends => ?_⟩
          rw [readMember_eq (readString_plain (plain m inside)), good rest ends]
          rfl
        · refine .inr fun rest => ?_
          rw [readMember_eq (readString_plain (plain m inside)), refused rest]
          rfl
      have items := readList_bad pieces ⟨_, List.mem_map_of_mem member, fun rest => by
        rw [readMember_eq (readString_plain (plain found member)), fails n rest]
        rfl⟩ (fun rest => ends_cons (by decide) rest) (show '}' ≠ ',' by decide) ('}' :: rest) n
      rw [List.cons_append, readValue, skip_cons (by decide)]
      dsimp only
      rw [if_neg (by decide), if_neg (by decide), if_pos rfl, readEnclosed,
        if_neg (open_members (List.ne_nil_of_mem member) _), items]
      rfl

/-- A depth from which all of a list are read. -/
theorem exists_depth {α : Type} {P : Nat → α → Prop} {list : List α}
    (each : ∀ a ∈ list, ∃ n, ∀ m, n ≤ m → P m a) : ∃ n, ∀ m, n ≤ m → ∀ a ∈ list, P m a := by
  induction list with
  | nil => exact ⟨0, fun _ _ _ member => absurd member List.not_mem_nil⟩
  | cons first rest ih =>
      obtain ⟨here, later⟩ := List.forall_mem_cons.mp each
      obtain ⟨n, from_n⟩ := here
      obtain ⟨k, from_k⟩ := ih later
      refine ⟨max n k, fun m order => List.forall_mem_cons.mpr ⟨?_, ?_⟩⟩
      · exact from_n m (le_of_max_le_left order)
      · exact from_k m (le_of_max_le_right order)

/-- The lines of an array, one for each piece. -/
def arrayText (pieces : List (List Char)) : List Char :=
  '[' :: '\n' :: [',', '\n'].intercalate pieces ++
    (if pieces = [] then [] else ['\n']) ++ [']', '\n']

theorem arrayText_eq {pieces : List (List Char)} (filled : pieces ≠ []) : arrayText pieces =
    '[' :: ([','].intercalate (pieces.map fun piece => '\n' :: piece) ++ ['\n', ']', '\n']) := by
  have joined : '\n' :: [',', '\n'].intercalate pieces =
      [','].intercalate (pieces.map fun piece => '\n' :: piece) := by
    obtain ⟨first, rest, rfl⟩ := List.exists_cons_of_ne_nil filled
    rw [Words.intercalate_cons, List.map_cons, Words.intercalate_cons, List.flatMap_map]
    rfl
  rw [arrayText, if_neg filled, List.cons_append, List.cons_append, ← joined]
  simp

/-- An array of texts that stand for themselves. -/
theorem reads_array {list : List (List Char × Value)} (each : ∀ p ∈ list, Stands p.1 p.2) :
    Reads (arrayText (list.map Prod.fst)) (.array (list.map Prod.snd)) := by
  cases list with
  | nil => exact ⟨1, ['\n'], rfl, rfl⟩
  | cons first more =>
      obtain ⟨n, from_n⟩ := exists_depth each
      have filled : (first :: more).map Prod.fst ≠ [] := by simp
      have good : List.Forall₂ (Good (readValue (max n (more.length + 1))) fun _ => True)
          (((first :: more).map Prod.fst).map fun piece => '\n' :: piece)
          ((first :: more).map Prod.snd) := by
        rw [List.forall₂_map_left_iff, List.forall₂_map_left_iff, List.forall₂_map_right_iff,
          List.forall₂_same]
        intro p member rest _
        rw [List.cons_append, readValue_blank (by decide)]
        exact from_n _ (le_max_left _ _) p member rest
      have items := readList_good good (by simp) (fun _ => trivial) (by decide)
        (show skip ['\n', ']', '\n'] = ']' :: ['\n'] from rfl) trivial
        (show _ ≤ max n (more.length + 1) by simp)
      have opened : (skip ([','].intercalate (((first :: more).map Prod.fst).map
          fun piece => '\n' :: piece) ++ ['\n', ']', '\n'])).head? ≠ some ']' := by
        intro closed
        rw [List.map_cons, List.map_cons, Words.intercalate_cons, List.cons_append,
          List.cons_append, skip_blank (by decide), List.append_assoc] at closed
        obtain ⟨text, begun⟩ := List.head?_eq_some_iff.mp closed
        have none_read := @readValue_none n ']' (by decide) text _ begun
          (readNumber_none (by decide) text).1
        rw [from_n n le_rfl first List.mem_cons_self] at none_read
        cases none_read
      refine ⟨max n (more.length + 1) + 1, ['\n'], ?_, rfl⟩
      rw [arrayText_eq filled, readValue, skip_cons (by decide)]
      dsimp only
      rw [if_neg (by decide), if_pos rfl, readEnclosed, if_neg opened, items]
      rfl

/-- An array of what stands for some items. -/
theorem exists_array {α : Type} {text : α → Option (List Char)} {Carries : α → Value → Prop}
    {items : List α}
    (each : ∀ a ∈ items, ∃ piece v, text a = some piece ∧ Stands piece v ∧ Carries a v) :
    ∃ values, Reads (arrayText (items.filterMap text)) (.array values) ∧
      List.Forall₂ Carries items values := by
  have paired : ∃ list : List (List Char × Value), list.map Prod.fst = items.filterMap text ∧
      (∀ p ∈ list, Stands p.1 p.2) ∧ List.Forall₂ Carries items (list.map Prod.snd) := by
    induction items with
    | nil => exact ⟨[], rfl, by simp, .nil⟩
    | cons a rest ih =>
        obtain ⟨here, later⟩ := List.forall_mem_cons.mp each
        obtain ⟨piece, v, found, stands, carries⟩ := here
        obtain ⟨list, texts, stand, carried⟩ := ih later
        refine ⟨(piece, v) :: list, ?_, List.forall_mem_cons.mpr ⟨stands, stand⟩,
          .cons carries carried⟩
        rw [List.map_cons, texts, List.filterMap_cons_some found]
  obtain ⟨list, texts, stand, carried⟩ := paired
  exact ⟨_, texts ▸ reads_array stand, carried⟩

/-- One piece that is no value, and the array is none. -/
theorem not_reads_array {pieces : List (List Char)}
    (each : ∀ piece ∈ pieces, (∃ v, Stands piece v) ∨ ∀ n rest, readValue n (piece ++ rest) = none)
    (bad : ∃ piece ∈ pieces, ∀ n rest, readValue n (piece ++ rest) = none)
    (opened : ∀ piece ∈ pieces, ∀ rest, (skip (piece ++ rest)).head? ≠ some ']') (v : Value) :
    ¬ Reads (arrayText pieces) v := by
  rintro ⟨n, rest, done, _⟩
  obtain ⟨found, member, fails⟩ := bad
  have filled := List.ne_nil_of_mem member
  have depth : ∀ piece ∈ pieces, ∃ n, ∀ m, n ≤ m →
      (∃ v, Good (readValue m) (fun _ => True) ('\n' :: piece) v) ∨
        ∀ rest, readValue m ('\n' :: piece ++ rest) = none := by
    intro piece inside
    rcases each piece inside with ⟨v, k, from_k⟩ | refused
    · refine ⟨k, fun m order => .inl ⟨v, fun rest _ => ?_⟩⟩
      rw [List.cons_append, readValue_blank (by decide)]
      exact from_k m order rest
    · refine ⟨0, fun m _ => .inr fun rest => ?_⟩
      rw [List.cons_append, readValue_blank (by decide)]
      exact refused m rest
  obtain ⟨k, from_k⟩ := exists_depth depth
  have deep := from_k (max n k) (le_max_right n k)
  have none_read := readList_bad (List.forall_mem_map.mpr deep)
    ⟨_, List.mem_map_of_mem member, fun rest => by
      rw [List.cons_append, readValue_blank (by decide)]
      exact fails _ rest⟩ (fun _ => trivial) (show ']' ≠ ',' by decide) ['\n', ']', '\n']
    (max n k)
  have done' := readValue_le ((le_max_left n k).trans (Nat.le_succ _)) done
  obtain ⟨first, more, rfl⟩ := List.exists_cons_of_ne_nil filled
  have open_here : (skip ([','].intercalate ((first :: more).map fun piece => '\n' :: piece) ++
      ['\n', ']', '\n'])).head? ≠ some ']' := by
    rw [List.map_cons, Words.intercalate_cons, List.cons_append, List.cons_append,
      skip_blank (by decide), List.append_assoc]
    exact opened first List.mem_cons_self _
  rw [arrayText_eq filled, readValue, skip_cons (by decide)] at done'
  dsimp only at done'
  rw [if_neg (by decide), if_pos rfl, readEnclosed, if_neg open_here, none_read] at done'
  cases done'

end Values

end Json
