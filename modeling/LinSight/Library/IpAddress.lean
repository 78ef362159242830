import Mathlib
import LinSight.Library.Fallible

set_option autoImplicit false

/-! IP addresses and the texts that denote them: the standard forms, and the numbers of `inet_aton`.
-/

namespace Net

/-- For the literals of octets. -/
scoped instance octets : NeZero 256 := ⟨by decide⟩

structure Ipv4Addr where
  a : Fin 256
  b : Fin 256
  c : Fin 256
  d : Fin 256
deriving DecidableEq

structure Ipv6Addr where
  segments : Vector (BitVec 16) 8
deriving DecidableEq

def Ipv6Addr.first (ip : Ipv6Addr) : BitVec 16 := ip.segments[0]

inductive IpAddr where
  | v4 (ip : Ipv4Addr)
  | v6 (ip : Ipv6Addr)
deriving DecidableEq

/-! ### Digits -/

/-- The value of a hexadecimal digit. -/
def digitValue (c : Char) : Option Nat :=
  if c.isDigit then some (c.toNat - '0'.toNat)
  else if 'a'.toNat ≤ c.toNat ∧ c.toNat ≤ 'f'.toNat then some (c.toNat - 'a'.toNat + 10)
  else if 'A'.toNat ≤ c.toNat ∧ c.toNat ≤ 'F'.toNat then some (c.toNat - 'A'.toNat + 10)
  else none

def isDigitOf (radix : Nat) (c : Char) : Bool := (digitValue c).any (· < radix)

def digitsValue (radix : Nat) (digits : List Char) : Nat :=
  digits.foldl (fun n c => n * radix + (digitValue c).getD 0) 0

/-! ### The standard forms -/

/-- The digits in front, at most `maxDigits`, as a number below `limit`. -/
def readNumber (radix maxDigits limit : Nat) (zeroPrefix : Bool) (s : List Char) :
    Option (Nat × List Char) :=
  let digits := s.takeWhile (isDigitOf radix)
  if digits = [] ∨ maxDigits < digits.length then none
  else if zeroPrefix = false ∧ digits.head? = some '0' ∧ 1 < digits.length then none
  else
    let n := digitsValue radix digits
    if n < limit then some (n, s.dropWhile (isDigitOf radix)) else none

def readChar (c : Char) : List Char → Option (List Char)
  | [] => none
  | first :: rest => if first = c then some rest else none

def readOctet (s : List Char) : Option (Fin 256 × List Char) :=
  (readNumber 10 3 256 false s).map fun read => (Fin.ofNat 256 read.1, read.2)

namespace Ipv4Addr

def read (s : List Char) : Option (Ipv4Addr × List Char) := do
  let (a, s) ← readOctet s
  let s ← readChar '.' s
  let (b, s) ← readOctet s
  let s ← readChar '.' s
  let (c, s) ← readOctet s
  let s ← readChar '.' s
  let (d, s) ← readOctet s
  return (⟨a, b, c, d⟩, s)

def toNat (ip : Ipv4Addr) : Nat := ip.a * 2 ^ 24 + ip.b * 2 ^ 16 + ip.c * 2 ^ 8 + ip.d

def ofNat (n : Nat) : Ipv4Addr where
  a := Fin.ofNat 256 (n / 2 ^ 24)
  b := Fin.ofNat 256 (n / 2 ^ 16)
  c := Fin.ofNat 256 (n / 2 ^ 8)
  d := Fin.ofNat 256 n

def toText (ip : Ipv4Addr) : String := s!"{ip.a}.{ip.b}.{ip.c}.{ip.d}"

/-- The two groups that the address takes in an IPv6 address. -/
def groups (ip : Ipv4Addr) : List (BitVec 16) :=
  [BitVec.ofNat 16 (ip.a * 256 + ip.b), BitVec.ofNat 16 (ip.c * 256 + ip.d)]

/-- The address lies in the block `base/bits`. -/
def InBlock (ip base : Ipv4Addr) (bits : Nat) : Prop :=
  ip.toNat / 2 ^ (32 - bits) = base.toNat / 2 ^ (32 - bits)

end Ipv4Addr

namespace Ipv6Addr

def ofGroups (groups : List (BitVec 16)) : Ipv6Addr :=
  ⟨Vector.ofFn fun i => groups.getD i 0⟩

def toNat (ip : Ipv6Addr) : Nat :=
  ip.segments[0].toNat * 2 ^ 112 + ip.segments[1].toNat * 2 ^ 96 +
    ip.segments[2].toNat * 2 ^ 80 + ip.segments[3].toNat * 2 ^ 64 +
    ip.segments[4].toNat * 2 ^ 48 + ip.segments[5].toNat * 2 ^ 32 +
    ip.segments[6].toNat * 2 ^ 16 + ip.segments[7].toNat

/-- The address lies in the block `base/bits`. -/
def InBlock (ip base : Ipv6Addr) (bits : Nat) : Prop :=
  ip.toNat / 2 ^ (128 - bits) = base.toNat / 2 ^ (128 - bits)

/-- A group behind the first comes after a colon. -/
def readSeparator (first : Bool) (s : List Char) : Option (List Char) :=
  if first then some s else readChar ':' s

/-- Up to `limit` groups, and whether the last two are an IPv4 address. -/
def readGroups : Nat → Bool → List Char → List (BitVec 16) × Bool × List Char
  | 0, _, s => ([], false, s)
  | limit + 1, first, s =>
      match if limit = 0 then none else (readSeparator first s).bind Ipv4Addr.read with
      | some (v4, rest) => (v4.groups, true, rest)
      | none =>
          match (readSeparator first s).bind (readNumber 16 4 65536 true) with
          | some (n, rest) =>
              let (groups, v4, rest) := readGroups limit false rest
              (BitVec.ofNat 16 n :: groups, v4, rest)
          | none => ([], false, s)

def read (s : List Char) : Option (Ipv6Addr × List Char) :=
  match readGroups 8 true s with
  | (head, v4, rest) =>
      if head.length = 8 then some (ofGroups head, rest)
      -- an IPv4 address is not allowed in front of `::`
      else if v4 then none
      else
        (readChar ':' rest).bind fun rest => (readChar ':' rest).map fun rest =>
          let (tail, _, rest) := readGroups (7 - head.length) true rest
          (ofGroups (head ++ List.replicate (8 - head.length - tail.length) 0 ++ tail), rest)

/-- The IPv4 address in `::ffff:0:0/96`. -/
def toIpv4Mapped (ip : Ipv6Addr) : Option Ipv4Addr :=
  if ip.segments.toList.take 6 = [0, 0, 0, 0, 0, 0xffff] then
    some (.ofNat (ip.segments[6].toNat * 2 ^ 16 + ip.segments[7].toNat))
  else none

/-- The longest run of zeros among the segments, as its start and its length. -/
def longestZeros (ip : Ipv6Addr) : Nat × Nat :=
  let spans := ip.segments.toList.zipIdx.foldl (fun (longest, current) (segment, i) =>
    if segment = 0 then
      let current : Nat × Nat := (if current.2 = 0 then i else current.1, current.2 + 1)
      (if longest.2 < current.2 then current else longest, current)
    else (longest, (0, 0))) ((0, 0), (0, 0))
  spans.1

def groupsText (groups : List (BitVec 16)) : String :=
  ":".intercalate (groups.map fun group => String.ofList (Nat.toDigits 16 group.toNat))

def toText (ip : Ipv6Addr) : String :=
  match ip.toIpv4Mapped with
  | some v4 => "::ffff:" ++ v4.toText
  | none =>
      let segments := ip.segments.toList
      let (start, length) := ip.longestZeros
      if 1 < length then
        groupsText (segments.take start) ++ "::" ++ groupsText (segments.drop (start + length))
      else groupsText segments

end Ipv6Addr

/-- What was read, if it is the whole text. -/
def whole {α : Type} : Option (α × List Char) → Option α
  | some (value, []) => some value
  | _ => none

def Ipv4Addr.parse (s : List Char) : Option Ipv4Addr := whole (Ipv4Addr.read s)

def Ipv6Addr.parse (s : List Char) : Option Ipv6Addr := whole (Ipv6Addr.read s)

namespace IpAddr

def parse (s : List Char) : Option IpAddr :=
  match Ipv4Addr.read s with
  | some (ip, rest) => (whole (some (ip, rest))).map .v4
  | none => (Ipv6Addr.parse s).map .v6

def toText : IpAddr → String
  | .v4 ip => ip.toText
  | .v6 ip => ip.toText

end IpAddr

/-! ### The numbers of `inet_aton` -/

def atonNumber (radix : Nat) (digits : List Char) : Option Nat :=
  if digits ≠ [] ∧ digits.all (isDigitOf radix) then some (digitsValue radix digits) else none

/-- A decimal number, or an octal one behind `0`, or a hexadecimal one behind `0x`. -/
def atonPart : List Char → Option Nat
  | '0' :: 'x' :: digits | '0' :: 'X' :: digits => atonNumber 16 digits
  | '0' :: digit :: digits => atonNumber 8 (digit :: digits)
  | digits => atonNumber 10 digits

/-- All parts but the last are a byte, and the last fills the rest of the address. -/
def atonAddress : List Nat → Option Nat
  | [a] => if a < 2 ^ 32 then some a else none
  | [a, b] => if a < 256 ∧ b < 2 ^ 24 then some (a * 2 ^ 24 + b) else none
  | [a, b, c] =>
      if a < 256 ∧ b < 256 ∧ c < 2 ^ 16 then some (a * 2 ^ 24 + b * 2 ^ 16 + c) else none
  | [a, b, c, d] =>
      if a < 256 ∧ b < 256 ∧ c < 256 ∧ d < 256 then
        some (a * 2 ^ 24 + b * 2 ^ 16 + c * 2 ^ 8 + d)
      else none
  | _ => none

def inetAton (s : List Char) : Option Ipv4Addr :=
  (((s.splitOn '.').mapM atonPart).bind atonAddress).map Ipv4Addr.ofNat

/-- A mask of high bits clears the low ones. -/
theorem and_allOnes_shiftLeft {w : Nat} (x : BitVec w) (k : Nat) :
    x &&& (BitVec.allOnes w <<< k) = (x >>> k) <<< k := by
  ext i bound
  simp only [BitVec.getElem_and, BitVec.getElem_shiftLeft, BitVec.getElem_ushiftRight]
  by_cases low : i < k
  · simp only [low, decide_true, Bool.not_true, Bool.false_and, Bool.and_false]
  · simp only [low, decide_false, Bool.not_false, Bool.true_and, BitVec.getElem_allOnes,
      Bool.and_true]
    rw [Nat.add_sub_cancel' (by omega), BitVec.getLsbD_eq_getElem bound]

section Digits

theorem isDigitOf_ten (c : Char) : isDigitOf 10 c = c.isDigit := by
  unfold isDigitOf digitValue
  split_ifs with decimal
  · have bounds := Char.isDigit_iff_toNat.mp decimal
    have small : c.toNat - '0'.toNat < 10 := by
      have nine : '9'.toNat = '0'.toNat + 9 := rfl
      omega
    rw [decimal, Option.any_some, decide_eq_true small]
  · rw [Option.any_some, decide_eq_false (by omega), eq_false_of_ne_true decimal]
  · rw [Option.any_some, decide_eq_false (by omega), eq_false_of_ne_true decimal]
  · rw [Option.any_none, eq_false_of_ne_true decimal]

theorem isDigitOf_mono {radix larger : Nat} {c : Char} (le : radix ≤ larger)
    (digit : isDigitOf radix c = true) : isDigitOf larger c = true := by
  unfold isDigitOf at *
  cases value : digitValue c with
  | none =>
      rw [value] at digit
      cases digit
  | some n =>
      rw [value, Option.any_some, decide_eq_true_eq] at digit
      rw [Option.any_some, decide_eq_true_eq]
      omega

end Digits

section Reading

variable {s rest : List Char}

/-- The digits of an octet, without a zero in front. -/
structure Octet (digits : List Char) (n : Fin 256) : Prop where
  nonempty : digits ≠ []
  decimal : ∀ c ∈ digits, c.isDigit = true
  plain : digits.head? = some '0' → digits.length = 1
  value : digitsValue 10 digits = n

theorem readNumber_suffix {radix maxDigits limit n : Nat} {zeroPrefix : Bool}
    (read : readNumber radix maxDigits limit zeroPrefix s = some (n, rest)) : rest <:+ s := by
  unfold readNumber at read
  dsimp only at read
  split_ifs at read
  cases read
  exact List.dropWhile_suffix _

theorem readChar_eq {c : Char} (read : readChar c s = some rest) : s = c :: rest := by
  unfold readChar at read
  split at read
  · cases read
  · split_ifs at read with same
    cases read
    rw [same]

theorem readOctet_spec {n : Fin 256} (read : readOctet s = some (n, rest)) :
    ∃ digits, s = digits ++ rest ∧ Octet digits n := by
  obtain ⟨⟨value, after⟩, number, same⟩ := Option.map_eq_some_iff.mp read
  cases same
  unfold readNumber at number
  dsimp only at number
  split_ifs at number with absent zeros small
  simp only [Option.some.injEq, Prod.mk.injEq] at number
  obtain ⟨rfl, rfl⟩ := number
  refine ⟨s.takeWhile (isDigitOf 10), List.takeWhile_append_dropWhile.symm, ?_, ?_, ?_, ?_⟩
  · exact fun empty => absent (.inl empty)
  · intro c member
    rw [← isDigitOf_ten]
    exact List.mem_takeWhile_imp member
  · intro head
    have nonempty : (s.takeWhile (isDigitOf 10)).length ≠ 0 := fun empty =>
      absent (.inl (List.length_eq_zero_iff.mp empty))
    have short : ¬ 1 < (s.takeWhile (isDigitOf 10)).length := fun long => zeros ⟨rfl, head, long⟩
    omega
  · exact (Nat.mod_eq_of_lt small).symm

/-- Four octets with dots between them have been read. -/
theorem Ipv4Addr.read_spec {ip : Ipv4Addr} (read : Ipv4Addr.read s = some (ip, rest)) :
    ∃ a b c d, s = a ++ '.' :: (b ++ '.' :: (c ++ '.' :: (d ++ rest))) ∧
      Octet a ip.a ∧ Octet b ip.b ∧ Octet c ip.c ∧ Octet d ip.d := by
  simp only [Ipv4Addr.read, bind, Option.bind_eq_some_iff, pure, Option.some.injEq,
    Prod.mk.injEq, Prod.exists] at read
  obtain ⟨a, _, first, _, dot, b, _, second, _, dot', c, _, third, _, dot'', d, _, fourth, rfl,
    rfl⟩ := read
  obtain ⟨as, rfl, octetA⟩ := readOctet_spec first
  obtain rfl := readChar_eq dot
  obtain ⟨bs, rfl, octetB⟩ := readOctet_spec second
  obtain rfl := readChar_eq dot'
  obtain ⟨cs, rfl, octetC⟩ := readOctet_spec third
  obtain rfl := readChar_eq dot''
  obtain ⟨ds, rfl, octetD⟩ := readOctet_spec fourth
  exact ⟨as, bs, cs, ds, rfl, octetA, octetB, octetC, octetD⟩

theorem whole_eq_some {α : Type} {read : Option (α × List Char)} {value : α} :
    whole read = some value ↔ read = some (value, []) := by
  unfold whole
  split
  · simp only [Option.some.injEq, Prod.mk.injEq, and_true]
  · rename_i other
    exact ⟨nofun, fun same => absurd same (other value)⟩

end Reading

section InetAton

theorem Octet.atonPart {digits : List Char} {n : Fin 256} (octet : Octet digits n) :
    Net.atonPart digits = some n.val := by
  have number : atonNumber 10 digits = some n.val := by
    have decimal : digits.all (isDigitOf 10) = true :=
      List.all_eq_true.mpr fun c member => (isDigitOf_ten c).trans (octet.decimal c member)
    rw [atonNumber, if_pos ⟨octet.nonempty, decimal⟩, octet.value]
  unfold Net.atonPart
  split
  · cases octet.plain rfl
  · cases octet.plain rfl
  · cases octet.plain rfl
  · exact number

theorem Octet.dotless {digits : List Char} {n : Fin 256} (octet : Octet digits n) :
    '.' ∉ digits := fun member => by
  have digit := octet.decimal '.' member
  cases digit

theorem Ipv4Addr.ofNat_toNat (ip : Ipv4Addr) : Ipv4Addr.ofNat ip.toNat = ip := by
  obtain ⟨a, b, c, d⟩ := ip
  simp only [Ipv4Addr.ofNat, Ipv4Addr.toNat, Ipv4Addr.mk.injEq, Fin.ext_iff, Fin.ofNat]
  omega

/-- `inet_aton` takes the standard form as it is. -/
theorem Ipv4Addr.inetAton_of_parse {s : List Char} {ip : Ipv4Addr}
    (parsed : Ipv4Addr.parse s = some ip) : inetAton s = some ip := by
  obtain ⟨a, b, c, d, rfl, octetA, octetB, octetC, octetD⟩ :=
    Ipv4Addr.read_spec (whole_eq_some.mp parsed)
  have parts : (a ++ '.' :: (b ++ '.' :: (c ++ '.' :: (d ++ [])))).splitOn '.' = [a, b, c, d] := by
    rw [List.append_nil, List.splitOn_append_cons_self_of_not_mem octetA.dotless,
      List.splitOn_append_cons_self_of_not_mem octetB.dotless,
      List.splitOn_append_cons_self_of_not_mem octetC.dotless,
      List.splitOn_eq_singleton octetD.dotless]
  have numbers : [a, b, c, d].mapM Net.atonPart = some [ip.a.val, ip.b.val, ip.c.val, ip.d.val] := by
    simp only [List.mapM_cons, List.mapM_nil, octetA.atonPart, octetB.atonPart, octetC.atonPart,
      octetD.atonPart, Option.pure_def, Option.bind_eq_bind, Option.bind_some]
  have address : atonAddress [ip.a.val, ip.b.val, ip.c.val, ip.d.val] = some ip.toNat :=
    if_pos ⟨ip.a.isLt, ip.b.isLt, ip.c.isLt, ip.d.isLt⟩
  rw [inetAton, parts, numbers, Option.bind_some, address, Option.map_some, ofNat_toNat]

/-- Every part is decimal or octal digits, or hexadecimal ones behind `0x`. -/
theorem atonPart_digits {part : List Char} {n : Nat} (taken : atonPart part = some n) :
    part ≠ [] ∧ ((∀ c ∈ part, c.isDigit = true) ∨
      ∃ x digits, (x = 'x' ∨ x = 'X') ∧ part = '0' :: x :: digits) := by
  unfold atonPart at taken
  split at taken
  · exact ⟨List.cons_ne_nil _ _, .inr ⟨_, _, .inl rfl, rfl⟩⟩
  · exact ⟨List.cons_ne_nil _ _, .inr ⟨_, _, .inr rfl, rfl⟩⟩
  · rename_i digit digits _ _
    refine ⟨List.cons_ne_nil _ _, .inl ?_⟩
    unfold atonNumber at taken
    split_ifs at taken with octal
    refine List.forall_mem_cons.mpr ⟨rfl, fun c member => ?_⟩
    rw [← isDigitOf_ten]
    exact isDigitOf_mono (by omega) (List.all_eq_true.mp octal.2 c member)
  · unfold atonNumber at taken
    split_ifs at taken with decimal
    refine ⟨decimal.1, .inl fun c member => ?_⟩
    rw [← isDigitOf_ten]
    exact List.all_eq_true.mp decimal.2 c member

theorem inetAton_parts {s : List Char} {ip : Ipv4Addr} (taken : inetAton s = some ip) :
    ∀ part ∈ s.splitOn '.', ∃ n, atonPart part = some n := by
  obtain ⟨_, address, _⟩ := Option.map_eq_some_iff.mp taken
  obtain ⟨numbers, read, -⟩ := Option.bind_eq_some_iff.mp address
  have pairs := Fallible.mapM_eq_some.mp read
  clear taken read address
  generalize s.splitOn '.' = parts at pairs
  induction pairs with
  | nil => exact fun part member => absurd member List.not_mem_nil
  | cons here _ ih => exact List.forall_mem_cons.mpr ⟨⟨_, here⟩, ih⟩

end InetAton

section Ipv6

variable {s rest : List Char}

theorem Ipv4Addr.read_suffix {ip : Ipv4Addr} (read : Ipv4Addr.read s = some (ip, rest)) :
    rest <:+ s := by
  obtain ⟨a, b, c, d, rfl, _⟩ := Ipv4Addr.read_spec read
  exact ⟨a ++ '.' :: (b ++ '.' :: (c ++ '.' :: d)), by simp⟩

namespace Ipv6Addr

theorem readChar_none {c : Char} (absent : c ∉ s) : readChar c s = none := by
  cases read : readChar c s with
  | none => rfl
  | some rest => exact absurd (readChar_eq read ▸ List.mem_cons_self) absent

/-- No group comes behind the last one without a colon. -/
theorem readGroups_colonless (limit : Nat) (colonless : ':' ∉ s) :
    readGroups limit false s = ([], false, s) := by
  cases limit with
  | zero => rfl
  | succ limit =>
      simp only [readGroups, readSeparator, Bool.false_eq_true, ↓reduceIte,
        readChar_none colonless, Option.bind_none, ite_self]

theorem readGroups_first (limit : Nat) (colonless : ':' ∉ s) :
    (readGroups limit true s).1.length ≤ 2 ∧ ':' ∉ (readGroups limit true s).2.2 := by
  cases limit with
  | zero => exact ⟨Nat.zero_le 2, colonless⟩
  | succ limit =>
      simp only [readGroups, readSeparator, ↓reduceIte, Option.bind_some]
      split
      · rename_i v4 rest read
        split_ifs at read
        exact ⟨le_refl 2, fun member => colonless ((Ipv4Addr.read_suffix read).subset member)⟩
      · split
        · rename_i n rest read
          have colonless_rest : ':' ∉ rest := fun member =>
            colonless ((readNumber_suffix read).subset member)
          rw [readGroups_colonless limit colonless_rest]
          exact ⟨Nat.le_succ 1, colonless_rest⟩
        · exact ⟨Nat.zero_le 2, colonless⟩

theorem read_colonless (colonless : ':' ∉ s) : Ipv6Addr.read s = none := by
  obtain ⟨few, colonless_rest⟩ := readGroups_first 8 colonless
  have fewer : (readGroups 8 true s).1.length ≠ 8 := by omega
  unfold Ipv6Addr.read
  dsimp only
  rw [if_neg fewer]
  split
  · rfl
  · rw [readChar_none colonless_rest, Option.bind_none]

/-- An IPv4 address does not start an IPv6 one. -/
theorem read_of_ipv4 {ip : Ipv4Addr} (read : Ipv4Addr.read s = some (ip, rest)) :
    Ipv6Addr.read s = none := by
  have first : readGroups 8 true s = (ip.groups, true, rest) := by
    simp only [readGroups, readSeparator, ↓reduceIte, Option.bind_some, read,
      OfNat.ofNat_ne_zero]
  unfold Ipv6Addr.read
  rw [first]
  rfl

end Ipv6Addr

/-- The two standard forms exclude each other. -/
theorem IpAddr.parse_v6 {ip : Ipv6Addr} (parsed : Ipv6Addr.parse s = some ip) :
    IpAddr.parse s = some (.v6 ip) := by
  unfold IpAddr.parse
  split
  · rename_i read
    rw [Ipv6Addr.parse, Ipv6Addr.read_of_ipv4 read] at parsed
    cases parsed
  · rw [parsed, Option.map_some]

theorem IpAddr.parse_colonless (colonless : ':' ∉ s) :
    IpAddr.parse s = (Ipv4Addr.parse s).map .v4 := by
  unfold IpAddr.parse Ipv4Addr.parse
  split
  · rename_i read
    rw [read]
  · rename_i none
    rw [none, Ipv6Addr.parse, Ipv6Addr.read_colonless colonless]
    rfl

end Ipv6

section Blocks

theorem Ipv6Addr.segment_lt (ip : Ipv6Addr) (i : Fin 8) : ip.segments[i].toNat < 65536 :=
  ip.segments[i].isLt

theorem Ipv6Addr.toNat_injective : Function.Injective Ipv6Addr.toNat := by
  intro ip other same
  have bounds := fun i : Fin 8 => And.intro (ip.segment_lt i) (other.segment_lt i)
  have first := bounds 0
  have second := bounds 1
  have third := bounds 2
  have fourth := bounds 3
  have fifth := bounds 4
  have sixth := bounds 5
  have seventh := bounds 6
  have eighth := bounds 7
  simp only [Fin.getElem_fin] at first second third fourth fifth sixth seventh eighth
  obtain ⟨segments⟩ := ip
  obtain ⟨others⟩ := other
  simp only [Ipv6Addr.toNat] at same
  congr 1
  ext i bound : 1
  apply BitVec.eq_of_toNat_eq
  interval_cases i <;> omega

/-- Short prefixes are prefixes of the first segment. -/
theorem Ipv6Addr.toNat_div (ip : Ipv6Addr) {bits : Nat} (short : bits ≤ 16) :
    ip.toNat / 2 ^ (128 - bits) = ip.first.toNat / 2 ^ (16 - bits) := by
  have first : ip.toNat / 2 ^ 112 = ip.first.toNat := by
    have second := ip.segment_lt 1
    have third := ip.segment_lt 2
    have fourth := ip.segment_lt 3
    have fifth := ip.segment_lt 4
    have sixth := ip.segment_lt 5
    have seventh := ip.segment_lt 6
    have eighth := ip.segment_lt 7
    simp only [Fin.getElem_fin] at second third fourth fifth sixth seventh eighth
    simp only [Ipv6Addr.toNat, Ipv6Addr.first]
    omega
  have split : 128 - bits = 112 + (16 - bits) := by omega
  rw [split, Nat.pow_add, ← Nat.div_div_eq_div_mul, first]

theorem Ipv4Addr.inBlock_self_iff (ip base : Ipv4Addr) : ip.InBlock base 32 ↔ ip = base := by
  simp only [Ipv4Addr.InBlock, Nat.sub_self, pow_zero, Nat.div_one]
  exact (Function.LeftInverse.injective Ipv4Addr.ofNat_toNat).eq_iff

theorem Ipv6Addr.inBlock_self_iff (ip base : Ipv6Addr) : ip.InBlock base 128 ↔ ip = base := by
  simp only [Ipv6Addr.InBlock, Nat.sub_self, pow_zero, Nat.div_one]
  exact Ipv6Addr.toNat_injective.eq_iff

/-- The mask test of a short prefix. -/
theorem Ipv6Addr.inBlock_iff_and (ip base : Ipv6Addr) {bits : Nat} (short : bits ≤ 16)
    (exact_ : base.first &&& (BitVec.allOnes 16 <<< (16 - bits)) = base.first) :
    ip.InBlock base bits ↔
      ip.first &&& (BitVec.allOnes 16 <<< (16 - bits)) = base.first := by
  rw [Ipv6Addr.InBlock, toNat_div ip short, toNat_div base short]
  rw [and_allOnes_shiftLeft] at exact_ ⊢
  constructor
  · intro same
    rw [← exact_]
    congr 1
    apply BitVec.eq_of_toNat_eq
    rw [BitVec.toNat_ushiftRight, BitVec.toNat_ushiftRight, Nat.shiftRight_eq_div_pow,
      Nat.shiftRight_eq_div_pow, same]
  · intro same
    have value := congrArg BitVec.toNat same
    have below : ip.first.toNat / 2 ^ (16 - bits) * 2 ^ (16 - bits) < 2 ^ 16 :=
      (Nat.div_mul_le_self ..).trans_lt ip.first.isLt
    rw [BitVec.toNat_shiftLeft, BitVec.toNat_ushiftRight, Nat.shiftLeft_eq,
      Nat.shiftRight_eq_div_pow, Nat.mod_eq_of_lt below] at value
    rw [← value, Nat.mul_div_cancel _ (Nat.two_pow_pos _)]

end Blocks

end Net
