import LinSight.Core.Types
import LinSight.Library.IpAddress
import LinSight.Library.KeyMap
import LinSight.Library.Words
import Mathlib

set_option autoImplicit false

/-! The database of PCI ids: the parser, and the grammar of the files it is for. -/

namespace LinSight

open Net (isDigitOf digitsValue)
open Words (stripPrefix)

structure PciIdDb where
  vendors : KeyMap Nat String
  devices : KeyMap (Nat × Nat) String

namespace PciIdDb

/-- `u16::from_str_radix` for the radix 16: an optional plus sign is allowed. -/
def parseHex (text : List Char) : Option Nat :=
  let digits := if text.head? = some '+' then text.tail else text
  if digits.isEmpty || !digits.all (isDigitOf 16) then none
  else if digitsValue 16 digits < 65536 then some (digitsValue 16 digits) else none

/-- `splitn(2, char::is_whitespace)`: the second part is behind the first blank. -/
def firstWord (line : List Char) : List Char := line.takeWhile (!isWhitespace ·)

/-- The second part, trimmed. -/
def restOf (line : List Char) : String :=
  String.ofList (Words.trim isWhitespace ((line.dropWhile (!isWhitespace ·)).drop 1))

/-- What is kept between two lines. -/
structure Scan where
  db : PciIdDb
  currentVendor : Option Nat

def Scan.start : Scan := ⟨⟨∅, ∅⟩, none⟩

def Scan.vendor (scan : Scan) (v : Nat) (name : String) : Scan :=
  ⟨{ scan.db with vendors := scan.db.vendors.insert v name }, some v⟩

def Scan.device (scan : Scan) (vendor dev : Nat) (name : String) : Scan :=
  { scan with db.devices := scan.db.devices.insert (vendor, dev) name }

def Scan.line (scan : Scan) (line : List Char) : Scan :=
  if line.head? = some '#' ∨ Words.trim isWhitespace line = [] then scan
  else if ['\t', '\t'] <+: line then scan
  else
    match stripPrefix ['\t'] line with
    | some rest =>
        match scan.currentVendor, parseHex (firstWord rest) with
        | some vendor, some dev => scan.device vendor dev (restOf rest)
        | _, _ => scan
    | none =>
        match parseHex (firstWord line) with
        | some v => scan.vendor v (restOf line)
        | none => { scan with currentVendor := none }

def parse (text : String) : PciIdDb := ((Words.lines text.toList).foldl Scan.line .start).db

end PciIdDb

/-! The files: a vendor section of blocks, and behind it a class section. -/

namespace PciIds

/-- Four hex digits, blanks and a name; blanks may follow. -/
structure Entry where
  id : List Char
  blanks : List Char
  name : List Char
  behind : List Char
  four : id.length = 4
  hex : ∀ c ∈ id, isDigitOf 16 c = true
  parted : blanks ≠ []
  blank : ∀ c ∈ blanks, isWhitespace c = true
  trimmed : Words.trim isWhitespace name = name
  ends : ∀ c ∈ behind, isWhitespace c = true

def Entry.chars (e : Entry) : List Char := e.id ++ e.blanks ++ e.name ++ e.behind

def Entry.value (e : Entry) : Nat := digitsValue 16 e.id

def Entry.label (e : Entry) : String := String.ofList e.name

/-- A line that says nothing. -/
inductive Filler where
  | comment (text : List Char)
  | blank (text : List Char) (white : ∀ c ∈ text, isWhitespace c = true)

def Filler.chars : Filler → List Char
  | .comment text => '#' :: text
  | .blank text _ => text

/-- A line under a vendor. -/
inductive VendorLine where
  | device (e : Entry)
  | subsystem (text : List Char)
  | filler (line : Filler)

def VendorLine.chars : VendorLine → List Char
  | .device e => '\t' :: e.chars
  | .subsystem text => '\t' :: '\t' :: text
  | .filler line => line.chars

structure VendorBlock where
  head : Entry
  lines : List VendorLine

/-- A line under a class. -/
inductive ClassLine where
  | child (text : List Char)
  | filler (line : Filler)

def ClassLine.chars : ClassLine → List Char
  | .child text => '\t' :: text
  | .filler line => line.chars

/-- A class line starts with `C`, and is not a vendor line. -/
structure ClassBlock where
  head : List Char
  lines : List ClassLine
  starts : head.head? = some 'C'
  other : (PciIdDb.firstWord head).length = 4 →
    ¬ ∀ c ∈ PciIdDb.firstWord head, isDigitOf 16 c = true

structure File where
  preamble : List Filler
  vendors : List VendorBlock
  classes : List ClassBlock

def VendorBlock.chars (b : VendorBlock) : List (List Char) :=
  b.head.chars :: b.lines.map VendorLine.chars

def ClassBlock.chars (b : ClassBlock) : List (List Char) := b.head :: b.lines.map ClassLine.chars

/-- The lines of the file. -/
def File.chars (f : File) : List (List Char) :=
  f.preamble.map Filler.chars ++ f.vendors.flatMap VendorBlock.chars ++
    f.classes.flatMap ClassBlock.chars

/-! The entries of the vendor section. -/

def VendorBlock.vendorEntry (b : VendorBlock) : Nat × String := (b.head.value, b.head.label)

def VendorLine.deviceEntry (vendor : Nat) : VendorLine → Option ((Nat × Nat) × String)
  | .device e => some ((vendor, e.value), e.label)
  | _ => none

def VendorBlock.deviceEntries (b : VendorBlock) : List ((Nat × Nat) × String) :=
  b.lines.filterMap (VendorLine.deviceEntry b.head.value)

def File.vendorEntries (f : File) : List (Nat × String) := f.vendors.map VendorBlock.vendorEntry

def File.deviceEntries (f : File) : List ((Nat × Nat) × String) :=
  f.vendors.flatMap VendorBlock.deviceEntries

/-- The name of the last entry of a key. -/
def lastName {κ : Type} [DecidableEq κ] (entries : List (κ × String)) (key : κ) : Option String :=
  entries.reverse.lookup key

/-- The tables have exactly the entries of the vendor section, and of a key the last one. -/
def File.Describes (f : File) (db : PciIdDb) : Prop :=
  (∀ v, db.vendors.lookup v = lastName f.vendorEntries v) ∧
    ∀ key, db.devices.lookup key = lastName f.deviceEntries key

/-! What the class section looks like to a reader of vendor and device lines. -/

/-- The number that the first word of a class line is, `C` being 12. -/
def ClassBlock.number (b : ClassBlock) : Option Nat := PciIdDb.parseHex (PciIdDb.firstWord b.head)

def ClassLine.deviceEntry (vendor : Nat) : ClassLine → Option ((Nat × Nat) × String)
  | .child text =>
      if Words.trim isWhitespace text = [] ∨ text.head? = some '\t' then none
      else (PciIdDb.parseHex (PciIdDb.firstWord text)).map fun dev =>
        ((vendor, dev), PciIdDb.restOf text)
  | .filler _ => none

def ClassBlock.vendorEntries (b : ClassBlock) : List (Nat × String) :=
  b.number.toList.map fun v => (v, PciIdDb.restOf b.head)

def ClassBlock.deviceEntries (b : ClassBlock) : List ((Nat × Nat) × String) :=
  b.number.toList.flatMap fun v => b.lines.filterMap (ClassLine.deviceEntry v)

/-- What the class section says when it is read so, the vendor section has said already. -/
def File.Harmless (f : File) : Prop :=
  (∀ v name, lastName (f.classes.flatMap ClassBlock.vendorEntries) v = some name →
    lastName f.vendorEntries v = some name) ∧
  ∀ key name, lastName (f.classes.flatMap ClassBlock.deviceEntries) key = some name →
    lastName f.deviceEntries key = some name

section Tables

variable {κ : Type} [DecidableEq κ]

/-- The entries are inserted one after another. -/
def insertAll (map : KeyMap κ String) (entries : List (κ × String)) : KeyMap κ String :=
  entries.foldl (fun map entry => map.insert entry.1 entry.2) map

theorem insertAll_append (map : KeyMap κ String) (first second : List (κ × String)) :
    insertAll map (first ++ second) = insertAll (insertAll map first) second :=
  List.foldl_append

theorem lastName_append (first second : List (κ × String)) (key : κ) :
    lastName (first ++ second) key = (lastName second key).or (lastName first key) := by
  unfold lastName
  rw [List.reverse_append, List.lookup_append]

theorem lastName_singleton (entry : κ × String) (key : κ) :
    lastName [entry] key = if key = entry.1 then some entry.2 else none := by
  unfold lastName
  rw [List.reverse_singleton, List.lookup]
  by_cases same : key = entry.1
  · rw [if_pos same, beq_iff_eq.mpr same]
  · rw [if_neg same, beq_false_of_ne same]
    rfl

/-- The last entry wins. -/
theorem lookup_insertAll (entries : List (κ × String)) (key : κ) :
    (insertAll ∅ entries).lookup key = lastName entries key := by
  induction entries using List.reverseRecOn with
  | nil => rfl
  | append_singleton front entry ih =>
      rw [insertAll_append, lastName_append, lastName_singleton, ← ih]
      change ((insertAll ∅ front).insert entry.1 entry.2).lookup key = _
      rw [KeyMap.lookup_insert_eq]
      split_ifs
      · rfl
      · rfl

end Tables

section Characters

/-- A hex digit is in one of three ranges. -/
theorem hex_range {c : Char} (hex : isDigitOf 16 c = true) :
    (48 ≤ c.toNat ∧ c.toNat ≤ 57) ∨ (65 ≤ c.toNat ∧ c.toNat ≤ 70) ∨
      (97 ≤ c.toNat ∧ c.toNat ≤ 102) := by
  unfold isDigitOf Net.digitValue at hex
  split_ifs at hex with decimal lower upper
  · exact .inl (Char.isDigit_iff_toNat.mp decimal)
  · exact .inr (.inr lower)
  · exact .inr (.inl upper)
  · cases hex

theorem isWhitespace_of_hex {c : Char} (hex : isDigitOf 16 c = true) : isWhitespace c = false := by
  have range := hex_range hex
  simp only [isWhitespace]
  simp
  omega

theorem digitsValue_lt {radix : Nat} {digits : List Char}
    (each : ∀ c ∈ digits, isDigitOf radix c = true) :
    digitsValue radix digits < radix ^ digits.length := by
  induction digits using List.reverseRecOn with
  | nil => exact Nat.one_pos
  | append_singleton front c ih =>
      have digit := each c (List.mem_append_right front List.mem_cons_self)
      have before := ih fun other member => each other (List.mem_append_left _ member)
      unfold isDigitOf at digit
      obtain ⟨n, value, small⟩ : ∃ n, Net.digitValue c = some n ∧ n < radix := by
        cases value : Net.digitValue c with
        | none =>
            rw [value] at digit
            cases digit
        | some n =>
            rw [value] at digit
            exact ⟨n, rfl, of_decide_eq_true digit⟩
      have last : digitsValue radix (front ++ [c]) = digitsValue radix front * radix + n := by
        unfold digitsValue
        rw [List.foldl_append, List.foldl_cons, List.foldl_nil, value]
        rfl
      rw [last, List.length_append, List.length_singleton, pow_succ]
      calc digitsValue radix front * radix + n < digitsValue radix front * radix + radix :=
            Nat.add_lt_add_left small _
        _ = (digitsValue radix front + 1) * radix := (Nat.succ_mul _ _).symm
        _ ≤ radix ^ front.length * radix := Nat.mul_le_mul_right radix before

theorem trim_eq_nil_iff {text : List Char} :
    Words.trim isWhitespace text = [] ↔ ∀ c ∈ text, isWhitespace c = true := by
  unfold Words.trim
  rw [List.rdropWhile_eq_nil_iff]
  constructor
  · intro inner c member
    by_cases kept : text.dropWhile isWhitespace = []
    · exact List.dropWhile_eq_nil_iff.mp kept c member
    · have first := List.head_dropWhile_not isWhitespace kept
      exact absurd (inner _ (List.head_mem kept)) (Bool.eq_false_iff.mp first)
  · intro white c member
    exact white c ((List.dropWhile_sublist _).subset member)

/-- Blanks at both ends are trimmed. -/
theorem trim_padded {front name back : List Char} (blank : ∀ c ∈ front, isWhitespace c = true)
    (trimmed : Words.trim isWhitespace name = name) (ends : ∀ c ∈ back, isWhitespace c = true) :
    Words.trim isWhitespace (front ++ name ++ back) = name := by
  cases name with
  | nil =>
      rw [List.append_nil, trim_eq_nil_iff]
      intro c member
      exact (List.mem_append.mp member).elim (blank c) (ends c)
  | cons first rest =>
      have whole : (first :: rest).dropWhile isWhitespace = first :: rest := by
        refine (List.dropWhile_suffix isWhitespace).eq_of_length_le ?_
        calc (first :: rest).length = (Words.trim isWhitespace (first :: rest)).length := by rw [trimmed]
          _ ≤ _ := (List.rdropWhile_prefix isWhitespace _).length_le
      have solid : ¬ isWhitespace first = true := by
        intro white
        rw [List.dropWhile_cons_of_pos white] at whole
        have fewer := (List.dropWhile_sublist isWhitespace (l := rest)).length_le
        rw [whole, List.length_cons] at fewer
        omega
      have last : (first :: rest).rdropWhile isWhitespace = first :: rest := by
        rw [Words.trim, whole] at trimmed
        exact trimmed
      rw [Words.trim, List.append_assoc, List.dropWhile_append_of_pos blank, List.cons_append,
        List.dropWhile_cons_of_neg solid, ← List.cons_append, List.rdropWhile,
        List.reverse_append, List.dropWhile_append_of_pos fun c member =>
          ends c (List.mem_reverse.mp member)]
      exact last

end Characters

section Lines

theorem parseHex_id (e : Entry) : PciIdDb.parseHex e.id = some e.value := by
  have unsigned : e.id.head? ≠ some '+' := by
    intro sign
    exact absurd (e.hex '+' (List.mem_of_head? sign)) (by decide)
  have filled : (e.id.isEmpty || !e.id.all (isDigitOf 16)) = false := by
    rw [Bool.or_eq_false_iff, List.isEmpty_eq_false_iff, Bool.not_eq_false', List.all_eq_true]
    refine ⟨fun empty => ?_, e.hex⟩
    have four := e.four
    rw [empty] at four
    cases four
  have small : digitsValue 16 e.id < 65536 := by
    have bound := digitsValue_lt e.hex
    rwa [e.four] at bound
  unfold PciIdDb.parseHex
  simp only [if_neg unsigned, filled, Bool.false_eq_true, if_false, if_pos small]
  rfl

/-- The id of an entry, a blank, and the rest of the line. -/
theorem Entry.chars_eq (e : Entry) : ∃ c more, e.chars = e.id ++ c :: (more ++ e.name ++ e.behind) ∧
    isWhitespace c = true ∧ ∀ other ∈ more, isWhitespace other = true := by
  obtain ⟨c, more, blanks⟩ := List.exists_cons_of_ne_nil e.parted
  have blank := e.blank
  rw [blanks, List.forall_mem_cons] at blank
  refine ⟨c, more, ?_, blank.1, blank.2⟩
  unfold Entry.chars
  rw [blanks]
  simp only [List.append_assoc, List.cons_append]

theorem Entry.solid (e : Entry) : ∀ c ∈ e.id, (!isWhitespace c) = true := by
  intro c member
  rw [isWhitespace_of_hex (e.hex c member)]
  rfl

theorem firstWord_chars (e : Entry) : PciIdDb.firstWord e.chars = e.id := by
  obtain ⟨c, more, chars, blank, _⟩ := e.chars_eq
  rw [chars, PciIdDb.firstWord, List.takeWhile_append_of_pos e.solid,
    List.takeWhile_cons_of_neg (by simp [blank]), List.append_nil]

theorem restOf_chars (e : Entry) : PciIdDb.restOf e.chars = e.label := by
  obtain ⟨c, more, chars, blank, blanks⟩ := e.chars_eq
  rw [chars, PciIdDb.restOf, List.dropWhile_append_of_pos e.solid,
    List.dropWhile_cons_of_neg (by simp [blank]), List.drop_one, List.tail_cons,
    trim_padded blanks e.trimmed e.ends]
  rfl

/-- An entry starts with a hex digit. -/
theorem Entry.head (e : Entry) : ∃ c rest, e.chars = c :: rest ∧ isDigitOf 16 c = true := by
  obtain ⟨c, rest, id_eq⟩ := List.exists_cons_of_ne_nil (l := e.id) (by
    intro empty
    have four := e.four
    rw [empty] at four
    cases four)
  refine ⟨c, rest ++ e.blanks ++ e.name ++ e.behind, ?_, e.hex c (by simp [id_eq])⟩
  unfold Entry.chars
  rw [id_eq]
  rfl

variable (scan : PciIdDb.Scan)

theorem line_filler (line : Filler) : scan.line line.chars = scan := by
  cases line with
  | comment text => exact if_pos (.inl rfl)
  | blank text white => exact if_pos (.inr (trim_eq_nil_iff.mpr white))

theorem line_subsystem (text : List Char) : scan.line ('\t' :: '\t' :: text) = scan := by
  have tabs : ['\t', '\t'] <+: '\t' :: '\t' :: text := List.prefix_append ['\t', '\t'] text
  unfold PciIdDb.Scan.line
  rw [if_pos tabs]
  split_ifs
  · rfl
  · rfl

/-- A line with one tab, that is not blank. -/
theorem line_tab {text : List Char} (single : text.head? ≠ some '\t')
    (shown : Words.trim isWhitespace text ≠ []) : scan.line ('\t' :: text) =
      (scan.currentVendor.bind fun vendor => (PciIdDb.parseHex (PciIdDb.firstWord text)).map fun dev =>
        scan.device vendor dev (PciIdDb.restOf text)).getD scan := by
  have kept : ¬ (('\t' :: text).head? = some '#' ∨ Words.trim isWhitespace ('\t' :: text) = []) := by
    rintro (hash | empty)
    · exact absurd (Option.some.inj hash) (by decide)
    · refine shown (trim_eq_nil_iff.mpr fun c member => ?_)
      exact trim_eq_nil_iff.mp empty c (List.mem_cons_of_mem _ member)
  have one : ¬ ['\t', '\t'] <+: '\t' :: text := by
    intro two
    obtain ⟨rest, same⟩ := two
    rw [List.cons_append, List.cons.injEq] at same
    exact single (by rw [← same.2]; rfl)
  unfold PciIdDb.Scan.line
  rw [if_neg kept, if_neg one, show '\t' :: text = ['\t'] ++ text from rfl,
    Words.stripPrefix_append]
  dsimp only
  cases scan.currentVendor with
  | none => rfl
  | some vendor =>
      cases PciIdDb.parseHex (PciIdDb.firstWord text) with
      | none => rfl
      | some dev => rfl

/-- A line that starts with neither a hash sign nor a blank. -/
theorem line_plain {c : Char} {rest : List Char} (hash : c ≠ '#') (solid : isWhitespace c = false) :
    scan.line (c :: rest) = (PciIdDb.parseHex (PciIdDb.firstWord (c :: rest))).elim
      { scan with currentVendor := none } fun v => scan.vendor v (PciIdDb.restOf (c :: rest)) := by
  have kept : ¬ ((c :: rest).head? = some '#' ∨ Words.trim isWhitespace (c :: rest) = []) := by
    rintro (same | empty)
    · exact hash (Option.some.inj same)
    · exact absurd (trim_eq_nil_iff.mp empty c List.mem_cons_self) (by simp [solid])
  have untabbed : c ≠ '\t' := by
    rintro rfl
    exact absurd solid (by decide)
  have none_two : ¬ ['\t', '\t'] <+: c :: rest :=
    fun two => untabbed (List.cons_prefix_cons.mp two).1.symm
  have none_one : stripPrefix ['\t'] (c :: rest) = none :=
    if_neg fun one => untabbed (List.cons_prefix_cons.mp one).1.symm
  unfold PciIdDb.Scan.line
  rw [if_neg kept, if_neg none_two, none_one]
  dsimp only
  cases PciIdDb.parseHex (PciIdDb.firstWord (c :: rest)) with
  | none => rfl
  | some v => rfl

theorem line_device (e : Entry) : scan.line ('\t' :: e.chars) =
    (scan.currentVendor.map fun vendor => scan.device vendor e.value e.label).getD scan := by
  obtain ⟨c, rest, chars, hex⟩ := e.head
  have solid := isWhitespace_of_hex hex
  have single : e.chars.head? ≠ some '\t' := by
    rw [chars]
    intro tab
    rw [Option.some.inj tab] at solid
    exact absurd solid (by decide)
  have shown : Words.trim isWhitespace e.chars ≠ [] := by
    intro empty
    have white := trim_eq_nil_iff.mp empty c (by rw [chars]; exact List.mem_cons_self)
    exact absurd white (by simp [solid])
  rw [line_tab scan single shown, firstWord_chars, parseHex_id, restOf_chars]
  cases scan.currentVendor with
  | none => rfl
  | some vendor => rfl

theorem line_vendor (e : Entry) : scan.line e.chars = scan.vendor e.value e.label := by
  obtain ⟨c, rest, chars, hex⟩ := e.head
  have hash : c ≠ '#' := by
    rintro rfl
    exact absurd hex (by decide)
  have read := @line_plain scan c rest hash (isWhitespace_of_hex hex)
  rw [← chars, firstWord_chars, parseHex_id, restOf_chars] at read
  exact read

theorem deviceEntry_silent (vendor : Nat) {text : List Char}
    (silent : Words.trim isWhitespace text = [] ∨ text.head? = some '\t') :
    ClassLine.deviceEntry vendor (.child text) = none := if_pos silent

theorem deviceEntry_shown (vendor : Nat) {text : List Char}
    (shown : ¬ (Words.trim isWhitespace text = [] ∨ text.head? = some '\t')) :
    ClassLine.deviceEntry vendor (.child text) =
      (PciIdDb.parseHex (PciIdDb.firstWord text)).map fun dev =>
        ((vendor, dev), PciIdDb.restOf text) := if_neg shown

/-- A line under a class is read as the line of a device. -/
theorem line_child (text : List Char) : scan.line ('\t' :: text) =
    (scan.currentVendor.bind fun vendor =>
      (ClassLine.deviceEntry vendor (.child text)).map fun entry =>
        scan.device entry.1.1 entry.1.2 entry.2).getD scan := by
  by_cases silent : Words.trim isWhitespace text = [] ∨ text.head? = some '\t'
  · have skipped : scan.line ('\t' :: text) = scan := by
      rcases silent with empty | tab
      · have white := trim_eq_nil_iff.mp empty
        exact line_filler scan (.blank ('\t' :: text) (List.forall_mem_cons.mpr ⟨by decide, white⟩))
      · obtain ⟨rest, rfl⟩ := List.head?_eq_some_iff.mp tab
        exact line_subsystem scan rest
    rw [skipped]
    cases scan.currentVendor with
    | none => rfl
    | some vendor =>
        rw [Option.bind_some, deviceEntry_silent vendor silent]
        rfl
  · obtain ⟨shown, single⟩ := not_or.mp silent
    rw [line_tab scan single shown]
    cases scan.currentVendor with
    | none => rfl
    | some vendor =>
        rw [Option.bind_some, Option.bind_some, deviceEntry_shown vendor silent, Option.map_map]
        rfl

end Lines

section Blocks

/-- The entries are put into the tables. -/
def addAll (db : PciIdDb) (vendorEntries : List (Nat × String))
    (deviceEntries : List ((Nat × Nat) × String)) : PciIdDb :=
  ⟨insertAll db.vendors vendorEntries, insertAll db.devices deviceEntries⟩

theorem addAll_append (db : PciIdDb) (v v' : List (Nat × String))
    (d d' : List ((Nat × Nat) × String)) :
    addAll db (v ++ v') (d ++ d') = addAll (addAll db v d) v' d' := by
  unfold addAll
  rw [insertAll_append, insertAll_append]

theorem fillers (lines : List Filler) (scan : PciIdDb.Scan) :
    (lines.map Filler.chars).foldl PciIdDb.Scan.line scan = scan := by
  induction lines with
  | nil => rfl
  | cons line rest ih => rw [List.map_cons, List.foldl_cons, line_filler, ih]

/-- The lines under a vendor. -/
theorem vendorLines (lines : List VendorLine) {scan : PciIdDb.Scan} {v : Nat}
    (current : scan.currentVendor = some v) :
    (lines.map VendorLine.chars).foldl PciIdDb.Scan.line scan =
      ⟨addAll scan.db [] (lines.filterMap (VendorLine.deviceEntry v)), some v⟩ := by
  induction lines generalizing scan with
  | nil => exact current ▸ rfl
  | cons line rest ih =>
      rw [List.map_cons, List.foldl_cons]
      cases line with
      | device e =>
          rw [VendorLine.chars, line_device, current]
          exact ih (show (scan.device v e.value e.label).currentVendor = some v from current)
      | subsystem text =>
          rw [VendorLine.chars, line_subsystem]
          exact ih current
      | filler line =>
          rw [VendorLine.chars, line_filler]
          exact ih current

theorem vendorBlocks (blocks : List VendorBlock) (scan : PciIdDb.Scan) :
    ((blocks.flatMap VendorBlock.chars).foldl PciIdDb.Scan.line scan).db =
      addAll scan.db (blocks.map VendorBlock.vendorEntry)
        (blocks.flatMap VendorBlock.deviceEntries) := by
  induction blocks generalizing scan with
  | nil => rfl
  | cons block rest ih =>
      rw [List.flatMap_cons, List.foldl_append, ih, VendorBlock.chars, List.foldl_cons,
        line_vendor, @vendorLines _ (scan.vendor block.head.value block.head.label) _ rfl]
      exact (addAll_append scan.db [block.vendorEntry] _ block.deviceEntries _).symm

/-- The lines under a class whose line was read as the line of a vendor. -/
theorem classLines (lines : List ClassLine) {scan : PciIdDb.Scan} {v : Nat}
    (current : scan.currentVendor = some v) :
    (lines.map ClassLine.chars).foldl PciIdDb.Scan.line scan =
      ⟨addAll scan.db [] (lines.filterMap (ClassLine.deviceEntry v)), some v⟩ := by
  induction lines generalizing scan with
  | nil => exact current ▸ rfl
  | cons line rest ih =>
      rw [List.map_cons, List.foldl_cons]
      cases line with
      | filler line =>
          rw [ClassLine.chars, line_filler]
          exact ih current
      | child text =>
          rw [ClassLine.chars, line_child, current, Option.bind_some]
          cases read : ClassLine.deviceEntry v (.child text) with
          | none =>
              rw [List.filterMap_cons_none read]
              exact ih current
          | some entry =>
              rw [List.filterMap_cons_some read]
              have vendor : entry.1.1 = v := by
                by_cases silent : Words.trim isWhitespace text = [] ∨ text.head? = some '\t'
                · rw [deviceEntry_silent v silent] at read
                  cases read
                · rw [deviceEntry_shown v silent] at read
                  obtain ⟨dev, _, rfl⟩ := Option.map_eq_some_iff.mp read
                  rfl
              obtain ⟨⟨_, dev⟩, name⟩ := entry
              obtain rfl := vendor
              exact ih (show (scan.device _ dev name).currentVendor = some _ from current)

/-- The lines under a class whose line was not read are not read either. -/
theorem classLines_unread (lines : List ClassLine) {scan : PciIdDb.Scan}
    (current : scan.currentVendor = none) :
    (lines.map ClassLine.chars).foldl PciIdDb.Scan.line scan = scan := by
  induction lines with
  | nil => rfl
  | cons line rest ih =>
      rw [List.map_cons, List.foldl_cons]
      cases line with
      | filler line => rw [ClassLine.chars, line_filler, ih]
      | child text =>
          rw [ClassLine.chars, line_child, current]
          exact ih

theorem classBlocks (blocks : List ClassBlock) (scan : PciIdDb.Scan) :
    ((blocks.flatMap ClassBlock.chars).foldl PciIdDb.Scan.line scan).db =
      addAll scan.db (blocks.flatMap ClassBlock.vendorEntries)
        (blocks.flatMap ClassBlock.deviceEntries) := by
  induction blocks generalizing scan with
  | nil => rfl
  | cons block rest ih =>
      obtain ⟨more, head⟩ := List.head?_eq_some_iff.mp block.starts
      have read := @line_plain scan 'C' more (by decide) (by decide)
      rw [← head] at read
      rw [List.flatMap_cons, List.foldl_append, ih, ClassBlock.chars, List.foldl_cons, read,
        List.flatMap_cons, List.flatMap_cons, addAll_append]
      unfold ClassBlock.vendorEntries ClassBlock.deviceEntries ClassBlock.number
      cases number : PciIdDb.parseHex (PciIdDb.firstWord block.head) with
      | none =>
          rw [Option.elim_none, classLines_unread block.lines rfl]
          rfl
      | some v =>
          rw [Option.elim_some, classLines block.lines
            (show (scan.vendor v (PciIdDb.restOf block.head)).currentVendor = some v from rfl)]
          simp only [Option.toList_some, List.map_cons, List.map_nil, List.flatMap_cons,
            List.flatMap_nil, List.append_nil]
          rfl

/-- The tables of a file are those of both sections together. -/
theorem parse_file {text : String} {f : File} (lines : Words.lines text.toList = f.chars) :
    PciIdDb.parse text = addAll ⟨∅, ∅⟩
      (f.vendorEntries ++ f.classes.flatMap ClassBlock.vendorEntries)
      (f.deviceEntries ++ f.classes.flatMap ClassBlock.deviceEntries) := by
  unfold PciIdDb.parse
  rw [lines, File.chars, List.foldl_append, List.foldl_append, fillers, classBlocks, vendorBlocks,
    addAll_append]
  rfl

end Blocks

/-- What comes later does not count exactly where it says what was said before. -/
theorem lastName_kept_iff {κ : Type} [DecidableEq κ] {first second : List (κ × String)} :
    (∀ key, lastName (first ++ second) key = lastName first key) ↔
      ∀ key name, lastName second key = some name → lastName first key = some name := by
  constructor
  · intro kept key name said
    have here := kept key
    rw [lastName_append, said] at here
    exact here.symm
  · intro said key
    rw [lastName_append]
    cases later : lastName second key with
    | none => rfl
    | some name => exact (said key name later).symm

/-- The tables are those of the vendor section exactly where the class section, when its lines are
read as lines of vendors and devices, says nothing that the vendor section does not say. -/
theorem parse_describes_iff {text : String} {f : File}
    (lines : Words.lines text.toList = f.chars) :
    f.Describes (PciIdDb.parse text) ↔ f.Harmless := by
  rw [parse_file lines]
  unfold File.Describes File.Harmless addAll
  simp only [lookup_insertAll]
  rw [lastName_kept_iff, lastName_kept_iff]

/-- A class line that names its class after a blank is read as the vendor 000c. -/
theorem number_of_class {b : ClassBlock} {c : Char} {rest : List Char}
    (usual : b.head = 'C' :: c :: rest) (blank : isWhitespace c = true) : b.number = some 12 := by
  have word : PciIdDb.firstWord b.head = ['C'] := by
    rw [usual, PciIdDb.firstWord, List.takeWhile_cons_of_pos (by decide),
      List.takeWhile_cons_of_neg (by simp [blank])]
  rw [ClassBlock.number, word]
  rfl

/-- So such a line spoils the tables, unless the vendor section has the vendor 000c too. -/
theorem spoiled_of_class {f : File} {b : ClassBlock} (member : b ∈ f.classes) {c : Char}
    {rest : List Char} (usual : b.head = 'C' :: c :: rest) (blank : isWhitespace c = true)
    (absent : lastName f.vendorEntries 12 = none) : ¬ f.Harmless := by
  intro harmless
  have entry : (12, PciIdDb.restOf b.head) ∈ f.classes.flatMap ClassBlock.vendorEntries := by
    refine List.mem_flatMap.mpr ⟨b, member, ?_⟩
    rw [ClassBlock.vendorEntries, number_of_class usual blank]
    exact List.mem_singleton_self _
  have said : (lastName (f.classes.flatMap ClassBlock.vendorEntries) 12).isSome = true := by
    unfold lastName
    rw [List.lookup_isSome_iff]
    exact ⟨_, List.mem_reverse.mpr entry, beq_self_eq_true 12⟩
  obtain ⟨name, last⟩ := Option.isSome_iff_exists.mp said
  have kept := harmless.1 12 name last
  rw [absent] at kept
  cases kept

/-- An entry with two blanks in the middle. -/
def Entry.ofTexts (id name : List Char)
    (four : id.length = 4) (hex : id.all (isDigitOf 16) = true)
    (trimmed : Words.trim isWhitespace name = name) : Entry :=
  ⟨id, [' ', ' '], name, [], four, List.all_eq_true.mp hex, List.cons_ne_nil _ _,
    List.all_eq_true.mp (by decide), trimmed, List.all_eq_true.mp rfl⟩

/-- A file with a vendor, its device and a subsystem, and a class section as usual. -/
def usual : File where
  preamble := [.comment " pci.ids".toList]
  vendors := [{
    head := .ofTexts "8086".toList "Intel".toList rfl (by decide +kernel) (by decide +kernel)
    lines := [
      .device (.ofTexts "e223".toList "Battlemage".toList rfl (by decide +kernel)
        (by decide +kernel)),
      .subsystem "1234 5678  Some subsystem".toList] }]
  classes := [⟨"C 00  Unclassified device".toList, [.child "01  VGA compatible".toList],
    by decide +kernel, fun four => absurd four (by decide +kernel)⟩]

/-- The same, and the vendor section has what the class section says when it is read as one. -/
def repeated : File where
  preamble := usual.preamble
  vendors := usual.vendors ++ [{
    head := .ofTexts "000c".toList "00  Unclassified device".toList rfl (by decide +kernel)
      (by decide +kernel)
    lines := [
      .device (.ofTexts "0001".toList "VGA compatible".toList rfl (by decide +kernel)
        (by decide +kernel))] }]
  classes := usual.classes

theorem parse_describes_iff_vendors : File.Describes repeated (PciIdDb.parse
    ("# pci.ids\n8086  Intel\n\te223  Battlemage\n\t\t1234 5678  Some subsystem\n" ++
      "000c  00  Unclassified device\n\t0001  VGA compatible\n" ++
      "C 00  Unclassified device\n\t01  VGA compatible\n")) := by
  have lines : Words.lines
      ("# pci.ids\n8086  Intel\n\te223  Battlemage\n\t\t1234 5678  Some subsystem\n" ++
        "000c  00  Unclassified device\n\t0001  VGA compatible\n" ++
        "C 00  Unclassified device\n\t01  VGA compatible\n").toList = repeated.chars := by
    decide +kernel
  have vendor : repeated.classes.flatMap ClassBlock.vendorEntries =
      [(12, "00  Unclassified device")] := by decide +kernel
  have device : repeated.classes.flatMap ClassBlock.deviceEntries =
      [((12, 1), "VGA compatible")] := by decide +kernel
  refine (parse_describes_iff lines).mpr ⟨fun v name said => ?_, fun key name said => ?_⟩
  · rw [vendor, lastName_singleton, Option.ite_none_right_eq_some] at said
    obtain ⟨rfl, same⟩ := said
    cases same
    decide +kernel
  · rw [device, lastName_singleton, Option.ite_none_right_eq_some] at said
    obtain ⟨rfl, same⟩ := said
    cases same
    decide +kernel

/-- The class becomes the vendor 000c, and what is under it a device of that vendor. -/
theorem class_as_vendor : ∃ text, Words.lines text.toList = usual.chars ∧
    (PciIdDb.parse text).vendors.lookup 12 = some "00  Unclassified device" ∧
    (PciIdDb.parse text).devices.lookup (12, 1) = some "VGA compatible" ∧
    ¬ usual.Describes (PciIdDb.parse text) := by
  refine ⟨"# pci.ids\n8086  Intel\n\te223  Battlemage\n\t\t1234 5678  Some subsystem\n" ++
    "C 00  Unclassified device\n\t01  VGA compatible\n", by decide +kernel, by decide +kernel,
    by decide +kernel, fun describes => ?_⟩
  have absent : lastName usual.vendorEntries 12 = none := by decide +kernel
  have entry := describes.1 12
  rw [absent] at entry
  exact absurd entry (by decide +kernel)

end PciIds

end LinSight
