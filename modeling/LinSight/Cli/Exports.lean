import LinSight.Cli.DbExport

set_option autoImplicit false

/-! The exports for a writer of JSON that is written out, and when they are read back. -/

namespace LinSight.Cli

open Ieee (Value binary64)

/-! What `serde_json` writes, up to the exponents and the fractions of zeros of some `f64`s. -/

/-- The escapes of one letter. -/
def shortEscapes : List (Char × Char) :=
  [('"', '"'), ('\\', '\\'), ('\x08', 'b'), ('\t', 't'), ('\n', 'n'), ('\x0C', 'f'), ('\r', 'r')]

def escapeChar (c : Char) : List Char :=
  match shortEscapes.lookup c with
  | some letter => ['\\', letter]
  | none =>
      if c.toNat < 0x20 then
        ['\\', 'u', '0', '0', (c.toNat / 16).digitChar, (c.toNat % 16).digitChar]
      else [c]

def escapeText (s : List Char) : List Char := s.flatMap escapeChar

def jsonValue : Arg → List Char
  | .none => "null".toList
  | .real (.finite q) => (Value.finite q).display
  | .real _ => "null".toList
  | .integer n => i64Text n
  | .text s => '"' :: (escapeText s ++ ['"'])

/-- The members are in the order of their names. -/
def jsonObject (members : List (List Char × Arg)) : List Char :=
  let sorted := members.insertionSort fun a b => a.1 ≤ b.1
  '{' :: [','].intercalate (sorted.map fun m => Json.memberText (escapeText m.1) (jsonValue m.2)) ++
    ['}']

def serdeJson : Serde := ⟨fun s => '"' :: (escapeText s ++ ['"']), jsonObject⟩

section Strings

theorem hexDigit_digitChar {n : Nat} (small : n < 16) : Json.hexDigit n.digitChar = some n := by
  have each : ∀ n < 16, Json.hexDigit (Nat.digitChar n) = some n := by decide
  exact each n small

theorem readString_hex {c : Char} {digit : Nat} (hex : Json.hexDigit c = some digit)
    (more value : Nat) (rest : List Char) :
    Json.readString (.hex (more + 2) value none) (c :: rest) =
      Json.readString (.hex (more + 1) (value * 16 + digit) none) rest := by
  rw [Json.readString, hex, Option.bind_some]
  exact if_pos (by omega)

/-- An escape of four digits below the surrogates. -/
theorem readString_unicode {a b : Nat} (first : a < 2) (second : b < 16) (rest : List Char) :
    Json.readString .plain ('\\' :: 'u' :: '0' :: '0' :: a.digitChar :: b.digitChar :: rest) =
      (Json.readString .plain rest).map fun found => (Char.ofNat (a * 16 + b) :: found.1, found.2) := by
  have opened : Json.readString .plain ('\\' :: 'u' :: '0' :: '0' :: a.digitChar :: b.digitChar ::
      rest) = Json.readString (.hex 4 0 none) ('0' :: '0' :: a.digitChar :: b.digitChar :: rest) := rfl
  have zero : Json.hexDigit '0' = some 0 := by decide
  rw [opened, readString_hex zero, readString_hex zero, readString_hex (hexDigit_digitChar (by omega)),
    Json.readString, hexDigit_digitChar second, Option.bind_some]
  dsimp only
  rw [if_neg (by omega), if_neg (by omega), if_neg (by omega)]
  simp

/-- What is written for a character is read as it. -/
theorem readString_escapeChar (c : Char) (rest : List Char) :
    Json.readString .plain (escapeChar c ++ rest) =
      (Json.readString .plain rest).map fun found => (c :: found.1, found.2) := by
  unfold escapeChar
  cases short : shortEscapes.lookup c with
  | some letter =>
      have undone : ∀ p ∈ shortEscapes, p.2 ≠ 'u' ∧ Json.escapes.lookup p.2 = some p.1 := by decide
      have member : (c, letter) ∈ shortEscapes := by
        obtain ⟨front, back, split, _⟩ := List.lookup_eq_some_iff.mp short
        rw [split]
        exact List.mem_append_right front List.mem_cons_self
      obtain ⟨other, found⟩ := undone _ member
      have opened : Json.readString .plain (['\\', letter] ++ rest) =
          Json.readString .escape (letter :: rest) := rfl
      rw [opened, Json.readString, if_neg other, found]
      rfl
  | none =>
      have plain : c ≠ '"' ∧ c ≠ '\\' := by
        constructor
        · rintro rfl
          cases short
        · rintro rfl
          cases short
      dsimp only
      split_ifs with control
      · have value : Char.ofNat (c.toNat / 16 * 16 + c.toNat % 16) = c := by
          rw [Nat.div_add_mod', Char.ofNat_toNat]
        have read := readString_unicode (show c.toNat / 16 < 2 by omega)
          (Nat.mod_lt c.toNat (by decide)) rest
        rw [value] at read
        exact read
      · rw [List.singleton_append, Json.readString, if_neg plain.1, if_neg plain.2, if_neg control]

theorem named_escapeText (s : List Char) : Json.Named (escapeText s) s := by
  intro rest
  induction s with
  | nil => rfl
  | cons c s ih =>
      rw [escapeText, List.flatMap_cons, List.append_assoc, readString_escapeChar, ← escapeText, ih]
      rfl

end Strings

section Objects

variable {members : List (List Char × Arg)}

theorem good_null {n : Nat} (follows) :
    Json.Good (Json.readValue (n + 1)) follows "null".toList .null := by
  intro rest _
  have front : Words.stripPrefix "null".toList ("null".toList ++ rest) = some rest :=
    Words.stripPrefix_append _ rest
  have literal : Json.readLiteral ("null".toList ++ rest) = some (.null, rest) := by
    rw [Json.readLiteral, Json.literals, List.findSome?_cons, front]
    rfl
  have start : Json.skip ("null".toList ++ rest) = "null".toList ++ rest :=
    Json.skip_cons (by decide) _
  have found : Json.readValue (n + 1) ("null".toList ++ rest) =
      (Json.readLiteral ("null".toList ++ rest)).or
        ((Json.readNumber ("null".toList ++ rest)).map fun found => (.number found.1, found.2)) := by
    rw [Json.readValue, start]
    rfl
  rw [found, literal]
  rfl

theorem good_i64Text {n : Nat} (k : Int) :
    Json.Good (Json.readValue (n + 1)) Json.Ends (i64Text k) (.number k) := by
  unfold i64Text
  split_ifs with negative
  · obtain ⟨m, rfl⟩ : ∃ m : Nat, k = -m := ⟨k.natAbs, by omega⟩
    rw [Int.natAbs_neg, Int.natAbs_natCast, Int.cast_neg, Int.cast_natCast]
    exact Json.good_negative m
  · obtain ⟨m, rfl⟩ : ∃ m : Nat, k = m := ⟨k.natAbs, by omega⟩
    rw [Int.natAbs_natCast, Int.cast_natCast]
    exact Json.good_nat m

/-- Each argument has a value that its text is read as. -/
theorem exists_shown (arg : Arg) (float : ∀ q, arg = .real (.finite q) → binary64.IsFloat q) :
    ∃ v, Shows arg v ∧
      ∀ n, Json.Good (Json.readValue (n + 1)) Json.Ends (jsonValue arg) v := by
  cases arg with
  | none => exact ⟨.null, rfl, fun _ => good_null _⟩
  | integer k => exact ⟨.number k, rfl, fun _ => good_i64Text k⟩
  | text s =>
      refine ⟨.string s, rfl, fun n => Json.good_string (fun rest => ?_) _⟩
      rw [List.append_assoc]
      exact named_escapeText s rest
  | real v =>
      cases v with
      | nan => exact ⟨.null, rfl, fun _ => good_null _⟩
      | posInf => exact ⟨.null, rfl, fun _ => good_null _⟩
      | negInf => exact ⟨.null, rfl, fun _ => good_null _⟩
      | finite q =>
          obtain ⟨r, rounds, good⟩ := Json.good_display (float q rfl)
          exact ⟨.number r, ⟨r, rfl, rounds⟩, good⟩

theorem exists_members (float : FloatArgs members) :
    ∃ shown : List (List Char × Json.Value), List.Forall₂
      (fun m v => (m.1 = v.1 ∧ Shows m.2 v.2) ∧
        ∀ n, Json.Good (Json.readValue (n + 1)) Json.Ends (jsonValue m.2) v.2) members shown := by
  induction members with
  | nil => exact ⟨[], .nil⟩
  | cons m rest ih =>
      obtain ⟨here, later⟩ := List.forall_mem_cons.mp float
      obtain ⟨v, shows_arg, good⟩ := exists_shown m.2 here
      obtain ⟨shown, related⟩ := ih later
      exact ⟨(m.1, v) :: shown, .cons ⟨⟨rfl, shows_arg⟩, good⟩ related⟩

/-- Members of one name each are looked up by it. -/
theorem lookup_members {shown : List (List Char × Json.Value)}
    (related : List.Forall₂ (fun m v => m.1 = v.1 ∧ Shows m.2 v.2) members shown)
    (names : (members.map Prod.fst).Nodup) :
    ∀ m ∈ members, ∃ v, shown.lookup m.1 = some v ∧ Shows m.2 v := by
  induction related with
  | nil => exact fun _ member => absurd member List.not_mem_nil
  | @cons m v rest more here _ ih =>
      rw [List.map_cons, List.nodup_cons] at names
      obtain ⟨name, value⟩ := v
      obtain ⟨rfl, shows_arg⟩ := here
      refine List.forall_mem_cons.mpr ⟨⟨value, List.lookup_cons_self, shows_arg⟩, ?_⟩
      intro other later
      obtain ⟨v, found, shows_other⟩ := ih names.2 other later
      have differs : (other.1 == m.1) = false := by
        rw [beq_eq_false_iff_ne]
        intro same
        exact names.1 (same ▸ List.mem_map_of_mem later)
      exact ⟨v, by rw [List.lookup_cons, differs]; exact found, shows_other⟩

theorem stands_jsonObject (float : FloatArgs members) :
    ∃ shown, Json.Stands (jsonObject members) (.object shown) ∧ List.Forall₂
      (fun m v => m.1 = v.1 ∧ Shows m.2 v.2) (members.insertionSort fun a b => a.1 ≤ b.1) shown := by
  have order := List.perm_insertionSort (fun a b : List Char × Arg => a.1 ≤ b.1) members
  rw [jsonObject]
  generalize members.insertionSort (fun a b => a.1 ≤ b.1) = sorted at order ⊢
  obtain ⟨shown, related⟩ := exists_members fun m member => float m (order.mem_iff.mp member)
  refine ⟨shown, ⟨sorted.length + 2, fun m enough rest => ?_⟩, related.imp fun _ _ both => both.1⟩
  obtain ⟨n, rfl⟩ := Nat.exists_eq_add_of_le' enough
  by_cases filled : sorted = []
  · subst filled
    cases related
    rfl
  · have texts : List.Forall₂
        (fun m v => Json.Named m.1 v.1 ∧
          Json.Good (Json.readValue (n + sorted.length + 1)) Json.Ends m.2 v.2)
        (sorted.map fun m => (escapeText m.1, jsonValue m.2)) shown := by
      rw [List.forall₂_map_left_iff]
      exact related.imp fun m v both => ⟨both.1.1 ▸ named_escapeText m.1, both.2 _⟩
    have good := Json.good_object texts (by simpa using filled)
      (by rw [List.length_map]; omega) (fun _ => True) rest trivial
    rw [List.map_map] at good
    exact good

end Objects

theorem documented_serdeJson : serdeJson.Documented := by
  refine ⟨fun s => ⟨_, rfl, fun rest => ?_⟩, fun members names float => ?_⟩
  · rw [List.append_assoc]
    exact named_escapeText s rest
  obtain ⟨shown, stands, related⟩ := stands_jsonObject float
  refine ⟨.object shown, stands, fun m member => ?_⟩
  have order := List.perm_insertionSort (fun a b : List Char × Arg => a.1 ≤ b.1) members
  exact lookup_members related ((order.map Prod.fst).nodup_iff.mpr names) m
    (order.mem_iff.mpr member)

/-- When the four outputs are read back: `history` quotes a state twice and writes NaNs and
infinities bare, and has a message in place of an empty list; the columns of the database are
`i64`s, take no NaN and have one row for each sensor and time. -/
theorem exports_parse_iff (serde : Serde) (documented : serde.Documented) (samples : List Sample)
    (exported : ∀ s ∈ samples, Exported s) (id : String) (sensor : Option String)
    (cutoffMicros : Nat) (range : cutoffMicros < u64Bound) (batches : List (List HistoricSample))
    (flushed : batches.flatten = samples.filterMap HistoricSample.ofSample)
    (rows : List ExportRow) (queried : Queried (historyOf batches) sensor cutoffMicros rows) :
    (HistoryCsvParses serde id samples ↔ samples ≠ [] ∧
      ∀ s ∈ samples, ∀ v, s.reading = .state v → Csv.Plain v.toList) ∧
    (HistoryJsonParses serde id samples ↔ samples ≠ [] ∧
      ∀ s ∈ samples, ∀ v, s.reading = .scalar v → v.isFinite = true) ∧
    (ExportCsvParses serde rows (wanted sensor cutoffMicros samples) ↔
      Exportable sensor cutoffMicros samples ∧
        ∀ s ∈ wanted sensor cutoffMicros samples, s.reading ≠ .scalar .nan) ∧
    (ExportJsonParses serde rows (wanted sensor cutoffMicros samples) ↔
      Exportable sensor cutoffMicros samples) := by
  have plain : ∀ s ∈ samples, ∀ rows, s.reading ≠ .table rows := fun s inside =>
    (exported s inside).plain
  have held := rowsOf_queried flushed plain queried
  exact ⟨historyCsvParses_iff serde id plain, historyJsonParses_iff documented id exported,
    exportCsvParses_iff serde held range exported,
    exportJsonParses_iff documented held range exported⟩

/-- A sample of each kind. -/
def observed : List Sample :=
  [⟨⟨"cpu.temp"⟩, 1, .scalar (.finite (1 / 2))⟩, ⟨⟨"net.rx"⟩, 1, .counter 7⟩,
    ⟨⟨"fan"⟩, 2, .state "slow"⟩]

theorem exported_observed : ∀ s ∈ observed, Exported s := by
  have float : binary64.IsFloat (1 / 2) := by
    have power := @Ieee.isFloat_two_zpow (-1) (by decide) (by decide)
    rw [zpow_neg_one, ← one_div] at power
    exact power
  rw [observed, List.forall_mem_cons, List.forall_mem_cons, List.forall_mem_singleton]
  refine ⟨⟨⟨by decide, by simp⟩, ?_, by simp⟩, ⟨⟨by decide, ?_⟩, by simp, by simp⟩,
    ⟨⟨by decide, by simp⟩, by simp, by simp⟩⟩
  · rintro q ⟨⟩
    exact float
  · rintro v ⟨⟩
    decide

theorem exports_parse_iff_observed :
    HistoryCsvParses serdeJson "cpu.temp" observed ∧
    HistoryJsonParses serdeJson "cpu.temp" observed ∧
    ExportCsvParses serdeJson (observed.map rowOf) (wanted none 0 observed) ∧
    ExportJsonParses serdeJson (observed.map rowOf) (wanted none 0 observed) := by
  have selected : ((historyOf [observed.filterMap HistoricSample.ofSample]).entries.map
      tableRow).filter (selects none (asI64 0)) = (observed.map rowOf).reverse := rfl
  have queried : Queried (historyOf [observed.filterMap HistoricSample.ofSample]) none 0
      (observed.map rowOf) :=
    ⟨selected ▸ (List.reverse_perm _).symm, by decide⟩
  have fits : ∀ s ∈ observed, FitsColumns s := by
    rw [observed, List.forall_mem_cons, List.forall_mem_cons, List.forall_mem_singleton]
    refine ⟨⟨by decide, by simp⟩, ⟨by decide, ?_⟩, ⟨by decide, by simp⟩⟩
    rintro n ⟨⟩
    decide
  have exportable : Exportable none 0 observed :=
    ⟨by decide, fun s inside _ => iff_of_true (by decide) (fits s inside).ts, fits⟩
  obtain ⟨historyCsv, historyJson, exportCsv, exportJson⟩ := exports_parse_iff serdeJson
    documented_serdeJson observed exported_observed "cpu.temp" none 0 (by decide)
    [observed.filterMap HistoricSample.ofSample] (List.append_nil _) (observed.map rowOf) queried
  refine ⟨historyCsv.mpr ⟨by decide, ?_⟩, historyJson.mpr ⟨by decide, ?_⟩,
    exportCsv.mpr ⟨exportable, ?_⟩, exportJson.mpr exportable⟩
  · rw [observed, List.forall_mem_cons, List.forall_mem_cons, List.forall_mem_singleton]
    refine ⟨by simp, by simp, ?_⟩
    rintro v ⟨⟩
    decide
  · rw [observed, List.forall_mem_cons, List.forall_mem_cons, List.forall_mem_singleton]
    refine ⟨?_, by simp, by simp⟩
    rintro v ⟨⟩
    rfl
  · change ∀ s ∈ observed, s.reading ≠ .scalar .nan
    rw [observed, List.forall_mem_cons, List.forall_mem_cons, List.forall_mem_singleton]
    exact ⟨by simp, by simp, by simp⟩

/-- A state with a comma comes back in quotes, a NaN is no JSON and an empty field, and a counter
from 2^63 on is negative. -/
theorem exports_altered :
    ¬ HistoryCsvParses serdeJson "fan" [⟨⟨"fan"⟩, 1, .state "a,b"⟩] ∧
    ¬ HistoryJsonParses serdeJson "fan" [⟨⟨"fan"⟩, 1, .scalar .nan⟩] ∧
    (Queried (historyOf [[⟨⟨"fan"⟩, 1, some .nan, none, none⟩]]) none 0
        [⟨"fan", 1, ⟨none, none, none⟩⟩] ∧
      ¬ ExportCsvParses serdeJson [⟨"fan", 1, ⟨none, none, none⟩⟩]
        [⟨⟨"fan"⟩, 1, .scalar .nan⟩]) ∧
    Queried (historyOf [[⟨⟨"fan"⟩, 1, none, some 9223372036854775808, none⟩]]) none 0
        [⟨"fan", 1, ⟨none, some (-9223372036854775808), none⟩⟩] ∧
      ¬ ExportJsonParses serdeJson [⟨"fan", 1, ⟨none, some (-9223372036854775808), none⟩⟩]
        [⟨⟨"fan"⟩, 1, .counter 9223372036854775808⟩] := by
  have single (row : ExportRow) : [row].Pairwise fun a b => a.ts ≤ b.ts :=
    List.pairwise_singleton _ row
  have number : Exported ⟨⟨"fan"⟩, 1, .scalar .nan⟩ := ⟨⟨by decide, by simp⟩, by simp, by simp⟩
  have counter : Exported ⟨⟨"fan"⟩, 1, .counter 9223372036854775808⟩ := by
    refine ⟨⟨by decide, ?_⟩, by simp, by simp⟩
    rintro n ⟨⟩
    decide
  have queried : Queried
      (historyOf [[⟨⟨"fan"⟩, 1, none, some 9223372036854775808, none⟩]]) none 0
      [⟨"fan", 1, ⟨none, some (-9223372036854775808), none⟩⟩] := ⟨.refl _, single _⟩
  refine ⟨?_, ?_, ⟨⟨.refl _, single _⟩, ?_⟩, queried, ?_⟩
  · rw [historyCsvParses_iff serdeJson "fan" (by simp)]
    rintro ⟨_, each⟩
    exact absurd (each _ List.mem_cons_self "a,b" rfl) (by decide)
  · rw [historyJsonParses_iff documented_serdeJson "fan" (List.forall_mem_singleton.mpr number)]
    rintro ⟨_, each⟩
    cases each _ List.mem_cons_self .nan rfl
  · rintro ⟨records, read, perm⟩
    rw [read_exportRows, Option.some.injEq, List.cons.injEq] at read
    rw [← read.2, List.map_singleton, List.map_singleton, List.singleton_perm_singleton] at perm
    exact absurd perm (by decide)
  · intro parses
    have held : RowsOf [⟨⟨"fan"⟩, 1, .counter 9223372036854775808⟩] none 0
        [⟨"fan", 1, ⟨none, some (-9223372036854775808), none⟩⟩] :=
      rowsOf_queried rfl (List.forall_mem_singleton.mpr counter.plain) queried
    have exportable := (exportJsonParses_iff documented_serdeJson held (by decide)
      (List.forall_mem_singleton.mpr counter)).mp parses
    have fits := exportable.fits _ List.mem_cons_self
    exact absurd (fits.counter _ rfl) (by decide)

end LinSight.Cli
