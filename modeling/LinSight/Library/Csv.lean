import Mathlib

set_option autoImplicit false

/-! Comma separated values with the quotes of RFC 4180, where a line ends with a line feed, with or
without a carriage return before it. -/

namespace Csv

/-- Where a reader stands. -/
inductive Place where
  | start
  | plain (field : List Char)
  | quoted (field : List Char)
  /-- Behind a quote in a quoted field, which ends it or stands for itself. -/
  | closed (field : List Char)
  /-- Behind a carriage return. -/
  | returned (field : List Char)

structure Reader where
  records : List (List (List Char))
  fields : List (List Char)
  place : Place

namespace Reader

/-- What comes after a field. -/
def after (r : Reader) (field : List Char) (c : Char) : Option Reader :=
  if c = ',' then some ⟨r.records, r.fields ++ [field], .start⟩
  else if c = '\n' then some ⟨r.records ++ [r.fields ++ [field]], [], .start⟩
  else if c = '\r' then some { r with place := .returned field }
  else none

def step (r : Reader) (c : Char) : Option Reader :=
  match r.place with
  | .start =>
      if c = '"' then some { r with place := .quoted [] }
      else (r.after [] c).or (some { r with place := .plain [c] })
  | .plain field =>
      if c = '"' then none
      else (r.after field c).or (some { r with place := .plain (field ++ [c]) })
  | .quoted field =>
      if c = '"' then some { r with place := .closed field }
      else some { r with place := .quoted (field ++ [c]) }
  | .closed field =>
      if c = '"' then some { r with place := .quoted (field ++ ['"']) }
      else r.after field c
  | .returned field =>
      if c = '\n' then some ⟨r.records ++ [r.fields ++ [field]], [], .start⟩ else none

def run (r : Reader) (text : List Char) : Option Reader := text.foldlM step r

/-- The last record may lack its line break. -/
def finish (r : Reader) : Option (List (List (List Char))) :=
  match r.place with
  | .start => some (if r.fields = [] then r.records else r.records ++ [r.fields ++ [[]]])
  | .plain field | .closed field => some (r.records ++ [r.fields ++ [field]])
  | .quoted _ | .returned _ => none

end Reader

/-- The records of a text. -/
def read (text : List Char) : Option (List (List (List Char))) :=
  (Reader.run ⟨[], [], .start⟩ text).bind Reader.finish

/-- The characters that a field holds in quotes only. -/
def special : List Char := [',', '"', '\n', '\r']

def Plain (field : List Char) : Prop := ∀ c ∈ field, c ∉ special

instance (field : List Char) : Decidable (Plain field) :=
  decidable_of_iff (field.all fun c => decide (c ∉ special))
    (by simp only [List.all_eq_true, decide_eq_true_eq, Plain])

/-- The text of a field in quotes. -/
def quote (field : List Char) : List Char :=
  '"' :: (field.flatMap fun c => if c = '"' then ['"', '"'] else [c]) ++ ['"']

/-- A text that is read as the field. -/
def Cell (field text : List Char) : Prop := text = field ∧ Plain field ∨ text = quote field

/-- The texts of a record as a line. -/
def line (texts : List (List Char)) : List Char := [','].intercalate texts ++ ['\n']

/-- Quotes make a field longer. -/
theorem length_lt_quote (field : List Char) : field.length < (quote field).length := by
  have doubled : field.length ≤
      (field.flatMap fun c => if c = '"' then ['"', '"'] else [c]).length := by
    induction field with
    | nil => exact Nat.le_refl 0
    | cons c rest ih =>
        have here : 1 ≤ (if c = '"' then ['"', '"'] else [c]).length := by
          split_ifs
          · exact Nat.le_succ 1
          · exact Nat.le_refl 1
        rw [List.flatMap_cons, List.length_append, List.length_cons]
        omega
  rw [quote, List.length_append, List.length_cons, List.length_singleton]
  omega

section Cells

variable {records : List (List (List Char))} {fields : List (List Char)}

theorem run_append (r : Reader) (front back : List Char) :
    r.run (front ++ back) = (r.run front).bind fun r => r.run back := by
  rw [Reader.run, List.foldlM_append]
  rfl

theorem run_cons (r : Reader) (c : Char) (rest : List Char) :
    r.run (c :: rest) = (r.step c).bind fun r => r.run rest := by
  rw [Reader.run, List.foldlM_cons]
  rfl

theorem not_special {c : Char} (plain : c ∉ special) :
    c ≠ '"' ∧ ∀ (r : Reader) (field : List Char), r.after field c = none := by
  simp only [special, List.mem_cons, List.not_mem_nil, or_false, not_or] at plain
  obtain ⟨comma, mark, feed, back⟩ := plain
  exact ⟨mark, fun r field => by rw [Reader.after, if_neg comma, if_neg feed, if_neg back]⟩

theorem run_plain {field : List Char} (front : List Char) (plain : Plain field) :
    (Reader.mk records fields (.plain front)).run field =
      some ⟨records, fields, .plain (front ++ field)⟩ := by
  induction field generalizing front with
  | nil => rw [List.append_nil]; rfl
  | cons c rest ih =>
      obtain ⟨here, later⟩ := List.forall_mem_cons.mp plain
      obtain ⟨mark, inside⟩ := not_special here
      have step : (Reader.mk records fields (.plain front)).step c =
          some ⟨records, fields, .plain (front ++ [c])⟩ := by
        rw [Reader.step]
        dsimp only
        rw [if_neg mark, inside]
        rfl
      rw [run_cons, step, Option.bind_some, ih _ later, List.append_assoc]
      rfl

theorem run_quoted (front field : List Char) :
    (Reader.mk records fields (.quoted front)).run
        (field.flatMap fun c => if c = '"' then ['"', '"'] else [c]) =
      some ⟨records, fields, .quoted (front ++ field)⟩ := by
  induction field generalizing front with
  | nil => rw [List.append_nil]; rfl
  | cons c rest ih =>
      have here : (Reader.mk records fields (.quoted front)).run
          (if c = '"' then ['"', '"'] else [c]) =
          some ⟨records, fields, .quoted (front ++ [c])⟩ := by
        split_ifs with mark
        · rw [mark]
          rfl
        · rw [run_cons, Reader.step]
          dsimp only
          rw [if_neg mark]
          rfl
      rw [List.flatMap_cons, run_append, here, Option.bind_some, ih, List.append_assoc]
      rfl

/-- Behind a field, a comma or a line feed takes it. -/
theorem run_cell {field text : List Char} (cell : Cell field text) {c : Char}
    (ends : c = ',' ∨ c = '\n') (rest : List Char) :
    (Reader.mk records fields .start).run (text ++ c :: rest) =
      ((Reader.mk records fields .start).after field c).bind fun r => r.run rest := by
  have unmarked : c ≠ '"' := by
    rcases ends with rfl | rfl <;> decide
  -- the place that a field is ended from does not matter
  have taken (place : Place) : (Reader.mk records fields place).after field c =
      (Reader.mk records fields .start).after field c := by
    rcases ends with rfl | rfl <;> rfl
  have some_after : ∃ r, (Reader.mk records fields .start).after field c = some r := by
    rcases ends with rfl | rfl
    · exact ⟨_, rfl⟩
    · exact ⟨_, rfl⟩
  obtain ⟨r, after⟩ := some_after
  rcases cell with ⟨rfl, plain⟩ | rfl
  · cases text with
    | nil =>
        have step : (Reader.mk records fields .start).step c = some r := by
          rw [Reader.step]
          dsimp only
          rw [if_neg unmarked, after]
          rfl
        rw [List.nil_append, run_cons, step, after]
    | cons first more =>
        obtain ⟨here, later⟩ := List.forall_mem_cons.mp plain
        obtain ⟨mark, inside⟩ := not_special here
        have begun : (Reader.mk records fields .start).step first =
            some ⟨records, fields, .plain [first]⟩ := by
          rw [Reader.step]
          dsimp only
          rw [if_neg mark, inside]
          rfl
        have step : (Reader.mk records fields (.plain (first :: more))).step c = some r := by
          rw [Reader.step]
          dsimp only
          rw [if_neg unmarked, taken, after]
          rfl
        rw [List.cons_append, run_cons, begun, Option.bind_some, run_append, run_plain _ later,
          Option.bind_some, run_cons, List.singleton_append, step, after]
  · have opened : (Reader.mk records fields .start).step '"' =
        some ⟨records, fields, .quoted []⟩ := rfl
    have closed : (Reader.mk records fields (.quoted field)).step '"' =
        some ⟨records, fields, .closed field⟩ := rfl
    have step : (Reader.mk records fields (.closed field)).step c = some r := by
      rw [Reader.step]
      dsimp only
      rw [if_neg unmarked, taken, after]
    rw [quote, List.cons_append, List.cons_append, run_cons, opened, Option.bind_some,
      List.append_assoc, run_append, run_quoted, Option.bind_some, List.nil_append,
      List.singleton_append, run_cons, closed, Option.bind_some, run_cons, step, after]

end Cells

section Lines

theorem run_line {record texts : List (List Char)} (cells : List.Forall₂ Cell record texts)
    (filled : record ≠ []) (records : List (List (List Char))) (fields : List (List Char))
    (rest : List Char) :
    (Reader.mk records fields .start).run (line texts ++ rest) =
      (Reader.mk (records ++ [fields ++ record]) [] .start).run rest := by
  induction cells generalizing fields with
  | nil => exact absurd rfl filled
  | @cons field text later laterTexts cell cells ih =>
      cases cells with
      | nil =>
          rw [line, List.intercalate_singleton, List.append_assoc, List.singleton_append,
            run_cell cell (.inr rfl)]
          rfl
      | cons next others =>
          rw [line, List.intercalate_cons_cons, List.append_assoc, List.append_assoc,
            List.append_assoc, List.singleton_append, run_cell cell (.inl rfl)]
          have tail := ih (by simp) (fields ++ [field])
          rw [line, List.append_assoc] at tail
          refine tail.trans ?_
          rw [List.append_assoc]
          rfl

/-- Lines of cells are read as the records. -/
theorem read_lines {records : List (List (List Char))} {lines : List (List (List Char))}
    (cells : List.Forall₂ (List.Forall₂ Cell) records lines) (filled : ∀ r ∈ records, r ≠ []) :
    read (lines.flatMap line) = some records := by
  have whole (front : List (List (List Char))) :
      (Reader.mk front [] .start).run (lines.flatMap line) =
        some ⟨front ++ records, [], .start⟩ := by
    induction cells generalizing front with
    | nil => rw [List.append_nil]; rfl
    | cons here _ ih =>
        obtain ⟨filled_here, later⟩ := List.forall_mem_cons.mp filled
        rw [List.flatMap_cons, run_line here filled_here, ih later, List.append_assoc]
        rfl
  rw [read, whole]
  rfl

end Lines

section Content

/-- The characters of the fields so far. -/
def Place.field : Place → List Char
  | .start => []
  | .plain field | .quoted field | .closed field | .returned field => field

def Reader.content (r : Reader) : List Char :=
  r.records.flatten.flatten ++ r.fields.flatten ++ r.place.field

theorem content_after {r r' : Reader} {field : List Char} {c : Char}
    (taken : r.after field c = some r') :
    r'.content = r.records.flatten.flatten ++ r.fields.flatten ++ field := by
  unfold Reader.after at taken
  split_ifs at taken
  · cases taken
    simp [Reader.content, Place.field]
  · cases taken
    simp [Reader.content, Place.field]
  · cases taken
    rfl

/-- A step only adds to the content. -/
theorem content_step {r r' : Reader} {c : Char} (taken : r.step c = some r') :
    ∃ more, r'.content = r.content ++ more := by
  obtain ⟨records, fields, place⟩ := r
  have ends {field : List Char} (taken : (Reader.mk records fields place).after field c = some r')
      (same : place.field = field) :
      ∃ more, r'.content = (Reader.mk records fields place).content ++ more :=
    ⟨[], by rw [content_after taken, List.append_nil, ← same]; rfl⟩
  unfold Reader.step at taken
  cases place with
  | start =>
      dsimp only at taken
      split_ifs at taken
      · cases taken
        exact ⟨[], by rw [List.append_nil]; rfl⟩
      · rcases Option.or_eq_some_iff.mp taken with done | ⟨_, done⟩
        · exact ends done rfl
        · cases done
          exact ⟨[c], by simp [Reader.content, Place.field]⟩
  | plain field =>
      dsimp only at taken
      split_ifs at taken
      rcases Option.or_eq_some_iff.mp taken with done | ⟨_, done⟩
      · exact ends done rfl
      · cases done
        exact ⟨[c], by simp [Reader.content, Place.field]⟩
  | quoted field =>
      dsimp only at taken
      split_ifs at taken
      · cases taken
        exact ⟨[], by rw [List.append_nil]; rfl⟩
      · cases taken
        exact ⟨[c], by simp [Reader.content, Place.field]⟩
  | closed field =>
      dsimp only at taken
      split_ifs at taken
      · cases taken
        exact ⟨['"'], by simp [Reader.content, Place.field]⟩
      · exact ends taken rfl
  | returned field =>
      dsimp only at taken
      split_ifs at taken
      cases taken
      exact ⟨[], by simp [Reader.content, Place.field]⟩

theorem content_run {r r' : Reader} {text : List Char} (done : r.run text = some r') :
    ∃ more, r'.content = r.content ++ more := by
  induction text generalizing r with
  | nil =>
      cases done
      exact ⟨[], by rw [List.append_nil]⟩
  | cons c rest ih =>
      rw [run_cons, Option.bind_eq_some_iff] at done
      obtain ⟨next, taken, done⟩ := done
      obtain ⟨first, here⟩ := content_step taken
      obtain ⟨more, later⟩ := ih done
      exact ⟨first ++ more, by rw [later, here, List.append_assoc]⟩

/-- The first character of a text that is not special is that of the first field. -/
theorem read_cons {c : Char} {rest : List Char} {records : List (List (List Char))}
    (plain : c ∉ special) (done : read (c :: rest) = some records) :
    ∃ more, records.flatten.flatten = c :: more := by
  obtain ⟨mark, inside⟩ := not_special plain
  have begun : (Reader.mk [] [] .start).step c = some ⟨[], [], .plain [c]⟩ := by
    rw [Reader.step]
    dsimp only
    rw [if_neg mark, inside]
    rfl
  rw [read, Option.bind_eq_some_iff] at done
  obtain ⟨last, ran, done⟩ := done
  rw [run_cons, begun, Option.bind_some] at ran
  obtain ⟨more, content⟩ := content_run ran
  refine ⟨more, ?_⟩
  have whole : last.content = c :: more := content
  rw [← whole]
  obtain ⟨found, fields, place⟩ := last
  cases place with
  | start =>
      rw [Reader.finish, Option.some.injEq] at done
      split_ifs at done with empty
      · change fields = [] at empty
        rw [← done, empty]
        simp [Reader.content, Place.field]
      · rw [← done]
        simp [Reader.content, Place.field]
  | plain field =>
      cases done
      simp [Reader.content, Place.field]
  | closed field =>
      cases done
      simp [Reader.content, Place.field]
  | quoted field => cases done
  | returned field => cases done

end Content

end Csv
