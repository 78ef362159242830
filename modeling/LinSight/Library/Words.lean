import Mathlib

set_option autoImplicit false

/-! The lines, words and numbers of a text. -/

namespace Words

section Words

variable (blank : Char → Bool)

/-- The maximal runs of characters that are not blank. -/
def words (text : List Char) : List (List Char) :=
  (text.splitOnP blank).filter fun word => !word.isEmpty

/-- The word is somewhere in the text with nothing but blanks next to it. -/
def Stands (word text : List Char) : Prop :=
  ∃ front back, text = front ++ word ++ back ∧
    (∀ c ∈ front.getLast?, blank c = true) ∧ ∀ c ∈ back.head?, blank c = true

/-- The text without the blanks at its ends. -/
def trim (text : List Char) : List Char := (text.dropWhile blank).rdropWhile blank

variable {blank}

@[simp] theorem words_nil : words blank [] = [] := rfl

theorem words_append_blank (front back : List Char) {c : Char} (separator : blank c = true) :
    words blank (front ++ c :: back) = words blank front ++ words blank back := by
  rw [words, List.splitOnP_append_cons front back separator, List.filter_append]
  rfl

theorem words_cons_blank (text : List Char) {c : Char} (separator : blank c = true) :
    words blank (c :: text) = words blank text :=
  words_append_blank [] text separator

/-- A word up to its first blank. -/
theorem words_word {word : List Char} (nonempty : word ≠ [])
    (plain : ∀ c ∈ word, blank c = false) : words blank word = [word] := by
  rw [words, List.splitOnP_eq_singleton plain, List.filter_singleton]
  cases word with
  | nil => exact absurd rfl nonempty
  | cons c rest => rfl

theorem words_word_append {word : List Char} (nonempty : word ≠ [])
    (plain : ∀ c ∈ word, blank c = false) {c : Char} (separator : blank c = true)
    (rest : List Char) : words blank (word ++ c :: rest) = word :: words blank rest := by
  rw [words_append_blank word rest separator, words_word nonempty plain]
  rfl

theorem words_blanks {text : List Char} (blanks : ∀ c ∈ text, blank c = true) :
    words blank text = [] := by
  induction text with
  | nil => rfl
  | cons c rest ih =>
      rw [words_cons_blank rest (blanks c List.mem_cons_self)]
      exact ih fun other member => blanks other (List.mem_cons_of_mem c member)

theorem words_append_blanks (text : List Char) {back : List Char}
    (blanks : ∀ c ∈ back, blank c = true) : words blank (text ++ back) = words blank text := by
  cases back with
  | nil => rw [List.append_nil]
  | cons c rest =>
      have none : words blank rest = [] :=
        words_blanks fun other member => blanks other (List.mem_cons_of_mem c member)
      rw [words_append_blank text rest (blanks c List.mem_cons_self), none, List.append_nil]

theorem words_dropWhile (text : List Char) :
    words blank (text.dropWhile blank) = words blank text := by
  induction text with
  | nil => rfl
  | cons c rest ih =>
      by_cases separator : blank c = true
      · rw [List.dropWhile_cons_of_pos separator, ih, words_cons_blank rest separator]
      · rw [List.dropWhile_cons_of_neg separator]

/-- The end that is dropped. -/
theorem exists_rdropWhile (text : List Char) :
    ∃ back, text = text.rdropWhile blank ++ back ∧ ∀ c ∈ back, blank c = true := by
  refine ⟨text.rtakeWhile blank, List.rdropWhile_append_rtakeWhile.symm, ?_⟩
  exact fun c member => List.mem_rtakeWhile_imp member

theorem words_rdropWhile (text : List Char) :
    words blank (text.rdropWhile blank) = words blank text := by
  obtain ⟨back, whole, blanks⟩ := @exists_rdropWhile blank text
  conv_rhs => rw [whole]
  rw [words_append_blanks _ blanks]

theorem intercalate_cons (separator piece : List Char) (others : List (List Char)) :
    separator.intercalate (piece :: others) =
      piece ++ others.flatMap fun other => separator ++ other := by
  induction others generalizing piece with
  | nil => rw [List.intercalate_singleton, List.flatMap_nil, List.append_nil]
  | cons next more ih =>
      rw [List.intercalate_cons_cons, ih, List.flatMap_cons, List.append_assoc, List.append_assoc]

/-- A character of joined words is in one of them, or the separator. -/
theorem mem_intercalate {list : List (List Char)} {separator c : Char}
    (member : c ∈ [separator].intercalate list) :
    c = separator ∨ ∃ word ∈ list, c ∈ word := by
  induction list with
  | nil => cases member
  | cons word rest ih =>
      cases rest with
      | nil =>
          rw [List.intercalate_singleton] at member
          exact .inr ⟨word, List.mem_cons_self, member⟩
      | cons other more =>
          rw [List.intercalate_cons_cons, List.mem_append, List.mem_append,
            List.mem_singleton] at member
          rcases member with (here | rfl) | later
          · exact .inr ⟨word, List.mem_cons_self, here⟩
          · exact .inl rfl
          · rcases ih later with same | ⟨word', among, inside⟩
            · exact .inl same
            · exact .inr ⟨word', List.mem_cons_of_mem word among, inside⟩

/-- Words with one blank between them. -/
theorem words_intercalate {list : List (List Char)} (nonempty : ∀ word ∈ list, word ≠ [])
    (plain : ∀ word ∈ list, ∀ c ∈ word, blank c = false) {c : Char} (separator : blank c = true) :
    words blank ([c].intercalate list) = list := by
  induction list with
  | nil => rfl
  | cons word rest ih =>
      obtain ⟨here, nonempty⟩ := List.forall_mem_cons.mp nonempty
      obtain ⟨here', plain⟩ := List.forall_mem_cons.mp plain
      cases rest with
      | nil => rw [List.intercalate_singleton, words_word here here']
      | cons other more =>
          rw [List.intercalate_cons_cons, List.append_assoc, List.singleton_append,
            words_word_append here here' separator, ih nonempty plain]

/-- Trimming keeps the words. -/
theorem words_trim (text : List Char) : words blank (trim blank text) = words blank text := by
  rw [trim, words_rdropWhile, words_dropWhile]

/-- What stands in front of a word is kept by trimming the end. -/
theorem rdropWhile_append {front back : List Char} (some_word : words blank back ≠ []) :
    (front ++ back).rdropWhile blank = front ++ back.rdropWhile blank := by
  have kept : (back.reverse.dropWhile blank).isEmpty = false := by
    by_contra all
    rw [Bool.not_eq_false, List.isEmpty_iff, List.dropWhile_eq_nil_iff] at all
    exact some_word (words_blanks fun c member => all c (List.mem_reverse.mpr member))
  rw [List.rdropWhile, List.reverse_append, List.dropWhile_append, if_neg (by simp [kept]),
    List.reverse_append, List.reverse_reverse, List.rdropWhile]

theorem eq_of_mem_words_plain {word text : List Char} (plain : ∀ c ∈ text, blank c = false)
    (member : word ∈ words blank text) : word = text ∧ text ≠ [] := by
  cases text with
  | nil => cases member
  | cons c rest =>
      rw [words_word (List.cons_ne_nil c rest) plain, List.mem_singleton] at member
      exact ⟨member, List.cons_ne_nil c rest⟩

theorem trim_plain {text : List Char} (plain : ∀ c ∈ text, blank c = false) :
    trim blank text = text := by
  have front : text.dropWhile blank = text := by
    cases text with
    | nil => rfl
    | cons c rest =>
        exact List.dropWhile_cons_of_neg (by simp [plain c List.mem_cons_self])
  rw [trim, front, List.rdropWhile_eq_self_iff]
  intro nonempty
  simp [plain _ (List.getLast_mem nonempty)]

theorem Stands.prepend {word text : List Char} (stands : Stands blank word text)
    (front : List Char) {c : Char} (separator : blank c = true) :
    Stands blank word (front ++ c :: text) := by
  obtain ⟨before, after, rfl, left, right⟩ := stands
  refine ⟨front ++ c :: before, after, by simp, ?_, right⟩
  intro last ends
  cases before with
  | nil =>
      rw [List.getLast?_concat, Option.mem_some] at ends
      exact ends ▸ separator
  | cons first rest =>
      apply left last
      rwa [List.getLast?_append_cons, List.getLast?_cons_cons] at ends

/-- The words are the runs that stand between blanks. -/
theorem mem_words {word text : List Char} :
    word ∈ words blank text ↔
      word ≠ [] ∧ (∀ c ∈ word, blank c = false) ∧ Stands blank word text := by
  constructor
  · intro member
    induction measured : text.length using Nat.strong_induction_on generalizing text with
    | h size ih =>
        have whole := (List.takeWhile_append_dropWhile (p := (!blank ·)) (l := text)).symm
        have plain : ∀ c ∈ text.takeWhile (!blank ·), blank c = false := fun c inside => by
          simpa using List.mem_takeWhile_imp inside
        cases tail : text.dropWhile (!blank ·) with
        | nil =>
            rw [tail, List.append_nil] at whole
            rw [whole] at member
            obtain ⟨same, nonempty⟩ := eq_of_mem_words_plain plain member
            rw [same]
            exact ⟨nonempty, plain, [], [], by simpa using whole, by simp, by simp⟩
        | cons c rest =>
            have separator : blank c = true := by
              have stopped := List.head?_dropWhile_not (!blank ·) text
              simpa [tail] using stopped
            rw [tail] at whole
            rw [whole, words_append_blank _ _ separator, List.mem_append] at member
            rcases member with first | later
            · obtain ⟨same, nonempty⟩ := eq_of_mem_words_plain plain first
              rw [same]
              exact ⟨nonempty, plain, [], c :: rest, by simpa using whole, by simp,
                by simpa using separator⟩
            · have shorter : rest.length < size := by
                rw [← measured, whole, List.length_append, List.length_cons]
                omega
              obtain ⟨nonempty, own, stands⟩ := ih rest.length shorter later rfl
              refine ⟨nonempty, own, ?_⟩
              rw [whole]
              exact stands.prepend _ separator
  · rintro ⟨nonempty, plain, front, back, rfl, left, right⟩
    have here : word ∈ words blank (word ++ back) := by
      cases back with
      | nil =>
          rw [List.append_nil, words_word nonempty plain]
          exact List.mem_singleton_self word
      | cons c rest =>
          rw [words_word_append nonempty plain (right c rfl)]
          exact List.mem_cons_self
    rcases List.eq_nil_or_concat front with rfl | ⟨before, c, rfl⟩
    · exact here
    · have separator : blank c = true := left c (by simp)
      rw [List.append_assoc, List.concat_eq_append, List.append_assoc, List.singleton_append,
        words_append_blank _ _ separator]
      exact List.mem_append_right _ here

end Words

/-- No piece between two separators has a separator. -/
theorem not_mem_of_mem_splitOn {separator : Char} {text piece : List Char}
    (member : piece ∈ text.splitOn separator) : separator ∉ piece := by
  induction text generalizing piece with
  | nil =>
      rw [List.splitOn_nil, List.mem_singleton] at member
      rw [member]
      exact List.not_mem_nil
  | cons c rest ih =>
      rw [List.splitOn_cons_eq_if_modifyHead] at member
      split at member
      · rcases List.mem_cons.mp member with rfl | later
        · exact List.not_mem_nil
        · exact ih later
      · rename_i other
        have apart : separator ≠ c := fun same => other (beq_iff_eq.mpr same.symm)
        obtain ⟨first, more, split⟩ :=
          List.exists_cons_of_ne_nil (List.splitOn_ne_nil separator rest)
        rw [split, List.modifyHead_cons] at member
        rcases List.mem_cons.mp member with rfl | later
        · have inside : first ∈ rest.splitOn separator := split ▸ List.mem_cons_self
          exact List.not_mem_cons_of_ne_of_not_mem apart (ih inside)
        · exact ih (split ▸ List.mem_cons_of_mem _ later)

/-- What follows the prefix. -/
def stripPrefix (front text : List Char) : Option (List Char) :=
  if front <+: text then some (text.drop front.length) else none

theorem stripPrefix_append (front back : List Char) :
    stripPrefix front (front ++ back) = some back := by
  rw [stripPrefix, if_pos (List.prefix_append front back), List.drop_left]

theorem of_stripPrefix {front text back : List Char} (found : stripPrefix front text = some back) :
    text = front ++ back := by
  unfold stripPrefix at found
  split at found
  · rename_i starts
    obtain ⟨rest, rfl⟩ := starts
    rw [List.drop_left, Option.some.injEq] at found
    rw [found]
  · cases found

/-- The lines of a text. A line ends with a line feed, with or without a carriage return before it,
and the last one also with the text. -/
def lines (text : List Char) : List (List Char) :=
  let pieces := text.splitOn '\n'
  let ended := pieces.dropLast.map fun piece =>
    if piece.getLast? = some '\r' then piece.dropLast else piece
  ended ++ pieces.getLast?.toList.filter fun piece => !piece.isEmpty

/-- The first line, where a line feed without a carriage return ends it. -/
theorem lines_append {line : List Char} (plain : '\n' ∉ line)
    (unreturned : line.getLast? ≠ some '\r') (rest : List Char) :
    lines (line ++ '\n' :: rest) = line :: lines rest := by
  have split : (line ++ '\n' :: rest).splitOn '\n' = line :: rest.splitOn '\n' := by
    unfold List.splitOn
    have unbroken : ∀ c ∈ line, (c == '\n') = false :=
      fun c member => beq_false_of_ne fun same => plain (same ▸ member)
    rw [List.splitOnP_append_cons (p := (· == '\n')) line rest (beq_self_eq_true '\n'),
      List.splitOnP_eq_singleton unbroken]
    rfl
  obtain ⟨first, more, pieces⟩ := List.exists_cons_of_ne_nil (List.splitOn_ne_nil '\n' rest)
  unfold lines
  dsimp only
  rw [split, pieces, List.dropLast_cons_cons, List.getLast?_cons_cons, List.map_cons,
    if_neg unreturned, List.cons_append]

/-- The text without the suffix. -/
def stripSuffix (back text : List Char) : Option (List Char) :=
  (stripPrefix back.reverse text.reverse).map List.reverse

theorem stripSuffix_append (front back : List Char) :
    stripSuffix back (front ++ back) = some front := by
  rw [stripSuffix, List.reverse_append, stripPrefix_append, Option.map_some, List.reverse_reverse]

/-- What stands before and behind the last separator. -/
def rsplitOnce (separator : Char) (text : List Char) : Option (List Char × List Char) :=
  match text.reverse.dropWhile (· ≠ separator) with
  | [] => none
  | _ :: front => some (front.reverse, (text.reverse.takeWhile (· ≠ separator)).reverse)

theorem rsplitOnce_append {separator : Char} (front : List Char) {back : List Char}
    (plain : separator ∉ back) : rsplitOnce separator (front ++ separator :: back) =
      some (front, back) := by
  have whole : (front ++ separator :: back).reverse =
      back.reverse ++ separator :: front.reverse := by
    rw [List.reverse_append, List.reverse_cons, List.append_assoc]
    rfl
  have all : ∀ c ∈ back.reverse, decide (c ≠ separator) = true := by
    intro c member
    exact decide_eq_true fun same => plain (same ▸ List.mem_reverse.mp member)
  unfold rsplitOnce
  rw [whole, List.dropWhile_append_of_pos all, List.takeWhile_append_of_pos all,
    List.dropWhile_cons_of_neg (by simp), List.takeWhile_cons_of_neg (by simp)]
  dsimp only
  rw [List.append_nil, List.reverse_reverse, List.reverse_reverse]

/-- A text without the separator is not cut, and another one is cut at the last. -/
theorem rsplitOnce_cases (separator : Char) (text : List Char) :
    (separator ∉ text ∧ rsplitOnce separator text = none) ∨
      ∃ front back, text = front ++ separator :: back ∧ separator ∉ back ∧
        rsplitOnce separator text = some (front, back) := by
  by_cases inside : separator ∈ text
  · obtain ⟨back, front, whole, plain⟩ := List.eq_append_cons_of_mem (List.mem_reverse.mpr inside)
    have text_eq : text = front.reverse ++ separator :: back.reverse := by
      rw [← List.reverse_reverse text, whole, List.reverse_append, List.reverse_cons,
        List.append_assoc]
      rfl
    have plain' : separator ∉ back.reverse := fun member => plain (List.mem_reverse.mp member)
    refine .inr ⟨front.reverse, back.reverse, text_eq, plain', ?_⟩
    rw [text_eq, rsplitOnce_append _ plain']
  · refine .inl ⟨inside, ?_⟩
    have none_left : text.reverse.dropWhile (· ≠ separator) = [] := by
      rw [List.dropWhile_eq_nil_iff]
      intro c member
      exact decide_eq_true fun same => inside (same ▸ List.mem_reverse.mp member)
    rw [rsplitOnce, none_left]

/-- The first separator cuts a text in one way. -/
theorem cut_first_inj {separator : Char} {front front' back back' : List Char}
    (absent : separator ∉ front) (absent' : separator ∉ front')
    (same : front ++ separator :: back = front' ++ separator :: back') : front = front' ∧ back = back' := by
  induction front generalizing front' with
  | nil =>
      cases front' with
      | nil => exact ⟨rfl, (List.cons.inj same).2⟩
      | cons first rest =>
          have first_eq : separator = first := (List.cons.inj same).1
          exact absurd (first_eq ▸ List.mem_cons_self) absent'
  | cons first rest ih =>
      cases front' with
      | nil =>
          have first_eq : first = separator := (List.cons.inj same).1
          exact absurd (first_eq ▸ List.mem_cons_self) absent
      | cons other more =>
          have heads := (List.cons.inj same).1
          have tails := ih (fun inside => absent (List.mem_cons_of_mem _ inside))
            (fun inside => absent' (List.mem_cons_of_mem _ inside)) (List.cons.inj same).2
          exact ⟨by rw [heads, tails.1], tails.2⟩

/-- The last separator cuts a text in one way. -/
theorem cut_last_inj {separator : Char} {front front' back back' : List Char}
    (plain : separator ∉ back) (plain' : separator ∉ back')
    (same : front ++ separator :: back = front' ++ separator :: back') :
    front = front' ∧ back = back' := by
  have cut := rsplitOnce_append front plain
  rw [same, rsplitOnce_append front' plain', Option.some.injEq, Prod.mk.injEq] at cut
  exact ⟨cut.1.symm, cut.2.symm⟩

/-- The value of decimal digits. -/
def decimal (digits : List Char) : Nat :=
  digits.foldl (fun value c => 10 * value + (c.toNat - '0'.toNat)) 0

/-- An unsigned number below the bound, with an optional plus sign. -/
def parseUnsigned (bound : Nat) (text : List Char) : Option Nat :=
  let digits := if text.head? = some '+' then text.tail else text
  if digits.isEmpty || !digits.all Char.isDigit then none
  else if decimal digits < bound then some (decimal digits) else none

theorem parseUnsigned_lt {bound n : Nat} {text : List Char}
    (read : parseUnsigned bound text = some n) : n < bound := by
  unfold parseUnsigned at read
  dsimp only at read
  generalize (if text.head? = some '+' then text.tail else text) = digits at read
  split at read
  · cases read
  · split at read
    · rename_i small
      cases read
      exact small
    · cases read

/-- A number written in digits. -/
structure Numeral where
  chars : List Char
  nonempty : chars ≠ []
  digits : ∀ c ∈ chars, c.isDigit = true

namespace Numeral

def value (n : Numeral) : Nat := decimal n.chars

theorem parse (n : Numeral) {bound : Nat} (small : n.value < bound) :
    parseUnsigned bound n.chars = some n.value := by
  have unsigned : n.chars.head? ≠ some '+' := by
    intro sign
    have digit := n.digits '+' (List.mem_of_head? sign)
    exact absurd digit (by decide)
  have digits : (n.chars.isEmpty || !n.chars.all Char.isDigit) = false := by
    rw [Bool.or_eq_false_iff, List.isEmpty_eq_false_iff, Bool.not_eq_false', List.all_eq_true]
    exact ⟨n.nonempty, n.digits⟩
  unfold parseUnsigned
  simp only [if_neg unsigned, digits, Bool.false_eq_true, if_false]
  exact if_pos small

/-- The decimal digits of a number. -/
def ofNat (n : Nat) : Numeral where
  chars := Nat.toDigits 10 n
  nonempty := Nat.toDigits_ne_nil
  digits := fun _ member => Nat.isDigit_of_mem_toDigits (by decide) (by decide) member

theorem value_ofNat (n : Nat) : (ofNat n).value = n := by
  have digits := @Nat.ofDigitChars_ten_toDigits n
  rw [Nat.ofDigitChars_eq_foldl] at digits
  exact digits

/-- One digit is less than ten. -/
theorem value_lt_of_single {n : Numeral} (single : n.chars.length = 1) : n.value < 10 := by
  obtain ⟨c, chars⟩ := List.length_eq_one_iff.mp single
  have digit := n.digits c (by rw [chars]; exact List.mem_cons_self)
  have bounds : '0'.val ≤ c.val ∧ c.val ≤ '9'.val := by
    simpa only [Char.isDigit, Bool.and_eq_true, decide_eq_true_eq] using digit
  have high : c.toNat ≤ '9'.toNat := bounds.2
  have nine : '9'.toNat = 57 := rfl
  have zero : '0'.toNat = 48 := rfl
  rw [value, chars]
  simp only [decimal, List.foldl_cons, List.foldl_nil]
  omega

end Numeral

end Words
