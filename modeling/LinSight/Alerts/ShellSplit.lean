import LinSight.Alerts.Engine

set_option autoImplicit false

/-! The command line of an `exec:` target: what `shellSplit` makes of every way to quote. -/

namespace LinSight.Alerts

def isBlank (c : Char) : Bool := c = ' ' || c = '\t' || c = '\n'

/-- A character between double quotes, or a backslash with the one after it. -/
inductive DoubleItem where
  | plain (c : Char) (other : c ≠ '\\' ∧ c ≠ '"')
  | backslash (c : Char)

namespace DoubleItem

def written : DoubleItem → List Char
  | plain c _ => [c]
  | backslash c => ['\\', c]

def value : DoubleItem → List Char
  | plain c _ => [c]
  | backslash c => if doubleQuoteEscapes.contains c then [c] else ['\\', c]

end DoubleItem

/-- One unit outside quotes: a character, an escaped one, or a closed quoted segment. -/
inductive ShellItem where
  | plain (c : Char) (other : c ≠ '\\' ∧ c ≠ '\'' ∧ c ≠ '"')
  | backslash (c : Char)
  | single (text : List Char) (closed : '\'' ∉ text)
  | double (items : List DoubleItem)

def ShellItem.written : ShellItem → List Char
  | .plain c _ => [c]
  | .backslash c => ['\\', c]
  | .single text _ => '\'' :: (text ++ ['\''])
  | .double items => '"' :: (items.flatMap DoubleItem.written ++ ['"'])

/-- What `shellLoop` carries from one item to the next. -/
structure ShellTokens where
  argv : List String
  current : List Char
  inToken : Bool

namespace ShellTokens

def add (tokens : ShellTokens) (text : List Char) : ShellTokens :=
  { tokens with current := tokens.current ++ text, inToken := true }

/-- A blank ends the token that has begun, if any. -/
def blank (tokens : ShellTokens) : ShellTokens :=
  if tokens.inToken then ⟨tokens.argv ++ [String.ofList tokens.current], [], false⟩ else tokens

def take (tokens : ShellTokens) : ShellItem → ShellTokens
  | .plain c _ => if isBlank c then tokens.blank else tokens.add [c]
  | .backslash c => tokens.add [c]
  | .single text _ => tokens.add text
  | .double items => tokens.add (items.flatMap DoubleItem.value)

def result (tokens : ShellTokens) : List String :=
  if tokens.inToken then tokens.argv ++ [String.ofList tokens.current] else tokens.argv

def run (tokens : ShellTokens) (mode : ShellMode) (chars : List Char) :
    Except String (List String) :=
  shellLoop tokens.argv tokens.current tokens.inToken mode chars

end ShellTokens

section Loop

variable {argv : List String} {current : List Char} {inToken : Bool} {rest : List Char}

theorem shellLoop_quote : shellLoop argv current inToken .plain ('\'' :: rest) =
    shellLoop argv current true .single rest := rfl

theorem shellLoop_doubleQuote : shellLoop argv current inToken .plain ('"' :: rest) =
    shellLoop argv current true .double rest := rfl

theorem shellLoop_double_close : shellLoop argv current inToken .double ('"' :: rest) =
    shellLoop argv current inToken .plain rest := rfl

theorem shellLoop_single {text : List Char} (closed : '\'' ∉ text) :
    shellLoop argv current inToken .single (text ++ '\'' :: rest) =
      shellLoop argv (current ++ text) inToken .plain rest := by
  induction text generalizing current with
  | nil => simp [shellLoop]
  | cons c text ih =>
      have here : c ≠ '\'' := fun same => closed (by simp [same])
      have later : '\'' ∉ text := fun member => closed (List.mem_cons_of_mem _ member)
      rw [List.cons_append, shellLoop, if_neg here, ih later, List.append_assoc,
        List.singleton_append]

theorem shellLoop_single_open {text : List Char} (unclosed : '\'' ∉ text) :
    shellLoop argv current inToken .single text = .error "unterminated single quote" := by
  induction text generalizing current with
  | nil => rw [shellLoop]
  | cons c text ih =>
      have here : c ≠ '\'' := fun same => unclosed (by simp [same])
      rw [shellLoop, if_neg here]
      exact ih fun member => unclosed (List.mem_cons_of_mem _ member)

theorem shellLoop_double_item (item : DoubleItem) :
    shellLoop argv current inToken .double (item.written ++ rest) =
      shellLoop argv (current ++ item.value) inToken .double rest := by
  cases item with
  | plain c other => simp [DoubleItem.written, DoubleItem.value, shellLoop, other.1, other.2]
  | backslash c =>
      simp only [DoubleItem.written, DoubleItem.value, List.cons_append, List.nil_append, shellLoop]
      split <;> rfl

theorem shellLoop_double_items (items : List DoubleItem) :
    shellLoop argv current inToken .double (items.flatMap DoubleItem.written ++ rest) =
      shellLoop argv (current ++ items.flatMap DoubleItem.value) inToken .double rest := by
  induction items generalizing current with
  | nil => simp
  | cons item items ih =>
      rw [List.flatMap_cons, List.append_assoc, shellLoop_double_item, ih, List.flatMap_cons,
        List.append_assoc]

theorem shellLoop_double_open (items : List DoubleItem) :
    shellLoop argv current inToken .double (items.flatMap DoubleItem.written) =
      .error "unterminated double quote" := by
  rw [← List.append_nil (items.flatMap DoubleItem.written), shellLoop_double_items, shellLoop]

theorem shellLoop_double_backslash (items : List DoubleItem) :
    shellLoop argv current inToken .double (items.flatMap DoubleItem.written ++ ['\\']) =
      .error "unterminated escape in double quote" := by
  rw [shellLoop_double_items, shellLoop]

end Loop

namespace ShellTokens

variable (tokens : ShellTokens) (rest : List Char)

theorem run_item (item : ShellItem) :
    tokens.run .plain (item.written ++ rest) = (tokens.take item).run .plain rest := by
  cases item with
  | plain c other =>
      by_cases blank : isBlank c
      · have shape := blank
        simp only [isBlank] at shape
        cases begun : tokens.inToken <;>
          simp [run, take, ShellTokens.blank, ShellItem.written, shellLoop, blank, begun, other.1,
            shape]
      · have shape := blank
        simp only [isBlank] at shape
        simp [run, take, add, ShellItem.written, shellLoop, blank, other.1, other.2.1, other.2.2,
          shape]
  | backslash c => simp [run, take, add, ShellItem.written, shellLoop]
  | single text closed =>
      simp only [run, take, add, ShellItem.written, List.cons_append, List.append_assoc,
        List.nil_append]
      rw [shellLoop_quote, shellLoop_single closed]
  | double items =>
      simp only [run, take, add, ShellItem.written, List.cons_append, List.append_assoc,
        List.nil_append]
      rw [shellLoop_doubleQuote, shellLoop_double_items, shellLoop_double_close]

theorem run_items (items : List ShellItem) :
    tokens.run .plain (items.flatMap ShellItem.written ++ rest) =
      (items.foldl take tokens).run .plain rest := by
  induction items generalizing tokens with
  | nil => rfl
  | cons item items ih =>
      rw [List.flatMap_cons, List.append_assoc, run_item, ih, List.foldl_cons]

@[simp] theorem run_nil : tokens.run .plain [] = .ok tokens.result := by
  simp [run, result, shellLoop]

end ShellTokens

/-- What follows the last complete item where the text ends inside a quoted
segment, or right after a backslash, with the complaint about it. -/
inductive OpenEnd : String → List Char → Prop
  | backslash : OpenEnd "trailing backslash" ['\\']
  | single (text : List Char) (unclosed : '\'' ∉ text) :
      OpenEnd "unterminated single quote" ('\'' :: text)
  | double (items : List DoubleItem) :
      OpenEnd "unterminated double quote" ('"' :: items.flatMap DoubleItem.written)
  | doubleBackslash (items : List DoubleItem) :
      OpenEnd "unterminated escape in double quote"
        ('"' :: (items.flatMap DoubleItem.written ++ ['\\']))

/-- The text is complete items and then an open end. -/
def EndsOpen (message : String) (text : List Char) : Prop :=
  ∃ items : List ShellItem, ∃ tail,
    OpenEnd message tail ∧ text = items.flatMap ShellItem.written ++ tail

theorem ShellTokens.run_openEnd (tokens : ShellTokens) {message : String} {tail : List Char}
    (unclosed : OpenEnd message tail) : tokens.run .plain tail = .error message := by
  cases unclosed with
  | backslash => simp [run, shellLoop]
  | single text unclosed => rw [run, shellLoop_quote, shellLoop_single_open unclosed]
  | double items => rw [run, shellLoop_doubleQuote, shellLoop_double_open]
  | doubleBackslash items => rw [run, shellLoop_doubleQuote, shellLoop_double_backslash]

/-- What follows an opening double quote: items up to the closing one, or an open end. -/
theorem exists_doubleItems (chars : List Char) : ∃ items : List DoubleItem,
    chars = items.flatMap DoubleItem.written ∨
      chars = items.flatMap DoubleItem.written ++ ['\\'] ∨
        ∃ rest, chars = items.flatMap DoubleItem.written ++ '"' :: rest := by
  induction chars using List.twoStepInduction with
  | nil => exact ⟨[], Or.inl rfl⟩
  | singleton c =>
      by_cases backslash : c = '\\'
      · exact ⟨[], Or.inr (Or.inl (by rw [backslash]; rfl))⟩
      · by_cases quote : c = '"'
        · exact ⟨[], Or.inr (Or.inr ⟨[], by rw [quote]; rfl⟩)⟩
        · exact ⟨[.plain c ⟨backslash, quote⟩], Or.inl rfl⟩
  | cons_cons c d rest skipped ih =>
      by_cases backslash : c = '\\'
      · obtain ⟨items, parted⟩ := skipped
        refine ⟨.backslash d :: items, ?_⟩
        simpa [DoubleItem.written, backslash] using parted
      · by_cases quote : c = '"'
        · exact ⟨[], Or.inr (Or.inr ⟨d :: rest, by rw [quote]; rfl⟩)⟩
        · obtain ⟨items, parted⟩ := ih d
          refine ⟨.plain c ⟨backslash, quote⟩ :: items, ?_⟩
          simpa [DoubleItem.written] using parted

/-- The text is complete items, with an open end or with nothing after them. -/
def Itemised (chars : List Char) : Prop :=
  ∃ items : List ShellItem, ∃ tail, chars = items.flatMap ShellItem.written ++ tail ∧
    (tail = [] ∨ ∃ message, OpenEnd message tail)

theorem Itemised.cons (item : ShellItem) {rest : List Char} (later : Itemised rest) :
    Itemised (item.written ++ rest) := by
  obtain ⟨items, tail, parted, ends⟩ := later
  refine ⟨item :: items, tail, ?_, ends⟩
  rw [parted, List.flatMap_cons, List.append_assoc]

theorem OpenEnd.itemised {message : String} {tail : List Char} (unclosed : OpenEnd message tail) :
    Itemised tail :=
  ⟨[], tail, rfl, Or.inr ⟨message, unclosed⟩⟩

theorem itemised (chars : List Char) : Itemised chars := by
  induction count : chars.length using Nat.strong_induction_on generalizing chars with
  | h count ih =>
      -- A text that starts with an item is that item and a shorter text.
      have step (item : ShellItem) (rest : List Char) (here : chars = item.written ++ rest)
          (shorter : rest.length < chars.length) : Itemised chars := by
        rw [here]
        exact (ih rest.length (count ▸ shorter) rest rfl).cons item
      cases chars with
      | nil => exact ⟨[], [], rfl, Or.inl rfl⟩
      | cons c rest =>
          by_cases backslash : c = '\\'
          · subst backslash
            cases rest with
            | nil => exact OpenEnd.backslash.itemised
            | cons d rest => exact step (.backslash d) rest rfl (by simp)
          by_cases quote : c = '\''
          · subst quote
            by_cases closed : '\'' ∈ rest
            · obtain ⟨text, after, rfl, first⟩ := List.eq_append_cons_of_mem closed
              exact step (.single text first) after (by simp [ShellItem.written])
                (by simp; omega)
            · exact (OpenEnd.single rest closed).itemised
          by_cases doubleQuote : c = '"'
          · subst doubleQuote
            obtain ⟨items, rfl | rfl | ⟨after, rfl⟩⟩ := exists_doubleItems rest
            · exact (OpenEnd.double items).itemised
            · exact (OpenEnd.doubleBackslash items).itemised
            · exact step (.double items) after (by simp [ShellItem.written]) (by simp; omega)
          exact step (.plain c ⟨backslash, quote, doubleQuote⟩) rest rfl (by simp)

/-- The splitter complains exactly about the texts with an open end. -/
theorem shellSplit_eq_error_iff {input message : String} :
    shellSplit input = .error message ↔ EndsOpen message input.toList := by
  have start : ∀ chars, shellLoop [] [] false .plain chars =
      (ShellTokens.mk [] [] false).run .plain chars := fun _ => rfl
  rw [shellSplit, start]
  constructor
  · intro failed
    obtain ⟨items, tail, parted, rfl | ⟨other, unclosed⟩⟩ := itemised input.toList
    · rw [parted, ShellTokens.run_items, ShellTokens.run_nil] at failed
      cases failed
    · rw [parted, ShellTokens.run_items, ShellTokens.run_openEnd _ unclosed] at failed
      cases failed
      exact ⟨items, tail, unclosed, parted⟩
  · rintro ⟨items, tail, unclosed, parted⟩
    rw [parted, ShellTokens.run_items, ShellTokens.run_openEnd _ unclosed]

section Quoting

inductive Quoting where
  | single
  | double
  | escaped
deriving DecidableEq

/-- A part of an argument quoted in one way. Nothing can stand for a single
quote between single quotes. -/
structure Piece where
  quoting : Quoting
  text : List Char
  quotable : quoting = .single → '\'' ∉ text

def Piece.written (piece : Piece) : List Char :=
  match piece.quoting with
  | .single => '\'' :: (piece.text ++ ['\''])
  | .double =>
      '"' :: (piece.text.flatMap (fun c => if doubleQuoteEscapes.contains c then ['\\', c] else [c])
        ++ ['"'])
  | .escaped => piece.text.flatMap fun c => ['\\', c]

/-- The pieces of an argument. One that writes nothing is not an argument. -/
structure ShellArgument where
  pieces : List Piece
  visible : pieces.flatMap Piece.written ≠ []

namespace ShellArgument

def written (argument : ShellArgument) : List Char := argument.pieces.flatMap Piece.written

def value (argument : ShellArgument) : String :=
  String.ofList (argument.pieces.flatMap Piece.text)

end ShellArgument

structure Blanks where
  chars : List Char
  blank : ∀ c ∈ chars, isBlank c

/-- Arguments, each with the blanks before it; those between two arguments are
at least one. -/
structure CommandLine where
  words : List (Blanks × ShellArgument)
  parted : ∀ word ∈ words.tail, word.1.chars ≠ []
  trail : Blanks

namespace CommandLine

def text (line : CommandLine) : List Char :=
  line.words.flatMap (fun word => word.1.chars ++ word.2.written) ++ line.trail.chars

def arguments (line : CommandLine) : List String := line.words.map fun word => word.2.value

end CommandLine

end Quoting

namespace ShellTokens

variable (tokens : ShellTokens) (rest : List Char)

theorem add_add (first second : List Char) :
    (tokens.add first).add second = tokens.add (first ++ second) := by
  simp [add]

@[simp] theorem blank_blank : tokens.blank.blank = tokens.blank := by
  cases begun : tokens.inToken <;> simp [blank, begun]

@[simp] theorem result_blank : tokens.blank.result = tokens.result := by
  cases begun : tokens.inToken <;> simp [blank, result, begun]

theorem run_blanks (blanks : Blanks) : tokens.run .plain (blanks.chars ++ rest) =
    (if blanks.chars = [] then tokens else tokens.blank).run .plain rest := by
  obtain ⟨chars, blank⟩ := blanks
  induction chars generalizing tokens with
  | nil => rfl
  | cons c chars ih =>
      have here : isBlank c := blank c List.mem_cons_self
      have other : c ≠ '\\' ∧ c ≠ '\'' ∧ c ≠ '"' := by
        refine ⟨?_, ?_, ?_⟩ <;> rintro rfl <;> revert here <;> decide
      have item := run_item tokens (chars ++ rest) (.plain c other)
      simp only [take, here, if_true, ShellItem.written, List.singleton_append] at item
      rw [List.cons_append, item, ih _ fun d member => blank d (List.mem_cons_of_mem _ member)]
      simp

theorem run_escaped (text : List Char) :
    tokens.run .plain (text.flatMap (fun c => ['\\', c]) ++ rest) =
      (if text = [] then tokens else tokens.add text).run .plain rest := by
  induction text generalizing tokens with
  | nil => rfl
  | cons c text ih =>
      have item := run_item tokens (text.flatMap (fun c => ['\\', c]) ++ rest) (.backslash c)
      simp only [take, ShellItem.written] at item
      rw [List.flatMap_cons, List.append_assoc, item, ih]
      by_cases last : text = []
      · simp [last]
      · simp [last, add_add]

/-- A character as double quotes need it. -/
def doubleItem (c : Char) : DoubleItem :=
  if escaped : doubleQuoteEscapes.contains c then .backslash c
  else .plain c ⟨fun same => escaped (same ▸ by decide), fun same => escaped (same ▸ by decide)⟩

theorem written_doubleItem (c : Char) :
    (doubleItem c).written = if doubleQuoteEscapes.contains c then ['\\', c] else [c] := by
  unfold doubleItem
  split <;> rfl

theorem value_doubleItem (c : Char) : (doubleItem c).value = [c] := by
  unfold doubleItem
  split
  · rename_i escaped
    simp only [DoubleItem.value, escaped, if_true]
  · rfl

theorem run_piece (piece : Piece) : tokens.run .plain (piece.written ++ rest) =
    (if piece.written = [] then tokens else tokens.add piece.text).run .plain rest := by
  obtain ⟨quoting, text, quotable⟩ := piece
  cases quoting with
  | single => exact run_item tokens rest (.single text (quotable rfl))
  | double =>
      have item := run_item tokens rest (.double (text.map doubleItem))
      simp only [take, ShellItem.written, List.flatMap_map, written_doubleItem, value_doubleItem,
        List.flatMap_singleton'] at item
      exact item
  | escaped =>
      have item := run_escaped tokens rest text
      cases text with
      | nil => exact item
      | cons c text => exact item

theorem text_eq_nil_of_written {piece : Piece} (empty : piece.written = []) : piece.text = [] := by
  obtain ⟨quoting, text, quotable⟩ := piece
  cases quoting with
  | single => cases empty
  | double => cases empty
  | escaped =>
      cases text with
      | nil => rfl
      | cons c text => cases empty

theorem run_pieces (pieces : List Piece) :
    tokens.run .plain (pieces.flatMap Piece.written ++ rest) =
      (if pieces.flatMap Piece.written = [] then tokens
        else tokens.add (pieces.flatMap Piece.text)).run .plain rest := by
  induction pieces generalizing tokens with
  | nil => rfl
  | cons piece pieces ih =>
      rw [List.flatMap_cons, List.append_assoc, run_piece, ih, List.flatMap_cons]
      by_cases here : piece.written = []
      · simp [here, text_eq_nil_of_written here]
      · by_cases later : pieces.flatMap Piece.written = []
        · have texts : pieces.flatMap Piece.text = [] := by
            rw [List.flatMap_eq_nil_iff] at later ⊢
            exact fun other member => text_eq_nil_of_written (later other member)
          simp [here, later, texts]
        · simp [here, later, add_add]

/-- A token is collected only where one has begun. -/
def Clean : Prop := tokens.inToken = false → tokens.current = []

theorem blank_eq (clean : tokens.Clean) : tokens.blank = ⟨tokens.result, [], false⟩ := by
  obtain ⟨argv, current, inToken⟩ := tokens
  cases inToken with
  | true => rfl
  | false =>
      have empty : current = [] := clean rfl
      rw [empty]
      rfl

/-- One argument, after blanks or at the very start, is one more token. -/
theorem run_word (clean : tokens.Clean) (blanks : Blanks) (argument : ShellArgument)
    (parted : blanks.chars = [] → tokens.inToken = false) :
    ∃ next : ShellTokens, next.Clean ∧ next.result = tokens.result ++ [argument.value] ∧
      tokens.run .plain (blanks.chars ++ argument.written ++ rest) = next.run .plain rest := by
  have between : (if blanks.chars = [] then tokens else tokens.blank) =
      ⟨tokens.result, [], false⟩ := by
    rw [← blank_eq tokens clean]
    split
    · rename_i none
      simp [ShellTokens.blank, parted none]
    · rfl
  refine ⟨⟨tokens.result, argument.pieces.flatMap Piece.text, true⟩, (fun outside => by cases outside),
    rfl, ?_⟩
  rw [List.append_assoc, run_blanks, between, ShellArgument.written, run_pieces,
    if_neg argument.visible]
  simp [add]

theorem run_words (clean : tokens.Clean) (words : List (Blanks × ShellArgument))
    (parted : ∀ word ∈ words, word.1.chars ≠ []) :
    ∃ next : ShellTokens, next.Clean ∧
      next.result = tokens.result ++ words.map (fun word => word.2.value) ∧
      tokens.run .plain (words.flatMap (fun word => word.1.chars ++ word.2.written) ++ rest) =
        next.run .plain rest := by
  induction words generalizing tokens with
  | nil => exact ⟨tokens, clean, (List.append_nil _).symm, rfl⟩
  | cons word words ih =>
      obtain ⟨middle, ready, so_far, here⟩ :=
        run_word tokens (words.flatMap (fun word => word.1.chars ++ word.2.written) ++ rest) clean
          word.1 word.2 fun none => absurd none (parted word List.mem_cons_self)
      obtain ⟨next, done, all, later⟩ :=
        ih middle ready fun other member => parted other (List.mem_cons_of_mem _ member)
      refine ⟨next, done, ?_, ?_⟩
      · rw [all, so_far, List.map_cons, List.append_assoc, List.singleton_append]
      · rw [List.flatMap_cons, List.append_assoc, here, later]

end ShellTokens

theorem shellSplit_text (line : CommandLine) :
    shellSplit (String.ofList line.text) = .ok line.arguments := by
  obtain ⟨words, parted, trail⟩ := line
  let start : ShellTokens := ⟨[], [], false⟩
  have words_run : ∃ next : ShellTokens, next.result = words.map (fun word => word.2.value) ∧
      start.run .plain (words.flatMap (fun word => word.1.chars ++ word.2.written) ++ trail.chars) =
        next.run .plain trail.chars := by
    cases words with
    | nil => exact ⟨start, rfl, rfl⟩
    | cons word words =>
        -- Before the first argument there may be no blank.
        obtain ⟨first, ready, one, here⟩ :=
          start.run_word (words.flatMap (fun word => word.1.chars ++ word.2.written) ++ trail.chars)
            (fun _ => rfl) word.1 word.2 fun _ => rfl
        obtain ⟨next, _, all, later⟩ := first.run_words trail.chars ready words parted
        refine ⟨next, ?_, ?_⟩
        · rw [all, one]
          rfl
        · rw [List.flatMap_cons, List.append_assoc, here, later]
  obtain ⟨next, all, whole⟩ := words_run
  have trailing := next.run_blanks [] trail
  rw [List.append_nil] at trailing
  rw [shellSplit, String.toList_ofList]
  change start.run .plain _ = _
  rw [CommandLine.text, whole, trailing, ShellTokens.run_nil]
  congr 1
  split
  · exact all
  · rw [ShellTokens.result_blank]
    exact all

/-- The splitter inverts every way to quote, and refuses exactly the texts that
end inside quotes or after an escaping backslash. -/
theorem shellSplit_inverts_quoting :
    (∀ line : CommandLine, shellSplit (String.ofList line.text) = .ok line.arguments) ∧
      ∀ input message : String,
        shellSplit input = .error message ↔ EndsOpen message input.toList :=
  ⟨shellSplit_text, fun _ _ => shellSplit_eq_error_iff⟩

end LinSight.Alerts
