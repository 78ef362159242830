import LinSight.Core.Types
import LinSight.Library.Words

set_option autoImplicit false

/-! What the exporter reads of a request: lines up to a limit, from a socket that
hands its bytes past in chunks. -/

namespace LinSight.Prom

def maxRequestLineBytes : Nat := 2048
def maxHeaderBytes : Nat := 16 * 1024

def newline : UInt8 := 10
def carriageReturn : UInt8 := 13

/-- What one `fill_buf` finds; an empty buffer is the end of the stream. -/
abbrev Chunk := {bytes : List UInt8 // bytes ≠ []}

/-- What `fill_buf` gives once the chunks are used up. -/
inductive Ending where
  | eof
  | timedOut
  | failed (error : String)

structure BufReader where
  chunks : List Chunk
  ending : Ending

inductive RequestReadError where
  | tooLong
  | timeout
  | io (error : String)
deriving DecidableEq

namespace BufReader

/-- The bytes that are still to be read. -/
def unread (reader : BufReader) : List UInt8 := reader.chunks.flatMap Subtype.val

/-- `consume` on the buffer that holds `chunk`. -/
def consume (chunk : Chunk) (count : Nat) (rest : List Chunk) : List Chunk :=
  if left : chunk.val.drop count ≠ [] then ⟨chunk.val.drop count, left⟩ :: rest else rest

end BufReader

/-- What the bytes before the end of the stream come to. -/
def Ending.result (ending : Ending) (out : List UInt8) :
    Except RequestReadError (Option (List UInt8)) :=
  match ending with
  | .eof => .ok (if out.isEmpty then none else some out)
  | .timedOut => .error .timeout
  | .failed e => .error (.io e)

/-- How much of a chunk belongs to the line. -/
def consumed (chunk : List UInt8) : Nat :=
  match chunk.findIdx? (· == newline) with
  | some pos => pos + 1
  | none => chunk.length

/-- The loop of `read_limited_line`. The sum in the check cannot saturate: `out`
is within a `Vec`'s length. -/
def readLoop (maxBytes : Nat) (ending : Ending) (out : List UInt8) :
    List Chunk → Except RequestReadError (Option (List UInt8)) × List Chunk
  | [] => (ending.result out, [])
  | chunk :: rest =>
      let count := consumed chunk.val
      if maxBytes < out.length + count then (.error .tooLong, chunk :: rest)
      else
        let out := out ++ chunk.val.take count
        if out.getLast? = some newline then (.ok (some out), BufReader.consume chunk count rest)
        -- the whole chunk has been consumed
        else readLoop maxBytes ending out rest

def readLimitedLine (reader : BufReader) (maxBytes : Nat) :
    Except RequestReadError (Option (List UInt8)) × BufReader :=
  let (result, chunks) := readLoop maxBytes reader.ending [] reader.chunks
  (result, { reader with chunks })

/-- The bytes up to and including the first newline, all of them where there is none. -/
def firstLine : List UInt8 → List UInt8
  | [] => []
  | b :: rest => if b = newline then [b] else b :: firstLine rest

/-- What a line of at most `maxBytes` bytes is, whatever the chunks. -/
def limitedLine (maxBytes : Nat) (bytes : List UInt8) :
    Except RequestReadError (Option (List UInt8)) :=
  if bytes = [] then .ok none
  else if (firstLine bytes).length ≤ maxBytes then .ok (some (firstLine bytes))
  else .error .tooLong

section Lines

variable {bytes front back : List UInt8}

theorem firstLine_of_not_mem (plain : newline ∉ bytes) : firstLine bytes = bytes := by
  induction bytes with
  | nil => rfl
  | cons b rest ih =>
      rw [List.mem_cons, not_or] at plain
      rw [firstLine, if_neg (Ne.symm plain.1), ih plain.2]

theorem firstLine_append (plain : newline ∉ front) :
    firstLine (front ++ back) = front ++ firstLine back := by
  induction front with
  | nil => rfl
  | cons b rest ih =>
      rw [List.mem_cons, not_or] at plain
      rw [List.cons_append, firstLine, if_neg (Ne.symm plain.1), ih plain.2, List.cons_append]

theorem firstLine_line (plain : newline ∉ front) :
    firstLine (front ++ newline :: back) = front ++ [newline] := by
  rw [firstLine_append plain, firstLine, if_pos rfl]

theorem drop_line (text after : List UInt8) :
    (text ++ newline :: after).drop (text ++ [newline]).length = after := by
  rw [List.append_cons text newline after]
  exact List.drop_left' rfl

end Lines

namespace BufReader

theorem unread_consume (chunk : Chunk) (count : Nat) (rest : List Chunk) :
    (consume chunk count rest).flatMap Subtype.val =
      chunk.val.drop count ++ rest.flatMap Subtype.val := by
  unfold consume
  split
  · rfl
  · rename_i none
    rw [not_not] at none
    rw [none, List.nil_append]

end BufReader

section Loop

variable {maxBytes : Nat} {ending : Ending} {out : List UInt8} {chunk : Chunk} {rest : List Chunk}

/-- A chunk with a newline ends the line. -/
theorem readLoop_line {text after : List UInt8} (plain : newline ∉ text)
    (parted : chunk.val = text ++ newline :: after) :
    readLoop maxBytes ending out (chunk :: rest) =
      if maxBytes < out.length + (text.length + 1) then (.error .tooLong, chunk :: rest)
      else (.ok (some (out ++ (text ++ [newline]))),
        BufReader.consume chunk (text.length + 1) rest) := by
  have found : chunk.val.findIdx? (· == newline) = some text.length := by
    rw [parted, List.findIdx?_append, List.findIdx?_eq_none_iff.mpr]
    · simp [List.findIdx?_cons]
    · intro b member
      exact beq_false_of_ne fun same => plain (same ▸ member)
  have line : chunk.val.take (text.length + 1) = text ++ [newline] := by
    rw [parted, List.append_cons]
    exact List.take_left' (by simp)
  have count : consumed chunk.val = text.length + 1 := by simp only [consumed, found]
  rw [readLoop]
  simp only [count, line]
  split
  · rfl
  · rw [if_pos (by simp)]

/-- A chunk without one is a part of the line. -/
theorem readLoop_part (plain : newline ∉ chunk.val) (open_ : newline ∉ out) :
    readLoop maxBytes ending out (chunk :: rest) =
      if maxBytes < out.length + chunk.val.length then (.error .tooLong, chunk :: rest)
      else readLoop maxBytes ending (out ++ chunk.val) rest := by
  have found : chunk.val.findIdx? (· == newline) = none := by
    rw [List.findIdx?_eq_none_iff]
    intro b member
    exact beq_false_of_ne fun same => plain (same ▸ member)
  have unended : (out ++ chunk.val).getLast? ≠ some newline := by
    intro last
    rcases List.mem_append.mp (List.mem_of_getLast? last) with member | member
    · exact open_ member
    · exact plain member
  have count : consumed chunk.val = chunk.val.length := by simp only [consumed, found]
  rw [readLoop]
  simp only [count, List.take_length, unended, if_false]

theorem readLoop_nil : readLoop maxBytes ending out [] = (ending.result out, []) := rfl

theorem readLoop_of_newline (maxBytes : Nat) (ending : Ending) {chunks : List Chunk}
    {text after : List UInt8}
    (open_ : newline ∉ out) (plain : newline ∉ text)
    (parted : chunks.flatMap Subtype.val = text ++ newline :: after) :
    if out.length + (text.length + 1) ≤ maxBytes then
      (readLoop maxBytes ending out chunks).1 = .ok (some (out ++ (text ++ [newline]))) ∧
        (readLoop maxBytes ending out chunks).2.flatMap Subtype.val = after
    else (readLoop maxBytes ending out chunks).1 = .error .tooLong := by
  induction chunks generalizing out text with
  | nil => simp at parted
  | cons chunk rest ih =>
      by_cases here : newline ∈ chunk.val
      · obtain ⟨front, back, split_here, first⟩ := List.eq_append_cons_of_mem here
        -- the first newline of the chunk is the first one of the stream
        rw [List.flatMap_cons, split_here, List.append_assoc, List.cons_append] at parted
        obtain ⟨rfl, same⟩ : front = text ∧ back ++ rest.flatMap Subtype.val = after := by
          have lines := congrArg firstLine parted
          rw [firstLine_line first, firstLine_line plain] at lines
          obtain ⟨rfl, _⟩ := List.append_inj' lines rfl
          exact ⟨rfl, List.cons_injective (List.append_cancel_left parted)⟩
        rw [readLoop_line first split_here]
        have dropped : chunk.val.drop (front.length + 1) = back := by
          have behind := drop_line front back
          rwa [List.length_append, List.length_singleton, ← split_here] at behind
        by_cases fits : out.length + (front.length + 1) ≤ maxBytes
        · rw [if_pos fits, if_neg (by omega), BufReader.unread_consume, dropped, same]
          exact ⟨rfl, rfl⟩
        · rw [if_neg fits, if_pos (by omega)]
      · have part : ∃ left, text = chunk.val ++ left ∧
            rest.flatMap Subtype.val = left ++ newline :: after := by
          rw [List.flatMap_cons] at parted
          rcases List.append_eq_append_iff.mp parted with ⟨left, same, others⟩ | ⟨left, same, others⟩
          · exact ⟨left, same, others⟩
          · cases left with
            | nil => exact ⟨[], by simpa using same.symm, by simpa using others.symm⟩
            | cons b left =>
                have head : b = newline := by
                  rw [List.cons_append, List.cons.injEq] at others
                  exact others.1.symm
                exact absurd (by simp [same, head]) here
        obtain ⟨left, rfl, others⟩ := part
        rw [List.mem_append, not_or] at plain
        rw [readLoop_part here open_]
        have later := ih (by simp [open_, here] : newline ∉ out ++ chunk.val) plain.2 others
        simp only [List.length_append, ← Nat.add_assoc, List.append_assoc] at later ⊢
        by_cases past : maxBytes < out.length + chunk.val.length
        · rw [if_pos past, if_neg (by omega)]
        · rw [if_neg past]
          exact later

theorem readLoop_of_not_mem (ending : Ending) {chunks : List Chunk} (open_ : newline ∉ out)
    (plain : newline ∉ chunks.flatMap Subtype.val) (within : out.length ≤ maxBytes) :
    if out.length + (chunks.flatMap Subtype.val).length ≤ maxBytes then
      readLoop maxBytes ending out chunks = (ending.result (out ++ chunks.flatMap Subtype.val), [])
    else (readLoop maxBytes ending out chunks).1 = .error .tooLong := by
  induction chunks generalizing out with
  | nil => simp [within, readLoop_nil]
  | cons chunk rest ih =>
      rw [List.flatMap_cons, List.mem_append, not_or] at plain
      rw [readLoop_part plain.1 open_]
      by_cases past : maxBytes < out.length + chunk.val.length
      · rw [if_pos past, List.flatMap_cons, List.length_append, if_neg (by omega)]
      · have later := ih (by simp [open_, plain.1] : newline ∉ out ++ chunk.val) plain.2
          (by rw [List.length_append]; omega)
        simp only [List.flatMap_cons, List.length_append, ← Nat.add_assoc,
          List.append_assoc, past, if_false] at later ⊢
        exact later

end Loop

/-- The line and what is left of the stream do not depend on the chunks. -/
theorem readLimitedLine_eof (maxBytes : Nat) (chunks : List Chunk) :
    let bytes := chunks.flatMap Subtype.val
    (readLimitedLine ⟨chunks, .eof⟩ maxBytes).1 = limitedLine maxBytes bytes ∧
      (limitedLine maxBytes bytes ≠ .error .tooLong →
        (readLimitedLine ⟨chunks, .eof⟩ maxBytes).2.unread =
          bytes.drop (firstLine bytes).length) := by
  intro bytes
  have fresh : newline ∉ ([] : List UInt8) := List.not_mem_nil
  by_cases found : newline ∈ bytes
  · obtain ⟨text, after, parted, plain⟩ := List.eq_append_cons_of_mem found
    have read := readLoop_of_newline maxBytes .eof fresh plain parted
    have line : firstLine bytes = text ++ [newline] := by rw [parted, firstLine_line plain]
    have rest : bytes.drop (firstLine bytes).length = after := by
      rw [line, parted]
      exact drop_line text after
    have nonempty : bytes ≠ [] := List.ne_nil_of_mem found
    rw [rest]
    simp only [limitedLine, nonempty, if_false, line, List.length_append, List.length_singleton]
    simp only [List.length_nil, Nat.zero_add, List.nil_append] at read
    split
    · rename_i fits
      rw [if_pos fits] at read
      exact ⟨read.1, fun _ => read.2⟩
    · rename_i past
      rw [if_neg past] at read
      exact ⟨read, fun other => absurd rfl other⟩
  · have read := readLoop_of_not_mem .eof fresh found (Nat.zero_le maxBytes)
    have line : firstLine bytes = bytes := firstLine_of_not_mem found
    have rest : bytes.drop (firstLine bytes).length = [] := by rw [line, List.drop_length]
    rw [rest]
    simp only [limitedLine, line]
    simp only [List.length_nil, Nat.zero_add, List.nil_append] at read
    by_cases fits : bytes.length ≤ maxBytes
    · rw [if_pos fits] at read
      simp only [readLimitedLine, read, fits, if_true, Ending.result, List.isEmpty_iff]
      refine ⟨?_, fun _ => rfl⟩
      change Except.ok (if bytes = [] then none else some bytes) = _
      split <;> rfl
    · rw [if_neg fits] at read
      have nonempty : bytes ≠ [] := by
        rintro empty
        rw [empty] at fits
        exact fits (Nat.zero_le _)
      rw [if_neg nonempty, if_neg fits]
      exact ⟨read, fun other => absurd rfl other⟩

theorem readLoop_ne_nil {maxBytes : Nat} {ending : Ending} {out line : List UInt8}
    {chunks : List Chunk} (read : (readLoop maxBytes ending out chunks).1 = .ok (some line)) :
    line ≠ [] := by
  induction chunks generalizing out with
  | nil =>
      rw [readLoop_nil] at read
      cases ending with
      | eof =>
          rintro rfl
          simp only [Ending.result, Except.ok.injEq] at read
          split at read
          · cases read
          · rename_i some
            cases read
            exact some rfl
      | timedOut => cases read
      | failed e => cases read
  | cons chunk rest ih =>
      simp only [readLoop] at read
      split at read
      · cases read
      · split at read
        · rename_i last
          rw [← Option.some.inj (Except.ok.inj read)]
          rintro empty
          rw [empty] at last
          cases last
        · exact ih read

theorem readLimitedLine_ne_nil {reader next : BufReader} {maxBytes : Nat} {line : List UInt8}
    (read : readLimitedLine reader maxBytes = (.ok (some line), next)) : line ≠ [] :=
  readLoop_ne_nil (congrArg Prod.fst read)

/-- How `serve_one` ends: an early `return Ok(())` writes nothing or a static
response, `failed` returns the error. -/
inductive Reply where
  | closed
  | badRequest
  | requestTimeout
  | methodNotAllowed
  | notFound
  | page (body : String)
  | failed (error : String)
deriving DecidableEq

def Reply.written : Reply → String
  | .closed | .failed _ => ""
  | .badRequest => "HTTP/1.0 400 Bad Request\r\n\r\n"
  | .requestTimeout => "HTTP/1.0 408 Request Timeout\r\n\r\n"
  | .methodNotAllowed => "HTTP/1.0 405 Method Not Allowed\r\n\r\n"
  | .notFound => "HTTP/1.0 404 Not Found\r\n\r\n"
  | .page body =>
      "HTTP/1.0 200 OK\r\nContent-Type: text/plain; version=0.0.4\r\nContent-Length: " ++
        toString body.utf8ByteSize ++ "\r\n\r\n" ++ body

def blankLines : List (List UInt8) := [[carriageReturn, newline], [newline]]

/-- The loop over the header lines; an error is the reply it returns early. -/
def headerLoop (reader : BufReader) (headerBytes : Nat) : Except Reply BufReader :=
  let remaining := maxHeaderBytes - headerBytes
  if remaining = 0 then .error .badRequest
  else
    match _ : readLimitedLine reader remaining with
    | (.ok (some line), reader) =>
        if blankLines.contains line then .ok reader
        else headerLoop reader (headerBytes + line.length)
    | (.ok none, reader) => .ok reader
    | (.error .tooLong, _) => .error .badRequest
    | (.error .timeout, _) => .error .requestTimeout
    | (.error (.io e), _) => .error (.failed e)
termination_by maxHeaderBytes - headerBytes
decreasing_by
  rename_i read _
  have some := List.length_pos_iff.mpr (readLimitedLine_ne_nil read)
  omega

/-- What a request line asks for. -/
def answer (requestLine : List UInt8) (body : String) : Reply :=
  match String.fromUTF8? ⟨requestLine.toArray⟩ with
  | none => .badRequest
  | some text =>
      match Words.words isWhitespace text.toList with
      | method :: path :: _ :: _ =>
          if method ≠ "GET".toList then .methodNotAllowed
          else if path ≠ "/metrics".toList then .notFound
          else .page body
      | _ => .methodNotAllowed

def serveOne (reader : BufReader) (body : String) : Reply :=
  match readLimitedLine reader maxRequestLineBytes with
  | (.ok (some line), reader) =>
      match headerLoop reader 0 with
      | .ok _ => answer line body
      | .error reply => reply
  | (.ok none, _) => .closed
  | (.error .tooLong, _) => .badRequest
  | (.error .timeout, _) => .requestTimeout
  | (.error (.io e), _) => .failed e

section Headers

/-- A header block: lines that are not blank, then a blank one. -/
structure HeaderBlock where
  lines : List (List UInt8)
  plain : ∀ text ∈ lines, newline ∉ text
  filled : ∀ text ∈ lines, text ++ [newline] ∉ blankLines
  blank : List UInt8
  ends : blank ∈ blankLines

def HeaderBlock.bytes (block : HeaderBlock) : List UInt8 :=
  block.lines.flatMap (fun text => text ++ [newline]) ++ block.blank

/-- A line that stands whole in the stream. -/
theorem readLimitedLine_line (maxBytes : Nat) {reader : BufReader} {text after : List UInt8}
    (plain : newline ∉ text) (parted : reader.unread = text ++ newline :: after) :
    if text.length + 1 ≤ maxBytes then
      ∃ next : BufReader, next.unread = after ∧
        readLimitedLine reader maxBytes = (.ok (some (text ++ [newline])), next)
    else ∃ next : BufReader, readLimitedLine reader maxBytes = (.error .tooLong, next) := by
  have read := readLoop_of_newline maxBytes reader.ending List.not_mem_nil plain parted
  simp only [List.length_nil, Nat.zero_add, List.nil_append] at read
  split
  · rename_i fits
    rw [if_pos fits] at read
    exact ⟨⟨_, reader.ending⟩, read.2, by rw [readLimitedLine, ← read.1]⟩
  · rename_i long
    rw [if_neg long] at read
    exact ⟨⟨_, reader.ending⟩, by rw [readLimitedLine, ← read]⟩

theorem headerLoop_line (headerBytes : Nat) {reader : BufReader} {text after : List UInt8}
    (plain : newline ∉ text) (parted : reader.unread = text ++ newline :: after) :
    if headerBytes + (text.length + 1) ≤ maxHeaderBytes then
      ∃ next : BufReader, next.unread = after ∧ headerLoop reader headerBytes =
        if blankLines.contains (text ++ [newline]) then .ok next
        else headerLoop next (headerBytes + (text.length + 1))
    else headerLoop reader headerBytes = .error .badRequest := by
  have line := readLimitedLine_line (maxHeaderBytes - headerBytes) plain parted
  by_cases fits : headerBytes + (text.length + 1) ≤ maxHeaderBytes
  · rw [if_pos (by omega)] at line
    obtain ⟨next, rest, read⟩ := line
    rw [if_pos fits]
    refine ⟨next, rest, ?_⟩
    rw [headerLoop, if_neg (by omega)]
    split <;> rename_i found <;> rw [read] at found <;> cases found
    rw [List.length_append, List.length_singleton]
  · rw [if_neg (by omega)] at line
    obtain ⟨next, read⟩ := line
    rw [if_neg fits, headerLoop]
    split
    · rfl
    · split <;> rename_i found <;> rw [read] at found <;> cases found

theorem headerLoop_lines {lines : List (List UInt8)} {blank after : List UInt8}
    {reader : BufReader} {headerBytes : Nat} (plain : ∀ text ∈ lines, newline ∉ text)
    (filled : ∀ text ∈ lines, text ++ [newline] ∉ blankLines) (ends : blank ∈ blankLines)
    (parted : reader.unread =
      lines.flatMap (fun text => text ++ [newline]) ++ blank ++ after) :
    if headerBytes + (lines.flatMap (fun text => text ++ [newline]) ++ blank).length ≤
        maxHeaderBytes then
      ∃ next : BufReader, next.unread = after ∧ headerLoop reader headerBytes = .ok next
    else headerLoop reader headerBytes = .error .badRequest := by
  induction lines generalizing reader headerBytes with
  | nil =>
      obtain ⟨text, rfl, plain_text⟩ : ∃ text, blank = text ++ [newline] ∧ newline ∉ text := by
        rcases List.mem_cons.mp ends with rfl | single
        · exact ⟨[carriageReturn], rfl, by decide⟩
        · rw [List.mem_singleton.mp single]
          exact ⟨[], rfl, by decide⟩
      have line := headerLoop_line headerBytes plain_text
        (by simpa using parted : reader.unread = text ++ newline :: after)
      rw [List.flatMap_nil, List.nil_append, List.length_append, List.length_singleton]
      split
      · rename_i fits
        rw [if_pos fits] at line
        obtain ⟨next, rest, done⟩ := line
        rw [if_pos (by simpa using ends)] at done
        exact ⟨next, rest, done⟩
      · rename_i long
        rw [if_neg long] at line
        exact line
  | cons text lines ih =>
      have line := headerLoop_line headerBytes (plain text List.mem_cons_self)
        (by simpa using parted : reader.unread = text ++ newline ::
          (lines.flatMap (fun text => text ++ [newline]) ++ blank ++ after))
      have size : ((text :: lines).flatMap (fun text => text ++ [newline]) ++ blank).length =
          text.length + 1 + (lines.flatMap (fun text => text ++ [newline]) ++ blank).length := by
        simp only [List.flatMap_cons, List.length_append, List.length_singleton]
        omega
      rw [size]
      by_cases first : headerBytes + (text.length + 1) ≤ maxHeaderBytes
      · rw [if_pos first] at line
        obtain ⟨next, rest, done⟩ := line
        rw [if_neg (by simpa using filled text List.mem_cons_self)] at done
        rw [done, ← Nat.add_assoc]
        exact ih (fun other member => plain other (List.mem_cons_of_mem _ member))
          (fun other member => filled other (List.mem_cons_of_mem _ member)) rest
      · rw [if_neg first] at line
        rw [if_neg (by omega)]
        exact line

theorem headerLoop_block (block : HeaderBlock) (headerBytes : Nat) {after : List UInt8}
    {reader : BufReader} (parted : reader.unread = block.bytes ++ after) :
    if headerBytes + block.bytes.length ≤ maxHeaderBytes then
      ∃ next : BufReader, next.unread = after ∧ headerLoop reader headerBytes = .ok next
    else headerLoop reader headerBytes = .error .badRequest :=
  headerLoop_lines block.plain block.filled block.ends parted

end Headers

/-- However the socket cuts the stream: the lines are those of the bytes, and the
header block is accepted exactly up to its limit. -/
theorem reading_ignores_chunks (chunks : List Chunk) :
    (∀ maxBytes, (readLimitedLine ⟨chunks, .eof⟩ maxBytes).1 =
        limitedLine maxBytes (chunks.flatMap Subtype.val) ∧
      (limitedLine maxBytes (chunks.flatMap Subtype.val) ≠ .error .tooLong →
        (readLimitedLine ⟨chunks, .eof⟩ maxBytes).2.unread =
          (chunks.flatMap Subtype.val).drop (firstLine (chunks.flatMap Subtype.val)).length)) ∧
    ∀ (block : HeaderBlock) (after : List UInt8) (ending : Ending),
      chunks.flatMap Subtype.val = block.bytes ++ after →
        ((∃ next, headerLoop ⟨chunks, ending⟩ 0 = .ok next) ↔
          block.bytes.length ≤ maxHeaderBytes) := by
  refine ⟨fun maxBytes => readLimitedLine_eof maxBytes chunks, ?_⟩
  intro block after ending parted
  have read := @headerLoop_block block 0 after ⟨chunks, ending⟩ parted
  rw [Nat.zero_add] at read
  by_cases fits : block.bytes.length ≤ maxHeaderBytes
  · rw [if_pos fits] at read
    obtain ⟨next, _, done⟩ := read
    exact ⟨fun _ => fits, fun _ => ⟨next, done⟩⟩
  · rw [if_neg fits] at read
    rw [read]
    refine ⟨?_, fun short => absurd short fits⟩
    rintro ⟨_, done⟩
    cases done

/-- A stream of one-byte chunks. -/
def trickle (bytes : List UInt8) : List Chunk := bytes.map fun b => ⟨[b], List.cons_ne_nil b []⟩

/-- The header `a` and a blank line, byte by byte. -/
def shortBlock : HeaderBlock where
  lines := [[97, carriageReturn]]
  plain := by decide
  filled := by decide
  blank := [carriageReturn, newline]
  ends := by decide

theorem reading_ignores_chunks_short :
    (∃ next, headerLoop ⟨trickle shortBlock.bytes, .eof⟩ 0 = .ok next) ↔
      shortBlock.bytes.length ≤ maxHeaderBytes :=
  (reading_ignores_chunks (trickle shortBlock.bytes)).2 shortBlock [] .eof rfl

/-- A whole request is answered by its request line alone, however it is cut. -/
theorem serveOne_request {reader : BufReader} {text after : List UInt8} (block : HeaderBlock)
    (body : String) (plain : newline ∉ text)
    (parted : reader.unread = text ++ newline :: (block.bytes ++ after)) :
    serveOne reader body =
      if text.length + 1 ≤ maxRequestLineBytes ∧ block.bytes.length ≤ maxHeaderBytes then
        answer (text ++ [newline]) body
      else .badRequest := by
  have line := readLimitedLine_line maxRequestLineBytes plain parted
  by_cases short : text.length + 1 ≤ maxRequestLineBytes
  · rw [if_pos short] at line
    obtain ⟨next, rest, read⟩ := line
    have headers := headerLoop_block block 0 rest
    rw [Nat.zero_add] at headers
    simp only [serveOne, read, short, true_and]
    by_cases fits : block.bytes.length ≤ maxHeaderBytes
    · rw [if_pos fits] at headers
      obtain ⟨last, _, done⟩ := headers
      simp only [done, fits, if_true]
    · rw [if_neg fits] at headers
      simp only [headers, fits, if_false]
  · rw [if_neg short] at line
    obtain ⟨next, read⟩ := line
    simp only [serveOne, read, short, false_and, if_false]

end LinSight.Prom
