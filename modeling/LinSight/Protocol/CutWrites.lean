import LinSight.Protocol.FrameStream

set_option autoImplicit false

/-! Writes that stop inside a frame, and the bytes of the connection they leave behind. -/

namespace LinSight

section Sending

variable {M ε : Type} (format : Format M ε) (alloc : Allocator)

/-- One write, and whether it succeeds. The loop gets the turns that it needs. -/
def BufferedWriter.send (outcome : WriteAll) (msg : M) (writer : BufferedWriter) :
    Bool × BufferedWriter :=
  match writeFrame format alloc ((format.encode msg).length + 1) outcome msg writer with
  | some (.ok _, writer) => (true, writer)
  | some (.error _, writer) => (false, writer)
  | none => (false, writer)

/-- The message fits into a frame and the socket takes the frame. -/
def Format.writes (outcome : WriteAll) (msg : M) : Bool :=
  decide ((format.encode msg).length ≤ maxFrameBytes) && decide (outcome = .ok)

/-- The bytes that the socket takes. -/
def Format.puts (outcome : WriteAll) (msg : M) : List UInt8 :=
  if maxFrameBytes < (format.encode msg).length then []
  else outcome.accepted (frame (format.encode msg))

theorem BufferedWriter.send_spec {msg : M} (fills : format.Fills msg) (outcome : WriteAll)
    (writer : BufferedWriter) :
    (writer.send format alloc outcome msg).1 = format.writes outcome msg ∧
      (writer.send format alloc outcome msg).2.inner =
        writer.inner ++ format.puts outcome msg := by
  have enough : (format.encode msg).length ≤ 256 * (format.encode msg).length := by omega
  obtain ⟨⟨result, next⟩, written, spec⟩ := writeFrame_spec alloc fills enough outcome writer
  simp only [send, written, Format.writes, Format.puts]
  by_cases oversized : maxFrameBytes < (format.encode msg).length
  · have unfit : ¬ (format.encode msg).length ≤ maxFrameBytes := by omega
    simp only [oversized, ↓reduceIte] at spec ⊢
    rw [spec.1]
    simp only [unfit, decide_false, Bool.false_and, spec.2, List.append_nil, and_self]
  · have fit : (format.encode msg).length ≤ maxFrameBytes := by omega
    simp only [oversized, ↓reduceIte] at spec ⊢
    rw [spec.1]
    cases outcome with
    | ok => simp only [↓reduceIte, fit, decide_true, Bool.true_and, spec.2, and_self]
    | failed n => simp [fit, spec.2]

/-- The write stops inside a frame. -/
def Format.cuts (msg : M) : WriteAll → Bool
  | .ok => false
  | .failed n => decide (0 < n ∧ (format.encode msg).length ≤ maxFrameBytes)

/-- A concatenation of whole frames. -/
def Format.Whole (bytes : List UInt8) : Prop := ∃ msgs, bytes = format.frames msgs

/-- The bytes of a connection that has carried whole frames only. -/
def Format.Framed (bytes : List UInt8) : Prop := ∃ msgs, bytes <+: format.frames msgs

variable {format} {bytes : List UInt8}

theorem Format.Whole.nil : format.Whole [] := ⟨[], rfl⟩

theorem Format.Whole.framed (whole : format.Whole bytes) : format.Framed bytes := by
  obtain ⟨msgs, rfl⟩ := whole
  exact ⟨msgs, List.prefix_rfl⟩

theorem Format.frames_concat (msgs : List M) (msg : M) :
    format.frames (msgs ++ [msg]) = format.frames msgs ++ format.puts .ok msg := by
  simp only [frames, accepted, List.filter_append, List.flatMap_append, puts]
  by_cases oversized : maxFrameBytes < (format.encode msg).length
  · simp [oversized, Nat.not_le.mpr oversized]
  · simp [oversized, Nat.le_of_not_lt oversized, WriteAll.accepted]

theorem Format.puts_prefix (outcome : WriteAll) (msg : M) :
    format.puts outcome msg <+: format.puts .ok msg := by
  unfold puts
  split
  · exact List.prefix_rfl
  · cases outcome with
    | ok => exact List.prefix_rfl
    | failed n => exact List.take_prefix _ _

/-- A write that is not cut leaves whole frames behind. -/
theorem Format.Whole.puts (whole : format.Whole bytes) {outcome : WriteAll} {msg : M}
    (uncut : format.cuts msg outcome = false) : format.Whole (bytes ++ format.puts outcome msg) := by
  obtain ⟨msgs, rfl⟩ := whole
  cases outcome with
  | ok => exact ⟨msgs ++ [msg], (frames_concat msgs msg).symm⟩
  | failed n =>
      refine ⟨msgs, ?_⟩
      have empty : format.puts (.failed n) msg = [] := by
        unfold puts
        split
        · rfl
        · rename_i fits
          have nothing : n = 0 := by
            simp only [cuts, decide_eq_false_iff_not, not_and] at uncut
            omega
          rw [nothing, WriteAll.accepted, Nat.zero_min, List.take_zero]
      rw [empty, List.append_nil]

/-- Any write behind whole frames leaves a part of whole frames. -/
theorem Format.Whole.puts_framed (whole : format.Whole bytes) (outcome : WriteAll) (msg : M) :
    format.Framed (bytes ++ format.puts outcome msg) := by
  obtain ⟨msgs, rfl⟩ := whole
  refine ⟨msgs ++ [msg], ?_⟩
  rw [frames_concat]
  exact List.prefix_append_right_inj _ |>.mpr ( puts_prefix outcome msg)

section Parting

/-- A frame ends where its header says. -/
theorem frame_append_inj {first second front back : List UInt8} (small : first.length < 2 ^ 32)
    (other : second.length < 2 ^ 32) (same : frame first ++ front = frame second ++ back) :
    first = second ∧ front = back := by
  simp only [frame, List.append_assoc] at same
  have headers : (FrameWriter.u32ToLe first.length).length =
      (FrameWriter.u32ToLe second.length).length := rfl
  obtain ⟨header, bodies⟩ := List.append_inj same headers
  have lengths : first.length = second.length := by
    rw [← u32FromLe_toLe small, ← u32FromLe_toLe other, header]
  exact List.append_inj bodies lengths

theorem length_frame (body : List UInt8) : (frame body).length = 4 + body.length := by
  rw [frame, List.length_append, length_u32ToLe]

/-- Whole frames behind whole frames. -/
theorem flatMap_frame_cancel {encode : M → List UInt8} {front all : List M} {bytes : List UInt8}
    (small : ∀ msg ∈ front, (encode msg).length < 2 ^ 32)
    (fine : ∀ msg ∈ all, (encode msg).length < 2 ^ 32)
    (same : (front.flatMap fun msg => frame (encode msg)) ++ bytes =
      all.flatMap fun msg => frame (encode msg)) :
    ∃ rest, rest ⊆ all ∧ bytes = rest.flatMap fun msg => frame (encode msg) := by
  induction front generalizing all with
  | nil => exact ⟨all, List.Subset.refl all, same⟩
  | cons msg front ih =>
      cases all with
      | nil =>
          have lengths := congrArg List.length same
          simp only [List.flatMap_cons, List.length_append, length_frame, List.flatMap_nil,
            List.length_nil] at lengths
          omega
      | cons other all =>
          simp only [List.flatMap_cons, List.append_assoc] at same
          obtain ⟨_, later⟩ := frame_append_inj (small msg List.mem_cons_self)
            (fine other List.mem_cons_self) same
          obtain ⟨rest, inside, parted⟩ := ih
            (fun next member => small next (List.mem_cons_of_mem _ member))
            (fun next member => fine next (List.mem_cons_of_mem _ member)) later
          exact ⟨rest, fun next member => List.mem_cons_of_mem _ (inside member), parted⟩

/-- A write that is cut leaves a part of a frame behind whole frames. -/
theorem Format.Whole.not_of_cut (whole : format.Whole bytes) {outcome : WriteAll} {msg : M}
    (cut : format.cuts msg outcome = true) : ¬ format.Whole (bytes ++ format.puts outcome msg) := by
  have small : ∀ msgs, ∀ msg ∈ format.accepted msgs, (format.encode msg).length < 2 ^ 32 := by
    intro msgs msg member
    have fits := of_decide_eq_true (List.mem_filter.mp member).2
    have bound : maxFrameBytes < 2 ^ 32 := by decide
    omega
  rintro ⟨all, same⟩
  obtain ⟨front, rfl⟩ := whole
  obtain ⟨rest, inside, parted⟩ := flatMap_frame_cancel (small front) (small all) same
  cases outcome with
  | ok => cases cut
  | failed n =>
      obtain ⟨some_bytes, fits⟩ := of_decide_eq_true cut
      have bound : maxFrameBytes < 2 ^ 32 := by decide
      have length := length_frame (format.encode msg)
      have part : format.puts (.failed n) msg =
          (frame (format.encode msg)).take (min n ((frame (format.encode msg)).length - 1)) := by
        rw [Format.puts, if_neg (by omega)]
        rfl
      rw [part] at parted
      cases rest with
      | nil =>
          have lengths := congrArg List.length parted
          simp only [List.length_take, List.flatMap_nil, List.length_nil] at lengths
          omega
      | cons first rest =>
          have whole := List.take_append_drop (min n ((frame (format.encode msg)).length - 1))
            (frame (format.encode msg))
          rw [parted, List.flatMap_cons, List.append_assoc] at whole
          have short : (format.encode first).length < 2 ^ 32 :=
            small all first (inside List.mem_cons_self)
          have same_frame : frame (format.encode first) ++ _ = frame (format.encode msg) ++ [] :=
            whole.trans (List.append_nil _).symm
          obtain ⟨_, nothing⟩ := frame_append_inj short (by omega) same_frame
          have lengths := congrArg List.length nothing
          simp only [List.length_append, List.length_drop, List.length_nil] at lengths
          omega

end Parting

end Sending

end LinSight
