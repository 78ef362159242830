import LinSight.Library.Words
import Mathlib

set_option autoImplicit false

/-! Which client certificates the tunnel takes: patterns of the allowlists and names are compared
label by label. -/

namespace LinSight.Tunnel.Allowlist

/-- `str::eq_ignore_ascii_case`. -/
def eqIgnoreAsciiCase (a b : List Char) : Bool := a.map Char.toLower == b.map Char.toLower

/-- `str::split_once`. -/
def splitOnce (separator : Char) (text : List Char) : Option (List Char × List Char) :=
  match text.dropWhile (· ≠ separator) with
  | [] => none
  | _ :: back => some (text.takeWhile (· ≠ separator), back)

def wildcardMatch (pattern name : List Char) : Bool :=
  match Words.stripPrefix ['*', '.'] pattern with
  | some suffix =>
      match splitOnce '.' name with
      | some (first, rest) => !first.isEmpty && eqIgnoreAsciiCase rest suffix
      | none => false
  | none => eqIgnoreAsciiCase pattern name

inductive TlsError where
  /-- Of the chain validation. -/
  | chain (message : String)
  | applicationVerificationFailure
deriving DecidableEq

/-- The certificate as it is read: its common name, and the DNS names of its alternative names. -/
structure Cert where
  cn : Option String
  dnsSans : List String

structure Verifier where
  allowCn : List String
  allowSan : List String

/-- A pattern of the list matches the name. -/
def listed (patterns : List String) (name : String) : Bool :=
  patterns.any fun pattern => wildcardMatch pattern.toList name.toList

/-- `verify_client_cert`, with the answer of the chain validation. -/
def verifyClientCert (verifier : Verifier) (chain : Except TlsError PUnit.{1}) (cert : Cert) :
    Except TlsError PUnit.{1} := do
  chain
  if verifier.allowCn.isEmpty && verifier.allowSan.isEmpty then return
  if !verifier.allowCn.isEmpty && cert.cn.any (listed verifier.allowCn) then return
  if !verifier.allowSan.isEmpty && cert.dnsSans.any (listed verifier.allowSan) then return
  throw .applicationVerificationFailure

/-! What a pattern means, in labels. -/

def labels (text : List Char) : List (List Char) := text.splitOn '.'

/-- The labels are the same but for the case of their letters. -/
def SameLabels (a b : List (List Char)) : Prop :=
  a.map (List.map Char.toLower) = b.map (List.map Char.toLower)

/-- A first label `*`, with others behind it, stands for any one label that is not empty. -/
def Covers : List (List Char) → List (List Char) → Prop
  | ['*'] :: second :: more, name =>
      ∃ label rest, name = label :: rest ∧ label ≠ [] ∧ SameLabels rest (second :: more)
  | pattern, name => SameLabels pattern name

theorem labels_cons (c : Char) (text : List Char) :
    labels (c :: text) =
      if c = '.' then [] :: labels text else (labels text).modifyHead (c :: ·) := by
  rw [labels, List.splitOn, List.splitOnP_cons_eq_if_modifyHead]
  simp only [beq_iff_eq]
  rfl

theorem exists_labels (text : List Char) : ∃ first more, labels text = first :: more :=
  List.exists_cons_of_ne_nil (List.splitOnP_ne_nil _ text)

theorem toLower_eq_dot (c : Char) : c.toLower = '.' ↔ c = '.' := by
  constructor
  · intro lower
    unfold Char.toLower at lower
    split at lower
    · rename_i upper
      have value : (c.val + ('a'.val - 'A'.val)).toNat = 46 := congrArg Char.toNat lower
      have low := UInt32.le_iff_toNat_le.mp upper.1
      have high := UInt32.le_iff_toNat_le.mp upper.2
      rw [UInt32.toNat_add] at value
      have step : ('a'.val - 'A'.val).toNat = 32 := by decide
      have first : 'A'.val.toNat = 65 := by decide
      have last : 'Z'.val.toNat = 90 := by decide
      omega
    · exact lower
  · rintro rfl
    decide

theorem labels_map_toLower (text : List Char) :
    labels (text.map Char.toLower) = (labels text).map (List.map Char.toLower) := by
  induction text with
  | nil => rfl
  | cons c rest ih =>
      rw [List.map_cons, labels_cons, labels_cons, ih]
      simp only [toLower_eq_dot]
      split
      · rfl
      · obtain ⟨first, more, split⟩ := exists_labels rest
        rw [split]
        rfl

theorem labels_inj {a b : List Char} (same : labels a = labels b) : a = b := by
  have joined := congrArg (List.intercalate ['.']) same
  rwa [labels, labels, List.intercalate_splitOn, List.intercalate_splitOn] at joined

theorem eqIgnoreAsciiCase_iff (a b : List Char) :
    eqIgnoreAsciiCase a b = true ↔ SameLabels (labels a) (labels b) := by
  rw [eqIgnoreAsciiCase, beq_iff_eq, SameLabels, ← labels_map_toLower, ← labels_map_toLower]
  exact ⟨congrArg labels, labels_inj⟩

/-- The text is cut at its first dot. -/
theorem labels_of_splitOnce (text : List Char) :
    labels text = match splitOnce '.' text with
      | some (first, rest) => first :: labels rest
      | none => [text] := by
  induction text with
  | nil => rfl
  | cons c rest ih =>
      rw [labels_cons]
      by_cases dot : c = '.'
      · subst dot
        rfl
      · have keeps : decide (c ≠ '.') = true := decide_eq_true dot
        rw [if_neg dot, ih]
        have drops : (c :: rest).dropWhile (· ≠ '.') = rest.dropWhile (· ≠ '.') :=
          List.dropWhile_cons_of_pos keeps
        have takes : (c :: rest).takeWhile (· ≠ '.') = c :: rest.takeWhile (· ≠ '.') :=
          List.takeWhile_cons_of_pos keeps
        unfold splitOnce
        rw [drops, takes]
        cases rest.dropWhile (· ≠ '.') with
        | nil => rfl
        | cons _ back => rfl

theorem labels_star (suffix : List Char) :
    labels ('*' :: '.' :: suffix) = ['*'] :: labels suffix := by
  rw [labels_cons, if_neg (by decide), labels_cons, if_pos rfl]
  rfl

/-- A pattern without `*.` in front has no first label `*` with others behind it. -/
theorem stripPrefix_of_labels {pattern second : List Char} {more : List (List Char)}
    (split : labels pattern = ['*'] :: second :: more) :
    (Words.stripPrefix ['*', '.'] pattern).isSome = true := by
  have joined := congrArg (List.intercalate ['.']) split
  rw [labels, List.intercalate_splitOn, Words.intercalate_cons] at joined
  rw [joined]
  rfl

theorem covers_plain {pattern : List (List Char)} (name : List (List Char))
    (plain : ∀ second more, pattern ≠ ['*'] :: second :: more) :
    Covers pattern name ↔ SameLabels pattern name := by
  unfold Covers
  split
  · rename_i second more
    exact absurd rfl (plain second more)
  · exact Iff.rfl

/-- A pattern matches as its labels say. -/
theorem wildcardMatch_iff (pattern name : List Char) :
    wildcardMatch pattern name = true ↔ Covers (labels pattern) (labels name) := by
  unfold wildcardMatch
  cases stripped : Words.stripPrefix ['*', '.'] pattern with
  | none =>
      have plain : ∀ second more, labels pattern ≠ ['*'] :: second :: more := by
        intro second more split
        have found := stripPrefix_of_labels split
        rw [stripped] at found
        cases found
      rw [covers_plain _ plain]
      exact eqIgnoreAsciiCase_iff pattern name
  | some suffix =>
      have pattern_eq := Words.of_stripPrefix stripped
      obtain ⟨second, more, split⟩ := exists_labels suffix
      have name_split := labels_of_splitOnce name
      rw [pattern_eq]
      show _ ↔ Covers (labels ('*' :: '.' :: suffix)) _
      rw [labels_star, split]
      show _ ↔ ∃ label rest, labels name = label :: rest ∧ label ≠ [] ∧
        SameLabels rest (second :: more)
      cases cut : splitOnce '.' name with
      | none =>
          rw [cut] at name_split
          dsimp only at name_split ⊢
          constructor
          · intro never
            cases never
          · rintro ⟨label, rest, names, _, same⟩
            rw [name_split, List.cons.injEq] at names
            rw [← names.2] at same
            cases same
      | some parts =>
          obtain ⟨first, rest⟩ := parts
          rw [cut] at name_split
          dsimp only at name_split ⊢
          rw [Bool.and_eq_true, Bool.not_eq_true', List.isEmpty_eq_false_iff,
            eqIgnoreAsciiCase_iff, split, name_split]
          constructor
          · intro both
            exact ⟨first, labels rest, rfl, both.1, both.2⟩
          · rintro ⟨label, others, names, nonempty, same⟩
            obtain ⟨rfl, rfl⟩ := List.cons.inj names
            exact ⟨nonempty, same⟩

/-- One of the patterns covers the name. -/
def Allowed (patterns : List String) (name : String) : Prop :=
  ∃ pattern ∈ patterns, Covers (labels pattern.toList) (labels name.toList)

theorem listed_iff (patterns : List String) (name : String) :
    listed patterns name = true ↔ Allowed patterns name := by
  rw [listed, List.any_eq_true]
  exact exists_congr fun pattern => and_congr_right fun _ => wildcardMatch_iff _ _

/-- A certificate is taken exactly if its chain is valid, and the lists are both empty or one of
them has a pattern for a name of the certificate, label by label. -/
theorem verifyClientCert_ok_iff (verifier : Verifier) (chain : Except TlsError PUnit.{1})
    (cert : Cert) :
    verifyClientCert verifier chain cert = .ok ⟨⟩ ↔ chain = .ok ⟨⟩ ∧
      (verifier.allowCn = [] ∧ verifier.allowSan = [] ∨
        (∃ cn, cert.cn = some cn ∧ Allowed verifier.allowCn cn) ∨
        ∃ san ∈ cert.dnsSans, Allowed verifier.allowSan san) := by
  have by_cn : (!verifier.allowCn.isEmpty && cert.cn.any (listed verifier.allowCn)) = true ↔
      ∃ cn, cert.cn = some cn ∧ Allowed verifier.allowCn cn := by
    rw [Bool.and_eq_true, Option.any_eq_true]
    simp only [listed_iff]
    constructor
    · exact fun both => both.2
    · intro named
      have found := named
      obtain ⟨cn, _, pattern, member, _⟩ := found
      exact ⟨by simp [List.ne_nil_of_mem member], named⟩
  have by_san : (!verifier.allowSan.isEmpty && cert.dnsSans.any (listed verifier.allowSan)) = true ↔
      ∃ san ∈ cert.dnsSans, Allowed verifier.allowSan san := by
    rw [Bool.and_eq_true, List.any_eq_true]
    simp only [listed_iff]
    constructor
    · exact fun both => both.2
    · intro named
      have found := named
      obtain ⟨san, _, pattern, member, _⟩ := found
      exact ⟨by simp [List.ne_nil_of_mem member], named⟩
  have unlisted : (verifier.allowCn.isEmpty && verifier.allowSan.isEmpty) = true ↔
      verifier.allowCn = [] ∧ verifier.allowSan = [] := by
    rw [Bool.and_eq_true, List.isEmpty_iff, List.isEmpty_iff]
  rw [← by_cn, ← by_san, ← unlisted]
  cases chain with
  | error error =>
      constructor
      · intro taken
        cases taken
      · intro valid
        cases valid.1
  | ok valid =>
      unfold verifyClientCert
      cases (verifier.allowCn.isEmpty && verifier.allowSan.isEmpty) <;>
        cases (!verifier.allowCn.isEmpty && cert.cn.any (listed verifier.allowCn)) <;>
        cases (!verifier.allowSan.isEmpty && cert.dnsSans.any (listed verifier.allowSan)) <;>
        simp [throw, throwThe, MonadExceptOf.throw, bind, Except.bind, pure, Except.pure]

end LinSight.Tunnel.Allowlist
