import LinSight.Library.DebugText
import LinSight.Library.IpAddress

set_option autoImplicit false

/-! Webhook URLs: the check of a target, and the host that a URL has. -/

namespace LinSight.Alerts

open DebugText (Message debugStr)
open Net

/-- `rsplit(c).next()`. -/
def afterLast (c : Char) (s : List Char) : List Char := s.rtakeWhile (· ≠ c)

/-- `split(c).next()`. -/
def beforeFirst (c : Char) (s : List Char) : List Char := s.takeWhile (· ≠ c)

def isLoopback (ip : Ipv4Addr) : Bool := ip.a = 127

def isLinkLocal (ip : Ipv4Addr) : Bool := ip.a = 169 && ip.b = 254

def isPrivate (ip : Ipv4Addr) : Bool :=
  ip.a = 10 || (ip.a = 172 && 16 ≤ ip.b && ip.b ≤ 31) || (ip.a = 192 && ip.b = 168)

def unspecifiedV4 : Ipv4Addr := ⟨0, 0, 0, 0⟩

def loopbackV6 : Ipv6Addr := .ofGroups [0, 0, 0, 0, 0, 0, 0, 1]

def unspecifiedV6 : Ipv6Addr := .ofGroups []

def isIpv6LinkLocal (ip : Ipv6Addr) : Bool := (ip.first &&& 0xffc0#16) = 0xfe80#16

def isIpv6UniqueLocal (ip : Ipv6Addr) : Bool := (ip.first &&& 0xfe00#16) = 0xfc00#16

def isRestrictedIp : IpAddr → Bool
  | .v4 ip => isLoopback ip || isLinkLocal ip || isPrivate ip || ip = unspecifiedV4
  | .v6 ip => ip = loopbackV6 || isIpv6LinkLocal ip || isIpv6UniqueLocal ip || ip = unspecifiedV6

/-- The host starts with `0x`. -/
def hexPrefixed : List Char → Bool
  | '0' :: 'x' :: _ | '0' :: 'X' :: _ => true
  | _ => false

def looksLikeNumericHost (host : List Char) : Bool :=
  if host = [] then false
  else if hexPrefixed host then true
  else
    let last := afterLast '.' host
    last ≠ [] && last.all Char.isDigit

/-- The part of the URL behind its scheme. -/
def afterScheme (raw : List Char) : Option (List Char) :=
  match raw.dropPrefix? "http://".toList with
  | some rest => some rest
  | none => raw.dropPrefix? "https://".toList

/-- The host of `host:port`, without the brackets of an IPv6 literal, or `none` where the closing
one is missing. -/
def hostInner (hostPort : List Char) : Option (List Char) :=
  match hostPort with
  | '[' :: inner => if ']' ∈ inner then some (beforeFirst ']' inner) else none
  | _ => some (beforeFirst ':' hostPort)

def checkHost (host : List Char) : Except Message PUnit.{1} :=
  match IpAddr.parse host with
  | some ip =>
      if isRestrictedIp ip then
        .error s!"webhook URL host {ip.toText} is a restricted address (loopback / link-local / private / unspecified)"
      else .ok ⟨⟩
  | none =>
      if looksLikeNumericHost host then
        .error ("webhook URL host " ++ debugStr (String.ofList host) ++
          " looks like an obfuscated numeric IP; use a hostname, dotted-decimal IPv4, or bracketed IPv6")
      else .ok ⟨⟩

def validateWebhookUrl (raw : String) : Except Message PUnit.{1} :=
  match afterScheme raw.toList with
  | none => .error "webhook URL must start with http:// or https://"
  | some rest =>
      match hostInner (afterLast '@' (beforeFirst '/' rest)) with
      | none => .error "webhook URL has a malformed IPv6 host literal (missing ']')"
      | some host => checkHost host

/-! ### The host of a URL -/

inductive UrlHost where
  | ipLiteral (text : List Char)
  | name (text : List Char)
deriving DecidableEq

/-- The authority ends before the path, the query and the fragment. -/
def endsAuthority (c : Char) : Bool := c = '/' || c = '?' || c = '#'

def urlAuthority (rest : List Char) : List Char := rest.takeWhile (!endsAuthority ·)

/-- The host behind the user information and without the port. -/
def authorityHost (authority : List Char) : Option UrlHost :=
  match afterLast '@' authority with
  | '[' :: inner => if ']' ∈ inner then some (.ipLiteral (beforeFirst ']' inner)) else none
  | hostPort => some (.name (beforeFirst ':' hostPort))

/-- The address that a host denotes without a lookup. An IPv4-mapped address is the IPv4 one. -/
def UrlHost.address : UrlHost → Option IpAddr
  | .ipLiteral text => (Ipv6Addr.parse text).map fun ip =>
      match ip.toIpv4Mapped with
      | some v4 => .v4 v4
      | none => .v6 ip
  | .name text => (inetAton text).map .v4

/-- The blocks of the loopback, link-local, private and unspecified addresses. -/
def restrictedV4 : List (Ipv4Addr × Nat) :=
  [(⟨127, 0, 0, 0⟩, 8), (⟨169, 254, 0, 0⟩, 16), (⟨10, 0, 0, 0⟩, 8), (⟨172, 16, 0, 0⟩, 12),
    (⟨192, 168, 0, 0⟩, 16), (⟨0, 0, 0, 0⟩, 32)]

/-- Those of the loopback, link-local, unique-local and unspecified ones. -/
def restrictedV6 : List (Ipv6Addr × Nat) :=
  [(.ofGroups [0, 0, 0, 0, 0, 0, 0, 1], 128), (.ofGroups [0xfe80], 10), (.ofGroups [0xfc00], 7),
    (.ofGroups [], 128)]

def Restricted : IpAddr → Prop
  | .v4 ip => ∃ block ∈ restrictedV4, ip.InBlock block.1 block.2
  | .v6 ip => ∃ block ∈ restrictedV6, ip.InBlock block.1 block.2

/-- What follows the authority up to the first `/`: some of a query or of a fragment, if any. -/
def urlTail (rest : List Char) : List Char := beforeFirst '/' (rest.dropWhile (!endsAuthority ·))

/-- The URL's host is a literal of a restricted address. -/
def TargetsRestricted (raw : String) : Prop :=
  ∃ rest host ip, afterScheme raw.toList = some rest ∧
    authorityHost (urlAuthority rest) = some host ∧ host.address = some ip ∧ Restricted ip

/-- What the check of a host lets through. -/
def passes (host : List Char) : Bool :=
  match IpAddr.parse host with
  | some ip => !isRestrictedIp ip
  | none => !looksLikeNumericHost host

/-- The last part is hexadecimal, and the first one is not. -/
def HexTail (host : List Char) : Prop :=
  hexPrefixed host = false ∧ hexPrefixed (afterLast '.' host) = true

def Mapped (text : List Char) : Prop :=
  ∃ ip v4, Ipv6Addr.parse text = some ip ∧ ip.toIpv4Mapped = some v4

/-- How a literal of a restricted address slips through: what is looked at stands behind an `@`
of the query or of the fragment, or the address is IPv4-mapped, or the literal has a hexadecimal
part at its end only, or, with no port behind it, it is not numeric any more with the query or the
fragment. -/
def Slips (rest : List Char) : Prop :=
  let tail := urlTail rest
  if '@' ∈ tail then ∃ host, hostInner (afterLast '@' tail) = some host ∧ passes host = true
  else
    match afterLast '@' (urlAuthority rest) with
    | '[' :: inner => Mapped (beforeFirst ']' inner)
    | hostPort =>
        if tail = [] ∨ ':' ∈ hostPort then HexTail (beforeFirst ':' hostPort)
        else looksLikeNumericHost (hostPort ++ beforeFirst ':' tail) = false

section Restricted

theorem isRestrictedIp_v4 (ip : Ipv4Addr) :
    isRestrictedIp (.v4 ip) = true ↔ Restricted (.v4 ip) := by
  have a := ip.a.isLt
  have b := ip.b.isLt
  have c := ip.c.isLt
  have d := ip.d.isLt
  have loopback : isLoopback ip = true ↔ ip.InBlock ⟨127, 0, 0, 0⟩ 8 := by
    simp [isLoopback, Ipv4Addr.InBlock, Ipv4Addr.toNat, Fin.ext_iff]
    omega
  have linkLocal : isLinkLocal ip = true ↔ ip.InBlock ⟨169, 254, 0, 0⟩ 16 := by
    simp [isLinkLocal, Ipv4Addr.InBlock, Ipv4Addr.toNat, Fin.ext_iff]
    omega
  have classA : ip.a = 10 ↔ ip.InBlock ⟨10, 0, 0, 0⟩ 8 := by
    simp [Ipv4Addr.InBlock, Ipv4Addr.toNat, Fin.ext_iff]
    omega
  have classB : (ip.a = 172 ∧ 16 ≤ ip.b) ∧ ip.b ≤ 31 ↔ ip.InBlock ⟨172, 16, 0, 0⟩ 12 := by
    simp [Ipv4Addr.InBlock, Ipv4Addr.toNat, Fin.ext_iff, Fin.le_def]
    omega
  have classC : ip.a = 192 ∧ ip.b = 168 ↔ ip.InBlock ⟨192, 168, 0, 0⟩ 16 := by
    simp [Ipv4Addr.InBlock, Ipv4Addr.toNat, Fin.ext_iff]
    omega
  simp only [isRestrictedIp, isPrivate, Restricted, restrictedV4, List.mem_cons,
    List.not_mem_nil, or_false, exists_eq_or_imp, exists_eq_left, Bool.or_eq_true,
    Bool.and_eq_true, decide_eq_true_eq, loopback, linkLocal, classA, classB, classC,
    Ipv4Addr.inBlock_self_iff, or_assoc]
  rfl

theorem isRestrictedIp_v6 (ip : Ipv6Addr) :
    isRestrictedIp (.v6 ip) = true ↔ Restricted (.v6 ip) := by
  have linkLocal : isIpv6LinkLocal ip = true ↔ ip.InBlock (.ofGroups [0xfe80]) 10 := by
    rw [ip.inBlock_iff_and _ (by omega) (by decide), isIpv6LinkLocal, decide_eq_true_eq]
    rfl
  have uniqueLocal : isIpv6UniqueLocal ip = true ↔ ip.InBlock (.ofGroups [0xfc00]) 7 := by
    rw [ip.inBlock_iff_and _ (by omega) (by decide), isIpv6UniqueLocal, decide_eq_true_eq]
    rfl
  simp only [isRestrictedIp, Restricted, restrictedV6, List.mem_cons, List.not_mem_nil, or_false,
    exists_eq_or_imp, exists_eq_left, Bool.or_eq_true, decide_eq_true_eq, linkLocal, uniqueLocal,
    Ipv6Addr.inBlock_self_iff, or_assoc]
  rfl

/-- The check of an address refuses the restricted blocks, and nothing else. -/
theorem isRestrictedIp_iff (ip : IpAddr) : isRestrictedIp ip = true ↔ Restricted ip := by
  cases ip with
  | v4 ip => exact isRestrictedIp_v4 ip
  | v6 ip => exact isRestrictedIp_v6 ip

end Restricted

section Text

variable {c : Char} {front back : List Char}

/-- Nothing behind a character that fails is taken. -/
theorem takeWhile_append_cons {p : Char → Bool} (fails : p c = false) :
    (front ++ c :: back).takeWhile p = front.takeWhile p := by
  rw [List.takeWhile_append]
  split
  · rename_i whole
    rw [List.takeWhile_cons, fails, if_neg Bool.false_ne_true, List.append_nil]
    exact ((List.takeWhile_prefix p).eq_of_length whole).symm
  · rfl

theorem afterLast_of_not_mem (absent : c ∉ back) : afterLast c back = back := by
  refine List.rtakeWhile_eq_self_iff.mpr fun other member => ?_
  exact decide_eq_true fun same => absent (same ▸ member)

theorem afterLast_append_of_not_mem (absent : c ∉ back) :
    afterLast c (front ++ back) = afterLast c front ++ back := by
  have kept : ∀ other ∈ back.reverse, decide (other ≠ c) = true := fun other member =>
    decide_eq_true fun same => absent (same ▸ List.mem_reverse.mp member)
  rw [afterLast, List.rtakeWhile, List.reverse_append, List.takeWhile_append_of_pos kept,
    List.reverse_append, List.reverse_reverse]
  rfl

theorem afterLast_append_cons : afterLast c (front ++ c :: back) = afterLast c back := by
  rw [afterLast, List.rtakeWhile, List.reverse_append, List.reverse_cons, List.append_assoc,
    List.singleton_append, takeWhile_append_cons (decide_eq_false (not_not.mpr rfl))]
  rfl

theorem afterLast_append_of_mem (member : c ∈ back) :
    afterLast c (front ++ back) = afterLast c back := by
  obtain ⟨before, after, rfl⟩ := List.append_of_mem member
  rw [← List.append_assoc, afterLast_append_cons, afterLast_append_cons]

/-- The last of the pieces between the separators. -/
theorem afterLast_eq_getLast (c : Char) (s : List Char) :
    afterLast c s = (s.splitOn c).getLast (List.splitOn_ne_nil c s) := by
  induction length : s.length using Nat.strong_induction_on generalizing s with
  | _ n ih =>
      by_cases member : c ∈ s
      · obtain ⟨before, after, rfl⟩ := List.append_of_mem member
        have shorter : after.length < n := by
          rw [← length, List.length_append, List.length_cons]
          omega
        have pieces := List.splitOn_append_cons_self (a := c) before after
        rw [afterLast_append_cons, ih after.length shorter after rfl]
        simp only [pieces, List.getLast_append_of_ne_nil _ (List.splitOn_ne_nil c after)]
      · have pieces := List.splitOn_eq_singleton member
        simp only [afterLast_of_not_mem member, pieces, List.getLast_singleton]

theorem beforeFirst_append_of_mem (member : c ∈ front) :
    beforeFirst c (front ++ back) = beforeFirst c front := by
  have fails : decide (c ≠ c) = false := decide_eq_false (not_not.mpr rfl)
  obtain ⟨before, after, rfl⟩ := List.append_of_mem member
  rw [beforeFirst, beforeFirst, List.append_assoc, List.cons_append,
    takeWhile_append_cons fails, takeWhile_append_cons fails]

theorem beforeFirst_append_of_not_mem (absent : c ∉ front) :
    beforeFirst c (front ++ back) = front ++ beforeFirst c back :=
  List.takeWhile_append_of_pos fun _ member =>
    decide_eq_true fun same => absent (same ▸ member)

theorem not_mem_beforeFirst (c : Char) (s : List Char) : c ∉ beforeFirst c s := fun member => by
  have other := List.mem_takeWhile_imp member
  exact absurd rfl (of_decide_eq_true other)

end Text

section Literals

theorem not_hexPrefixed {s : List Char} (decimal : ∀ c ∈ s, c.isDigit = true) :
    hexPrefixed s = false := by
  unfold hexPrefixed
  split
  · cases decimal 'x' (List.mem_cons_of_mem _ List.mem_cons_self)
  · cases decimal 'X' (List.mem_cons_of_mem _ List.mem_cons_self)
  · rfl

/-- Every part of a literal is numeric, and so it looks numeric unless its last part alone is
hexadecimal. -/
theorem looksLikeNumericHost_of_inetAton {host : List Char} {ip : Ipv4Addr}
    (literal : inetAton host = some ip) : looksLikeNumericHost host = false ↔ HexTail host := by
  have last_mem : afterLast '.' host ∈ host.splitOn '.' := by
    rw [afterLast_eq_getLast]
    exact List.getLast_mem _
  obtain ⟨n, part⟩ := inetAton_parts literal _ last_mem
  obtain ⟨nonempty, digits⟩ := atonPart_digits part
  have host_nonempty : host ≠ [] := by
    rintro rfl
    exact nonempty rfl
  unfold looksLikeNumericHost HexTail
  rw [if_neg host_nonempty]
  cases prefixed : hexPrefixed host with
  | true => simp only [↓reduceIte, Bool.true_eq_false, false_and]
  | false =>
      simp only [Bool.false_eq_true, ↓reduceIte, true_and]
      rcases digits with decimal | ⟨x, rest, letter, same⟩
      · have numeric : (afterLast '.' host).all Char.isDigit = true :=
          List.all_eq_true.mpr decimal
        have plain : hexPrefixed (afterLast '.' host) = false := not_hexPrefixed decimal
        simp only [nonempty, numeric, plain, ne_eq, not_false_eq_true, decide_true, Bool.and_self,
          Bool.true_eq_false, Bool.false_eq_true]
      · have other : (afterLast '.' host).all Char.isDigit = false := by
          rw [same]
          rcases letter with rfl | rfl <;> rfl
        have hex : hexPrefixed (afterLast '.' host) = true := by
          rw [same]
          rcases letter with rfl | rfl <;> rfl
        simp only [other, hex, Bool.and_false]

theorem parse_chars {s : List Char} {ip : Ipv4Addr} (parsed : Ipv4Addr.parse s = some ip) :
    ∀ c ∈ s, c = '.' ∨ c.isDigit = true := by
  obtain ⟨a, b, c, d, rfl, octetA, octetB, octetC, octetD⟩ :=
    Ipv4Addr.read_spec (whole_eq_some.mp parsed)
  simp only [List.forall_mem_append, List.forall_mem_cons, List.append_nil, true_or, true_and]
  exact ⟨fun c member => .inr (octetA.decimal c member),
    fun c member => .inr (octetB.decimal c member),
    fun c member => .inr (octetC.decimal c member),
    fun c member => .inr (octetD.decimal c member)⟩

theorem looksLikeNumericHost_of_parse {host : List Char} {ip : Ipv4Addr}
    (parsed : Ipv4Addr.parse host = some ip) : looksLikeNumericHost host = true := by
  obtain ⟨a, b, c, d, rfl, octetA, octetB, octetC, octetD⟩ :=
    Ipv4Addr.read_spec (whole_eq_some.mp parsed)
  have nonempty : a ++ '.' :: (b ++ '.' :: (c ++ '.' :: (d ++ []))) ≠ [] :=
    List.append_ne_nil_of_left_ne_nil octetA.nonempty _
  have numeric : d.all Char.isDigit = true := List.all_eq_true.mpr octetD.decimal
  unfold looksLikeNumericHost
  rw [if_neg nonempty]
  split
  · rfl
  · simp only [afterLast_append_cons, List.append_nil, afterLast_of_not_mem octetD.dotless,
      octetD.nonempty, numeric, ne_eq, not_false_eq_true, decide_true, Bool.and_self]

/-- The check takes the standard forms for what they are. -/
theorem passes_of_inetAton {host : List Char} {ip : Ipv4Addr} (colonless : ':' ∉ host)
    (literal : inetAton host = some ip) (restricted : Restricted (.v4 ip)) :
    passes host = true ↔ HexTail host := by
  rw [← looksLikeNumericHost_of_inetAton literal, passes, IpAddr.parse_colonless colonless]
  cases parsed : Ipv4Addr.parse host with
  | none => simp only [Option.map_none, Bool.not_eq_eq_eq_not, Bool.not_true]
  | some other =>
      have same : other = ip := Option.some.inj ((Ipv4Addr.inetAton_of_parse parsed).symm.trans literal)
      have refused : isRestrictedIp (.v4 other) = true := (isRestrictedIp_iff _).mpr (same ▸ restricted)
      simp only [Option.map_some, refused, looksLikeNumericHost_of_parse parsed, Bool.not_true,
        Bool.false_eq_true, Bool.true_eq_false]

/-- The check of an IPv6 address does not look for an IPv4 address in it. -/
theorem mapped_passes {ip : Ipv6Addr} {v4 : Ipv4Addr} (mapped : ip.toIpv4Mapped = some v4) :
    isRestrictedIp (.v6 ip) = false := by
  unfold Ipv6Addr.toIpv4Mapped at mapped
  split_ifs at mapped with pattern
  have first : ip.first = 0 := by
    have head := congrArg (·[0]?) pattern
    simpa [Ipv6Addr.first] using head
  have sixth : ip.segments[5] = 0xffff := by
    have last := congrArg (·[5]?) pattern
    simpa using last
  have loopback : ip ≠ loopbackV6 := by
    rintro rfl
    cases sixth
  have unspecified : ip ≠ unspecifiedV6 := by
    rintro rfl
    cases sixth
  simp only [isRestrictedIp, isIpv6LinkLocal, isIpv6UniqueLocal, first, loopback, unspecified,
    decide_false, Bool.or_false, Bool.false_or]
  rfl

end Literals

section Urls

theorem beforeFirst_slash (rest : List Char) :
    beforeFirst '/' rest = urlAuthority rest ++ urlTail rest := by
  have slashless : '/' ∉ urlAuthority rest := fun member => by
    have other := List.mem_takeWhile_imp member
    cases other
  rw [urlTail, ← beforeFirst_append_of_not_mem slashless, urlAuthority,
    List.takeWhile_append_dropWhile]

theorem urlTail_cases (rest : List Char) :
    urlTail rest = [] ∨ ∃ c tail, urlTail rest = c :: tail ∧ (c = '?' ∨ c = '#') := by
  unfold urlTail
  cases behind : rest.dropWhile (!endsAuthority ·) with
  | nil => exact .inl rfl
  | cons c tail =>
      have stops : endsAuthority c = true := by
        have first := List.head_dropWhile_not (!endsAuthority ·) (l := rest) (by simp [behind])
        simp only [behind, List.head_cons, Bool.not_eq_false'] at first
        exact first
      simp only [endsAuthority, Bool.or_eq_true, decide_eq_true_eq, or_assoc] at stops
      rcases stops with rfl | rfl | rfl
      · exact .inl rfl
      · exact .inr ⟨_, _, rfl, .inl rfl⟩
      · exact .inr ⟨_, _, rfl, .inr rfl⟩

/-- A text with more than digits and dots is not an IPv4 address. -/
theorem passes_of_mem {host : List Char} {c : Char} (colonless : ':' ∉ host) (member : c ∈ host)
    (delimiter : c = '?' ∨ c = '#') :
    passes host = true ↔ looksLikeNumericHost host = false := by
  rw [passes, IpAddr.parse_colonless colonless]
  cases parsed : Ipv4Addr.parse host with
  | none => simp only [Option.map_none, Bool.not_eq_eq_eq_not, Bool.not_true]
  | some ip =>
      have plain := parse_chars parsed c member
      rcases delimiter with rfl | rfl <;> rcases plain with dot | digit
      all_goals contradiction

/-- A literal of a restricted address passes where it slips through, and only there. -/
theorem passes_iff_slips {rest : List Char} {host : UrlHost} {ip : IpAddr}
    (found : authorityHost (urlAuthority rest) = some host) (literal : host.address = some ip)
    (restricted : Restricted ip) :
    (∃ text, hostInner (afterLast '@' (beforeFirst '/' rest)) = some text ∧ passes text = true) ↔
      Slips rest := by
  have delimited := urlTail_cases rest
  rw [beforeFirst_slash]
  unfold Slips
  dsimp only
  generalize urlTail rest = tail at delimited ⊢
  by_cases masked : '@' ∈ tail
  · rw [if_pos masked, afterLast_append_of_mem masked]
  · rw [if_neg masked, afterLast_append_of_not_mem masked]
    unfold authorityHost at found
    split at found
    · rename_i inner bracketed
      split_ifs at found with closed
      cases found
      obtain ⟨address, parsed, same⟩ := Option.map_eq_some_iff.mp literal
      have seen : hostInner ('[' :: inner ++ tail) = some (beforeFirst ']' inner) := by
        rw [List.cons_append, hostInner, if_pos (List.mem_append_left _ closed),
          beforeFirst_append_of_mem closed]
      rw [bracketed, seen]
      simp only [Option.some.injEq, exists_eq_left', passes, IpAddr.parse_v6 parsed,
        Bool.not_eq_eq_eq_not, Bool.not_true]
      cases mapped : address.toIpv4Mapped with
      | some v4 => exact iff_of_true (mapped_passes mapped) ⟨address, v4, parsed, mapped⟩
      | none =>
          rw [mapped] at same
          cases same
          have refused : isRestrictedIp (.v6 address) = true :=
            (isRestrictedIp_iff _).mpr restricted
          refine iff_of_false (fun passed => Bool.false_ne_true (passed ▸ refused)) ?_
          rintro ⟨other, v4, again, inside⟩
          rw [parsed, Option.some.injEq] at again
          rw [← again, mapped] at inside
          cases inside
    · rename_i hostPort plain
      cases found
      generalize afterLast '@' (urlAuthority rest) = hostPort at plain literal ⊢
      obtain ⟨v4, number, rfl⟩ := Option.map_eq_some_iff.mp literal
      have seen : hostInner (hostPort ++ tail) = some (beforeFirst ':' (hostPort ++ tail)) := by
        unfold hostInner
        split
        · rename_i inner bracketed
          cases hostPort with
          | nil =>
              rw [List.nil_append] at bracketed
              rcases delimited with empty | ⟨c, rest, same, question | hash⟩
              · rw [empty] at bracketed
                cases bracketed
              · rw [same, question] at bracketed
                cases bracketed
              · rw [same, hash] at bracketed
                cases bracketed
          | cons c rest =>
              cases bracketed
              exact absurd rfl (plain _)
        · rfl
      simp only [seen, Option.some.injEq, exists_eq_left']
      split
      · rename_i same
        have cut : beforeFirst ':' (hostPort ++ tail) = beforeFirst ':' hostPort := by
          rcases same with empty | port
          · rw [empty, List.append_nil]
          · exact beforeFirst_append_of_mem port
        rw [cut]
        exact passes_of_inetAton (not_mem_beforeFirst ':' hostPort) number restricted
      · rename_i longer
        obtain ⟨nonempty, portless⟩ := not_or.mp longer
        rw [beforeFirst_append_of_not_mem portless]
        obtain ⟨c, rest, rfl, delimiter⟩ := delimited.resolve_left nonempty
        have member : c ∈ hostPort ++ beforeFirst ':' (c :: rest) := by
          refine List.mem_append_right _ ?_
          rcases delimiter with rfl | rfl <;> exact List.mem_cons_self
        refine passes_of_mem (fun colon => ?_) member delimiter
        rcases List.mem_append.mp colon with inside | inside
        · exact portless inside
        · exact not_mem_beforeFirst ':' (c :: rest) inside

end Urls

section Validation

theorem checkHost_ok_iff (host : List Char) : checkHost host = .ok ⟨⟩ ↔ passes host = true := by
  unfold checkHost passes
  split
  · rename_i ip _
    cases isRestrictedIp ip with
    | true => exact iff_of_false nofun nofun
    | false => exact iff_of_true rfl rfl
  · cases looksLikeNumericHost host with
    | true => exact iff_of_false nofun nofun
    | false => exact iff_of_true rfl rfl

theorem validateWebhookUrl_ok_iff {raw : String} {rest : List Char}
    (scheme : afterScheme raw.toList = some rest) :
    validateWebhookUrl raw = .ok ⟨⟩ ↔
      ∃ host, hostInner (afterLast '@' (beforeFirst '/' rest)) = some host ∧
        passes host = true := by
  rw [validateWebhookUrl, scheme]
  dsimp only
  cases hostInner (afterLast '@' (beforeFirst '/' rest)) with
  | none => exact iff_of_false nofun nofun
  | some host => simp only [checkHost_ok_iff, Option.some.injEq, exists_eq_left']

end Validation

/-- A URL that is let through has no literal of a restricted address for a host, just where no
such literal slips through. -/
theorem webhook_target_unrestricted_iff (raw : String) :
    (validateWebhookUrl raw = .ok ⟨⟩ → ¬ TargetsRestricted raw) ↔
      (TargetsRestricted raw → ∀ rest, afterScheme raw.toList = some rest → ¬ Slips rest) := by
  constructor
  · intro safe targets rest scheme slips
    obtain ⟨other, host, ip, scheme', found, literal, restricted⟩ := targets
    obtain rfl : rest = other := Option.some.inj (scheme.symm.trans scheme')
    have passed := (passes_iff_slips found literal restricted).mpr slips
    exact safe ((validateWebhookUrl_ok_iff scheme).mpr passed)
      ⟨rest, host, ip, scheme, found, literal, restricted⟩
  · intro safe passed targets
    obtain ⟨rest, host, ip, scheme, found, literal, restricted⟩ := targets
    refine safe ⟨rest, host, ip, scheme, found, literal, restricted⟩ rest scheme ?_
    exact (passes_iff_slips found literal restricted).mp
      ((validateWebhookUrl_ok_iff scheme).mp passed)

/-- An accepted URL whose host is a loopback literal. -/
theorem restricted_of_loopback {raw : String} (accepted : (validateWebhookUrl raw).isOk = true)
    (target : (afterScheme raw.toList).bind (fun rest =>
      (authorityHost (urlAuthority rest)).bind UrlHost.address) = some (.v4 ⟨127, 0, 0, 1⟩)) :
    validateWebhookUrl raw = .ok ⟨⟩ ∧ TargetsRestricted raw := by
  obtain ⟨rest, scheme, inner⟩ := Option.bind_eq_some_iff.mp target
  obtain ⟨host, found, literal⟩ := Option.bind_eq_some_iff.mp inner
  refine ⟨?_, rest, host, _, scheme, found, literal, (isRestrictedIp_iff _).mp rfl⟩
  cases result : validateWebhookUrl raw with
  | ok _ => rfl
  | error e =>
      rw [result] at accepted
      cases accepted

/-- The loopback address behind a query, in front of an `@` of the query, in an IPv4-mapped
address and with a hexadecimal last part. -/
theorem webhook_reaches_loopback :
    (validateWebhookUrl "http://127.0.0.1?x" = .ok ⟨⟩ ∧
      TargetsRestricted "http://127.0.0.1?x") ∧
    (validateWebhookUrl "http://127.0.0.1?@example.com" = .ok ⟨⟩ ∧
      TargetsRestricted "http://127.0.0.1?@example.com") ∧
    (validateWebhookUrl "http://[::ffff:127.0.0.1]/hook" = .ok ⟨⟩ ∧
      TargetsRestricted "http://[::ffff:127.0.0.1]/hook") ∧
    validateWebhookUrl "http://127.0.0.0x1/hook" = .ok ⟨⟩ ∧
      TargetsRestricted "http://127.0.0.0x1/hook" :=
  ⟨restricted_of_loopback (by decide +kernel) (by decide +kernel),
    restricted_of_loopback (by decide +kernel) (by decide +kernel),
    restricted_of_loopback (by decide +kernel) (by decide +kernel),
    restricted_of_loopback (by decide +kernel) (by decide +kernel)⟩

end LinSight.Alerts
