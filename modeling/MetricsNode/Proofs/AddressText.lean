import MetricsNode.Proofs.AccessGate

/-!
# Address texts read back

Reading an address inverts writing it: `IpAddr.ofString? a.text = some a` for every IPv4 and every
IPv6 address (`IpAddr.ofString?_text`). An address text also holds digits, the hex letters, dots
and colons only (`IpAddr.mem_text`), so it never holds the characters that separate entries of an
address list.

## Numbers

Both families write numbers with `Nat.toDigits`, octets in decimal and segments in hex. Reading
stops at the first character that is no digit. So the digits of a number read back as the number,
as long as the next character is no digit and the number keeps within the reader's bounds: at
most three digits up to 255 for an octet, four hex digits for a segment. The text of a positive
number never starts with a zero, so the ban on leading zeros in octets never bites
(`readNumber_toDigits`).

## Groups

An IPv6 text is a run of colon-separated groups, perhaps with one double colon in it. The group
reader tries an IPv4 address at each group first. A text with no dot never gives one
(`dot_mem_of_readIpv4`). The reader then takes the groups one by one and stops at the end of the
text or before a double colon (`readGroups_hexGroups`). The double colon stands for the first
longest run of zeros, and the scan that finds it keeps an invariant of the segments read so far:
its best and current runs hold zeros only (`longestZeroRun_zeroRun`). So the groups before and
after the double colon, with that many zeros put between them, are the segments again.

## Mapped addresses

An IPv4-mapped address is written `::ffff:a.b.c.d`. After the double colon the reader finds the
group `ffff` and then, with two slots left, the IPv4 address, which fills them.
-/

namespace MetricsNode.Net

/-! ## Digits -/

/-- A radix whose digits are all read back at their values by `digitValue`. -/
def ReadsDigits (b : Nat) : Prop := 1 < b ∧ ∀ d < b, digitValue b d.digitChar = some d

theorem readsDigits_ten : ReadsDigits 10 := ⟨by decide, by decide⟩
theorem readsDigits_sixteen : ReadsDigits 16 := ⟨by decide, by decide⟩

theorem mem_toDigits {b n : Nat} (hb : 1 < b) {c : Char} (hc : c ∈ Nat.toDigits b n) :
    ∃ d < b, c = d.digitChar := by
  induction n using Nat.base_induction b hb with
  | single m hm =>
    rw [Nat.toDigits_of_lt_base hm, List.mem_singleton] at hc
    exact ⟨m, hm, hc⟩
  | digit m k hk hm ih =>
    rw [← Nat.toDigits_append_toDigits hb hm hk, Nat.toDigits_of_lt_base hk, List.mem_append,
      List.mem_singleton] at hc
    rcases hc with hc | rfl
    · exact ih hc
    · exact ⟨k, hk, rfl⟩

theorem digitsValue_append_singleton (b : Nat) (l : List Char) (c : Char) :
    digitsValue b (l ++ [c]) = digitsValue b l * b + (digitValue b c).getD 0 := by
  simp [digitsValue, List.foldl_append]

theorem digitsValue_toDigits {b : Nat} (hb : ReadsDigits b) (n : Nat) :
    digitsValue b (Nat.toDigits b n) = n := by
  induction n using Nat.base_induction b hb.1 with
  | single m hm =>
    rw [Nat.toDigits_of_lt_base hm, ← List.nil_append [_], digitsValue_append_singleton,
      hb.2 m hm]
    simp [digitsValue]
  | digit m k hk hm ih =>
    rw [← Nat.toDigits_append_toDigits hb.1 hm hk, Nat.toDigits_of_lt_base hk,
      digitsValue_append_singleton, ih, hb.2 k hk, Option.getD_some, Nat.mul_comm]

theorem digitChar_ne_zero {d : Nat} (hd : d < 16) (h0 : 0 < d) : d.digitChar ≠ '0' := by
  have key : ∀ d < 16, 0 < d → d.digitChar ≠ '0' := by decide
  exact key d hd h0

/-- The text of a positive number does not start with a zero. -/
theorem head?_toDigits_ne_zero {b n : Nat} (hb : 1 < b) (hb16 : b ≤ 16) (hn : 0 < n) :
    (Nat.toDigits b n).head? ≠ some '0' := by
  induction n using Nat.base_induction b hb with
  | single m hm =>
    rw [Nat.toDigits_of_lt_base hm, List.head?_cons, ne_eq, Option.some.injEq]
    exact digitChar_ne_zero (by omega) hn
  | digit m k hk hm ih =>
    rw [← Nat.toDigits_append_toDigits hb hm hk]
    cases h : Nat.toDigits b m with
    | nil => exact absurd h Nat.toDigits_ne_nil
    | cons x xs =>
      rw [h] at ih
      simpa using ih hm

theorem takeWhile_digits {b : Nat} (hb : ReadsDigits b) (n : Nat) {rest : List Char}
    (hrest : ∀ c ∈ rest.head?, digitValue b c = none) :
    (Nat.toDigits b n ++ rest).takeWhile (fun c => (digitValue b c).isSome) = Nat.toDigits b n := by
  rw [List.takeWhile_append_of_pos]
  · cases rest with
    | nil => simp
    | cons c r =>
      have hc : digitValue b c = none := hrest c rfl
      simp [hc]
  · intro c hc
    obtain ⟨d, hd, rfl⟩ := mem_toDigits hb.1 hc
    simp [hb.2 d hd]

/-- **Reading a number back.** The digits of a number within the limit and the length bound, before
a character that is not a digit, read back as the number. -/
theorem readNumber_toDigits {b n limit : Nat} {maxDigits : Option Nat} {zeroPrefix : Bool}
    {rest : List Char} (hb : ReadsDigits b) (hb16 : b ≤ 16) (hn : n ≤ limit)
    (hlen : ∀ m ∈ maxDigits, (Nat.toDigits b n).length ≤ m)
    (hrest : ∀ c ∈ rest.head?, digitValue b c = none) :
    readNumber b maxDigits zeroPrefix limit (Nat.toDigits b n ++ rest) = some (n, rest) := by
  -- a zero stands first only in the text of zero, which has one digit
  have hzero : ((Nat.toDigits b n).head? == some '0' && decide (1 < (Nat.toDigits b n).length)) =
      false := by
    rcases Nat.eq_zero_or_pos n with rfl | hpos
    · simp [Nat.toDigits_zero]
    · simp [head?_toDigits_ne_zero hb.1 hb16 hpos]
  have htake := takeWhile_digits hb n hrest
  unfold readNumber
  cases maxDigits with
  | none =>
    simp [htake, Bool.and_assoc, hzero, digitsValue_toDigits hb, Nat.not_lt.2 hn]
  | some m =>
    have hm := hlen m rfl
    simp [htake, Bool.and_assoc, hzero, digitsValue_toDigits hb, Nat.not_lt.2 hn, Nat.not_lt.2 hm]

/-! ## IPv4 texts -/

theorem Ipv4.exists_octets (a : Ipv4) : ∃ o₀ o₁ o₂ o₃, a = ⟨#v[o₀, o₁, o₂, o₃]⟩ := by
  obtain ⟨⟨⟨l⟩, hl⟩⟩ := a
  match l, hl with
  | [o₀, o₁, o₂, o₃], _ => exact ⟨o₀, o₁, o₂, o₃, rfl⟩

theorem readOctet_toDigits (o : UInt8) {rest : List Char}
    (hrest : ∀ c ∈ rest.head?, digitValue 10 c = none) :
    readOctet (Nat.toDigits 10 o.toNat ++ rest) = some (o, rest) := by
  have hlt := o.toNat_lt
  have hlen : (Nat.toDigits 10 o.toNat).length ≤ 3 :=
    (Nat.length_toDigits_le_iff (by decide) (by decide)).2 (by omega)
  rw [readOctet, readNumber_toDigits readsDigits_ten (by decide) (by omega) (by simpa using hlen)
    hrest]
  simp

theorem Ipv4.text_toList (o₀ o₁ o₂ o₃ : UInt8) :
    (Ipv4.text ⟨#v[o₀, o₁, o₂, o₃]⟩).toList =
      Nat.toDigits 10 o₀.toNat ++ '.' :: (Nat.toDigits 10 o₁.toNat ++ '.' ::
        (Nat.toDigits 10 o₂.toNat ++ '.' :: Nat.toDigits 10 o₃.toNat)) := by
  simp [Ipv4.text]

/-- **An IPv4 text reads back**, before anything that is not a digit. -/
theorem readIpv4_text (a : Ipv4) (rest : List Char)
    (hrest : ∀ c ∈ rest.head?, digitValue 10 c = none) :
    readIpv4 (a.text.toList ++ rest) = some (a, rest) := by
  obtain ⟨o₀, o₁, o₂, o₃, rfl⟩ := Ipv4.exists_octets a
  -- each of the first three octets stops at the dot after it
  have hdot : ∀ (o : UInt8) (r : List Char),
      readOctet (Nat.toDigits 10 o.toNat ++ '.' :: r) = some (o, '.' :: r) :=
    fun o r => readOctet_toDigits o fun c hc => by cases hc; decide
  simp only [Ipv4.text_toList, List.append_assoc, List.cons_append]
  simp [readIpv4, hdot, readOctet_toDigits _ hrest, readChar]

/-! ## Where an IPv4 address cannot start -/

theorem readNumber_eq_none {b : Nat} {maxDigits : Option Nat} {zeroPrefix : Bool} {limit : Nat}
    {cs : List Char} (h : ∀ c ∈ cs.head?, digitValue b c = none) :
    readNumber b maxDigits zeroPrefix limit cs = none := by
  have htake : cs.takeWhile (fun c => (digitValue b c).isSome) = [] := by
    cases cs with
    | nil => rfl
    | cons c r => simp [h c rfl]
  unfold readNumber
  simp [htake]

theorem readNumber_suffix {b : Nat} {maxDigits : Option Nat} {zeroPrefix : Bool} {limit v : Nat}
    {cs r : List Char} (h : readNumber b maxDigits zeroPrefix limit cs = some (v, r)) :
    r <:+ cs := by
  simp only [readNumber, Option.ite_none_left_eq_some, Option.some.injEq, Prod.mk.injEq] at h
  obtain ⟨-, -, -, -, rfl⟩ := h
  exact List.drop_suffix _ _

theorem readChar_eq_some {c : Char} {cs r : List Char} : readChar c cs = some r ↔ cs = c :: r := by
  cases cs with
  | nil => simp [readChar]
  | cons d ds =>
    simp only [readChar, beq_iff_eq, List.cons.injEq]
    split <;> simp_all [eq_comm]

/-- An IPv4 address is read only from a text with a dot in it. -/
theorem dot_mem_of_readIpv4 {cs : List Char} {p : Ipv4 × List Char} (h : readIpv4 cs = some p) :
    '.' ∈ cs := by
  simp only [readIpv4, Option.bind_eq_bind, Option.bind_eq_some_iff] at h
  obtain ⟨⟨a, r⟩, ha, r', hr', -⟩ := h
  have hsuf : r <:+ cs := by
    simp only [readOctet, Option.map_eq_some_iff] at ha
    obtain ⟨⟨v, r₀⟩, hv, he⟩ := ha
    cases he
    exact readNumber_suffix hv
  have hr : r = '.' :: r' := readChar_eq_some.1 hr'
  exact hsuf.subset (hr ▸ List.mem_cons_self)

/-- An IPv4 address is not read from a text that does not start with a digit. -/
theorem readIpv4_eq_none {cs : List Char} (h : ∀ c ∈ cs.head?, digitValue 10 c = none) :
    readIpv4 cs = none := by
  simp [readIpv4, readOctet, readNumber_eq_none h]

theorem readIpv4_eq_none_of_dot {cs : List Char} (h : '.' ∉ cs) : readIpv4 cs = none := by
  cases hr : readIpv4 cs with
  | none => rfl
  | some p => exact absurd (dot_mem_of_readIpv4 hr) h

/-! ## IPv6 groups -/

theorem digitValue_colon (b : Nat) : digitValue b ':' = none := rfl

theorem dot_not_mem_toDigits (n : Nat) : '.' ∉ Nat.toDigits 16 n := by
  intro h
  obtain ⟨d, hd, hc⟩ := mem_toDigits (by decide) h
  have key : ∀ d < 16, d.digitChar ≠ '.' := by decide
  exact key d hd hc.symm

/-- The text of a run of groups, each after a colon. -/
theorem head?_colonGroups {ss : List UInt16} {rest : List Char}
    (hstop : rest = [] ∨ ∃ r, rest = ':' :: ':' :: r) :
    ∀ c ∈ (ss.flatMap (fun s => ':' :: Nat.toDigits 16 s.toNat) ++ rest).head?, c = ':' := by
  cases ss with
  | cons s ss => simp
  | nil =>
    rcases hstop with rfl | ⟨r, rfl⟩ <;> simp

theorem dot_not_mem_colonGroups (ss : List UInt16) :
    '.' ∉ ss.flatMap (fun s => ':' :: Nat.toDigits 16 s.toNat) := by
  simp only [List.mem_flatMap, List.mem_cons, not_exists, not_and, not_or]
  exact fun s _ => ⟨by decide, dot_not_mem_toDigits _⟩

theorem readNumber_hexText (s : UInt16) (rest : List Char)
    (hrest : ∀ c ∈ rest.head?, c = ':') :
    readNumber 16 (some 4) true 0xFFFF (Nat.toDigits 16 s.toNat ++ rest) = some (s.toNat, rest) := by
  have hlt := s.toNat_lt
  have hlen : (Nat.toDigits 16 s.toNat).length ≤ 4 :=
    (Nat.length_toDigits_le_iff (by decide) (by decide)).2 (by omega)
  exact readNumber_toDigits readsDigits_sixteen (by decide) (by omega) (by simpa using hlen)
    fun c hc => hrest c hc ▸ digitValue_colon 16

/-- Groups hold no dot, so no IPv4 address is read from them when no dot follows. -/
theorem readIpv4_groups (s : UInt16) (ss : List UInt16) {rest : List Char} (hdot : '.' ∉ rest) :
    readIpv4 (Nat.toDigits 16 s.toNat ++
      (ss.flatMap (fun s => ':' :: Nat.toDigits 16 s.toNat) ++ rest)) = none := by
  apply readIpv4_eq_none_of_dot
  simp only [List.mem_append, not_or]
  exact ⟨dot_not_mem_toDigits _, dot_not_mem_colonGroups ss, hdot⟩

/-- A reader of groups stops at the end of the text and before a double colon. -/
theorem readGroups_of_stop (k : Nat) (first : Bool) {rest : List Char}
    (hstop : rest = [] ∨ ∃ r, rest = ':' :: ':' :: r) :
    readGroups k first rest = ([], false, rest) := by
  cases k with
  | zero => rfl
  | succ k =>
    -- neither an IPv4 address nor a group starts at a colon or at the end
    have hcolon : ∀ (b : Nat) (r : List Char), ∀ c ∈ (':' :: r).head?, digitValue b c = none :=
      fun b r c hc => by cases hc; exact digitValue_colon b
    have hv4 : ∀ r, readIpv4 (':' :: r) = none := fun r => readIpv4_eq_none (hcolon 10 r)
    have hv4nil : readIpv4 [] = none := readIpv4_eq_none (by simp)
    have hgroup : ∀ r, readNumber 16 (some 4) true 0xFFFF (':' :: r) = none :=
      fun r => readNumber_eq_none (hcolon 16 r)
    have hgroupnil : readNumber 16 (some 4) true 0xFFFF [] = none := readNumber_eq_none (by simp)
    rcases hstop with rfl | ⟨r, rfl⟩ <;> cases first <;>
      simp [readGroups, readChar, hv4, hv4nil, hgroup, hgroupnil]

/-- **Groups after colons read back**, up to a stop. -/
theorem readGroups_colonGroups (k : Nat) (ss : List UInt16) {rest : List Char}
    (hk : ss.length ≤ k) (hstop : rest = [] ∨ ∃ r, rest = ':' :: ':' :: r) (hdot : '.' ∉ rest) :
    readGroups k false (ss.flatMap (fun s => ':' :: Nat.toDigits 16 s.toNat) ++ rest) =
      (ss.map UInt16.toNat, false, rest) := by
  induction ss generalizing k with
  | nil => exact readGroups_of_stop k false hstop
  | cons s ss ih =>
    have hk' : ss.length + 1 ≤ k := hk
    obtain ⟨k, rfl⟩ : ∃ k', k = k' + 1 := ⟨k - 1, by omega⟩
    simp [readGroups, readChar, readIpv4_groups s ss hdot,
      readNumber_hexText s _ (head?_colonGroups hstop), ih k (by omega)]

/-- The groups of a nonempty run, the first without a colon, read back up to a stop. -/
theorem readGroups_groups {k : Nat} (s : UInt16) (ss : List UInt16) {rest : List Char}
    (hk : ss.length + 1 ≤ k) (hstop : rest = [] ∨ ∃ r, rest = ':' :: ':' :: r) (hdot : '.' ∉ rest) :
    readGroups k true (Nat.toDigits 16 s.toNat ++
        (ss.flatMap (fun s => ':' :: Nat.toDigits 16 s.toNat) ++ rest)) =
      (s.toNat :: ss.map UInt16.toNat, false, rest) := by
  obtain ⟨k, rfl⟩ : ∃ k', k = k' + 1 := ⟨k - 1, by omega⟩
  simp [readGroups, readIpv4_groups s ss hdot, readNumber_hexText s _ (head?_colonGroups hstop),
    readGroups_colonGroups k ss (by omega) hstop hdot]

/-! ## The longest run of zero segments -/

/-- A property of the part of a list read so far, which each step keeps, holds once the fold has
read the whole list. -/
theorem foldl_prefix_invariant {α β : Type} {f : β → α → β} {init : β} (P : List α → β → Prop)
    (h₀ : P [] init) (hstep : ∀ l a b, P l b → P (l ++ [a]) (f b a)) (l : List α) :
    P l (l.foldl f init) := by
  -- read the list from the front, carrying the part already read
  suffices h : ∀ p b, P p b → P (p ++ l) (l.foldl f b) from h [] init h₀
  induction l with
  | nil => simp
  | cons a l ih =>
    intro p b h
    rw [List.foldl_cons, ← List.singleton_append, ← List.append_assoc]
    exact ih (p ++ [a]) (f b a) (hstep p a b h)

/-- A run of zeros in a list, as a start and a length: it lies within the list and holds zeros
only. -/
def ZeroRun (l : List UInt16) (r : Nat × Nat) : Prop :=
  r.1 + r.2 ≤ l.length ∧ (l.drop r.1).take r.2 = List.replicate r.2 0

theorem zeroRun_empty (l : List UInt16) (s : Nat) (hs : s ≤ l.length) : ZeroRun l (s, 0) :=
  ⟨by simpa using hs, by simp⟩

theorem ZeroRun.append {l : List UInt16} {r : Nat × Nat} (h : ZeroRun l r) (m : List UInt16) :
    ZeroRun (l ++ m) r := by
  obtain ⟨hle, hz⟩ := h
  refine ⟨by simp; omega, ?_⟩
  rw [List.drop_append_of_le_length (by omega), List.take_append_of_le_length (by simp; omega), hz]

/-- A run that ends where the list ends grows by a zero put after it. -/
theorem ZeroRun.extend {l : List UInt16} {s n : Nat} (h : ZeroRun l (s, n))
    (hend : s + n = l.length) : ZeroRun (l ++ [0]) (s, n + 1) := by
  obtain ⟨-, hz⟩ := h
  refine ⟨by simp; omega, ?_⟩
  have htake : (l.drop s).take n = l.drop s := List.take_of_length_le (by simp; omega)
  rw [List.drop_append_of_le_length (by omega), List.replicate_succ', ← hz, htake,
    List.take_of_length_le (by simp; omega)]

theorem zeroRun_last (l : List UInt16) : ZeroRun (l ++ [0]) (l.length, 1) :=
  ⟨by simp, by simp⟩

/-- Where the scan of `longestZeroRun` stands: the best run and the current run are runs of zeros
of the segments read so far, and the current one, unless empty, ends at the last of them. -/
def ScanState (l : List UInt16) (acc : (Nat × Nat) × (Nat × Nat) × Nat) : Prop :=
  acc.2.2 = l.length ∧ ZeroRun l acc.1 ∧ ZeroRun l acc.2.1 ∧
    (acc.2.1.2 = 0 ∨ acc.2.1.1 + acc.2.1.2 = l.length)

/-- **The longest zero run is a run of zeros** of the segments. -/
theorem longestZeroRun_zeroRun (segs : List UInt16) : ZeroRun segs (longestZeroRun segs) := by
  unfold longestZeroRun
  refine (foldl_prefix_invariant ScanState ⟨rfl, zeroRun_empty [] 0 (Nat.le_refl 0),
    zeroRun_empty [] 0 (Nat.le_refl 0), .inl rfl⟩ ?_ segs).2.1
  rintro l a ⟨best, cur, i⟩ ⟨hi, hbest, hcur, hend⟩
  dsimp only at hi hbest hcur hend ⊢
  subst hi
  by_cases ha : a = 0
  · subst ha
    rw [if_pos rfl]
    -- a zero starts a run or extends the current one, which may then become the best
    generalize hnew : (if cur.2 = 0 then (l.length, 1) else (cur.1, cur.2 + 1)) = cur'
    have hcur' : ZeroRun (l ++ [0]) cur' ∧ cur'.1 + cur'.2 = l.length + 1 := by
      subst hnew
      split
      · exact ⟨zeroRun_last l, rfl⟩
      · rename_i hne
        have hends := hend.resolve_left hne
        exact ⟨ZeroRun.extend hcur hends, by dsimp only; omega⟩
    refine ⟨by simp, ?_, hcur'.1, .inr (by simpa using hcur'.2)⟩
    split
    · exact hcur'.1
    · exact hbest.append [0]
  · rw [if_neg ha]
    exact ⟨by simp, hbest.append [a], zeroRun_empty _ 0 (Nat.zero_le _), .inl rfl⟩

/-- Cutting a run of zeros out of a list and putting it back gives the list. -/
theorem ZeroRun.eq_split {l : List UInt16} {s n : Nat} (h : ZeroRun l (s, n)) :
    l = l.take s ++ List.replicate n 0 ++ l.drop (s + n) := by
  obtain ⟨-, hz⟩ := h
  dsimp only at hz
  rw [← hz, List.append_assoc, ← List.drop_drop, List.take_append_drop, List.take_append_drop]

/-! ## IPv6 texts -/

theorem intercalate_groups (s : UInt16) (ss : List UInt16) :
    [':'].intercalate ((s :: ss).map fun t => Nat.toDigits 16 t.toNat) =
      Nat.toDigits 16 s.toNat ++ ss.flatMap (fun t => ':' :: Nat.toDigits 16 t.toNat) := by
  induction ss generalizing s with
  | nil => simp
  | cons t ts ih =>
    have ht := ih t
    rw [List.map_cons] at ht
    rw [List.map_cons, List.map_cons, List.intercalate_cons_cons, ht]
    simp

theorem hexGroups_toList (segs : List UInt16) :
    (hexGroups segs).toList = [':'].intercalate (segs.map fun s => Nat.toDigits 16 s.toNat) := by
  simp [hexGroups, String.toList_intercalate, Function.comp_def]

theorem dot_not_mem_hexGroups (segs : List UInt16) : '.' ∉ (hexGroups segs).toList := by
  rw [hexGroups_toList]
  cases segs with
  | nil => simp
  | cons s ss =>
    rw [intercalate_groups, List.mem_append, not_or]
    exact ⟨dot_not_mem_toDigits _, dot_not_mem_colonGroups ss⟩

/-- **Written groups read back**, up to a stop. -/
theorem readGroups_hexGroups (k : Nat) (segs : List UInt16) (rest : List Char)
    (hk : segs.length ≤ k) (hstop : rest = [] ∨ ∃ r, rest = ':' :: ':' :: r) (hdot : '.' ∉ rest) :
    readGroups k true ((hexGroups segs).toList ++ rest) = (segs.map UInt16.toNat, false, rest) := by
  rw [hexGroups_toList]
  cases segs with
  | nil => exact readGroups_of_stop k true hstop
  | cons s ss =>
    rw [intercalate_groups, List.append_assoc]
    exact readGroups_groups s ss hk hstop hdot

theorem toSegmentVector_toList (v : Vector UInt16 8) :
    toSegmentVector (v.toList.map UInt16.toNat) = v := by
  apply Vector.ext
  intro i hi
  simp [toSegmentVector, hi]

/-- Eight groups, none left out, read back. -/
theorem readIpv6_full (v : Vector UInt16 8) :
    readIpv6 (hexGroups v.toList).toList = some (⟨v⟩, []) := by
  have hread := readGroups_hexGroups 8 v.toList [] (by simp) (.inl rfl) (by simp)
  rw [List.append_nil] at hread
  simp [readIpv6, hread, toSegmentVector_toList]

/-- Groups with a run of at least two zeros written as a double colon read back. -/
theorem readIpv6_compressed (v : Vector UInt16 8) {s n : Nat} (hrun : ZeroRun v.toList (s, n))
    (hn : 1 < n) :
    readIpv6 ((hexGroups (v.toList.take s)).toList ++
      ':' :: ':' :: (hexGroups (v.toList.drop (s + n))).toList) = some (⟨v⟩, []) := by
  have hle : s + n ≤ 8 := by simpa using hrun.1
  have hhead := readGroups_hexGroups 8 (v.toList.take s)
    (':' :: ':' :: (hexGroups (v.toList.drop (s + n))).toList)
    (by simp only [List.length_take, Vector.length_toList]; omega)
    (.inr ⟨_, rfl⟩) (by simpa using dot_not_mem_hexGroups _)
  have htail := readGroups_hexGroups (8 - (s + 1)) (v.toList.drop (s + n)) []
    (by simp only [List.length_drop, Vector.length_toList]; omega) (.inl rfl) (by simp)
  rw [List.append_nil] at htail
  have hgap : 8 - s - (8 - (s + n)) = n := by omega
  have hsplit := hrun.eq_split
  have hs : ((v.toList.take s).map UInt16.toNat).length = s := by simp; omega
  have hs8 : (s == 8) = false := by simp; omega
  simp only [readIpv6, hhead, hs, hs8, Bool.false_eq_true, ↓reduceIte, readChar, BEq.rfl,
    Option.bind_eq_bind, Option.bind_some, htail, List.length_map, List.length_drop,
    Vector.length_toList, hgap]
  -- the groups read, with the run put back, are the segments
  have hgs : (v.toList.take s).map UInt16.toNat ++ List.replicate n 0 ++
      (v.toList.drop (s + n)).map UInt16.toNat = v.toList.map UInt16.toNat := by
    conv => rhs; rw [hsplit]
    simp
  rw [hgs, toSegmentVector_toList]
  rfl

theorem toSegmentVector_getElem (gs : List Nat) (i : Nat) (hi : i < 8) :
    (toSegmentVector gs)[i] = (gs.getD i 0).toUInt16 := by
  simp [toSegmentVector]

/-- The segments a mapped address reads back as. -/
theorem toSegmentVector_mapped (b : Ipv4) :
    toSegmentVector (0 :: 0 :: 0 :: 0 :: 0 :: 0xFFFF :: b.toSegments) = b.toIpv6Mapped.segments := by
  obtain ⟨o₀, o₁, o₂, o₃, rfl⟩ := Ipv4.exists_octets b
  -- two octets joined as numbers are the segment joined from them
  have hjoin : ∀ hi lo : UInt8,
      (hi.toNat * 256 + lo.toNat).toUInt16 = hi.toUInt16 * 256 + lo.toUInt16 := by
    intro hi lo
    apply UInt16.toNat_inj.1
    simp [UInt16.toNat_add, UInt16.toNat_mul]
  apply Vector.ext
  intro i hi
  rw [toSegmentVector_getElem _ i hi]
  by_cases hfixed : i < 6
  · -- five zeros and `ffff`
    obtain rfl | rfl | rfl | rfl | rfl | rfl :
      i = 0 ∨ i = 1 ∨ i = 2 ∨ i = 3 ∨ i = 4 ∨ i = 5 := by omega
    all_goals rfl
  · obtain rfl | rfl : i = 6 ∨ i = 7 := by omega
    · exact hjoin o₀ o₁
    · exact hjoin o₂ o₃

/-- After the double colon of a mapped address: the group `ffff`, then the IPv4 address. -/
theorem readGroups_mappedTail (b : Ipv4) :
    readGroups 7 true ('f' :: 'f' :: 'f' :: 'f' :: ':' :: b.text.toList) =
      (0xFFFF :: b.toSegments, true, []) := by
  have hffff : Nat.toDigits 16 (0xFFFF : UInt16).toNat = ['f', 'f', 'f', 'f'] := by decide
  have hnum : readNumber 16 (some 4) true 0xFFFF ('f' :: 'f' :: 'f' :: 'f' :: ':' :: b.text.toList) =
      some (0xFFFF, ':' :: b.text.toList) := by
    have h := readNumber_hexText (0xFFFF : UInt16) (':' :: b.text.toList) (by simp)
    rwa [hffff] at h
  have hno4 : readIpv4 ('f' :: 'f' :: 'f' :: 'f' :: ':' :: b.text.toList) = none :=
    readIpv4_eq_none fun c hc => by cases hc; decide
  have hv4 : readIpv4 b.text.toList = some (b, []) := by
    simpa using readIpv4_text b [] (by simp)
  -- the IPv4 address takes the last two of the six slots left
  have hrest : readGroups 6 false (':' :: b.text.toList) = (b.toSegments, true, []) := by
    rw [readGroups.eq_2]
    simp [readChar, hv4]
  rw [readGroups.eq_2]
  simp [hno4, hnum, hrest]

theorem readIpv6_mapped (b : Ipv4) :
    readIpv6 ("::ffff:" ++ b.text).toList = some (b.toIpv6Mapped, []) := by
  have htext : ("::ffff:" ++ b.text).toList =
      ':' :: ':' :: 'f' :: 'f' :: 'f' :: 'f' :: ':' :: b.text.toList := by
    simp [String.toList_append]
  have hhead := readGroups_of_stop 8 true (.inr ⟨_, htext⟩)
  have hlen : b.toSegments.length = 2 := rfl
  rw [htext] at hhead ⊢
  simp only [readIpv6, hhead, List.length_nil, readChar]
  simp [readGroups_mappedTail, hlen]
  rw [toSegmentVector_mapped]

/-- The written forms of an IPv6 address: an IPv4-mapped one, one with its first longest run of at
least two zeros written as a double colon, or all eight groups. -/
theorem Ipv6.text_cases (a : Ipv6) :
    (∃ b : Ipv4, a = b.toIpv6Mapped ∧ a.text = "::ffff:" ++ b.text) ∨
    (∃ s n, ZeroRun a.segments.toList (s, n) ∧ 1 < n ∧
      a.text.toList = (hexGroups (a.segments.toList.take s)).toList ++
        ':' :: ':' :: (hexGroups (a.segments.toList.drop (s + n))).toList) ∨
    a.text = hexGroups a.segments.toList := by
  cases hm : a.toMapped? with
  | some b =>
    exact .inl ⟨b, Ipv6.toMapped?_eq_some_iff.1 hm, by simp [Ipv6.text, hm]⟩
  | none =>
    right
    have hrun := longestZeroRun_zeroRun a.segments.toList
    rcases hz : longestZeroRun a.segments.toList with ⟨s, n⟩
    rw [hz] at hrun
    by_cases hn : 1 < n
    · exact .inl ⟨s, n, hrun, hn, by simp [Ipv6.text, hm, hz, hn, String.toList_append]⟩
    · exact .inr (by simp [Ipv6.text, hm, hz, hn])

/-- **An IPv6 text reads back.** -/
theorem readIpv6_text (a : Ipv6) : readIpv6 a.text.toList = some (a, []) := by
  rcases Ipv6.text_cases a with ⟨b, rfl, htext⟩ | ⟨s, n, hrun, hn, htext⟩ | htext
  · rw [htext]
    exact readIpv6_mapped b
  · rw [htext]
    exact readIpv6_compressed a.segments hrun hn
  · rw [htext]
    exact readIpv6_full a.segments

/-- An IPv6 text is never read as an IPv4 address: it starts with a colon or has no dot. -/
theorem readIpv4_ipv6Text (a : Ipv6) : readIpv4 a.text.toList = none := by
  rcases Ipv6.text_cases a with ⟨b, -, htext⟩ | ⟨s, n, -, -, htext⟩ | htext
  · apply readIpv4_eq_none
    simp [htext, String.toList_append]
    decide
  · apply readIpv4_eq_none_of_dot
    rw [htext]
    simp only [List.mem_append, List.mem_cons, not_or]
    exact ⟨dot_not_mem_hexGroups _, by decide, by decide, dot_not_mem_hexGroups _⟩
  · exact readIpv4_eq_none_of_dot (htext ▸ dot_not_mem_hexGroups _)

/-! ## IP addresses -/

/-- **Reading inverts writing** for IP addresses of both families. -/
theorem IpAddr.ofString?_text (a : IpAddr) : IpAddr.ofString? a.text = some a := by
  cases a with
  | v4 b =>
    have h := readIpv4_text b [] (by simp)
    rw [List.append_nil] at h
    simp [IpAddr.ofString?, readAll, IpAddr.text, readIp, h]
  | v6 b =>
    simp [IpAddr.ofString?, readAll, IpAddr.text, readIp, readIpv4_ipv6Text, readIpv6_text]

/-! ## The characters of an address text -/

theorem mem_hexGroups {segs : List UInt16} {c : Char} (h : c ∈ (hexGroups segs).toList) :
    c = ':' ∨ ∃ d < 16, c = d.digitChar := by
  rw [hexGroups_toList] at h
  cases segs with
  | nil => simp at h
  | cons s ss =>
    rw [intercalate_groups, List.mem_append, List.mem_flatMap] at h
    rcases h with h | ⟨t, -, h⟩
    · exact .inr (mem_toDigits (by decide) h)
    · rcases List.mem_cons.1 h with h | h
      · exact .inl h
      · exact .inr (mem_toDigits (by decide) h)

theorem Ipv4.mem_text {a : Ipv4} {c : Char} (h : c ∈ a.text.toList) :
    c = '.' ∨ ∃ d < 16, c = d.digitChar := by
  obtain ⟨o₀, o₁, o₂, o₃, rfl⟩ := Ipv4.exists_octets a
  have hdigit : ∀ o : UInt8, c ∈ Nat.toDigits 10 o.toNat → ∃ d < 16, c = d.digitChar := by
    intro o ho
    obtain ⟨d, hd, rfl⟩ := mem_toDigits (by decide) ho
    exact ⟨d, by omega, rfl⟩
  simp only [Ipv4.text_toList, List.mem_append, List.mem_cons] at h
  -- four octets and the three dots between them
  rcases h with h | h | h | h | h | h | h
  · exact .inr (hdigit _ h)
  · exact .inl h
  · exact .inr (hdigit _ h)
  · exact .inl h
  · exact .inr (hdigit _ h)
  · exact .inl h
  · exact .inr (hdigit _ h)

/-- An address text holds digits, the hex letters, dots and colons only. -/
theorem IpAddr.mem_text {a : IpAddr} {c : Char} (h : c ∈ a.text.toList) :
    c = '.' ∨ c = ':' ∨ ∃ d < 16, c = d.digitChar := by
  cases a with
  | v4 b =>
    rcases Ipv4.mem_text h with h | h
    · exact .inl h
    · exact .inr (.inr h)
  | v6 b =>
    have hgroups : ∀ segs : List UInt16, c ∈ (hexGroups segs).toList →
        c = '.' ∨ c = ':' ∨ ∃ d < 16, c = d.digitChar :=
      fun _ hc => .inr (mem_hexGroups hc)
    rcases Ipv6.text_cases b with ⟨v, -, htext⟩ | ⟨s, n, -, -, htext⟩ | htext
    · rw [IpAddr.text, htext, String.toList_append, List.mem_append] at h
      rcases h with h | h
      · -- the prefix `::ffff:`
        have hf : c = ':' ∨ c = 'f' ∨ c = ':' := by simpa using h
        rcases hf with rfl | rfl | rfl
        · exact .inr (.inl rfl)
        · exact .inr (.inr ⟨15, by decide, rfl⟩)
        · exact .inr (.inl rfl)
      · rcases Ipv4.mem_text h with h | h
        · exact .inl h
        · exact .inr (.inr h)
    · rw [IpAddr.text, htext, List.mem_append, List.mem_cons, List.mem_cons] at h
      rcases h with h | h | h | h
      · exact hgroups _ h
      · exact .inr (.inl h)
      · exact .inr (.inl h)
      · exact hgroups _ h
    · rw [IpAddr.text, htext] at h
      exact hgroups _ h

end MetricsNode.Net
