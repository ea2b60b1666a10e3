import MetricsNode.Node.Access

/-!
# Who the access rule lets in

An allow list admits a peer when one of its entries is the peer's IP address, or is an IPv4
address `a` while the peer comes as the IPv4-mapped IPv6 address `::ffff:a`. The code gets
there another way: it decodes the mapped address of the peer (`Ipv6.toMapped?`) and compares
it with the IPv4 entries. The two agree because decoding inverts `Ipv4.toIpv6Mapped`
(`Ipv6.toMapped?_eq_some_iff`), which comes down to splitting a 16-bit segment into its two
bytes and joining them again.

From the description of one entry (`AccessRule.admits_iff`) follow the properties of a whole
list: the answer depends only on the peer's IP address and on the set of entries, grows with the
list, is always no for the empty list, and for an IPv4 peer is yes exactly when its own address
is listed.
-/

namespace MetricsNode

open Net

/-! ## A segment and its two bytes -/

namespace Net

theorem highByte_join (hi lo : UInt8) : ((hi.toUInt16 * 256 + lo.toUInt16) >>> 8).toUInt8 = hi := by
  apply UInt8.toNat_inj.1
  simp [UInt16.toNat_shiftRight, UInt16.toNat_add, UInt16.toNat_mul]
  have := hi.toNat_lt
  have := lo.toNat_lt
  omega

theorem lowByte_join (hi lo : UInt8) : (hi.toUInt16 * 256 + lo.toUInt16).toUInt8 = lo := by
  apply UInt8.toNat_inj.1
  simp

theorem join_bytes (s : UInt16) : (s >>> 8).toUInt8.toUInt16 * 256 + s.toUInt8.toUInt16 = s := by
  apply UInt16.toNat_inj.1
  simp [UInt16.toNat_shiftRight, UInt16.toNat_add, UInt16.toNat_mul]
  have := s.toNat_lt
  omega

/-! ## Mapped addresses -/

theorem Ipv6.toMapped?_toIpv6Mapped (a : Ipv4) : a.toIpv6Mapped.toMapped? = some a := by
  obtain ⟨v⟩ := a
  simp only [Ipv6.toMapped?, Ipv4.toIpv6Mapped]
  simp only [Vector.getElem_mk, List.getElem_toArray, List.getElem_cons_zero,
    List.getElem_cons_succ, highByte_join, lowByte_join]
  simp only [decide_true, Bool.and_self, if_true, Option.some.injEq, Ipv4.mk.injEq]
  -- the four bytes read back are the octets, one index at a time
  refine Vector.ext fun i hi => ?_
  obtain rfl | rfl | rfl | rfl : i = 0 ∨ i = 1 ∨ i = 2 ∨ i = 3 := by omega
  all_goals rfl

theorem Ipv6.eq_toIpv6Mapped_of_toMapped? {b : Ipv6} {a : Ipv4} (h : b.toMapped? = some a) :
    b = a.toIpv6Mapped := by
  obtain ⟨v⟩ := b
  simp only [Ipv6.toMapped?] at h
  split at h
  case isFalse => cases h
  case isTrue hc =>
    cases h
    simp only [Bool.and_eq_true, decide_eq_true_eq] at hc
    obtain ⟨⟨⟨⟨⟨h0, h1⟩, h2⟩, h3⟩, h4⟩, h5⟩ := hc
    simp only [Ipv4.toIpv6Mapped, Ipv6.mk.injEq]
    -- the first six segments are fixed by the test, the last two are joined from their bytes
    ext i hi
    obtain rfl | rfl | rfl | rfl | rfl | rfl | rfl | rfl :
      i = 0 ∨ i = 1 ∨ i = 2 ∨ i = 3 ∨ i = 4 ∨ i = 5 ∨ i = 6 ∨ i = 7 := by omega
    all_goals simp only [Vector.getElem_mk, List.getElem_toArray, List.getElem_cons_zero,
      List.getElem_cons_succ, join_bytes, h0, h1, h2, h3, h4, h5]

/-- Decoding a mapped address inverts mapping. -/
theorem Ipv6.toMapped?_eq_some_iff {b : Ipv6} {a : Ipv4} :
    b.toMapped? = some a ↔ b = a.toIpv6Mapped :=
  ⟨Ipv6.eq_toIpv6Mapped_of_toMapped?, fun h => h ▸ Ipv6.toMapped?_toIpv6Mapped a⟩

theorem Ipv4.toIpv6Mapped_inj {a a' : Ipv4} (h : a.toIpv6Mapped = a'.toIpv6Mapped) : a = a' := by
  have := Ipv6.toMapped?_toIpv6Mapped a
  rwa [h, Ipv6.toMapped?_toIpv6Mapped, Option.some.injEq, eq_comm] at this

end Net

/-! ## One entry, then a list -/

namespace AccessRule

/-- An entry admits its own address, and an IPv4 entry also the address mapped from it. -/
theorem admits_iff (e ip : IpAddr) :
    admits e ip = true ↔ e = ip ∨ ∃ a, e = .v4 a ∧ ip = .v6 a.toIpv6Mapped := by
  cases ip with
  | v4 x => simp [admits]
  | v6 b =>
    cases hm : b.toMapped? with
    | none =>
      -- the peer carries no IPv4 address, so only the same address admits it
      have hno : ∀ a : Ipv4, b ≠ a.toIpv6Mapped := fun a hb => by
        rw [hb, Ipv6.toMapped?_toIpv6Mapped] at hm
        cases hm
      simp [admits, hm, hno]
    | some a =>
      obtain rfl : b = a.toIpv6Mapped := Ipv6.toMapped?_eq_some_iff.1 hm
      cases e with
      | v4 x =>
        simp only [admits, Ipv6.toMapped?_toIpv6Mapped, beq_iff_eq, IpAddr.v4.injEq,
          reduceCtorEq, false_or, IpAddr.v6.injEq, exists_eq_left']
        exact ⟨fun h => h ▸ rfl, fun h => (Ipv4.toIpv6Mapped_inj h).symm⟩
      | v6 y => simp [admits]

theorem accepts_iff (r : AccessRule) (remote : SocketAddress) :
    r.accepts remote = true ↔ ∃ e ∈ r.allowed, admits e remote.ip = true := by
  simp [accepts]

/-- An IPv4 address is admitted by itself only. -/
theorem admits_v4_iff (e : IpAddr) (a : Ipv4) : admits e (.v4 a) = true ↔ e = .v4 a := by
  simp [admits_iff]

end AccessRule

/-- **The access rule admits by the listed addresses.** A peer is accepted exactly when an entry
of the list is its IP address, or is an IPv4 address whose mapped IPv6 address the peer has.
Hence the port plays no part, nor the order or repetition of the entries; adding entries never
refuses an accepted peer; the empty list refuses everyone; and an IPv4 peer is accepted exactly
when its own address is listed, so no IPv6 entry admits it. -/
theorem access_by_listed_address :
    (∀ (allowed : List IpAddr) (remote : SocketAddress),
      (AccessRule.mk allowed).accepts remote = true ↔
        ∃ e ∈ allowed, e = remote.ip ∨ ∃ a, e = .v4 a ∧ remote.ip = .v6 a.toIpv6Mapped) ∧
    (∀ (allowed : List IpAddr) (r r' : SocketAddress), r.ip = r'.ip →
      (AccessRule.mk allowed).accepts r = (AccessRule.mk allowed).accepts r') ∧
    (∀ (l l' : List IpAddr) (remote : SocketAddress), (∀ e, e ∈ l ↔ e ∈ l') →
      (AccessRule.mk l).accepts remote = (AccessRule.mk l').accepts remote) ∧
    (∀ (l l' : List IpAddr) (remote : SocketAddress), l ⊆ l' →
      (AccessRule.mk l).accepts remote = true → (AccessRule.mk l').accepts remote = true) ∧
    (∀ remote : SocketAddress, (AccessRule.mk []).accepts remote = false) ∧
    (∀ (allowed : List IpAddr) (remote : SocketAddress) (a : Ipv4), remote.ip = .v4 a →
      ((AccessRule.mk allowed).accepts remote = true ↔ IpAddr.v4 a ∈ allowed)) := by
  refine ⟨?_, ?_, ?_, ?_, ?_, ?_⟩
  · intro allowed remote
    simp only [AccessRule.accepts_iff, AccessRule.admits_iff]
  · intro allowed r r' hip
    simp only [AccessRule.accepts, hip]
  · intro l l' remote hmem
    apply Bool.eq_iff_iff.2
    simp only [AccessRule.accepts_iff, hmem]
  · intro l l' remote hsub hacc
    obtain ⟨e, he, hadm⟩ := (AccessRule.accepts_iff _ remote).1 hacc
    exact (AccessRule.accepts_iff _ remote).2 ⟨e, hsub he, hadm⟩
  · intro remote
    rfl
  · intro allowed remote a hip
    simp only [AccessRule.accepts_iff, hip, AccessRule.admits_v4_iff, exists_eq_right]

end MetricsNode
