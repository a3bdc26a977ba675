import Mathlib.Data.List.Basic

/-!
# The cluster IP range of `calculateIPRanges`

`calculateIPRanges` (in `src/debian/microkube`) parses the pod and service CIDR ranges with
`net.ParseCIDR` and combines them into `clusterIPRange`, the range kube-proxy is started with. To
"find first diverging bit" it walks the octets of the two network addresses; for each octet that
differs it restarts `baseOffset` at that octet and scans its bits from the top. The walk has no
`break`, so the octet that decides `baseOffset` is the last one that differs, not the first.

`calculateIPRanges_last_divergence` says what the loop computes for every pair of ranges: the
prefix length is eight bits per octet before the last differing one plus the leading bits that
octet agrees on, and the prefix lengths of the two ranges are never consulted. When the service
network is the smaller at that octet, the address is the local `serviceRangeIP`, which is never
assigned: the cluster range then has the nil IP and contains no address. When the two networks
have the same address the cluster range is `/0` (`calculateIPRanges_same_networks`).

Addresses are the four octets `net.ParseCIDR` keeps for an IPv4 range, and a `net.IPNet` is an
address and a mask; `cidrMask` is `net.CIDRMask(ones, 32)`, `applyMask` is `ip.Mask(mask)` and
`IPNet.contains` is `(*IPNet).Contains`. A parse failure is a `log.Fatal`; the model takes the
ranges as already parsed. `Scan` holds the two variables the loops update, `baseOffset` and
`serviceBelowPod`, and `IPRanges` the fields of `Microkubed` that `calculateIPRanges` sets.
-/

namespace Microkube.ClusterIPRange

/-- An IPv4 range as written on the command line and accepted by `net.ParseCIDR`. -/
structure CIDR where
  addr : List UInt8
  ones : Nat
  addr_length : addr.length = 4
  ones_le : ones ≤ 32

structure IPNet where
  ip : List UInt8
  mask : List UInt8
  deriving DecidableEq, Repr

def maskOctet (n : Nat) : UInt8 :=
  if 8 ≤ n then 0xff else ~~~((0xff : UInt8) >>> n.toUInt8)

def cidrMask (ones : Nat) : List UInt8 :=
  [maskOctet ones, maskOctet (ones - 8), maskOctet (ones - 16), maskOctet (ones - 24)]

def applyMask (ip mask : List UInt8) : List UInt8 :=
  List.zipWith (· &&& ·) ip mask

def IPNet.contains (n : IPNet) (ip : List UInt8) : Bool :=
  applyMask ip n.mask = applyMask n.ip n.mask

/-- `net.ParseCIDR(s)` on an IPv4 range: the address itself, and the network with its host bits
cleared. -/
def parseCIDR (c : CIDR) : List UInt8 × IPNet :=
  (c.addr, ⟨applyMask c.addr (cidrMask c.ones), cidrMask c.ones⟩)

structure Scan where
  baseOffset : Nat
  serviceBelowPod : Bool
  deriving DecidableEq, Repr

def bitMasks : List UInt8 := [0x80, 0x40, 0x20, 0x10, 0x08, 0x04, 0x02, 0x01]

/-- The inner loop `for mask := byte(0x80); mask > 0; mask /= 2` on one diverging octet:
`baseOffset++` for each mask tried, and at the first bit that differs
`serviceBelowPod = octet < podOctet; break`. -/
def scanBits (podOctet octet : UInt8) : List UInt8 → Scan → Scan
  | [], st => st
  | mask :: masks, st =>
    let st := { st with baseOffset := st.baseOffset + 1 }
    if podOctet &&& mask ≠ octet &&& mask then { st with serviceBelowPod := decide (octet < podOctet) }
    else scanBits podOctet octet masks st

/-- The body of `for idx, octet := range m.serviceRangeNet.IP` for one octet; `divergeLoop` is
the loop from index `idx` on. -/
def divergeStep (podIP : List UInt8) (st : Scan) (idx : Nat) (octet : UInt8) : Scan :=
  if podIP.getD idx 0 ≠ octet then
    let st := scanBits (podIP.getD idx 0) octet bitMasks { st with baseOffset := idx * 8 }
    { st with baseOffset := st.baseOffset - 1 }
  else st

def divergeLoop (podIP : List UInt8) : Nat → List UInt8 → Scan → Scan
  | _, [], st => st
  | idx, octet :: rest, st => divergeLoop podIP (idx + 1) rest (divergeStep podIP st idx octet)

structure IPRanges where
  podRangeNet : IPNet
  serviceRangeIP : List UInt8
  serviceRangeNet : IPNet
  clusterIPRange : IPNet
  deriving DecidableEq, Repr

/-- `(m *Microkubed) calculateIPRanges(podRange, serviceRange)`. The local `serviceRangeIP`,
declared next to `podRangeIP`, is never assigned: `net.ParseCIDR(serviceRange)` writes
`m.serviceRangeIP`. It stays the nil `net.IP`, the empty list here. -/
def calculateIPRanges (podRange serviceRange : CIDR) : IPRanges :=
  let serviceRangeIP : List UInt8 := []
  let (podRangeIP, podRangeNet) := parseCIDR podRange
  let (mServiceRangeIP, serviceRangeNet) := parseCIDR serviceRange
  let st := divergeLoop podRangeNet.ip 0 serviceRangeNet.ip ⟨0, false⟩
  { podRangeNet, serviceRangeIP := mServiceRangeIP, serviceRangeNet,
    clusterIPRange := ⟨if st.serviceBelowPod then serviceRangeIP else podRangeIP,
      cidrMask st.baseOffset⟩ }

/-- Pod range `10.1.0.0/16` and service range `10.2.5.0/24`: the networks first diverge at bit 14,
but the scan also visits the third octet (`0` against `5`) and ends with `baseOffset = 21`. The
resulting cluster range `10.1.0.0/21` does not contain the service network. -/
theorem calculateIPRanges_second_divergence_wins :
    (calculateIPRanges ⟨[10, 1, 0, 0], 16, rfl, by decide⟩
        ⟨[10, 2, 5, 0], 24, rfl, by decide⟩).clusterIPRange = ⟨[10, 1, 0, 0], cidrMask 21⟩ ∧
      IPNet.contains ⟨[10, 1, 0, 0], cidrMask 21⟩ [10, 2, 5, 0] = false := by
  decide

/-- The number of masks of `bitMasks`, from the top bit down, on which two octets agree before
the first one on which they differ. -/
def sameLeadingBits (a b : UInt8) : Nat :=
  (bitMasks.takeWhile fun mask => a &&& mask = b &&& mask).length

theorem eq_of_and_bitMasks {a b : UInt8} (h : ∀ mask ∈ bitMasks, a &&& mask = b &&& mask) :
    a = b := by
  have hmasks : ∀ i < 8, ∃ mask ∈ bitMasks, mask.toNat = 2 ^ i := by decide
  apply UInt8.toNat.inj
  apply Nat.eq_of_testBit_eq
  intro i
  by_cases hi : i < 8
  · obtain ⟨mask, hmem, hmask⟩ := hmasks i hi
    have := congrArg (fun x : UInt8 => x.toNat.testBit i) (h mask hmem)
    simpa [UInt8.and_toNat, hmask, Nat.testBit_two_pow_self] using this
  · have h8 : 2 ^ 8 ≤ 2 ^ i := Nat.pow_le_pow_right (by decide) (by omega)
    have hlt : ∀ x : UInt8, x.toNat < 2 ^ i := fun x => lt_of_lt_of_le x.toNat_lt_size h8
    rw [Nat.testBit_lt_two_pow (hlt a), Nat.testBit_lt_two_pow (hlt b)]

theorem sameLeadingBits_lt {a b : UInt8} (h : a ≠ b) : sameLeadingBits a b < 8 := by
  by_contra hge
  apply h
  apply eq_of_and_bitMasks
  have hall : (bitMasks.takeWhile fun mask => a &&& mask = b &&& mask) = bitMasks :=
    (List.takeWhile_prefix _).eq_of_length
      (le_antisymm (List.takeWhile_prefix _).length_le (by simpa [sameLeadingBits] using hge))
  intro mask hmem
  simpa using List.takeWhile_eq_self_iff.mp hall mask hmem

theorem scanBits_of_lt (a b : UInt8) (masks : List UInt8) : ∀ st : Scan,
    (masks.takeWhile fun mask => a &&& mask = b &&& mask).length < masks.length →
    scanBits a b masks st =
      ⟨st.baseOffset + (masks.takeWhile fun mask => a &&& mask = b &&& mask).length + 1,
        decide (b < a)⟩ := by
  induction masks with
  | nil => intro st h; simp at h
  | cons mask masks ih =>
    intro st h
    by_cases hm : a &&& mask = b &&& mask
    · simp only [List.takeWhile_cons, hm, decide_True, ite_true, List.length_cons] at h ⊢
      rw [scanBits, if_neg (by simpa using hm), ih _ (by omega)]
      simp only [Scan.mk.injEq, and_true]
      omega
    · simp [scanBits, hm]

/-- A differing octet sets `baseOffset` to its eight bits per earlier octet plus the bits it agrees
on, and `serviceBelowPod` to whether it is the smaller one, whatever the scan held before. -/
theorem divergeStep_of_ne (podIP : List UInt8) (st : Scan) {idx : Nat} {octet : UInt8}
    (h : podIP.getD idx 0 ≠ octet) :
    divergeStep podIP st idx octet =
      ⟨idx * 8 + sameLeadingBits (podIP.getD idx 0) octet, decide (octet < podIP.getD idx 0)⟩ := by
  rw [divergeStep, if_pos h, scanBits_of_lt _ _ _ _ (sameLeadingBits_lt h)]
  rfl

theorem divergeLoop_append (podIP : List UInt8) (pre post : List UInt8) :
    ∀ idx st, divergeLoop podIP idx (pre ++ post) st =
      divergeLoop podIP (idx + pre.length) post (divergeLoop podIP idx pre st) := by
  induction pre with
  | nil => intro idx st; rfl
  | cons o pre ih =>
    intro idx st
    rw [List.cons_append, divergeLoop, divergeLoop, ih, List.length_cons, Nat.add_assoc,
      Nat.add_comm 1]

theorem divergeLoop_of_agree (podIP : List UInt8) (octets : List UInt8) :
    ∀ idx st, (∀ j < octets.length, podIP.getD (idx + j) 0 = octets.getD j 0) →
      divergeLoop podIP idx octets st = st := by
  induction octets with
  | nil => intro idx st _; rfl
  | cons o octets ih =>
    intro idx st h
    have h0 : podIP.getD idx 0 = o := by simpa using h 0 (by simp)
    rw [divergeLoop, divergeStep, if_neg (by simpa using h0)]
    exact ih (idx + 1) st fun j hj => by
      simpa [Nat.add_assoc, Nat.add_comm 1] using h (j + 1) (by simpa using hj)

theorem IPNet.contains_nil (mask : List UInt8) (hm : mask ≠ []) {ip : List UInt8} (hip : ip ≠ []) :
    IPNet.contains ⟨[], mask⟩ ip = false := by
  obtain ⟨a, ip, rfl⟩ := List.exists_cons_of_ne_nil hip
  obtain ⟨b, mask, rfl⟩ := List.exists_cons_of_ne_nil hm
  simp [IPNet.contains, applyMask]

/-- The octet loop of `calculateIPRanges` lets the last octet at which the two networks differ
decide: the prefix length is eight per earlier octet plus the bits that octet agrees on, and the
address is the nil IP of the unassigned local `serviceRangeIP` exactly when that octet of the
service network is the smaller, the pod address otherwise; with the nil IP the cluster range
contains no address. Earlier octets, and the prefix lengths of the two ranges, play no part. -/
theorem calculateIPRanges_last_divergence (podRange serviceRange : CIDR) (pre post : List UInt8)
    (o : UInt8) (hsvc : (parseCIDR serviceRange).2.ip = pre ++ o :: post)
    (hdiff : (parseCIDR podRange).2.ip.getD pre.length 0 ≠ o)
    (hsame : ∀ j < post.length,
      (parseCIDR podRange).2.ip.getD (pre.length + 1 + j) 0 = post.getD j 0) :
    (calculateIPRanges podRange serviceRange).clusterIPRange =
      ⟨if o < (parseCIDR podRange).2.ip.getD pre.length 0 then [] else podRange.addr,
        cidrMask (pre.length * 8 + sameLeadingBits ((parseCIDR podRange).2.ip.getD pre.length 0) o)⟩ ∧
    (o < (parseCIDR podRange).2.ip.getD pre.length 0 → ∀ ip : List UInt8, ip ≠ [] →
      (calculateIPRanges podRange serviceRange).clusterIPRange.contains ip = false) := by
  have hloop : divergeLoop (parseCIDR podRange).2.ip 0 (parseCIDR serviceRange).2.ip ⟨0, false⟩ =
      ⟨pre.length * 8 + sameLeadingBits ((parseCIDR podRange).2.ip.getD pre.length 0) o,
        decide (o < (parseCIDR podRange).2.ip.getD pre.length 0)⟩ := by
    rw [hsvc, divergeLoop_append, Nat.zero_add, divergeLoop, divergeStep_of_ne _ _ hdiff,
      divergeLoop_of_agree _ _ _ _ hsame]
  have hcluster : (calculateIPRanges podRange serviceRange).clusterIPRange =
      ⟨if o < (parseCIDR podRange).2.ip.getD pre.length 0 then [] else podRange.addr,
        cidrMask (pre.length * 8 + sameLeadingBits ((parseCIDR podRange).2.ip.getD pre.length 0) o)⟩ := by
    simp only [calculateIPRanges] at hloop ⊢
    rw [hloop]
    simp [parseCIDR]
  refine ⟨hcluster, fun hlt ip hip => ?_⟩
  rw [hcluster, if_pos hlt]
  exact IPNet.contains_nil _ (by simp [cidrMask]) hip

/-- Pod range `10.2.5.0/24` and service range `10.1.0.0/16`: the third octet decides, with the
service network the smaller there, so the cluster range has the nil IP. -/
theorem third_octet_gives_nil_cluster_range :
    (parseCIDR ⟨[10, 1, 0, 0], 16, rfl, by decide⟩).2.ip = [10, 1] ++ 0 :: [0] ∧
    (parseCIDR ⟨[10, 2, 5, 0], 24, rfl, by decide⟩).2.ip.getD [10, 1].length 0 ≠ 0 ∧
    (∀ j < [0].length, (parseCIDR ⟨[10, 2, 5, 0], 24, rfl, by decide⟩).2.ip.getD ([10, 1].length + 1 + j) 0 =
      [0].getD j 0) ∧
    0 < (parseCIDR ⟨[10, 2, 5, 0], 24, rfl, by decide⟩).2.ip.getD [10, 1].length 0 ∧
    ((calculateIPRanges ⟨[10, 2, 5, 0], 24, rfl, by decide⟩ ⟨[10, 1, 0, 0], 16, rfl, by decide⟩).clusterIPRange =
      ⟨if 0 < (parseCIDR ⟨[10, 2, 5, 0], 24, rfl, by decide⟩).2.ip.getD [10, 1].length 0 then
          [] else [10, 2, 5, 0],
        cidrMask ([10, 1].length * 8 +
          sameLeadingBits ((parseCIDR ⟨[10, 2, 5, 0], 24, rfl, by decide⟩).2.ip.getD [10, 1].length 0) 0)⟩ ∧
      (0 < (parseCIDR ⟨[10, 2, 5, 0], 24, rfl, by decide⟩).2.ip.getD [10, 1].length 0 →
        ∀ ip : List UInt8, ip ≠ [] →
          (calculateIPRanges ⟨[10, 2, 5, 0], 24, rfl, by decide⟩
            ⟨[10, 1, 0, 0], 16, rfl, by decide⟩).clusterIPRange.contains ip = false)) :=
  ⟨by decide, by decide, by decide, by decide,
    calculateIPRanges_last_divergence _ _ [10, 1] [0] 0 (by decide) (by decide) (by decide)⟩

/-- Pod and service networks with the same address give the cluster range `/0`, the whole
address space. -/
theorem calculateIPRanges_same_networks (podRange serviceRange : CIDR)
    (h : (parseCIDR serviceRange).2.ip = (parseCIDR podRange).2.ip) :
    (calculateIPRanges podRange serviceRange).clusterIPRange = ⟨podRange.addr, cidrMask 0⟩ := by
  have hloop : divergeLoop (parseCIDR podRange).2.ip 0 (parseCIDR serviceRange).2.ip ⟨0, false⟩ =
      ⟨0, false⟩ :=
    divergeLoop_of_agree _ _ _ _ fun j _ => by rw [h, Nat.zero_add]
  simp only [calculateIPRanges] at hloop ⊢
  rw [hloop]
  simp [parseCIDR]

/-- Pod range `10.0.0.0/16` and service range `10.0.0.0/24` share their network address. -/
theorem nested_ranges_cluster_range_everything :
    (parseCIDR ⟨[10, 0, 0, 0], 24, rfl, by decide⟩).2.ip =
      (parseCIDR ⟨[10, 0, 0, 0], 16, rfl, by decide⟩).2.ip ∧
    (calculateIPRanges ⟨[10, 0, 0, 0], 16, rfl, by decide⟩ ⟨[10, 0, 0, 0], 24, rfl, by decide⟩).clusterIPRange =
      ⟨[10, 0, 0, 0], cidrMask 0⟩ :=
  ⟨by decide, calculateIPRanges_same_networks _ _ (by decide)⟩

end Microkube.ClusterIPRange
