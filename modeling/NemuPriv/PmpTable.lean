import NemuPriv.Pmp

namespace NemuPriv

/-- Modelled from the spec: the NAPOT value of the `A` field of `pmpcfg`. -/
def PMP_NAPOT : BitVec 8 := 0x18

/-- Modelled from the spec: the table bit of `pmpcfg` in the PMP-table extension. -/
def PMP_T : BitVec 8 := 0x20

def napotDecode (addr pmpaddr : BitVec 64) : Bool :=
  let pmpaddr_start := (pmpaddr &&& (pmpaddr + 1)) <<< PMP_SHIFT
  let pmpaddr_end := (pmpaddr ||| (pmpaddr + 1)) <<< PMP_SHIFT
  pmpaddr_start ≤ addr && addr < pmpaddr_end

def pmpAddressMatch (base addr : BitVec 64) (len : Nat) (pmpaddr : BitVec 64) (addr_mode : BitVec 8) :
    Nat :=
  let addr_s := addr
  let addr_e := addr + BitVec.ofNat 64 len
  let (s_flag, e_flag) :=
    if addr_mode == PMP_TOR then
      let pmpaddr := pmpaddr <<< PMP_SHIFT
      (base ≤ addr_s && addr_s < pmpaddr, base ≤ addr_e && addr_e < pmpaddr)
    else if addr_mode == PMP_NA4 then
      let pmpaddr := pmpaddr <<< PMP_SHIFT
      (pmpaddr ≤ addr_s && addr_s < pmpaddr + ((1 : BitVec 64) <<< PMP_SHIFT),
        pmpaddr ≤ addr_e && addr_e < pmpaddr + ((1 : BitVec 64) <<< PMP_SHIFT))
    else if addr_mode == PMP_NAPOT then (napotDecode addr_s pmpaddr, napotDecode addr_e pmpaddr)
    else (false, false)
  s_flag.toNat + e_flag.toNat

/-- The permission test `pmpcfg_check_permission` and `pmptable_check_permission` share. -/
def permByType (perm : BitVec 8) (type : MemType) : Bool :=
  if type == .read || type == .ifetchRead || type == .writeRead then perm &&& PMP_R != 0
  else if type == .write then perm &&& PMP_W != 0
  else if type == .ifetch then perm &&& PMP_X != 0
  else false

def pmpcfgCheckPermission (pmpcfg : BitVec 8) (type : MemType) (out_mode : Nat) : Bool :=
  if out_mode == MODE_M then true else permByType pmpcfg type

/-- `pmptable_check_permission`: offset bits 33..25 index the root table, bits 24..16 the leaf
table, whose byte holds the nibbles of two pages told apart by bit 12. -/
def pmptableCheckPermission (hostRead : BitVec 64 → Nat → BitVec 64) (offset root_table_base : BitVec 64)
    (type : MemType) (out_mode : Nat) : Bool :=
  if out_mode == MODE_M then true
  else
    let off1 := (offset >>> 25) &&& 0x1ff
    let off0 := (offset >>> 16) &&& 0x1ff
    let page_index := (offset >>> 12) &&& 0xf
    let root_pte := hostRead (root_table_base + (off1 <<< 3)) 8
    let perm : Option (BitVec 8) :=
      if root_pte &&& 0x0f == 1 then
        let at_high := page_index % 2 != 0
        let idx := page_index / 2
        let leaf_pte := (hostRead (((root_pte >>> 5) <<< 12) + (off0 <<< 3) + idx) 1).setWidth 8
        some (if at_high then leaf_pte >>> 4 else leaf_pte &&& 0xf)
      else if root_pte &&& 0x1 == 1 then some (((root_pte >>> 1) &&& 0xf).setWidth 8)
      else none
    match perm with
    | some perm => permByType perm type
    | none => false

/-- The entry loop of `isa_pmp_check_permission` with the PMP-table extension, from entry `i`
with `n` entries left; `continue` on a miss also skips `base = pmpaddr << PMP_SHIFT`. -/
def pmptableLoop (hostRead : BitVec 64 → Nat → BitVec 64) (s : Hart) (addr : BitVec 64) (len : Nat)
    (type : MemType) (out_mode : Nat) : Nat → Nat → BitVec 64 → Bool
  | 0, _, _ => true
  | n + 1, i, base =>
    let pmpcfg := s.pmpcfg i
    let pmpaddr := s.pmpaddr i
    let addr_mode := pmpcfg &&& PMP_A
    if addr_mode != 0 then
      let match_ret := pmpAddressMatch base addr len pmpaddr addr_mode
      if match_ret == 1 then false
      else if match_ret == 0 then pmptableLoop hostRead s addr len type out_mode n (i + 1) base
      else if pmpcfg &&& PMP_T != 0 then
        let offset := if addr_mode == PMP_TOR then addr - base else addr - (pmpaddr <<< PMP_SHIFT)
        pmptableCheckPermission hostRead offset (s.pmpaddr (i + 1) <<< 12) type out_mode
      else pmpcfgCheckPermission pmpcfg type out_mode
    else pmptableLoop hostRead s addr len type out_mode n (i + 1) (pmpaddr <<< PMP_SHIFT)

def isaPmpCheckPermissionTable (P : Platform) (hostRead : BitVec 64 → Nat → BitVec 64) (s : Hart)
    (addr : BitVec 64) (len : Nat) (type : MemType) (out_mode : Nat) : Bool :=
  if P.pmpActiveNum == 0 then true
  else pmptableLoop hostRead s addr len type out_mode P.pmpActiveNum 0 0

def tableFloor (s : Hart) (base : BitVec 64) (l : List Nat) : BitVec 64 :=
  l.foldl (fun b k => if s.pmpcfg k &&& PMP_A != 0 then b else s.pmpaddr k <<< PMP_SHIFT) base

def tableHit (s : Hart) (addr : BitVec 64) (len : Nat) (b : BitVec 64) (j : Nat) : Bool :=
  s.pmpcfg j &&& PMP_A != 0 && pmpAddressMatch b addr len (s.pmpaddr j) (s.pmpcfg j &&& PMP_A) != 0

section TableLoop

variable {hostRead : BitVec 64 → Nat → BitVec 64} {s : Hart} {addr : BitVec 64} {len : Nat}
  {type : MemType} {out_mode : Nat}

theorem tableFloor_succ (base : BitVec 64) {i j : Nat} (hj : i < j) :
    tableFloor s base (List.range' i (j - i)) =
      tableFloor s (tableFloor s base [i]) (List.range' (i + 1) (j - (i + 1))) := by
  rw [show j - i = j - (i + 1) + 1 by omega, List.range'_succ]
  rfl

theorem pmptableLoop_succ (n i : Nat) (base : BitVec 64) :
    pmptableLoop hostRead s addr len type out_mode (n + 1) i base =
      if tableHit s addr len base i then pmptableLoop hostRead s addr len type out_mode 1 i base
      else pmptableLoop hostRead s addr len type out_mode n (i + 1) (tableFloor s base [i]) := by
  simp only [pmptableLoop, tableHit, tableFloor, List.foldl]
  by_cases ha : s.pmpcfg i &&& PMP_A = 0#8
  · simp [ha]
  · by_cases hm : pmpAddressMatch base addr len (s.pmpaddr i) (s.pmpcfg i &&& PMP_A) = 0 <;>
      simp [ha, hm]

theorem pmptableLoop_eq_first (n i : Nat) (base : BitVec 64) :
    pmptableLoop hostRead s addr len type out_mode n i base =
      match (List.range' i n).find?
          (fun j => tableHit s addr len (tableFloor s base (List.range' i (j - i))) j) with
      | none => true
      | some j =>
        pmptableLoop hostRead s addr len type out_mode 1 j (tableFloor s base (List.range' i (j - i))) := by
  induction n generalizing i base with
  | zero => rfl
  | succ n ih =>
    have h0 : tableFloor s base (List.range' i (i - i)) = base := by simp [tableFloor]
    rw [pmptableLoop_succ, List.range'_succ, List.find?_cons, h0]
    cases hh : tableHit s addr len base i
    · have hfl : ∀ j ∈ List.range' (i + 1) n, tableFloor s base (List.range' i (j - i)) =
          tableFloor s (tableFloor s base [i]) (List.range' (i + 1) (j - (i + 1))) :=
        fun j hj => tableFloor_succ base (List.mem_range'_1.1 hj).1
      simp only [Bool.false_eq_true, if_false]
      rw [ih, Bits.find?_congr_mem fun j hj => by rw [← hfl j hj]]
      cases hf : (List.range' (i + 1) n).find? _ with
      | none => rfl
      | some j => simp only [hfl j (List.mem_of_find?_eq_some hf)]
    · simp only [if_true, h0]

end TableLoop

/-- With the PMP-table extension the check decides by the lowest-numbered active entry that
`pmp_address_match` hits, its TOR floor the address of the last entry before it that is off. -/
theorem isaPmpCheckPermissionTable_first_hit (P : Platform) (hostRead : BitVec 64 → Nat → BitVec 64)
    (s : Hart) (addr : BitVec 64) (len : Nat) (type : MemType) (out_mode : Nat) :
    isaPmpCheckPermissionTable P hostRead s addr len type out_mode =
      (P.pmpActiveNum == 0 ||
        match (List.range P.pmpActiveNum).find?
            (fun j => tableHit s addr len (tableFloor s 0 (List.range j)) j) with
        | none => true
        | some j => pmptableLoop hostRead s addr len type out_mode 1 j (tableFloor s 0 (List.range j))) := by
  unfold isaPmpCheckPermissionTable
  cases P.pmpActiveNum == 0
  · rw [pmptableLoop_eq_first]
    simp only [List.range_eq_range', Nat.sub_zero, Bool.false_eq_true, if_false, Bool.false_or]
  · rfl

/-- Modelled from the spec: the first byte of the region of entry `i` with the PMP-table
extension, and whether byte `b` lies in it (TOR, NA4, NAPOT). -/
def tableRegionStart (s : Hart) (i : Nat) : Nat :=
  let a := (s.pmpaddr i).toNat * 4
  let mode := s.pmpcfg i &&& PMP_A
  if mode == PMP_TOR then (match i with | 0 => 0 | j + 1 => (s.pmpaddr j).toNat * 4)
  else if mode == PMP_NA4 then a
  else a / 2 ^ (trailingOnes (s.pmpaddr i) + 3) * 2 ^ (trailingOnes (s.pmpaddr i) + 3)

def tableRegionEnd (s : Hart) (i : Nat) : Nat :=
  let a := (s.pmpaddr i).toNat * 4
  let mode := s.pmpcfg i &&& PMP_A
  if mode == PMP_TOR then a
  else if mode == PMP_NA4 then a + 4
  else tableRegionStart s i + 2 ^ (trailingOnes (s.pmpaddr i) + 3)

def inTableRegion (s : Hart) (i b : Nat) : Bool :=
  s.pmpcfg i &&& PMP_A != 0 && tableRegionStart s i ≤ b && b < tableRegionEnd s i

theorem napot_and_add_one (q k : Nat) :
    (2 ^ (k + 1) * q + (2 ^ k - 1)) &&& (2 ^ (k + 1) * q + (2 ^ k - 1) + 1) = 2 ^ (k + 1) * q := by
  have hk : 2 ^ k - 1 + 1 = 2 ^ k := Nat.sub_add_cancel (Nat.one_le_two_pow)
  have hlt : 2 ^ k < 2 ^ (k + 1) := Nat.pow_lt_pow_succ (by decide)
  rw [Nat.add_assoc, hk]
  apply Nat.eq_of_testBit_eq
  intro j
  rw [Nat.testBit_and, Nat.testBit_mul_pow_two_add q (by omega), Nat.testBit_mul_pow_two_add q hlt,
    ← Nat.add_zero (2 ^ (k + 1) * q), Nat.testBit_mul_pow_two_add q (Nat.two_pow_pos _),
    Nat.testBit_two_pow_sub_one, Nat.testBit_two_pow]
  split
  · simp
    omega
  · simp

theorem napot_or_add_one (q k : Nat) :
    (2 ^ (k + 1) * q + (2 ^ k - 1)) ||| (2 ^ (k + 1) * q + (2 ^ k - 1) + 1) =
      2 ^ (k + 1) * q + (2 ^ (k + 1) - 1) := by
  have hk : 2 ^ k - 1 + 1 = 2 ^ k := Nat.sub_add_cancel (Nat.one_le_two_pow)
  have hlt : 2 ^ k < 2 ^ (k + 1) := Nat.pow_lt_pow_succ (by decide)
  rw [Nat.add_assoc, hk]
  apply Nat.eq_of_testBit_eq
  intro j
  rw [Nat.testBit_or, Nat.testBit_mul_pow_two_add q (by omega), Nat.testBit_mul_pow_two_add q hlt,
    Nat.testBit_mul_pow_two_add q (by omega), Nat.testBit_two_pow_sub_one, Nat.testBit_two_pow_sub_one,
    Nat.testBit_two_pow]
  split
  · rw [Bool.eq_iff_iff]
    simp only [Bool.or_eq_true, decide_eq_true_eq]
    omega
  · exact Bool.or_self _


/-- `napot_decode` holds for the bytes of the NAPOT region but its last four: its end is the
address of the region's last word, not the first byte past it. -/
theorem napotDecode_iff_region {s : Hart} {i : Nat} (hmode : s.pmpcfg i &&& PMP_A = PMP_NAPOT)
    (hp : (s.pmpaddr i).toNat < 2 ^ 61) (addr : BitVec 64) :
    napotDecode addr (s.pmpaddr i) = true ↔
      tableRegionStart s i ≤ addr.toNat ∧ addr.toNat + 4 < tableRegionEnd s i := by
  have hna : (PMP_NAPOT == PMP_TOR) = false ∧ (PMP_NAPOT == PMP_NA4) = false := by decide
  simp only [napotDecode, tableRegionEnd, tableRegionStart, hmode, hna, Bool.false_eq_true, if_false,
    PMP_SHIFT, Bool.and_eq_true, decide_eq_true_eq, BitVec.le_def, BitVec.lt_def]
  generalize s.pmpaddr i = x at hp ⊢
  have hdec : x.toNat = 2 ^ (trailingOnes x + 1) * (x.toNat / 2 ^ (trailingOnes x + 1)) +
      (2 ^ trailingOnes x - 1) := by
    rw [← toNat_mod_trailingOnes]
    exact (Nat.div_add_mod _ _).symm
  generalize trailingOnes x = k at hdec ⊢
  generalize x.toNat / 2 ^ (k + 1) = q at hdec
  have hx1 : (x + 1).toNat = x.toNat + 1 := by
    rw [BitVec.toNat_add]
    exact Nat.mod_eq_of_lt (by simp; omega)
  have hT : 2 ^ (k + 1) = 2 * 2 ^ k := by rw [Nat.pow_succ, Nat.mul_comm]
  have hT3 : 2 ^ (k + 3) = 8 * 2 ^ k := by rw [show k + 3 = k + 1 + 2 from rfl, Nat.pow_add, hT]; omega
  have hq1 : 2 ^ (k + 1) * q = 2 * (2 ^ k * q) := by rw [hT, Nat.mul_assoc]
  have hq3 : 2 ^ (k + 3) * q = 8 * (2 ^ k * q) := by rw [hT3, Nat.mul_assoc]
  have h1 := Nat.one_le_two_pow (n := k)
  have hstart : ((x &&& (x + 1)) <<< 2).toNat = 8 * (2 ^ k * q) := by
    rw [BitVec.toNat_shiftLeft, BitVec.toNat_and, hx1, hdec, napot_and_add_one, Nat.shiftLeft_eq, hq1]
    omega
  have hend : ((x ||| (x + 1)) <<< 2).toNat = 8 * (2 ^ k * q) + (8 * 2 ^ k - 4) := by
    rw [BitVec.toNat_shiftLeft, BitVec.toNat_or, hx1, hdec, napot_or_add_one, Nat.shiftLeft_eq, hq1, hT]
    omega
  have hdiv : x.toNat * 4 / 2 ^ (k + 3) = q := by
    rw [show x.toNat * 4 = 2 ^ (k + 3) * q + (4 * 2 ^ k - 4) by omega, Nat.mul_add_div (Nat.two_pow_pos _),
      Nat.div_eq_of_lt (by omega), Nat.add_zero]
  rw [hstart, hend, hdiv, Nat.mul_comm q, hq3, hT3]
  omega

def napotHart : Hart :=
  { Hart.base with
    pmpaddr := fun i => if i = 0 then 0x401 else 0
    pmpcfg := fun i => if i = 0 then PMP_NAPOT ||| PMP_R else 0 }

theorem napotDecode_iff_region_last_word :
    napotHart.pmpcfg 0 &&& PMP_A = PMP_NAPOT ∧ (napotHart.pmpaddr 0).toNat < 2 ^ 61 ∧
      (napotDecode 0x100c (napotHart.pmpaddr 0) = true ↔
        tableRegionStart napotHart 0 ≤ (0x100c : BitVec 64).toNat ∧
          (0x100c : BitVec 64).toNat + 4 < tableRegionEnd napotHart 0) :=
  have h₁ : napotHart.pmpcfg 0 &&& PMP_A = PMP_NAPOT := by decide
  have h₂ : (napotHart.pmpaddr 0).toNat < 2 ^ 61 := by decide
  ⟨h₁, h₂, napotDecode_iff_region h₁ h₂ 0x100c⟩

/-- Modelled from the spec: the PMP-table rule. The lowest-numbered active entry holding a byte of
the access decides: it denies unless it holds every byte, and otherwise its table or its
`pmpcfg` gives the permission. -/
def pmptableRule (P : Platform) (hostRead : BitVec 64 → Nat → BitVec 64) (s : Hart) (addr : BitVec 64)
    (len : Nat) (type : MemType) (out_mode : Nat) : Bool :=
  let touches i := (List.range len).any fun j => inTableRegion s i (addr.toNat + j)
  match (List.range P.pmpActiveNum).find? touches with
  | none => true
  | some i =>
    (List.range len).all (fun j => inTableRegion s i (addr.toNat + j)) &&
      if s.pmpcfg i &&& PMP_T != 0 then
        pmptableCheckPermission hostRead (BitVec.ofNat 64 (addr.toNat - tableRegionStart s i))
          (s.pmpaddr (i + 1) <<< 12) type out_mode
      else pmpcfgCheckPermission (s.pmpcfg i) type out_mode

def torReadHart : Hart :=
  { Hart.base with
    pmpaddr := fun i => if i = 0 then 0x400 else 0
    pmpcfg := fun i => if i = 0 then PMP_TOR ||| PMP_R else 0 }

/-- A read of the last eight bytes of a readable TOR region is denied: `pmp_address_match` tests
the byte past the access, finds it outside, and counts the access as partly covered. -/
theorem pmptable_tor_region_end_denied :
    pmpAddressMatch 0 0xff8 8 0x400 PMP_TOR = 1 ∧
      isaPmpCheckPermissionTable Platform.base (fun _ _ => 0) torReadHart 0xff8 8 .read MODE_S = false ∧
      pmptableRule Platform.base (fun _ _ => 0) torReadHart 0xff8 8 .read MODE_S = true := by
  decide

end NemuPriv
