import NemuPriv.Check

namespace NemuPriv

/-- Modelled from the spec: the `pmpcfg` fields of the privileged architecture and the shift
of `pmpaddr`, which encodes bits 55..2 of an address. -/
def PMP_R : BitVec 8 := 0x01
def PMP_W : BitVec 8 := 0x02
def PMP_X : BitVec 8 := 0x04
def PMP_A : BitVec 8 := 0x18
def PMP_TOR : BitVec 8 := 0x08
def PMP_NA4 : BitVec 8 := 0x10
def PMP_L : BitVec 8 := 0x80
def PMP_SHIFT : Nat := 2

def pmpMask (P : Platform) (pmpaddr : BitVec 64) (is_na4 : Bool) : BitVec 64 :=
  let mask := (pmpaddr <<< 1) ||| (if is_na4 then 0 else 1) ||| ~~~P.pmpTorMask
  ~~~(mask &&& ~~~(mask + 1)) <<< PMP_SHIFT

def pmpSectorMatch (addr tor mask base : BitVec 64) (is_tor : Bool) (offset : Nat) : Bool :=
  let cur_addr := addr + BitVec.ofNat 64 offset
  let napot_match := (cur_addr ^^^ tor) &&& mask == 0
  let tor_match := base ≤ cur_addr && cur_addr < tor
  if is_tor then tor_match else napot_match

/-- The sector loop of `isa_pmp_check_permission` for one entry: `(any_match, all_match)` over
the offsets `0, 4, 8, …` below `len`. -/
def pmpSectors (addr tor mask base : BitVec 64) (is_tor : Bool) (len : Nat) : Bool × Bool :=
  (List.range ((len + 3) / 4)).foldl
    (fun (any_match, all_match) k =>
      let m := pmpSectorMatch addr tor mask base is_tor (4 * k)
      (any_match || m, all_match && m))
    (false, true)

/-- The entry loop of `isa_pmp_check_permission` from entry `i`, `base` the top of entry `i - 1`. -/
def pmpLoop (P : Platform) (s : Hart) (addr : BitVec 64) (len : Nat) (type : MemType)
    (mode : Nat) : Nat → Nat → BitVec 64 → Bool
  | 0, _, _ => mode == MODE_M
  | n + 1, i, base =>
    let pmpaddr := s.pmpaddr i
    let tor := (pmpaddr &&& P.pmpTorMask) <<< PMP_SHIFT
    let cfg := s.pmpcfg i
    if cfg &&& PMP_A != 0 then
      let is_tor := cfg &&& PMP_A == PMP_TOR
      let is_na4 := cfg &&& PMP_A == PMP_NA4
      let (any_match, all_match) := pmpSectors addr tor (pmpMask P pmpaddr is_na4) base is_tor len
      if any_match then
        if !all_match then false
        else
          (mode == MODE_M && cfg &&& PMP_L == 0) ||
            ((type == .read || type == .ifetchRead || type == .writeRead) && cfg &&& PMP_R != 0) ||
            (type == .write && cfg &&& PMP_W != 0) ||
            (type == .ifetch && cfg &&& PMP_X != 0)
      else pmpLoop P s addr len type mode n (i + 1) tor
    else pmpLoop P s addr len type mode n (i + 1) tor

def pmpMode (s : Hart) (type : MemType) (out_mode : Nat) : Nat :=
  let ifetch := type == .ifetch
  if out_mode == MODE_M then (if s.mstatus.mprv && !ifetch then s.mstatus.mpp.toNat else s.mode)
  else out_mode

def isaPmpCheckPermission (P : Platform) (s : Hart) (addr : BitVec 64) (len : Nat) (type : MemType)
    (out_mode : Nat) : Bool :=
  if P.pmpActiveNum == 0 then true
  else pmpLoop P s addr len type (pmpMode s type out_mode) P.pmpActiveNum 0 0

def na4Hart : Hart :=
  { Hart.base with
    pmpaddr := fun i => if i = 0 then 0x401 else 0
    pmpcfg := fun i => if i = 0 then PMP_NA4 else 0 }

theorem pmp_partial_na4_granted :
    isaPmpCheckPermission Platform.base na4Hart 0x1002 4 .read MODE_M = true ∧
      pmpSectorMatch 0x1002 ((0x401 &&& Platform.base.pmpTorMask) <<< PMP_SHIFT)
        (pmpMask Platform.base 0x401 true) 0 false 2 = true := by
  decide

def pmpTor (P : Platform) (s : Hart) (i : Nat) : BitVec 64 :=
  (s.pmpaddr i &&& P.pmpTorMask) <<< PMP_SHIFT

def pmpBase (P : Platform) (s : Hart) : Nat → BitVec 64
  | 0 => 0
  | i + 1 => pmpTor P s i

def pmpInRegion (P : Platform) (s : Hart) (i : Nat) (b : BitVec 64) : Bool :=
  pmpSectorMatch b (pmpTor P s i) (pmpMask P (s.pmpaddr i) (s.pmpcfg i &&& PMP_A == PMP_NA4))
    (pmpBase P s i) (s.pmpcfg i &&& PMP_A == PMP_TOR) 0

theorem pmpTor_aligned (P : Platform) (s : Hart) (i : Nat) : (pmpTor P s i).toNat % 4 = 0 := by
  simp [pmpTor, PMP_SHIFT, BitVec.toNat_shiftLeft, Nat.shiftLeft_eq]
  omega

theorem pmpBase_aligned (P : Platform) (s : Hart) (i : Nat) : (pmpBase P s i).toNat % 4 = 0 := by
  cases i with
  | zero => rfl
  | succ i => exact pmpTor_aligned P s i

theorem pmpMask_getLsbD_low (P : Platform) (a : BitVec 64) (na4 : Bool) {k : Nat} (hk : k < 2) :
    (pmpMask P a na4).getLsbD k = false := by
  simp [pmpMask, PMP_SHIFT, hk]

theorem getLsbD_add_sector {cur : BitVec 64} (hcur : cur.toNat % 4 = 0) {j : Nat} (hj : j < 4)
    {k : Nat} (hk : 2 ≤ k) : (cur + BitVec.ofNat 64 j).getLsbD k = cur.getLsbD k := by
  have hlt := cur.isLt
  have hsh : (cur + BitVec.ofNat 64 j) >>> 2 = cur >>> 2 := by
    apply BitVec.eq_of_toNat_eq
    simp only [BitVec.toNat_ushiftRight, BitVec.toNat_add, BitVec.toNat_ofNat, Nat.shiftRight_eq_div_pow]
    rw [Nat.mod_eq_of_lt (show j < 2 ^ 64 by omega), Nat.mod_eq_of_lt (by omega)]
    omega
  have := congrArg (·.getLsbD (k - 2)) hsh
  simpa only [BitVec.getLsbD_ushiftRight, show 2 + (k - 2) = k by omega] using this

/-- Every region is a union of aligned 4-byte sectors. -/
theorem pmpInRegion_sector (P : Platform) (s : Hart) (i : Nat) {cur : BitVec 64}
    (hcur : cur.toNat % 4 = 0) {j : Nat} (hj : j < 4) :
    pmpInRegion P s i (cur + BitVec.ofNat 64 j) = pmpInRegion P s i cur := by
  unfold pmpInRegion pmpSectorMatch
  split
  · have hb := pmpBase_aligned P s i
    have ht := pmpTor_aligned P s i
    have hlt := cur.isLt
    have hadd : (cur + BitVec.ofNat 64 j).toNat = cur.toNat + j := by
      rw [BitVec.toNat_add, BitVec.toNat_ofNat, Nat.mod_eq_of_lt (show j < 2 ^ 64 by omega),
        Nat.mod_eq_of_lt (by omega)]
    simp only [BitVec.add_zero, BitVec.ofNat_eq_ofNat, Bool.and_eq_true, decide_eq_true_eq,
      BitVec.le_def, BitVec.lt_def, hadd]
    rw [Bool.eq_iff_iff]
    simp only [Bool.and_eq_true, decide_eq_true_eq]
    omega
  · simp only [BitVec.add_zero, BitVec.ofNat_eq_ofNat]
    congr 1
    ext k
    simp only [BitVec.getLsbD_and, BitVec.getLsbD_xor]
    by_cases hk : k.val < 2
    · simp [pmpMask_getLsbD_low _ _ _ hk]
    · rw [getLsbD_add_sector hcur hj (by omega)]

section Sectors

variable (P : Platform) (s : Hart) (i : Nat) {addr : BitVec 64}

theorem sector_aligned (haddr : addr.toNat % 4 = 0) (m : Nat) :
    (addr + BitVec.ofNat 64 (4 * m)).toNat % 4 = 0 := by
  rw [BitVec.toNat_add, BitVec.toNat_ofNat]
  omega

theorem pmpInRegion_byte (haddr : addr.toNat % 4 = 0) (b : Nat) :
    pmpInRegion P s i (addr + BitVec.ofNat 64 b) =
      pmpInRegion P s i (addr + BitVec.ofNat 64 (4 * (b / 4))) := by
  conv_lhs => rw [← Nat.div_add_mod b 4, BitVec.ofNat_add, ← BitVec.add_assoc]
  exact pmpInRegion_sector P s i (sector_aligned haddr _) (Nat.mod_lt _ (by omega))

theorem sectors_any_eq_bytes (haddr : addr.toNat % 4 = 0) (len : Nat) :
    (List.range ((len + 3) / 4)).any (fun k => pmpInRegion P s i (addr + BitVec.ofNat 64 (4 * k))) =
      (List.range len).any (fun b => pmpInRegion P s i (addr + BitVec.ofNat 64 b)) := by
  rw [Bool.eq_iff_iff]
  simp only [List.any_eq_true, List.mem_range]
  constructor
  · rintro ⟨k, hk, h⟩
    exact ⟨4 * k, by omega, h⟩
  · rintro ⟨b, hb, h⟩
    exact ⟨b / 4, by omega, pmpInRegion_byte P s i haddr b ▸ h⟩

theorem sectors_all_eq_bytes (haddr : addr.toNat % 4 = 0) (len : Nat) :
    (List.range ((len + 3) / 4)).all (fun k => pmpInRegion P s i (addr + BitVec.ofNat 64 (4 * k))) =
      (List.range len).all (fun b => pmpInRegion P s i (addr + BitVec.ofNat 64 b)) := by
  rw [Bool.eq_iff_iff]
  simp only [List.all_eq_true, List.mem_range]
  constructor
  · intro h b hb
    rw [pmpInRegion_byte P s i haddr b]
    exact h (b / 4) (by omega)
  · intro h k hk
    exact h (4 * k) (by omega)

end Sectors

theorem foldl_any_all (f : Nat → Bool) (l : List Nat) (a b : Bool) :
    l.foldl (fun (p : Bool × Bool) k => (p.1 || f k, p.2 && f k)) (a, b) = (a || l.any f, b && l.all f) := by
  induction l generalizing a b with
  | nil => simp
  | cons k l ih => simp only [List.foldl_cons, ih, List.any_cons, List.all_cons, Bool.or_assoc, Bool.and_assoc]

theorem pmpSectors_eq (addr tor mask base : BitVec 64) (is_tor : Bool) (len : Nat) :
    pmpSectors addr tor mask base is_tor len =
      ((List.range ((len + 3) / 4)).any fun k => pmpSectorMatch addr tor mask base is_tor (4 * k),
        (List.range ((len + 3) / 4)).all fun k => pmpSectorMatch addr tor mask base is_tor (4 * k)) := by
  rw [pmpSectors]
  exact (foldl_any_all _ _ false true).trans (by rw [Bool.false_or, Bool.true_and])

def pmpActive (s : Hart) (i : Nat) : Bool := s.pmpcfg i &&& PMP_A != 0

def pmpGrants (s : Hart) (i : Nat) (type : MemType) (mode : Nat) : Bool :=
  (mode == MODE_M && s.pmpcfg i &&& PMP_L == 0) ||
    ((type == .read || type == .ifetchRead || type == .writeRead) && s.pmpcfg i &&& PMP_R != 0) ||
    (type == .write && s.pmpcfg i &&& PMP_W != 0) ||
    (type == .ifetch && s.pmpcfg i &&& PMP_X != 0)

def pmpAnyByte (P : Platform) (s : Hart) (i : Nat) (addr : BitVec 64) (len : Nat) : Bool :=
  (List.range len).any fun b => pmpInRegion P s i (addr + BitVec.ofNat 64 b)

def pmpAllBytes (P : Platform) (s : Hart) (i : Nat) (addr : BitVec 64) (len : Nat) : Bool :=
  (List.range len).all fun b => pmpInRegion P s i (addr + BitVec.ofNat 64 b)

def pmpDecide (P : Platform) (s : Hart) (addr : BitVec 64) (len : Nat) (type : MemType) (mode : Nat)
    (l : List Nat) : Bool :=
  match l.find? fun i => pmpActive s i && pmpAnyByte P s i addr len with
  | none => mode == MODE_M
  | some i => pmpAllBytes P s i addr len && pmpGrants s i type mode

/-- Modelled from the spec: the PMP rule, byte by byte. The lowest-numbered active entry that
holds a byte of the access decides, and grants only if it holds every byte and permits the access;
with no such entry only machine mode passes, and with no entry implemented every access does. -/
def pmpByteRule (P : Platform) (s : Hart) (addr : BitVec 64) (len : Nat) (type : MemType)
    (mode : Nat) : Bool :=
  P.pmpActiveNum == 0 || pmpDecide P s addr len type mode (List.range P.pmpActiveNum)

section Loop

variable {P : Platform} {s : Hart} {addr : BitVec 64} {len : Nat} {type : MemType} {mode : Nat}

theorem pmpSectorMatch_eq_inRegion (i k : Nat) :
    pmpSectorMatch addr (pmpTor P s i) (pmpMask P (s.pmpaddr i) (s.pmpcfg i &&& PMP_A == PMP_NA4))
      (pmpBase P s i) (s.pmpcfg i &&& PMP_A == PMP_TOR) (4 * k) =
        pmpInRegion P s i (addr + BitVec.ofNat 64 (4 * k)) := by
  simp [pmpInRegion, pmpSectorMatch]

theorem pmpLoop_succ (haddr : addr.toNat % 4 = 0) (n i : Nat) :
    pmpLoop P s addr len type mode (n + 1) i (pmpBase P s i) =
      if pmpActive s i && pmpAnyByte P s i addr len then
        pmpAllBytes P s i addr len && pmpGrants s i type mode
      else pmpLoop P s addr len type mode n (i + 1) (pmpBase P s (i + 1)) := by
  have hs := pmpSectors_eq addr (pmpTor P s i) (pmpMask P (s.pmpaddr i) (s.pmpcfg i &&& PMP_A == PMP_NA4))
      (pmpBase P s i) (s.pmpcfg i &&& PMP_A == PMP_TOR) len
  simp only [pmpSectorMatch_eq_inRegion, sectors_any_eq_bytes P s _ haddr,
    sectors_all_eq_bytes P s _ haddr] at hs
  have ht : (s.pmpaddr i &&& P.pmpTorMask) <<< PMP_SHIFT = pmpTor P s i := rfl
  have hb : pmpBase P s (i + 1) = pmpTor P s i := rfl
  rw [pmpLoop]
  dsimp only
  rw [ht, hs, hb, pmpActive, pmpAnyByte, pmpAllBytes, pmpGrants]
  cases s.pmpcfg i &&& PMP_A != 0 <;>
    cases (List.range len).any fun b => pmpInRegion P s i (addr + BitVec.ofNat 64 b) <;>
    cases (List.range len).all fun b => pmpInRegion P s i (addr + BitVec.ofNat 64 b) <;>
    rfl

theorem pmpLoop_eq_pmpDecide (haddr : addr.toNat % 4 = 0) (n i : Nat) :
    pmpLoop P s addr len type mode n i (pmpBase P s i) =
      pmpDecide P s addr len type mode (List.range' i n) := by
  induction n generalizing i with
  | zero => rfl
  | succ n ih =>
    rw [pmpLoop_succ haddr, ih, List.range'_succ, pmpDecide, pmpDecide, List.find?_cons]
    cases pmpActive s i && pmpAnyByte P s i addr len <;> rfl

end Loop

/-- At a 4-byte aligned address the sector-wise check of `isa_pmp_check_permission` decides
every access as the byte-wise rule does. -/
theorem isaPmpCheckPermission_eq_pmpByteRule (P : Platform) (s : Hart) (addr : BitVec 64)
    (len : Nat) (type : MemType) (out_mode : Nat) (haddr : addr.toNat % 4 = 0) :
    isaPmpCheckPermission P s addr len type out_mode =
      pmpByteRule P s addr len type (pmpMode s type out_mode) := by
  rw [isaPmpCheckPermission, pmpByteRule]
  cases P.pmpActiveNum == 0
  · exact (pmpLoop_eq_pmpDecide haddr _ 0).trans (by rw [List.range_eq_range', Bool.false_or])
  · rfl

theorem isaPmpCheckPermission_eq_pmpByteRule_na4 :
    (0x1004 : BitVec 64).toNat % 4 = 0 ∧
      isaPmpCheckPermission Platform.base na4Hart 0x1004 4 .read MODE_M =
        pmpByteRule Platform.base na4Hart 0x1004 4 .read (pmpMode na4Hart .read MODE_M) :=
  ⟨by decide, isaPmpCheckPermission_eq_pmpByteRule _ _ _ _ _ _ (by decide)⟩

/-- Settings `c'` keep the region kind of `c`, grant each of R, W and X that `c` grants, and lock
the entry only if `c` does. -/
structure PmpcfgRelaxes (c c' : BitVec 8) : Prop where
  addr_mode : c' &&& PMP_A = c &&& PMP_A
  r : c &&& PMP_R ≠ 0 → c' &&& PMP_R ≠ 0
  w : c &&& PMP_W ≠ 0 → c' &&& PMP_W ≠ 0
  x : c &&& PMP_X ≠ 0 → c' &&& PMP_X ≠ 0
  unlocked : c &&& PMP_L = 0 → c' &&& PMP_L = 0

section Relax

variable {P : Platform} {s : Hart} {addr : BitVec 64} {len : Nat} {type : MemType} {mode : Nat}
  {c : Nat → BitVec 8}

theorem pmpGrant_relaxes {g g' : BitVec 8} (h : PmpcfgRelaxes g g') :
    ((mode == MODE_M && g &&& PMP_L == 0) ||
        ((type == .read || type == .ifetchRead || type == .writeRead) && g &&& PMP_R != 0) ||
        (type == .write && g &&& PMP_W != 0) || (type == .ifetch && g &&& PMP_X != 0)) = true →
      ((mode == MODE_M && g' &&& PMP_L == 0) ||
        ((type == .read || type == .ifetchRead || type == .writeRead) && g' &&& PMP_R != 0) ||
        (type == .write && g' &&& PMP_W != 0) || (type == .ifetch && g' &&& PMP_X != 0)) = true := by
  simp only [Bool.or_eq_true, Bool.and_eq_true, beq_iff_eq, bne_iff_ne]
  exact Or.imp (Or.imp (Or.imp (And.imp_right h.unlocked) (And.imp_right h.r)) (And.imp_right h.w))
    (And.imp_right h.x)

theorem pmpLoop_relaxes (hc : ∀ i, PmpcfgRelaxes (s.pmpcfg i) (c i)) (n i : Nat) (base : BitVec 64) :
    pmpLoop P s addr len type mode n i base = true →
      pmpLoop P { s with pmpcfg := c } addr len type mode n i base = true := by
  induction n generalizing i base with
  | zero => exact id
  | succ n ih =>
    simp only [pmpLoop, (hc i).addr_mode]
    split
    · split
      · split
        · exact id
        · exact pmpGrant_relaxes (hc i)
      · exact ih _ _
    · exact ih _ _

/-- Relaxing PMP entries never denies an access the old entries allowed. -/
theorem isaPmpCheckPermission_relaxes {out_mode : Nat} (hc : ∀ i, PmpcfgRelaxes (s.pmpcfg i) (c i))
    (h : isaPmpCheckPermission P s addr len type out_mode = true) :
    isaPmpCheckPermission P { s with pmpcfg := c } addr len type out_mode = true := by
  revert h
  unfold isaPmpCheckPermission
  split
  · exact id
  · exact pmpLoop_relaxes hc _ _ _

end Relax

theorem isaPmpCheckPermission_relaxes_na4_read :
    (∀ i, PmpcfgRelaxes (na4Hart.pmpcfg i) (na4Hart.pmpcfg i ||| PMP_R)) ∧
      isaPmpCheckPermission Platform.base na4Hart 0x1004 4 .read MODE_M = true ∧
      isaPmpCheckPermission Platform.base { na4Hart with pmpcfg := fun i => na4Hart.pmpcfg i ||| PMP_R }
        0x1004 4 .read MODE_M = true := by
  have hc : ∀ i, PmpcfgRelaxes (na4Hart.pmpcfg i) (na4Hart.pmpcfg i ||| PMP_R) := fun i => by
    by_cases h : i = 0 <;> simp only [na4Hart, h, if_true, if_false] <;> constructor <;> decide
  have h : isaPmpCheckPermission Platform.base na4Hart 0x1004 4 .read MODE_M = true := by decide
  exact ⟨hc, h, isaPmpCheckPermission_relaxes hc h⟩

/-- Modelled from the spec: the consecutive one bits of `x` from bit `i` up, within `fuel` bits. -/
def trailingOnesFrom (x : BitVec 64) : Nat → Nat → Nat
  | 0, i => i
  | fuel + 1, i => if x.getLsbD i then trailingOnesFrom x fuel (i + 1) else i

/-- Modelled from the spec: the number of trailing one bits of `x`. -/
def trailingOnes (x : BitVec 64) : Nat := trailingOnesFrom x 64 0

theorem le_trailingOnesFrom_iff (x : BitVec 64) (fuel : Nat) {i m : Nat} (hi : i ≤ m) :
    m ≤ trailingOnesFrom x fuel i ↔ m ≤ i + fuel ∧ ∀ j, i ≤ j → j < m → x.getLsbD j = true := by
  induction fuel generalizing i m with
  | zero =>
    simp only [trailingOnesFrom, Nat.add_zero]
    exact ⟨fun h => ⟨h, fun j hj hjm => absurd hjm (by omega)⟩, fun h => h.1⟩
  | succ fuel ih =>
    rw [trailingOnesFrom]
    split
    · rename_i hx
      rcases Nat.eq_or_lt_of_le hi with rfl | hlt
      · refine ⟨fun _ => ⟨by omega, fun j hj hjm => absurd hjm (by omega)⟩, fun _ => ?_⟩
        have := (ih (Nat.le_refl (i + 1))).2 ⟨by omega, fun j hj hjm => absurd hjm (by omega)⟩
        omega
      · rw [ih hlt]
        refine ⟨fun ⟨h1, h2⟩ => ⟨by omega, fun j hj hjm => ?_⟩, fun ⟨h1, h2⟩ => ⟨by omega, fun j hj hjm => h2 j (by omega) hjm⟩⟩
        rcases Nat.eq_or_lt_of_le hj with rfl | hj'
        · exact hx
        · exact h2 j hj' hjm
    · rename_i hx
      refine ⟨fun h => ⟨by omega, fun j hj hjm => absurd hjm (by omega)⟩, fun ⟨_, h⟩ => ?_⟩
      by_contra hm
      exact hx (h i (Nat.le_refl _) (by omega))


theorem le_trailingOnes_iff (x : BitVec 64) (m : Nat) :
    m ≤ trailingOnes x ↔ ∀ j < m, x.getLsbD j = true := by
  rw [trailingOnes, le_trailingOnesFrom_iff x 64 (Nat.zero_le m)]
  refine ⟨fun h j hj => h.2 j (Nat.zero_le j) hj, fun h => ⟨?_, fun j _ hj => h j hj⟩⟩
  by_contra h64
  simpa using h 64 (by omega)

theorem toNat_mod_two_pow_eq_iff (x : BitVec 64) (i : Nat) :
    x.toNat % 2 ^ i = 2 ^ i - 1 ↔ ∀ j < i, x.getLsbD j = true := by
  constructor
  · intro h j hj
    have := congrArg (Nat.testBit · j) h
    simpa [Nat.testBit_mod_two_pow, Nat.testBit_two_pow_sub_one, hj] using this
  · intro h
    apply Nat.eq_of_testBit_eq
    intro j
    rw [Nat.testBit_mod_two_pow, Nat.testBit_two_pow_sub_one]
    by_cases hj : j < i
    · simpa [hj] using h j hj
    · simp [hj]

theorem trailingOnes_le (x : BitVec 64) : trailingOnes x ≤ 64 := by
  by_contra h
  simpa using (le_trailingOnes_iff x 65).1 (by omega) 64 (by omega)

theorem getLsbD_trailingOnes (x : BitVec 64) : x.getLsbD (trailingOnes x) = false := by
  by_contra h
  have := (le_trailingOnes_iff x (trailingOnes x + 1)).2 fun j hj => by
    rcases Nat.lt_succ_iff_lt_or_eq.1 hj with hj | rfl
    · exact (le_trailingOnes_iff x _).1 (Nat.le_refl _) j hj
    · simpa using h
  omega

theorem toNat_mod_trailingOnes (x : BitVec 64) :
    x.toNat % 2 ^ (trailingOnes x + 1) = 2 ^ trailingOnes x - 1 := by
  apply Nat.eq_of_testBit_eq
  intro j
  rw [Nat.testBit_mod_two_pow, Nat.testBit_two_pow_sub_one, BitVec.testBit_toNat]
  rcases Nat.lt_trichotomy j (trailingOnes x) with h | rfl | h
  · simp [h, show j < trailingOnes x + 1 by omega, (le_trailingOnes_iff x _).1 (Nat.le_refl _) j h]
  · simp [getLsbD_trailingOnes]
  · simp [show ¬ j < trailingOnes x + 1 by omega, show ¬ j < trailingOnes x by omega]

theorem getLsbD_add_one (x : BitVec 64) {i : Nat} (hi : i < 64) :
    (x + 1).getLsbD i = (x.getLsbD i ^^ decide (∀ j < i, x.getLsbD j = true)) := by
  rw [BitVec.getLsbD_add hi, BitVec.carry, show (1 : BitVec 64) = 1#64 from rfl, BitVec.getLsbD_one]
  cases i with
  | zero => simp [Nat.mod_one]
  | succ i =>
    have h1 : (1#64).toNat % 2 ^ (i + 1) = 1 :=
      Nat.mod_eq_of_lt (Nat.one_lt_two_pow (by omega))
    have hc : x.toNat % 2 ^ (i + 1) + 1 + 0 ≥ 2 ^ (i + 1) ↔ ∀ j < i + 1, x.getLsbD j = true := by
      have hlt := Nat.mod_lt x.toNat (Nat.two_pow_pos (i + 1))
      rw [← toNat_mod_two_pow_eq_iff]
      omega
    rw [h1, Bool.toNat_false]
    simp only [Nat.add_one_ne_zero, decide_False, Bool.and_false, Bool.false_xor]
    congr 1
    exact decide_eq_decide.2 hc

theorem getLsbD_and_not_add_one (x : BitVec 64) (i : Nat) :
    (x &&& ~~~(x + 1)).getLsbD i = decide (i < trailingOnes x) := by
  by_cases hi : i < 64
  · rw [BitVec.getLsbD_and, BitVec.getLsbD_not, getLsbD_add_one x hi,
      decide_eq_decide.2 ((show i < trailingOnes x ↔ i + 1 ≤ trailingOnes x from Iff.rfl).trans
        (le_trailingOnes_iff x (i + 1)))]
    cases hx : x.getLsbD i
    · exact (decide_eq_false fun h => absurd (h i (by omega)) (by simp [hx])).symm
    · simp only [hi, decide_True, Bool.true_and, Bool.true_xor, Bool.not_not]
      refine decide_eq_decide.2 ⟨fun h j hj => ?_, fun h j hj => h j (by omega)⟩
      rcases Nat.lt_succ_iff_lt_or_eq.1 hj with hj | rfl
      · exact h j hj
      · exact hx
  · rw [BitVec.getLsbD_ge _ _ (by omega)]
    have := trailingOnes_le x
    exact (decide_eq_false (by omega)).symm


/-- Bit `j` of the NAPOT/NA4 mask is set from bit `t + 2` up, `t` the trailing ones of
`(pmpaddr << 1) | !is_na4 | ~pmp_tor_mask()`. -/
theorem pmpMask_getLsbD (P : Platform) (pmpaddr : BitVec 64) (is_na4 : Bool) (j : Nat) :
    (pmpMask P pmpaddr is_na4).getLsbD j = (decide (j < 64) && decide (2 ≤ j) &&
      !decide (j - 2 < trailingOnes
        ((pmpaddr <<< 1) ||| (if is_na4 then 0 else 1) ||| ~~~P.pmpTorMask))) := by
  simp only [pmpMask, PMP_SHIFT, BitVec.getLsbD_shiftLeft, BitVec.getLsbD_not,
    getLsbD_and_not_add_one, Nat.not_lt]
  by_cases hj : j < 64
  · by_cases h2 : j < 2
    · simp [h2]
    · simp [hj, h2, show 2 ≤ j by omega, show j - 2 < 64 by omega]
  · simp [hj]

/-- Modelled from the spec: `y` lies in the naturally aligned block of `2^n` bytes that holds `a`. -/
def inAlignedBlock (n : Nat) (a y : BitVec 64) : Bool := y.toNat / 2 ^ n == a.toNat / 2 ^ n

theorem inAlignedBlock_iff (n : Nat) (a y : BitVec 64) :
    inAlignedBlock n a y = true ↔ ∀ j, n ≤ j → j < 64 → y.getLsbD j = a.getLsbD j := by
  have hsh : inAlignedBlock n a y = true ↔ y >>> n = a >>> n := by
    rw [inAlignedBlock, beq_iff_eq, ← Nat.shiftRight_eq_div_pow, ← Nat.shiftRight_eq_div_pow,
      ← BitVec.toNat_ushiftRight, ← BitVec.toNat_ushiftRight]
    exact ⟨BitVec.eq_of_toNat_eq, congrArg BitVec.toNat⟩
  rw [hsh]
  constructor
  · intro h j hnj hj
    simpa [BitVec.getLsbD_ushiftRight, show n + (j - n) = j by omega] using
      congrArg (·.getLsbD (j - n)) h
  · intro h
    ext i
    simp only [BitVec.getLsbD_ushiftRight]
    by_cases hi : n + i.val < 64
    · exact h _ (by omega) hi
    · rw [BitVec.getLsbD_ge _ _ (by omega), BitVec.getLsbD_ge _ _ (by omega)]

theorem xor_and_eq_zero_iff (y tor mask : BitVec 64) :
    ((y ^^^ tor) &&& mask == 0) = true ↔
      ∀ j < 64, mask.getLsbD j = true → y.getLsbD j = tor.getLsbD j := by
  rw [beq_iff_eq]
  constructor
  · intro h j hj hm
    have := congrArg (·.getLsbD j) h
    simp only [BitVec.getLsbD_and, BitVec.getLsbD_xor, hm, Bool.and_true, BitVec.getLsbD_zero] at this
    simpa using this
  · intro h
    ext j
    simp only [BitVec.getLsbD_and, BitVec.getLsbD_xor, BitVec.getLsbD_zero]
    cases hm : mask.getLsbD j
    · simp
    · simp [h j j.isLt hm]


theorem pmpSectorMatch_napot_eq (P : Platform) (pmpaddr tor base y : BitVec 64) (is_na4 : Bool) :
    pmpSectorMatch y tor (pmpMask P pmpaddr is_na4) base false 0 =
      inAlignedBlock (trailingOnes
        ((pmpaddr <<< 1) ||| (if is_na4 then 0 else 1) ||| ~~~P.pmpTorMask) + 2) tor y := by
  rw [Bool.eq_iff_iff, inAlignedBlock_iff, pmpSectorMatch, if_neg Bool.false_ne_true,
    show y + BitVec.ofNat 64 0 = y from BitVec.add_zero y, xor_and_eq_zero_iff]
  simp only [pmpMask_getLsbD, Bool.and_eq_true, decide_eq_true_eq, Bool.not_eq_true',
    decide_eq_false_iff_not, Nat.not_lt]
  exact ⟨fun h j hj hj64 => h j hj64 ⟨⟨hj64, by omega⟩, by omega⟩,
    fun h j hj64 hm => h j (by omega) hj64⟩


section Granularity

-- `pmp_tor_mask()` of a build whose granularity clears the `g` low bits of `pmpaddr`
variable {P : Platform} {g : Nat} (hg : P.pmpTorMask = ~~~lowMask g)
include hg

theorem napotSeed_le_trailingOnes_iff (pmpaddr : BitVec 64) {m : Nat} (hm : m < 64) :
    m + 1 ≤ trailingOnes ((pmpaddr <<< 1) ||| 1 ||| ~~~P.pmpTorMask) ↔
      m ≤ trailingOnes (pmpaddr ||| lowMask (g - 1)) := by
  have hbit : ∀ i < 63, ((pmpaddr <<< 1) ||| 1 ||| ~~~P.pmpTorMask).getLsbD (i + 1) =
      (pmpaddr ||| lowMask (g - 1)).getLsbD i := fun i hi => by
    rw [hg, BitVec.not_not, show (1 : BitVec 64) = 1#64 from rfl]
    simp only [BitVec.getLsbD_or, BitVec.getLsbD_shiftLeft, BitVec.getLsbD_one, getLsbD_lowMask]
    simp only [show i + 1 < 64 by omega, show i < 64 by omega, show ¬ i + 1 < 1 by omega,
      Nat.add_sub_cancel, Nat.add_one_ne_zero, decide_True, decide_False, Bool.not_false,
      Bool.true_and, Bool.and_false, Bool.or_false]
    congr 1
    exact decide_eq_decide.2 (by omega)
  rw [le_trailingOnes_iff, le_trailingOnes_iff]
  constructor
  · intro h i hi
    rw [← hbit i (by omega)]
    exact h (i + 1) (by omega)
  · intro h i hi
    cases i with
    | zero => simp [BitVec.getLsbD_or, BitVec.getLsbD_one]
    | succ i => rw [hbit i (by omega)]; exact h i (by omega)

theorem pmpSectorMatch_napot (pmpaddr base y : BitVec 64) :
    pmpSectorMatch y ((pmpaddr &&& P.pmpTorMask) <<< PMP_SHIFT) (pmpMask P pmpaddr false) base false 0 =
      inAlignedBlock (trailingOnes (pmpaddr ||| lowMask (g - 1)) + 3) (pmpaddr <<< PMP_SHIFT) y := by
  rw [pmpSectorMatch_napot_eq, if_neg Bool.false_ne_true, Bool.eq_iff_iff, inAlignedBlock_iff,
    inAlignedBlock_iff]
  have hgk : min (g - 1) 64 ≤ trailingOnes (pmpaddr ||| lowMask (g - 1)) :=
    (le_trailingOnes_iff _ _).2 fun i hi => by simp [getLsbD_lowMask]; omega
  have hlev : ∀ j < 64, trailingOnes ((pmpaddr <<< 1) ||| 1 ||| ~~~P.pmpTorMask) + 2 ≤ j ↔
      trailingOnes (pmpaddr ||| lowMask (g - 1)) + 3 ≤ j := fun j hj => by
    by_cases h2 : 2 ≤ j
    · have := napotSeed_le_trailingOnes_iff hg pmpaddr (m := j - 2) (by omega)
      omega
    · omega
  have htor : ∀ j < 64, trailingOnes (pmpaddr ||| lowMask (g - 1)) + 3 ≤ j →
      ((pmpaddr &&& P.pmpTorMask) <<< PMP_SHIFT).getLsbD j = (pmpaddr <<< PMP_SHIFT).getLsbD j :=
    fun j hj hkj => by
      rw [hg]
      simp only [PMP_SHIFT, BitVec.getLsbD_shiftLeft, BitVec.getLsbD_and, BitVec.getLsbD_not,
        getLsbD_lowMask]
      simp [hj, show j - 2 < 64 by omega, show ¬ j - 2 < g by omega]
  exact ⟨fun h j hkj hj => (htor j hj hkj).symm ▸ h j ((hlev j hj).2 hkj) hj,
    fun h j hkj hj => (htor j hj ((hlev j hj).1 hkj)) ▸ h j ((hlev j hj).1 hkj) hj⟩

theorem pmpSectorMatch_na4 (h0 : g = 0) (pmpaddr base y : BitVec 64) :
    pmpSectorMatch y ((pmpaddr &&& P.pmpTorMask) <<< PMP_SHIFT) (pmpMask P pmpaddr true) base false 0 = true ↔
      (pmpaddr <<< PMP_SHIFT).toNat ≤ y.toNat ∧ y.toNat < (pmpaddr <<< PMP_SHIFT).toNat + 4 := by
  subst h0
  have hmask : P.pmpTorMask = BitVec.allOnes 64 := by rw [hg]; decide
  have hseed : trailingOnes ((pmpaddr <<< 1) ||| (if true = true then 0 else 1) ||| ~~~P.pmpTorMask) = 0 := by
    by_contra h
    have := (le_trailingOnes_iff
      ((pmpaddr <<< 1) ||| (if true = true then 0 else 1) ||| ~~~P.pmpTorMask) 1).1 (by omega) 0 (by omega)
    simp [hmask, BitVec.getLsbD_shiftLeft] at this
  have hal : (pmpaddr <<< PMP_SHIFT).toNat % 4 = 0 := by
    simp [PMP_SHIFT, BitVec.toNat_shiftLeft, Nat.shiftLeft_eq]
    omega
  rw [pmpSectorMatch_napot_eq, hseed, hmask, BitVec.and_allOnes, inAlignedBlock, beq_iff_eq]
  omega

/-- The region test for NAPOT and NA4 entries: a NAPOT entry holds the aligned block of
`2^(k + 3)` bytes around `pmpaddr << 2`, `k` the trailing ones of `pmpaddr` with its `g - 1` low
bits set; at 4-byte granularity an NA4 entry holds the four bytes from `pmpaddr << 2`. -/
theorem pmpSectorMatch_region (pmpaddr base y : BitVec 64) :
    pmpSectorMatch y ((pmpaddr &&& P.pmpTorMask) <<< PMP_SHIFT) (pmpMask P pmpaddr false) base false 0 =
        inAlignedBlock (trailingOnes (pmpaddr ||| lowMask (g - 1)) + 3) (pmpaddr <<< PMP_SHIFT) y ∧
      (g = 0 →
        (pmpSectorMatch y ((pmpaddr &&& P.pmpTorMask) <<< PMP_SHIFT) (pmpMask P pmpaddr true) base false 0 =
            true ↔
          (pmpaddr <<< PMP_SHIFT).toNat ≤ y.toNat ∧ y.toNat < (pmpaddr <<< PMP_SHIFT).toNat + 4)) :=
  ⟨pmpSectorMatch_napot hg pmpaddr base y, fun h0 => pmpSectorMatch_na4 hg h0 pmpaddr base y⟩

end Granularity

def granule8Platform : Platform := { Platform.base with pmpTorMask := ~~~lowMask 1 }

def granule16Platform : Platform := { Platform.base with pmpTorMask := ~~~lowMask 2 }

theorem pmpSectorMatch_region_granule16 :
    granule16Platform.pmpTorMask = ~~~lowMask 2 ∧
      (pmpSectorMatch 0x100c ((0x400 &&& granule16Platform.pmpTorMask) <<< PMP_SHIFT)
          (pmpMask granule16Platform 0x400 false) 0 false 0 =
          inAlignedBlock (trailingOnes (0x400 ||| lowMask (2 - 1)) + 3) (0x400 <<< PMP_SHIFT) 0x100c ∧
        (2 = 0 →
          (pmpSectorMatch 0x100c ((0x400 &&& granule16Platform.pmpTorMask) <<< PMP_SHIFT)
              (pmpMask granule16Platform 0x400 true) 0 false 0 = true ↔
            ((0x400 : BitVec 64) <<< PMP_SHIFT).toNat ≤ (0x100c : BitVec 64).toNat ∧
              (0x100c : BitVec 64).toNat < ((0x400 : BitVec 64) <<< PMP_SHIFT).toNat + 4))) ∧
      inAlignedBlock (trailingOnes (0x400 ||| lowMask (2 - 1)) + 3) (0x400 <<< PMP_SHIFT) 0x100c =
        true :=
  ⟨rfl, pmpSectorMatch_region rfl 0x400 0 0x100c, by decide⟩

/-- With 8-byte granules the NAPOT entry `pmpaddr = 0` is the single granule `[0, 8)`, not the
16-byte block that setting its one granularity bit would give. -/
theorem pmpSectorMatch_napot_single_granule :
    pmpSectorMatch 8 ((0 &&& granule8Platform.pmpTorMask) <<< PMP_SHIFT)
        (pmpMask granule8Platform 0 false) 0 false 0 = false ∧
      inAlignedBlock (trailingOnes (0 ||| lowMask 1) + 3) (0 <<< PMP_SHIFT) 8 = true := by
  decide

/-- `isa_bmc_check_permission` with `CONFIG_RV_MBMC`: the bit of the page number of `addr` at level
`pt_level` in the bitmap at `mbmc.BMA << 6`; a set bit denies the access. -/
def isaBmcCheckPermission (P : Platform) (s : Hart) (addr : BitVec 64) : Bool :=
  if !s.mbmc_BME then true
  else if s.mbmc_CMODE then true
  else
    let bm_base := s.mbmc_BMA <<< 6
    let ppn := (addr >>> (9 * s.pt_level.toNat + PGSHFT)) <<< (9 * s.pt_level.toNat)
    let is_bmc := (P.bitmapRead (bm_base + ppn / 8) >>> (ppn % 8).toNat) &&& 1 != 0
    !is_bmc

/-- A Sv39 table at `0x80000000` pointing to a 2 MiB leaf at `0x80000000`, and a bitmap that
denies page `0x80001` and allows page `0x80000`. -/
def superpageBitmapPlatform : Platform :=
  { Platform.base with
    paddrRead := fun a =>
      if a = 0x80000000 then 0x20000401
      else if a = 0x80001000 then 0x200000cf
      else 0
    bitmapRead := fun a => if a = 0x10000 then 2 else 0 }

def superpageBitmapHart : Hart :=
  { Hart.base with mode := MODE_S, satp := ⟨8, 0x80000⟩, mbmc_BME := true }

theorem bmc_level_after_superpage_walk :
    (final (ptw superpageBitmapPlatform 0 .read superpageBitmapHart)).pt_level = 1 ∧
      outcome (isaMmuCheck superpageBitmapPlatform 0x80001000 8 .read
        (raiseIntr superpageBitmapPlatform EX_II 0
          (final (ptw superpageBitmapPlatform 0 .read superpageBitmapHart))).2) = .ret .direct ∧
      isaBmcCheckPermission superpageBitmapPlatform
        (raiseIntr superpageBitmapPlatform EX_II 0
          (final (ptw superpageBitmapPlatform 0 .read superpageBitmapHart))).2 0x80001000 = true ∧
      isaBmcCheckPermission superpageBitmapPlatform
        { (raiseIntr superpageBitmapPlatform EX_II 0
          (final (ptw superpageBitmapPlatform 0 .read superpageBitmapHart))).2 with pt_level := 0 }
        0x80001000 = false := by
  decide

end NemuPriv
