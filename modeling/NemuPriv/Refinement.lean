import NemuPriv.Walk
import NemuPriv.Reference

namespace NemuPriv

theorem one_shiftLeft_sub_one {n : Nat} (hn : n < 64) : 1#64 <<< n - 1#64 = lowMask n := by
  have h : 2 ^ n < 2 ^ 64 := Nat.pow_lt_pow_of_lt (by decide) hn
  have h1 : 1 ≤ 2 ^ n := Nat.one_le_two_pow
  apply BitVec.eq_of_toNat_eq
  simp [lowMask, BitVec.toNat_sub, Nat.mod_eq_of_lt h]
  omega

theorem shift_sshiftRight_eq (x : BitVec 64) {w : Nat} (hw0 : 0 < w) (hw : w ≤ 64) :
    (x <<< (64 - w)).sshiftRight (64 - w) = (x.setWidth w).signExtend 64 := by
  ext j
  have hj64 : ¬ 64 ≤ j.val := by omega
  simp only [BitVec.getLsbD_sshiftRight, BitVec.getLsbD_signExtend, BitVec.getLsbD_shiftLeft,
    BitVec.getLsbD_setWidth, BitVec.msb_eq_getLsbD_last]
  by_cases hj : j.val < w
  · have h1 : 64 - w + j.val < 64 := by omega
    have h2 : 64 - w + j.val - (64 - w) = j.val := by omega
    have h3 : ¬ 64 - w + j.val < 64 - w := by omega
    simp [hj, h1, h2, h3, hj64]
  · have h1 : ¬ 64 - w + j.val < 64 := by omega
    have h2 : 63 - (64 - w) = w - 1 := by omega
    have h3 : ¬ 63 < 64 - w := by omega
    have h4 : w - 1 < w := by omega
    simp [hj, h1, h2, h3, h4, hj64]

theorem signExtend_eq_iff (x : BitVec 64) {w : Nat} (hw0 : 0 < w) :
    (x.setWidth w).signExtend 64 = x ↔ isCanonical w x = true := by
  have hw1 : w - 1 < w := by omega
  simp only [isCanonical, List.all_eq_true, List.mem_range, Bool.or_eq_true, decide_eq_true_eq,
    beq_iff_eq]
  constructor
  · intro h j hj
    by_cases hjw : j < w
    · exact .inl hjw
    · have := congrArg (·.getLsbD j) h
      simp [BitVec.getLsbD_signExtend, hj, hjw, BitVec.msb_eq_getLsbD_last, hw1] at this
      exact .inr this.symm
  · intro h
    ext j
    have hj := j.isLt
    simp only [BitVec.getLsbD_signExtend, BitVec.getLsbD_setWidth, BitVec.msb_eq_getLsbD_last]
    by_cases hjw : j.val < w
    · simp [hjw, hj]
    · rcases h j hj with h | h
      · exact absurd h hjw
      · simp [hjw, hj, h, hw1]

theorem canonicalOk_eq_isCanonical (mode : BitVec 4) (vaddr : BitVec 64) :
    canonicalOk (if mode = 8 then 3 else 4) vaddr =
      isCanonical (12 + 9 * if mode = 8 then 3 else 4) vaddr := by
  have key (w : Nat) (h0 : 0 < w) (h64 : w ≤ 64) :
      ((vaddr <<< (64 - w)).sshiftRight (64 - w) == vaddr) = isCanonical w vaddr := by
    rw [shift_sshiftRight_eq vaddr h0 h64, Bool.eq_iff_iff, beq_iff_eq]
    exact signExtend_eq_iff vaddr h0
  split
  · exact key 39 (by decide) (by decide)
  · exact key 48 (by decide) (by decide)

theorem VPNi_eq_vpn (vaddr : BitVec 64) (i : Nat) : VPNi vaddr i = vpn vaddr i := by
  have h : VPNMASK = lowMask 9 := rfl
  ext j
  simp [VPNi, VPNiSHFT, PGSHFT, h, vpn, Bool.and_comm]

theorem pgbase_and_lowMask (ppn : BitVec 64) (l : Nat) :
    PGBASE ppn &&& lowMask (12 + 9 * l) = (ppn &&& lowMask (9 * l)) <<< 12 := by
  ext j
  have hj := j.isLt
  simp only [PGBASE, PGSHFT, BitVec.getLsbD_and, BitVec.getLsbD_shiftLeft, getLsbD_lowMask]
  by_cases h12 : j.val < 12
  · simp [h12]
  · have h1 : j.val - 12 < 64 := by omega
    have h2 : (j.val < 12 + 9 * l) = (j.val - 12 < 9 * l) := by
      apply propext; omega
    simp [h12, hj, h1, h2, Bool.and_comm]

theorem shiftLeft_twelve_eq_zero {y : BitVec 64} (hy : y &&& lowMask 52 = y) :
    y <<< 12 = 0#64 ↔ y = 0#64 := by
  constructor
  · intro h
    ext k
    have hk := k.isLt
    have h1 := congrArg (·.getLsbD (k.val + 12)) h
    have h2 := congrArg (·.getLsbD k.val) hy
    simp only [BitVec.getLsbD_shiftLeft, BitVec.getLsbD_zero, BitVec.getLsbD_and,
      getLsbD_lowMask] at h1 h2
    by_cases hk52 : k.val < 52
    · have : k.val + 12 < 64 := by omega
      simp_all
    · simp_all
  · rintro rfl; simp

theorem superpage_aligned_iff (ppn : BitVec 64) {l : Nat} (hl : 9 * l ≤ 52) :
    PGBASE ppn &&& lowMask (12 + 9 * l) = 0#64 ↔ ppn &&& lowMask (9 * l) = 0#64 := by
  rw [pgbase_and_lowMask]
  apply shiftLeft_twelve_eq_zero
  ext j
  have hj := j.isLt
  simp only [BitVec.getLsbD_and, getLsbD_lowMask]
  by_cases h : j.val < 9 * l
  · have : j.val < 52 := by omega
    simp [h, this, hj]
  · simp [h]

theorem splice_eq_leafPage (ppn vaddr : BitVec 64) (l : Nat) :
    (PGBASE ppn &&& ~~~lowMask (12 + 9 * l)) ||| (vaddr &&& lowMask (12 + 9 * l) &&& ~~~lowMask 12) =
      leafPage ppn vaddr l := by
  ext j
  have hj := j.isLt
  simp only [PGBASE, PGSHFT, leafPage, BitVec.getLsbD_or, BitVec.getLsbD_and, BitVec.getLsbD_not,
    BitVec.getLsbD_shiftLeft, BitVec.getLsbD_ushiftRight, getLsbD_lowMask]
  have h64 : j.val - 12 < 64 := by omega
  by_cases h12 : j.val < 12
  · simp [h12, hj]
  · by_cases hl : j.val < 12 + 9 * l
    · have : j.val - 12 < 9 * l := by omega
      have h2 : 12 + (j.val - 12) = j.val := by omega
      simp [h12, hl, hj, this, h2, h64]
    · have : ¬ j.val - 12 < 9 * l := by omega
      have h2 : 9 * l + (j.val - 12 - 9 * l) = j.val - 12 := by omega
      simp [h12, hl, hj, this, h2, h64]

theorem pgbase_eq_leafPage_zero (ppn vaddr : BitVec 64) : PGBASE ppn = leafPage ppn vaddr 0 := by
  simp [PGBASE, PGSHFT, leafPage, lowMask]

theorem splice_ite_eq_leafPage (ppn vaddr : BitVec 64) (level : Nat) :
    (if level > 0 then PGBASE ppn &&& ~~~lowMask (12 + 9 * level) |||
        vaddr &&& lowMask (12 + 9 * level) &&& ~~~PGMASK else PGBASE ppn) =
      leafPage ppn vaddr level := by
  have : PGMASK = lowMask 12 := by decide
  split
  · rw [this, splice_eq_leafPage]
  · obtain rfl : level = 0 := by omega
    exact pgbase_eq_leafPage_zero _ _

/-- What `ptw` should give for the reference's answer: the page with `MEM_RET_OK`, or the page
fault of the access. -/
def refResult (P : Platform) (acc : Access) (amo : Bool) : Option (BitVec 64) → Outcome (BitVec 64)
  | some pa => .ret (pa ||| P.memRetOk)
  | none => .raise (.exception (pageFault acc.memType amo))

section Leaf

variable {P : Platform} {s : Hart} {pte : PTE} {vaddr : BitVec 64} {acc : Access} {mode : Nat}

theorem leaf_checks_eq (hmode : mode = MODE_U ∨ mode = MODE_S) (hv : pte.v = true)
    (hlvx : acc = .read → s.hlvx = false) :
    (permits P s pte true acc.memType false mode &&
        !(!P.share && (!pte.a || (!pte.d && acc.memType == .write)))) =
      (pte.pad == 0#64 && leafAllows acc (mode == MODE_U) s.mstatus.sum s.mstatus.mxr pte) := by
  rcases hmode with rfl | rfl <;> cases acc <;>
    simp [permits, leafAllows, hv, Access.memType, MODE_U, MODE_S, hlvx, beq_eq_decide, bne] <;>
    cases P.share <;> simp [Bool.and_comm, Bool.and_left_comm, Bool.and_assoc]

theorem pg_mask_eq_lowMask {level : Nat} (hl : level ≤ 3) :
    (1 : BitVec 64) <<< VPNiSHFT level - 1 = lowMask (12 + 9 * level) := by
  rw [VPNiSHFT, PGSHFT]; exact one_shiftLeft_sub_one (by omega)

theorem refLeaf_eq_ite (user sum mxr : Bool) (level : Nat) :
    (if pte.pad = 0#64 then refLeaf acc user sum mxr vaddr level pte else none) =
      if (pte.pad == 0#64 && leafAllows acc user sum mxr pte) = true ∧
          pte.ppn &&& lowMask (9 * level) = 0#64 then some (leafPage pte.ppn vaddr level)
      else none := by
  unfold refLeaf
  by_cases hpad : pte.pad = 0#64 <;> simp [hpad]

theorem ptwLeaf_refines {level : Nat} (hl : level ≤ 3) (hmode : mode = MODE_U ∨ mode = MODE_S)
    (hv : pte.v = true) (hamo : acc = .fetch → s.amo = false) (hlvx : acc = .read → s.hlvx = false) :
    outcome (ptwLeaf P vaddr acc.memType false mode level pte (PGBASE pte.ppn) s) =
      refResult P acc s.amo (if pte.pad = 0#64 then
        refLeaf acc (mode == MODE_U) s.mstatus.sum s.mstatus.mxr vaddr level pte else none) := by
  have hc := leaf_checks_eq (P := P) hmode hv hlvx
  have hamo' : acc.memType = .ifetch → s.amo = false := by cases acc <;> simp_all [Access.memType]
  rw [refLeaf_eq_ite]
  unfold ptwLeaf
  cases hp : permits P s pte true acc.memType false mode
  · rw [outcome_bind_raise _ (checkPermission_fault hmode hamo' hp)]
    simp only [hp, Bool.false_and] at hc
    rw [← hc]
    simp [refResult]
  · rw [run_bind_ok _ (checkPermission_permits hmode hp)]
    simp only [run_bind, EStateM.bind, run_modify, pg_mask_eq_lowMask hl]
    by_cases hal : pte.ppn &&& lowMask (9 * level) = 0#64
    · have hmis : (decide (level > 0) && PGBASE pte.ppn &&& lowMask (12 + 9 * level) != 0) = false := by
        simp [(superpage_aligned_iff pte.ppn (by omega)).2 hal]
      simp only [hmis, Bool.false_eq_true, if_false, splice_ite_eq_leafPage]
      cases hg : (!P.share && (!pte.a || !pte.d && acc.memType == .write))
      · rw [run_bind_ok _ (ptwCheckAD_ok hg)]
        simp only [hp, hg, Bool.not_false, Bool.and_true, Bool.true_and] at hc
        simp [refResult, ← hc, hal]
      · rw [outcome_bind_raise _ (ptwCheckAD_raise hg)]
        simp only [hp, hg, Bool.not_true, Bool.and_false] at hc
        rw [← hc]
        simp [refResult]
    · have hmis : (decide (level > 0) && PGBASE pte.ppn &&& lowMask (12 + 9 * level) != 0) = true := by
        have h0 : level > 0 := by
          rcases Nat.eq_zero_or_pos level with rfl | h
          · exact absurd (by simp [lowMask]) hal
          · exact h
        simp [h0, (superpage_aligned_iff pte.ppn (by omega)).not.2 hal]
      rw [if_pos hmis, ptwBad_raise (s := { s with pt_level := level }) hmode hamo]
      simp [refResult, hal]

end Leaf

section Loop

variable {P : Platform} {s : Hart} {vaddr : BitVec 64} {acc : Access} {mode : Nat}

theorem ptwLoop_step (hmode : mode = MODE_U ∨ mode = MODE_S) (hamo : acc = .fetch → s.amo = false)
    (hlvx : acc = .read → s.hlvx = false) {level : Nat} (hl : level ≤ 3) (base : BitVec 64)
    (hmmio : ∀ e ∈ walkTrace (fun a => some (P.paddrRead a)) (vpn vaddr) PTE.isPtwPointer level base,
      (P.share && P.isInMmio e.1) = false)
    (ih : ∀ l base', level = l + 1 →
      (∀ e ∈ walkTrace (fun a => some (P.paddrRead a)) (vpn vaddr) PTE.isPtwPointer l base',
        (P.share && P.isInMmio e.1) = false) →
      outcome ((ptwLoop P vaddr acc.memType false l base' >>= ptwEnd P vaddr acc.memType false mode) s) =
        refResult P acc s.amo
          (refLoop P.paddrRead false acc (mode == MODE_U) s.mstatus.sum s.mstatus.mxr vaddr l base')) :
    outcome ((ptwLoop P vaddr acc.memType false level base >>= ptwEnd P vaddr acc.memType false mode) s) =
      refResult P acc s.amo
        (refLoop P.paddrRead false acc (mode == MODE_U) s.mstatus.sum s.mstatus.mxr vaddr level base) := by
  have h0 : (P.share && P.isInMmio (base + VPNi vaddr level * PTE_SIZE)) = false := by
    rw [VPNi_eq_vpn]; exact hmmio _ (walkTrace_head rfl)
  rw [run_bind, EStateM.bind, ptwLoop_direct _ h0, refLoop_eq, refLevel, VPNi_eq_vpn, PTE_SIZE]
  set pte : PTE := ⟨P.paddrRead (base + vpn vaddr level * 8)⟩
  dsimp only
  by_cases hbad : (!pte.v || (!pte.r && pte.w)) = true
  · have hbad' : (!pte.v || (pte.w && !pte.r) || pte.pad != 0) = true := by
      rw [Bool.and_comm] at hbad; simp [hbad]
    rw [if_pos hbad, if_pos hbad']
    exact ptwBad_raise hmode hamo false
  rw [if_neg hbad]
  have hv : pte.v = true := by revert hbad; cases pte.v <;> simp
  have hwr : (pte.w && !pte.r) = false := by
    revert hbad; cases pte.r <;> cases pte.w <;> simp
  by_cases hleaf : (pte.r || pte.x || pte.pad != 0#64) = true
  · rw [if_pos hleaf]
    simp only [ptwEnd]
    rw [ptwLeaf_refines hl hmode hv hamo hlvx]
    by_cases hpad : pte.pad = 0#64
    · have hrx : (pte.r || pte.x) = true := by simpa [hpad] using hleaf
      simp [hpad, hv, hwr, hrx]
    · simp [hpad, hv]
  · rw [if_neg hleaf]
    simp only [Bool.or_eq_true, bne_iff_ne, ne_eq, not_or, not_not, Bool.not_eq_true] at hleaf
    obtain ⟨⟨hr, hx⟩, hpad⟩ := hleaf
    have hw : pte.w = false := by simpa [hr] using hwr
    cases level with
    | zero =>
      simp only [hv, hw, hr, hx, hpad]
      exact ptwBad_raise hmode hamo false
    | succ l =>
      have hp : pte.isPtwPointer = true := by
        simp [PTE.isPtwPointer, PTE.isPointer, hv, hw, hr, hx, hpad]
      have hf : (fun a => some (P.paddrRead a)) (base + vpn vaddr (l + 1) * 8) = some pte.val := rfl
      simp [hv, hw, hr, hx, hpad]
      exact ih l _ rfl fun e he => hmmio e (walkTrace_tail hf hp he)

theorem ptwLoop_refines (hmode : mode = MODE_U ∨ mode = MODE_S) (hamo : acc = .fetch → s.amo = false)
    (hlvx : acc = .read → s.hlvx = false) :
    ∀ level ≤ 3, ∀ base : BitVec 64,
      (∀ e ∈ walkTrace (fun a => some (P.paddrRead a)) (vpn vaddr) PTE.isPtwPointer level base,
        (P.share && P.isInMmio e.1) = false) →
      outcome ((ptwLoop P vaddr acc.memType false level base >>=
          ptwEnd P vaddr acc.memType false mode) s) =
        refResult P acc s.amo
          (refLoop P.paddrRead false acc (mode == MODE_U) s.mstatus.sum s.mstatus.mxr vaddr level base) := by
  intro level
  induction level with
  | zero => exact fun hl base hmmio => ptwLoop_step hmode hamo hlvx hl base hmmio (by omega)
  | succ l ih =>
    refine fun hl base hmmio => ptwLoop_step hmode hamo hlvx hl base hmmio fun l' base' h => ?_
    obtain rfl : l' = l := by omega
    exact ih (by omega) base'

end Loop

theorem ptwWalk_refines (P : Platform) (acc : Access) (vaddr : BitVec 64) (s : Hart) {mode : Nat}
    (hmmio : ∀ e ∈ translateTrace (fun a => some (P.paddrRead a)) s.satp vaddr,
      (P.share && P.isInMmio e.1) = false)
    (hmode : mode = MODE_U ∨ mode = MODE_S) (hamo : acc = .fetch → s.amo = false)
    (hlvx : acc = .read → s.hlvx = false) :
    outcome (ptwWalk P vaddr acc.memType false mode s.satp s) =
      refResult P acc s.amo (refTranslate P.paddrRead false acc (mode == MODE_U) s.mstatus.sum
        s.mstatus.mxr s.satp vaddr) := by
  unfold translateTrace at hmmio
  simp only [ptwWalk, refTranslate, canonicalOk_eq_isCanonical] at hmmio ⊢
  have hlev : (if s.satp.mode = 8 then 3 else 4) - 1 ≤ 3 := by split <;> omega
  generalize (if s.satp.mode = 8 then 3 else 4) = levels at hlev hmmio ⊢
  cases hc : isCanonical (12 + 9 * levels) vaddr
  · simp only [Bool.not_false, if_true]
    exact ptwBad_raise hmode hamo false
  · simp only [hc, Bool.not_true, Bool.false_eq_true, if_false] at hmmio ⊢
    exact ptwLoop_refines hmode hamo hlvx _ hlev _ hmmio

/-- Outside virtualization, at privilege U or S, `ptw` is the reference walk of `satp` where no
page-table entry it reads is in MMIO. -/
theorem ptw_eq_refTranslate (P : Platform) (acc : Access) (vaddr : BitVec 64) (s : Hart)
    (hmmio : ∀ e ∈ translateTrace (fun a => some (P.paddrRead a)) s.satp vaddr,
      (P.share && P.isInMmio e.1) = false)
    (hvirt : (ptwPriv s acc.memType).1 = false)
    (hmode : (ptwPriv s acc.memType).2 = MODE_U ∨ (ptwPriv s acc.memType).2 = MODE_S)
    (hamo : acc = .fetch → s.amo = false) (hhlvx : s.hlvx = true → s.hld_st = true) :
    outcome (ptw P vaddr acc.memType s) =
      refResult P acc s.amo (refTranslate P.paddrRead false acc
        ((ptwPriv s acc.memType).2 == MODE_U) s.mstatus.sum s.mstatus.mxr s.satp vaddr) := by
  have hlvx : acc = .read → s.hlvx = false := by
    rintro rfl
    cases h : s.hld_st
    · cases h' : s.hlvx <;> simp_all
    · simp [ptwPriv, Access.memType, h] at hvirt
  rcases hp : ptwPriv s acc.memType with ⟨virt, mode⟩
  simp only [hp] at hvirt hmode ⊢
  subst hvirt
  rw [ptw_eq_ptwWalk hp (Bool.false_and _)]
  exact ptwWalk_refines P acc vaddr s hmmio hmode hamo hlvx

/-- A Sv39 table whose root entry 0 points, with A set, to a table whose entry 0 is a 2 MiB leaf
at `0x80200000`. -/
def accessedPointerPlatform : Platform :=
  { Platform.base with
    paddrRead := fun a =>
      if a = 0x80000000 then 0x20000441
      else if a = 0x80001000 then (0x80200 <<< 10) ||| 0xcf
      else 0 }

def accessedPointerHart : Hart := { Hart.base with mode := MODE_S, satp := ⟨8, 0x80000⟩ }

theorem ptw_eq_refTranslate_accessedPointer :
    outcome (ptw accessedPointerPlatform 0 .read accessedPointerHart) =
      refResult accessedPointerPlatform .read false (refTranslate accessedPointerPlatform.paddrRead
        false .read false false false accessedPointerHart.satp 0) :=
  ptw_eq_refTranslate accessedPointerPlatform .read 0 accessedPointerHart (fun _ _ => rfl) (by decide)
    (by decide) (by decide) (by decide)

/-- `ptw` descends through a pointer entry whose A bit is set, where the privileged architecture
reports a page fault. -/
theorem ptw_descends_accessed_pointer :
    outcome (ptw accessedPointerPlatform 0 .read accessedPointerHart) = .ret 0x80200000 ∧
      refTranslate accessedPointerPlatform.paddrRead true .read false false false
        accessedPointerHart.satp 0 = none := by
  decide

end NemuPriv
