import NemuPriv.Check

namespace NemuPriv

theorem GVPNi_eq_gvpn (gpa : BitVec 64) (i : Nat) : GVPNi gpa i = gvpn 2 gpa i := by
  unfold GVPNi gvpn
  by_cases h2 : i = 2
  · have h : GPVPNMASK = lowMask 11 := rfl
    ext j
    simp [VPNiSHFT, PGSHFT, h, h2, Bool.and_comm]
  · rw [if_neg h2, if_neg h2]
    exact VPNi_eq_vpn gpa i

theorem and_not_lowMask_eq_zero {x : BitVec 64} {n : Nat} (h : x >>> n = 0#64) :
    x &&& ~~~lowMask n = 0#64 := by
  rw [ushiftRight_eq_zero_iff] at h
  ext j
  by_cases hj : j.val < n
  · simp [hj]
  · simp [hj, h j.val (by omega) j.isLt]

theorem page_or_offset_and_not {pa : BitVec 64} (hal : pa &&& lowMask 12 = 0#64) (x : BitVec 64) :
    (pa ||| (x &&& PAGE_MASK)) &&& ~~~PAGE_MASK = pa := by
  have hpm : PAGE_MASK = lowMask 12 := by decide
  ext j
  have h := congrArg (·.getLsbD j) hal
  clear hal
  by_cases hj : j.val < 12
  · simp_all
  · simp [hpm, hj]

/-- `gpa_stage`'s uncast `PGBASE(pte.ppn)`, shifted in the 44 bits of the bit-field, is the page
base while the page number fits in 32 bits. -/
theorem pgbase_ppnField {pte : PTE} (h : pte.ppn.toNat < 2 ^ 32) :
    (PGBASE pte.ppnField).setWidth 64 = PGBASE pte.ppn := by
  have hf : pte.ppnField.toNat = pte.ppn.toNat := by simp [PTE.ppn, PTE.ppnField]; omega
  apply BitVec.eq_of_toNat_eq
  simp only [PGBASE, PGSHFT, BitVec.toNat_setWidth, BitVec.toNat_shiftLeft, hf, Nat.shiftLeft_eq]
  omega

section Loop

variable {P : Platform} {s : Hart} {acc : Access} {gpa vaddr : BitVec 64}

theorem gpaStageLeaf_complete (hhlvx : acc = .write → s.hlvx = false) {level : Nat} (hl : level ≤ 2)
    {pte : PTE} (hok : (!pte.v || (pte.w && !pte.r) || pte.pad != 0) = false)
    (hallow : gLeafAllows acc s.hlvx s.mstatus.mxr pte = true)
    (hal : pte.ppn &&& lowMask (9 * level) = 0#64) (hfit : pte.ppn.toNat < 2 ^ 32) :
    gpaStageLeaf P gpa vaddr acc.memType level pte s =
      .ok (leafPage pte.ppn gpa level ||| (gpa &&& PAGE_MASK)) s := by
  simp only [Bool.or_eq_false_iff, Bool.not_eq_false', Bool.and_eq_false_imp, bne_eq_false_iff_eq] at hok
  obtain ⟨⟨hv, hwr⟩, -⟩ := hok
  have hwr' : (!pte.r && pte.w) = false := by cases h : pte.w <;> simp_all
  have hu : pte.u = true := by simp_all [gLeafAllows]
  have hperm : (if acc.memType == .ifetch || s.hlvx then !pte.x
      else if acc.memType == .read then !pte.r && !(s.mstatus.mxr && pte.x)
      else !(pte.r && pte.w)) = false := by
    cases acc <;> cases h : s.hlvx <;> simp_all [gLeafAllows, Access.memType]
    cases hr : pte.r <;> simp_all
  simp only [gpaStageLeaf, run_bind, run_get, EStateM.bind, hv, hu, hwr', hperm, Bool.not_true,
    Bool.false_or, Bool.false_eq_true, if_false, pg_mask_eq_lowMask (by omega : level ≤ 3),
    pgbase_ppnField hfit]
  split
  · have hpg : PGMASK = lowMask 12 := by decide
    rw [(superpage_aligned_iff pte.ppn (by omega)).2 hal, hpg, splice_eq_leafPage]
    rfl
  · obtain rfl : level = 0 := by omega
    rw [← pgbase_eq_leafPage_zero]
    rfl

theorem gpaStageLoop_step (hhlvx : acc = .write → s.hlvx = false) {level : Nat} (hl : level ≤ 2)
    (base pa : BitVec 64)
    (hfit : ∀ e ∈ walkTrace (fun a => some (P.paddrRead a)) (gvpn 2 gpa) PTE.isPointer level base,
      e.2.ppn.toNat < 2 ^ 32)
    (ih : ∀ l base', level = l + 1 →
      (∀ e ∈ walkTrace (fun a => some (P.paddrRead a)) (gvpn 2 gpa) PTE.isPointer l base',
        e.2.ppn.toNat < 2 ^ 32) →
      refGLoop P.paddrRead acc s.hlvx s.mstatus.mxr gpa 2 l base' = some pa →
        gpaStageLoop P gpa vaddr acc.memType l base' s = .ok (pa ||| (gpa &&& PAGE_MASK)) s)
    (h : refGLoop P.paddrRead acc s.hlvx s.mstatus.mxr gpa 2 level base = some pa) :
    gpaStageLoop P gpa vaddr acc.memType level base s = .ok (pa ||| (gpa &&& PAGE_MASK)) s := by
  have hidx : GVPNi gpa level * PTE_SIZE = gvpn 2 gpa level * 8 := by rw [GVPNi_eq_gvpn]; rfl
  have hf : (fun a => some (P.paddrRead a)) (base + gvpn 2 gpa level * 8) =
      some (P.paddrRead (base + gvpn 2 gpa level * 8)) := rfl
  have hhead := hfit _ (walkTrace_head hf)
  rw [refGLoop_eq] at h
  rw [gpaStageLoop_eq, hidx]
  dsimp only
  rcases refGLevel_some h with ⟨hptr, hok, hallow, hal, rfl⟩ | ⟨hptr, walk, hw, h'⟩
  · rw [hptr, if_neg Bool.false_ne_true]
    exact gpaStageLeaf_complete hhlvx hl hok hallow hal hhead
  · rw [if_pos hptr]
    cases level with
    | zero => cases hw
    | succ l =>
      cases hw
      rw [pgbase_ppnField hhead]
      exact ih l _ rfl (fun e he => hfit e (walkTrace_tail hf hptr he)) h'

theorem gpaStageLoop_complete (hhlvx : acc = .write → s.hlvx = false) {level : Nat} (hl : level ≤ 2)
    (base pa : BitVec 64)
    (hfit : ∀ e ∈ walkTrace (fun a => some (P.paddrRead a)) (gvpn 2 gpa) PTE.isPointer level base,
      e.2.ppn.toNat < 2 ^ 32)
    (h : refGLoop P.paddrRead acc s.hlvx s.mstatus.mxr gpa 2 level base = some pa) :
    gpaStageLoop P gpa vaddr acc.memType level base s = .ok (pa ||| (gpa &&& PAGE_MASK)) s := by
  induction level generalizing base with
  | zero => exact gpaStageLoop_step hhlvx hl base pa hfit (fun _ _ h => nomatch h) h
  | succ l ih =>
    exact gpaStageLoop_step hhlvx hl base pa hfit
      (fun _ _ hl' hf' h' => by cases hl'; exact ih (by omega) _ hf' h') h

end Loop

theorem refGTranslate_sv39x4 {mem : BitVec 64 → BitVec 64} {acc : Access} {hlvx mxr : Bool}
    {hgatp : Atp} {gpa pa : BitVec 64} (hmode : hgatp.mode = 8)
    (h : refGTranslate mem acc hlvx mxr hgatp gpa = some pa) :
    gpa >>> 41 = 0#64 ∧ refGLoop mem acc hlvx mxr gpa 2 2 (hgatp.ppn.setWidth 64 <<< 12) = some pa := by
  simp only [refGTranslate, hmode, if_true] at h
  split at h
  · cases h
  · rename_i hw
    exact ⟨by simpa using hw, h⟩

theorem gpaStage_sv39x4 {P : Platform} {s : Hart} {gpa : BitVec 64} (vaddr : BitVec 64) (type : MemType)
    (hmode : s.hgatp.mode = 8) (hrange : gpa >>> 41 = 0#64) :
    gpaStage P gpa vaddr type s =
      gpaStageLoop P gpa vaddr type 2 (s.hgatp.ppn.setWidth 64 <<< 12) { s with pt_level := 0 } := by
  have hmask : gpa &&& ~~~(((1 : BitVec 64) <<< 41) - 1) = 0#64 := by
    rw [show ((1 : BitVec 64) <<< 41) - 1 = lowMask 41 by decide]
    exact and_not_lowMask_eq_zero hrange
  simp only [gpaStage, run_bind, run_modify, run_get, EStateM.bind, hmode, hmask]
  simp [show ((8 : BitVec 4) = 0) = False by decide, show ((8 : BitVec 4) = 9) = False by decide,
    EStateM.bind]
  rfl

/-- Under Sv39x4 every translation the reference G-stage walk makes, `gpa_stage` makes too while
the entries it reads hold page numbers below 2^32, changing nothing but `pt_level`. -/
theorem gpaStage_complete_sv39x4 {P : Platform} {s : Hart} {acc : Access} {gpa pa : BitVec 64}
    (vaddr : BitVec 64) (hmode : s.hgatp.mode = 8) (hhlvx : acc = .write → s.hlvx = false)
    (hfit : ∀ e ∈ gTrace P.paddrRead s.hgatp gpa, e.2.ppn.toNat < 2 ^ 32)
    (h : refGTranslate P.paddrRead acc s.hlvx s.mstatus.mxr s.hgatp gpa = some pa) :
    gpaStage P gpa vaddr acc.memType s =
      .ok (pa ||| (gpa &&& PAGE_MASK)) { s with pt_level := 0 } := by
  obtain ⟨hrange, hloop⟩ := refGTranslate_sv39x4 hmode h
  simp only [gTrace, hmode, if_true] at hfit
  rw [gpaStage_sv39x4 vaddr _ hmode hrange]
  exact gpaStageLoop_complete (s := { s with pt_level := 0 }) hhlvx (Nat.le_refl 2) _ _ hfit hloop

def sv39x4Hart : Hart := { Hart.base with mode := MODE_S, v := true, hgatp := ⟨8, 0x80000⟩ }

theorem gpaStage_complete_sv39x4_gigapage :
    gpaStage rootLeafPlatform 0x1234 0x1234 .read sv39x4Hart =
      .ok (0x1000 ||| (0x1234 &&& PAGE_MASK)) { sv39x4Hart with pt_level := 0 } :=
  @gpaStage_complete_sv39x4 rootLeafPlatform sv39x4Hart .read 0x1234 0x1000 0x1234 rfl
    (fun h => nomatch h) (by decide) (by decide)

/-- With VS-stage Bare and G-stage Sv39x4, `ptw` translates to the host page of the reference
G-stage walk whenever it translates and the entries it reads hold page numbers below 2^32. -/
theorem ptw_bare_vs_complete_sv39x4 {P : Platform} {s : Hart} {acc : Access} {vaddr pa : BitVec 64}
    (hvirt : (ptwPriv s acc.memType).1 = true) (hvs : s.vsatp.mode = 0) (hmode : s.hgatp.mode = 8)
    (hhlvx : acc = .write → s.hlvx = false)
    (hfit : ∀ e ∈ gTrace P.paddrRead s.hgatp vaddr, e.2.ppn.toNat < 2 ^ 32)
    (h : refGTranslate P.paddrRead acc s.hlvx s.mstatus.mxr s.hgatp vaddr = some pa) :
    ptw P vaddr acc.memType s = .ok pa { s with pt_level := 0 } := by
  obtain ⟨hrange, hloop⟩ := refGTranslate_sv39x4 hmode h
  simp only [gTrace, hmode, if_true] at hfit
  have hg : gpaStage P vaddr vaddr acc.memType s =
      .ok (pa ||| (vaddr &&& PAGE_MASK)) { s with pt_level := 0 } := by
    rw [gpaStage_sv39x4 vaddr _ hmode hrange]
    exact gpaStageLoop_complete (s := { s with pt_level := 0 }) hhlvx (Nat.le_refl 2) _ _ hfit hloop
  unfold ptw
  rw [run_bind_ok _ (run_get s)]
  simp only [hvirt, hvs, decide_True, Bool.and_true, if_true]
  rw [run_bind_ok _ hg, run_pure, page_or_offset_and_not (refGTranslate_page_aligned h)]

theorem ptw_bare_vs_complete_sv39x4_gigapage :
    ptw rootLeafPlatform 0x1234 .read sv39x4Hart = .ok 0x1000 { sv39x4Hart with pt_level := 0 } :=
  @ptw_bare_vs_complete_sv39x4 rootLeafPlatform sv39x4Hart .read 0x1234 0x1000 rfl rfl rfl
    (fun h => nomatch h) (by decide) (by decide)

end NemuPriv
