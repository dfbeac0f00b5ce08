import NemuPriv.GStageRefinement

namespace NemuPriv

section Leaf

variable {P : Platform} {s : Hart} {pte : PTE} {vaddr : BitVec 64} {mode : Nat}

theorem leaf_checks_eq_virt (acc : Access) (hmode : mode = MODE_U ∨ mode = MODE_S)
    (hv : pte.v = true) (hlvx : s.hlvx = false) :
    (permits P s pte true acc.memType true mode &&
        !(!P.share && (!pte.a || (!pte.d && acc.memType == .write)))) =
      (pte.pad == 0#64 &&
        leafAllows acc (mode == MODE_U) s.vsstatus.sum (s.mstatus.mxr || s.vsstatus.mxr) pte) := by
  rcases hmode with rfl | rfl <;> cases acc <;>
    simp [permits, leafAllows, hv, Access.memType, MODE_U, MODE_S, hlvx, beq_eq_decide, bne] <;>
    cases P.share <;> simp [Bool.and_comm, Bool.and_left_comm, Bool.and_assoc]

theorem ptwLeaf_virt_complete (acc : Access) (hmode : mode = MODE_U ∨ mode = MODE_S)
    (hg : s.hgatp.mode = 8) (hlvx : s.hlvx = false) (hfail : P.memRetFail &&& PAGE_MASK ≠ 0#64)
    {level : Nat} (hl : level ≤ 3) (hv : pte.v = true) (hpad : pte.pad = 0#64) {gpa pa : BitVec 64}
    (hleaf : refLeaf acc (mode == MODE_U) s.vsstatus.sum (s.mstatus.mxr || s.vsstatus.mxr) vaddr
      level pte = some gpa)
    (hfin : refGTranslate P.paddrRead acc false s.mstatus.mxr s.hgatp
      (gpa ||| (vaddr &&& PAGE_MASK)) = some pa)
    (hpage : ∀ g ∈ gTrace P.paddrRead s.hgatp (gpa ||| (vaddr &&& PAGE_MASK)), g.2.ppn.toNat < 2 ^ 32) :
    ptwLeaf P vaddr acc.memType true mode level pte (PGBASE pte.ppn) s =
      .ok (pa ||| P.memRetOk) { s with pt_level := 0 } := by
  unfold refLeaf at hleaf
  split at hleaf
  · rename_i hok
    obtain rfl := Option.some.inj hleaf
    simp only [Bool.and_eq_true, beq_iff_eq] at hok
    have hc := leaf_checks_eq_virt (P := P) acc hmode hv hlvx
    simp only [hpad, beq_self_eq_true, Bool.true_and, hok.1, Bool.and_eq_true, Bool.not_eq_true']
      at hc
    have hmis : (decide (level > 0) && PGBASE pte.ppn &&& lowMask (12 + 9 * level) != 0) = false := by
      simp [(superpage_aligned_iff pte.ppn (by omega)).2 hok.2]
    have hpa := refGTranslate_page_aligned hfin
    rw [← hlvx] at hfin
    unfold ptwLeaf
    rw [run_bind_ok _ (checkPermission_permits hmode hc.1)]
    simp only [run_bind, EStateM.bind, run_modify, pg_mask_eq_lowMask hl, hmis, Bool.false_eq_true,
      if_false, splice_ite_eq_leafPage, if_true]
    have hne : pa ≠ P.memRetFail := by
      rintro rfl
      exact hfail (by rw [show PAGE_MASK = lowMask 12 by decide]; exact hpa)
    obtain ⟨hr, hloop⟩ := refGTranslate_sv39x4 hg hfin
    simp only [gTrace, hg, if_true] at hpage
    have hgs : gpaStage P (leafPage pte.ppn vaddr level ||| (vaddr &&& PAGE_MASK)) vaddr acc.memType
        { s with pt_level := level } = .ok (pa ||| ((leafPage pte.ppn vaddr level |||
          (vaddr &&& PAGE_MASK)) &&& PAGE_MASK)) { { s with pt_level := level } with pt_level := 0 } := by
      rw [gpaStage_sv39x4 (s := { s with pt_level := level }) vaddr _ hg hr]
      refine gpaStageLoop_complete (s := { { s with pt_level := level } with pt_level := 0 })
        (fun _ => hlvx) (Nat.le_refl 2) _ _ ?_ ?_
      · exact hpage
      · exact hloop
    rw [hgs]
    simp only [page_or_offset_and_not hpa, if_neg hne, run_bind, EStateM.bind, run_pure,
      ptwCheckAD_ok hc.2]
  · cases hleaf

end Leaf

/-- What `ptw` needs of the guest-physical address `a` of a VS-stage entry: its host address is
not MMIO, and the G-stage entries read for `a` hold page numbers below 2^32. -/
def VSEntryDirect (P : Platform) (mxr : Bool) (hgatp : Atp) (a : BitVec 64) : Prop :=
  (∀ hpa ∈ refGTranslate P.paddrRead .read false mxr hgatp a,
    (P.share && P.isInMmio (hpa ||| (a &&& PAGE_MASK))) = false) ∧
    ∀ g ∈ gTrace P.paddrRead hgatp a, g.2.ppn.toNat < 2 ^ 32

section Loop

variable {P : Platform} {s : Hart} {vaddr : BitVec 64} {mode : Nat}

theorem gpaStage_of_refGFetch (vaddr : BitVec 64) (hg : s.hgatp.mode = 8) (hlvx : s.hlvx = false) {a val : BitVec 64}
    (hf : refGFetch P.paddrRead s.mstatus.mxr s.hgatp a = some val)
    (hd : VSEntryDirect P s.mstatus.mxr s.hgatp a) :
    ∃ hpa, gpaStage P a vaddr .read s = .ok hpa { s with pt_level := 0 } ∧
      (P.share && P.isInMmio hpa) = false ∧ P.paddrRead hpa = val := by
  obtain ⟨hpa, hgt, rfl⟩ := Option.map_eq_some'.1 hf
  have hm := hd.1 hpa hgt
  rw [← hlvx] at hgt
  obtain ⟨hr, hloop⟩ := refGTranslate_sv39x4 hg hgt
  have hfit := hd.2
  simp only [gTrace, hg, if_true] at hfit
  refine ⟨_, ?_, hm, rfl⟩
  rw [gpaStage_sv39x4 vaddr _ hg hr]
  exact gpaStageLoop_complete (s := { s with pt_level := 0 }) (fun h : Access.read = .write => nomatch h)
    (Nat.le_refl 2) _ _ hfit hloop

theorem isPtwPointer_of_descend {pte : PTE} (hok : (!pte.v || (!pte.r && pte.w)) = false)
    (hleaf : (pte.r || pte.x || pte.pad != 0#64) = false) : pte.isPtwPointer = true := by
  revert hok hleaf
  simp only [PTE.isPtwPointer, PTE.isPointer]
  cases pte.v <;> cases pte.r <;> cases pte.w <;> cases pte.x <;> simp

theorem ptwLoop_virt_step (hmode : mode = MODE_U ∨ mode = MODE_S) (hg : s.hgatp.mode = 8)
    (hlvx : s.hlvx = false) (hfail : P.memRetFail &&& PAGE_MASK ≠ 0#64) {level : Nat} (hl : level ≤ 3)
    (base gpa pa : BitVec 64)
    (hent : ∀ e ∈ walkTrace (refGFetch P.paddrRead s.mstatus.mxr s.hgatp) (vpn vaddr) PTE.isPtwPointer
      level base, VSEntryDirect P s.mstatus.mxr s.hgatp e.1)
    (hpage : ∀ g ∈ gTrace P.paddrRead s.hgatp (gpa ||| (vaddr &&& PAGE_MASK)), g.2.ppn.toNat < 2 ^ 32)
    (hfin : refGTranslate P.paddrRead .read false s.mstatus.mxr s.hgatp
      (gpa ||| (vaddr &&& PAGE_MASK)) = some pa)
    (ih : ∀ l base', level = l + 1 →
      (∀ e ∈ walkTrace (refGFetch P.paddrRead s.mstatus.mxr s.hgatp) (vpn vaddr) PTE.isPtwPointer
        l base', VSEntryDirect P s.mstatus.mxr s.hgatp e.1) →
      refVSLoop (refGFetch P.paddrRead s.mstatus.mxr s.hgatp) .read (mode == MODE_U)
          s.vsstatus.sum (s.mstatus.mxr || s.vsstatus.mxr) vaddr l base' = some gpa →
        (ptwLoop P vaddr .read true l base' >>= ptwEnd P vaddr .read true mode)
          { s with pt_level := 0 } = .ok (pa ||| P.memRetOk) { s with pt_level := 0 })
    (h : refVSLoop (refGFetch P.paddrRead s.mstatus.mxr s.hgatp) .read (mode == MODE_U)
      s.vsstatus.sum (s.mstatus.mxr || s.vsstatus.mxr) vaddr level base = some gpa) :
    (ptwLoop P vaddr .read true level base >>= ptwEnd P vaddr .read true mode) s =
      .ok (pa ||| P.memRetOk) { s with pt_level := 0 } := by
  rw [refVSLoop_eq] at h
  obtain ⟨val, hf, hok, hcase⟩ := refVSLevel_some h
  have hidx : base + VPNi vaddr level * PTE_SIZE = base + vpn vaddr level * 8 := by
    rw [VPNi_eq_vpn]; rfl
  have hd := hent _ (walkTrace_head hf)
  obtain ⟨hpa, hgs, hm, hval⟩ := gpaStage_of_refGFetch vaddr hg hlvx hf hd
  rw [run_bind, EStateM.bind, ptwLoop_virt hm .read level base (by rw [hidx]; exact hgs), hval]
  dsimp only
  rw [hok, if_neg Bool.false_ne_true]
  rcases hcase with ⟨hleaf, hpad, hl'⟩ | ⟨hleaf, walk, hw, h'⟩
  · rw [if_pos hleaf]
    dsimp only [ptwEnd]
    have hv := (Bool.or_eq_false_iff.1 hok).1
    rw [Bool.not_eq_false'] at hv
    exact ptwLeaf_virt_complete (s := { s with pt_level := 0 }) .read hmode hg hlvx hfail hl hv hpad
      hl' hfin hpage
  · rw [if_neg (by rw [hleaf]; exact Bool.false_ne_true)]
    cases level with
    | zero => cases hw
    | succ l =>
      cases hw
      exact ih l _ rfl (fun e he => hent e (walkTrace_tail hf (isPtwPointer_of_descend hok hleaf) he)) h'

theorem ptwLoop_virt_complete (hmode : mode = MODE_U ∨ mode = MODE_S)
    (hfail : P.memRetFail &&& PAGE_MASK ≠ 0#64) :
    ∀ level ≤ 3, ∀ (s : Hart) (base gpa pa : BitVec 64), s.hgatp.mode = 8 → s.hlvx = false →
      (∀ e ∈ walkTrace (refGFetch P.paddrRead s.mstatus.mxr s.hgatp) (vpn vaddr) PTE.isPtwPointer
        level base, VSEntryDirect P s.mstatus.mxr s.hgatp e.1) →
      (∀ g ∈ gTrace P.paddrRead s.hgatp (gpa ||| (vaddr &&& PAGE_MASK)), g.2.ppn.toNat < 2 ^ 32) →
      refGTranslate P.paddrRead .read false s.mstatus.mxr s.hgatp
        (gpa ||| (vaddr &&& PAGE_MASK)) = some pa →
      refVSLoop (refGFetch P.paddrRead s.mstatus.mxr s.hgatp) .read (mode == MODE_U)
          s.vsstatus.sum (s.mstatus.mxr || s.vsstatus.mxr) vaddr level base = some gpa →
        (ptwLoop P vaddr .read true level base >>= ptwEnd P vaddr .read true mode) s =
          .ok (pa ||| P.memRetOk) { s with pt_level := 0 } := by
  intro level
  induction level with
  | zero =>
    exact fun hl s base gpa pa hg hlvx hent hpage hfin h =>
      ptwLoop_virt_step hmode hg hlvx hfail hl base gpa pa hent hpage hfin (fun _ _ h => nomatch h) h
  | succ l ih =>
    refine fun hl s base gpa pa hg hlvx hent hpage hfin h =>
      ptwLoop_virt_step hmode hg hlvx hfail hl base gpa pa hent hpage hfin
        (fun l' base' hl' hent' h' => ?_) h
    cases hl'
    exact ih (by omega) { s with pt_level := 0 } base' gpa pa hg hlvx hent' hpage hfin h'

end Loop

theorem ptwWalk_virt_complete {P : Platform} {s : Hart} {vaddr pa : BitVec 64} {mode : Nat}
    (hmmio : ∀ e ∈ translateTrace (refGFetch P.paddrRead s.mstatus.mxr s.hgatp) s.vsatp vaddr,
      ∀ hpa ∈ refGTranslate P.paddrRead .read false s.mstatus.mxr s.hgatp e.1,
        (P.share && P.isInMmio (hpa ||| (e.1 &&& PAGE_MASK))) = false)
    (hfit : ∀ a ∈ twoStageGpas P.paddrRead .read (mode == MODE_U) s.vsstatus.sum
      (s.mstatus.mxr || s.vsstatus.mxr) s.mstatus.mxr s.vsatp s.hgatp vaddr,
        ∀ g ∈ gTrace P.paddrRead s.hgatp a, g.2.ppn.toNat < 2 ^ 32)
    (hfail : P.memRetFail &&& PAGE_MASK ≠ 0#64) (hmode : mode = MODE_U ∨ mode = MODE_S)
    (hg : s.hgatp.mode = 8) (hlvx : s.hlvx = false)
    (h : refTwoStage P.paddrRead .read (mode == MODE_U) s.vsstatus.sum
      (s.mstatus.mxr || s.vsstatus.mxr) s.mstatus.mxr s.vsatp s.hgatp vaddr = some pa) :
    ptwWalk P vaddr .read true mode s.vsatp s = .ok (pa ||| P.memRetOk) { s with pt_level := 0 } := by
  obtain ⟨gpa, hvs, hfin⟩ := Option.bind_eq_some.1 h
  have hpage := hfit (gpa ||| (vaddr &&& PAGE_MASK)) (List.mem_append_right _ (by simp [hvs]))
  have hent : ∀ e ∈ translateTrace (refGFetch P.paddrRead s.mstatus.mxr s.hgatp) s.vsatp vaddr,
      VSEntryDirect P s.mstatus.mxr s.hgatp e.1 :=
    fun e he => ⟨hmmio e he, hfit e.1 (List.mem_append_left _ (List.mem_map_of_mem Prod.fst he))⟩
  unfold refVSTranslate at hvs
  unfold translateTrace at hent
  simp only [ptwWalk, canonicalOk_eq_isCanonical]
  have hlev : (if s.vsatp.mode = 8 then 3 else 4) - 1 ≤ 3 := by split <;> omega
  generalize (if s.vsatp.mode = 8 then 3 else 4) = levels at hlev hvs hent ⊢
  cases hc : isCanonical (12 + 9 * levels) vaddr
  · simp [hc] at hvs
  · simp only [hc, Bool.not_true, Bool.false_eq_true, if_false] at hvs hent ⊢
    exact ptwLoop_virt_complete hmode hfail _ hlev s _ gpa pa hg hlvx hent hpage hfin hvs

/-- Every two-stage translation of a virtualized read other than HLVX that the reference makes
with an Sv39 or Sv48 VS-stage and an Sv39x4 G-stage, `ptw` makes too, where the VS-stage entries
sit outside MMIO and the G-stage entries read hold page numbers below 2^32. -/
theorem ptw_two_stage_read_complete {P : Platform} {s : Hart} {vaddr pa : BitVec 64}
    (hmmio : ∀ e ∈ translateTrace (refGFetch P.paddrRead s.mstatus.mxr s.hgatp) s.vsatp vaddr,
      ∀ hpa ∈ refGTranslate P.paddrRead .read false s.mstatus.mxr s.hgatp e.1,
        (P.share && P.isInMmio (hpa ||| (e.1 &&& PAGE_MASK))) = false)
    (hfit : ∀ a ∈ twoStageGpas P.paddrRead .read ((ptwPriv s .read).2 == MODE_U) s.vsstatus.sum
      (s.mstatus.mxr || s.vsstatus.mxr) s.mstatus.mxr s.vsatp s.hgatp vaddr,
        ∀ g ∈ gTrace P.paddrRead s.hgatp a, g.2.ppn.toNat < 2 ^ 32)
    (hfail : P.memRetFail &&& PAGE_MASK ≠ 0#64) (hvirt : (ptwPriv s .read).1 = true)
    (hmode : (ptwPriv s .read).2 = MODE_U ∨ (ptwPriv s .read).2 = MODE_S)
    (hvs : s.vsatp.mode ≠ 0) (hg : s.hgatp.mode = 8) (hlvx : s.hlvx = false)
    (h : refTwoStage P.paddrRead .read ((ptwPriv s .read).2 == MODE_U) s.vsstatus.sum
      (s.mstatus.mxr || s.vsstatus.mxr) s.mstatus.mxr s.vsatp s.hgatp vaddr = some pa) :
    ptw P vaddr .read s = .ok (pa ||| P.memRetOk) { s with pt_level := 0 } := by
  rcases hp : ptwPriv s .read with ⟨virt, mode⟩
  simp only [hp] at hvirt hmode hfit h
  subst hvirt
  rw [ptw_eq_ptwWalk hp (by simpa using hvs), if_pos rfl]
  exact ptwWalk_virt_complete hmmio hfit hfail hmode hg hlvx h

/-- An Sv39x4 G-stage root at `0x80000000` mapping guest gigapage 0 to host gigapage 0, and at 0
a VS-stage Sv39 root whose entry 0 is a gigapage leaf at guest page 0. -/
def twoStagePlatform : Platform :=
  { Platform.base with
    paddrRead := fun a => if a = 0x80000000 then 0xdf else if a = 0 then 0xcf else 0 }

def twoStageHart : Hart :=
  { Hart.base with mode := MODE_S, v := true, vsatp := ⟨8, 0⟩, hgatp := ⟨8, 0x80000⟩ }

theorem ptw_two_stage_read_complete_gigapages :
    ptw twoStagePlatform 0x1000 .read twoStageHart =
      .ok (0x1000 ||| twoStagePlatform.memRetOk) { twoStageHart with pt_level := 0 } := by
  have hgpas : twoStageGpas twoStagePlatform.paddrRead .read ((ptwPriv twoStageHart .read).2 == MODE_U)
      twoStageHart.vsstatus.sum (twoStageHart.mstatus.mxr || twoStageHart.vsstatus.mxr)
      twoStageHart.mstatus.mxr twoStageHart.vsatp twoStageHart.hgatp 0x1000 = [0, 0x1000] := by
    decide
  refine ptw_two_stage_read_complete (fun _ _ _ _ => rfl) ?_ (by decide) rfl (.inr rfl) (by decide)
    rfl rfl (by decide)
  simp only [hgpas, List.forall_mem_cons, List.not_mem_nil, false_implies, implies_true, and_true]
  decide

end NemuPriv
