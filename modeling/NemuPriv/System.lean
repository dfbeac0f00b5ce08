import NemuPriv.Pmp
import NemuPriv.TwoStage

namespace NemuPriv

/-- `isa_mmu_translate`. `FORCE_RAISE_PF` is defined in `isa-def.h`, so a walk that did not fail
goes through `force_raise_pf` and `force_raise_gpf`, which return `MEM_RET_OK` whenever they
return: the `return MEM_RET_FAIL` is dead. -/
def isaMmuTranslate (P : Platform) (vaddr : BitVec 64) (len : Nat) (type : MemType) :
    Exec (BitVec 64) :=
  if (vaddr &&& PAGE_MASK).toNat + len > PAGE_SIZE then pure P.memRetCrossPage
  else do
    let ptw_result ← ptw P vaddr type
    if ptw_result != P.memRetFail then
      forceRaisePf vaddr type
      forceRaiseGpf vaddr type
    return ptw_result

/-- Modelled from the spec: `translate(vaddr, len, access_type)` as the memory interface drives
the core (§6). -/
def vaddrTranslate (P : Platform) (vaddr : BitVec 64) (len : Nat) (type : MemType) :
    Exec (BitVec 64) := do
  match ← isaMmuCheck P vaddr len type with
  | .direct => pure vaddr
  | .translate => isaMmuTranslate P vaddr len type

theorem isaMmuTranslate_frame (P : Platform) (vaddr : BitVec 64) (len : Nat) (type : MemType) :
    Frame Hart.eraseWalk (isaMmuTranslate P vaddr len type) := by
  unfold isaMmuTranslate
  dsimp only
  exact .ite (.pure _) (.bind (ptw_frame _ _ _) fun _ =>
    .ite (.bind (forceRaisePf_frame _ _) fun _ => .bind (forceRaiseGpf_frame _ _) fun _ => .pure _)
      (.bind (.pure _) fun _ => .pure _))

theorem isaMmuTranslate_unguided {P : Platform} {vaddr : BitVec 64} {len : Nat} {type : MemType}
    {s : Hart} (hcross : ¬(vaddr &&& PAGE_MASK).toNat + len > PAGE_SIZE)
    (h : (s.guided_exec && s.execution_guide.force_raise_exception) = false) :
    outcome (isaMmuTranslate P vaddr len type s) = outcome (ptw P vaddr type s) := by
  have hf := ptw_frame P vaddr type s
  unfold isaMmuTranslate
  dsimp only
  rw [if_neg hcross]
  cases hp : ptw P vaddr type s with
  | error e s₁ => simp [EStateM.bind, hp]
  | ok r s₁ =>
    have h₁ : (s₁.guided_exec && s₁.execution_guide.force_raise_exception) = false := by
      rw [hp] at hf
      exact (congrArg (fun t => t.guided_exec && t.execution_guide.force_raise_exception) hf :).trans h
    rw [run_bind_ok _ hp]
    split <;> simp only [run_bind, EStateM.bind, forceRaisePf_unguided h₁, forceRaiseGpf_unguided h₁] <;>
      rfl

theorem vaddrTranslate_frame (P : Platform) (vaddr : BitVec 64) (len : Nat) (type : MemType) :
    Frame Hart.eraseWalk (vaddrTranslate P vaddr len type) := by
  refine Frame.bind ?_ fun r => ?_
  · exact Frame.ite (.bind (isaMisalignDataAddrCheck_frame _ _ _ _) fun _ => mmuCheckRange_frame _ _)
      (.bind (.pure _) fun _ => mmuCheckRange_frame _ _)
  · cases r
    · exact .pure _
    · exact isaMmuTranslate_frame _ _ _ _

section TrapValues

variable {P : Platform} {vaddr : BitVec 64} {len : Nat} {type : MemType} {cs : List (BitVec 64)}
  (hcs : siteTvalCauses ⊆ cs) {q : Hart → Prop} (hq : WalkStable q)
  (hg : ∀ s, q s → (s.guided_exec && s.execution_guide.force_raise_exception) = false)
  (hP : ∀ s, q s → s.v = true → GuestPfReported s)
include hcs hq hg hP

theorem isaMmuTranslate_tval (hG : ∀ s, q s → (ptwPriv s type).1 = true → GpfReported cs s) :
    Raises (tvalAt cs vaddr) q (isaMmuTranslate P vaddr len type) := by
  unfold isaMmuTranslate
  exact .ite (.pure _) (.bind (ptw_tval hcs hq hg hP hG) (ptw_frame _ _ _) hq fun _ =>
      .ite (.bind (forceRaisePf_tval hg _ _) (forceRaisePf_frame _ _) hq fun _ =>
          .bind (forceRaiseGpf_tval hg _ _) (forceRaiseGpf_frame _ _) hq fun _ => .pure _)
        (.bind (.pure _) (.pure _) hq fun _ => .pure _))

/-- Outside guided execution, an access raises only misaligned, page, access and guest-page
faults, each with `vaddr` in the register `INTR_TVAL_REG` selects for it. -/
theorem vaddrTranslate_tval
    (hG : ∀ s, q s → (s.hld_st || s.v || (ptwPriv s type).1) = true → GpfReported cs s) :
    Raises (tvalAt cs vaddr) q (vaddrTranslate P vaddr len type) := by
  refine .bind (isaMmuCheck_tval hcs hq (fun s hs h => hG s hs (by simp [h])) hP _ _ _ _)
    (Frame.ite (.bind (isaMisalignDataAddrCheck_frame _ _ _ _) fun _ => mmuCheckRange_frame _ _)
      (.bind (.pure _) fun _ => mmuCheckRange_frame _ _)) hq fun r => ?_
  cases r
  · exact .pure _
  · exact isaMmuTranslate_tval hcs hq hg hP fun s hs h => hG s hs (by simp [h])

end TrapValues

/-- Modelled from the spec: one step of the core (§5, §7): an access, an access that raises and
the trap the loop takes, or a pending interrupt taken between instructions. -/
inductive Step (P : Platform) : Hart → Hart → Prop
  | access {s s' : Hart} {vaddr : BitVec 64} {len : Nat} {type : MemType} {pa : BitVec 64}
      (h : vaddrTranslate P vaddr len type s = .ok pa s') : Step P s s'
  | fault {s s' : Hart} {vaddr : BitVec 64} {len : Nat} {type : MemType} {cause : BitVec 64}
      (pc : BitVec 64) (h : vaddrTranslate P vaddr len type s = .error (.exception cause) s') :
      Step P s (raiseIntr P cause pc s').2
  | interrupt {s : Hart} (pc : BitVec 64) (h : isaQueryIntr P s ≠ P.intrEmpty) :
      Step P s (raiseIntr P (isaQueryIntr P s) pc s).2

inductive Reachable (P : Platform) (s₀ : Hart) : Hart → Prop
  | init : Reachable P s₀ s₀
  | step {s s' : Hart} (h : Reachable P s₀ s) (hstep : Step P s s') : Reachable P s₀ s'

/-- What the core keeps true of the hart: the MMU-state cache is fresh (§4.4), the privilege
and `mstatus.MPP` are U, S or M, and V is set only below M (§3). -/
structure Inv (s : Hart) : Prop where
  fresh : Fresh s
  mode : s.mode = MODE_U ∨ s.mode = MODE_S ∨ s.mode = MODE_M
  mpp : s.mstatus.mpp.toNat ≠ 2
  v : s.v = true → s.mode ≠ MODE_M

theorem fresh_eraseWalk (s : Hart) : Fresh s.eraseWalk ↔ Fresh s :=
  ⟨fun ⟨a, b, c⟩ => ⟨a, b, c⟩, fun ⟨a, b, c⟩ => ⟨a, b, c⟩⟩

theorem Inv.of_eraseWalk {s s' : Hart} (h : s'.eraseWalk = s.eraseWalk) (hi : Inv s) : Inv s' := by
  have hm : s'.mode = s.mode := (congrArg Hart.mode h :)
  have hs : s'.mstatus = s.mstatus := (congrArg Hart.mstatus h :)
  have hv : s'.v = s.v := (congrArg Hart.v h :)
  exact ⟨(fresh_eraseWalk s').1 (h ▸ (fresh_eraseWalk s).2 hi.fresh), hm ▸ hi.mode, hs ▸ hi.mpp,
    hm ▸ hv ▸ hi.v⟩

theorem raiseIntr_inv (P : Platform) (NO epc : BitVec 64) {s : Hart} (hi : Inv s) :
    Inv (raiseIntr P NO epc s).2 := by
  have hf := raiseIntr_fresh P NO epc s
  rcases raiseIntr_cases P NO epc s with ⟨-, h⟩ | ⟨-, -, h⟩ | ⟨-, -, h⟩ <;> rw [h] at hf ⊢
  · refine ⟨hf, .inr (.inl rfl), ?_, fun _ => (by decide : MODE_S ≠ MODE_M)⟩
    rw [updateMmuState_mstatus, trapToVS_mstatus]
    exact hi.mpp
  · refine ⟨hf, .inr (.inl rfl), ?_, fun h => absurd h (by rw [updateMmuState_v, trapToHS_v]; decide)⟩
    rw [updateMmuState_mstatus, trapToHS_mpp]
    exact hi.mpp
  · refine ⟨hf, .inr (.inr rfl), ?_, fun h => absurd h (by rw [updateMmuState_v, trapToM_v]; decide)⟩
    rw [updateMmuState_mstatus, trapToM_mpp, BitVec.toNat_ofNat]
    rcases hi.mode with h | h | h <;> simp [h, MODE_U, MODE_S, MODE_M]

theorem Step.inv {P : Platform} {s s' : Hart} (h : Step P s s') (hi : Inv s) : Inv s' := by
  cases h with
  | @access _ vaddr len type _ h =>
    have hf := vaddrTranslate_frame P vaddr len type s
    rw [h] at hf
    exact Inv.of_eraseWalk hf hi
  | @fault _ vaddr len type _ pc h =>
    have hf := vaddrTranslate_frame P vaddr len type s
    rw [h] at hf
    exact raiseIntr_inv P _ pc (Inv.of_eraseWalk hf hi)
  | interrupt pc _ => exact raiseIntr_inv P _ pc hi

theorem Reachable.inv {P : Platform} {s₀ s : Hart} (h : Reachable P s₀ s) (h₀ : Inv s₀) : Inv s := by
  induction h with
  | init => exact h₀
  | step _ hstep ih => exact hstep.inv ih

def sv39FreshHart : Hart :=
  { sv39Hart with ifetch_mmu_state := .translate, data_mmu_state := .translate }

/-- Along every run of the core the privilege stays U, S or M, `mstatus.MPP` never takes the
reserved value 2, and V is set only below M. -/
theorem reachable_privilege_legal {P : Platform} {s₀ s : Hart} (hr : Reachable P s₀ s)
    (h₀ : Inv s₀) :
    (s.mode = MODE_U ∨ s.mode = MODE_S ∨ s.mode = MODE_M) ∧ s.mstatus.mpp.toNat ≠ 2 ∧
      (s.v = true → s.mode ≠ MODE_M) :=
  have hi := hr.inv h₀
  ⟨hi.mode, hi.mpp, hi.v⟩

def timerHart : Hart := { sv39FreshHart with mip := 0x80, mie := 0x80 }

theorem timerHart_inv : Inv timerHart :=
  ⟨⟨rfl, rfl, rfl⟩, .inr (.inl rfl), by decide, by decide⟩

def timerTrapped : Hart := (raiseIntr Platform.base (isaQueryIntr Platform.base timerHart) 0 timerHart).2

theorem reachable_privilege_legal_timer :
    (timerTrapped.mode = MODE_U ∨ timerTrapped.mode = MODE_S ∨ timerTrapped.mode = MODE_M) ∧
      timerTrapped.mstatus.mpp.toNat ≠ 2 ∧ (timerTrapped.v = true → timerTrapped.mode ≠ MODE_M) :=
  reachable_privilege_legal (.step .init (.interrupt 0 (by decide))) timerHart_inv

/-- At every reachable state `isa_mmu_check` answers from a cache that holds what
`update_mmu_state` computes from the current mode and CSRs (§4.4). -/
theorem isaMmuCheck_consults_fresh {P : Platform} {s₀ s s' : Hart} (hr : Reachable P s₀ s)
    (h₀ : Inv s₀) {vaddr : BitVec 64} {len : Nat} {type : MemType} {r : MmuState}
    (h : isaMmuCheck P vaddr len type s = .ok r s') :
    r = if s.v && type == .ifetch || s.hld_st && type != .ifetch then updateHMmuStateInternal s false
      else updateMmuStateInternal s (type == .ifetch) := by
  obtain ⟨-, rfl⟩ := isaMmuCheck_ok h
  have hf := (hr.inv h₀).fresh
  unfold cachedMmuState
  rw [bne]
  generalize (type == .ifetch) = b
  cases s.v <;> cases b <;> cases s.hld_st <;> simp [hf.ifetch, hf.data, hf.h]

theorem isaMmuCheck_consults_fresh_timer :
    MmuState.direct =
      if timerTrapped.v && MemType.read == .ifetch || timerTrapped.hld_st && MemType.read != .ifetch
      then updateHMmuStateInternal timerTrapped false
      else updateMmuStateInternal timerTrapped (MemType.read == .ifetch) :=
  isaMmuCheck_consults_fresh (.step .init (.interrupt 0 (by decide))) timerHart_inv
    (rfl : isaMmuCheck Platform.base 0x1000 8 .read timerTrapped = .ok .direct timerTrapped)

theorem isCanonical_of_vsatp {s : Hart} {vaddr : BitVec 64} (hvs : s.vsatp.mode = 8 ∨ s.vsatp.mode = 9)
    (hc : isCanonical (12 + 9 * if s.vsatp.mode = 8 then 3 else 4) vaddr = true) :
    isCanonical (if s.satp.mode == 9 || s.vsatp.mode == 9 || s.hgatp.mode == 9 then 48 else 39)
      vaddr = true := by
  rcases hvs with h8 | h9
  · rw [h8, if_pos rfl] at hc
    split
    · exact isCanonical_mono (by decide) (by decide) hc
    · exact hc
  · rw [h9, if_neg (by decide)] at hc
    rw [h9, if_pos (by simp)]
    exact hc

/-- A virtualized read below M, with neither MPRV nor HLV, of a reachable hart goes through
`isa_mmu_check` and `isa_mmu_translate` to the host page of the two-stage translation, whenever
that translation succeeds, no VS-stage entry is in MMIO and the G-stage entries read hold page
numbers below 2^32. -/
theorem vaddrTranslate_virt_read_complete {P : Platform} {s₀ s : Hart} (hr : Reachable P s₀ s)
    (h₀ : Inv s₀) {vaddr pa : BitVec 64}
    (hmmio : ∀ e ∈ translateTrace (refGFetch P.paddrRead s.mstatus.mxr s.hgatp) s.vsatp vaddr,
      ∀ hpa ∈ refGTranslate P.paddrRead .read false s.mstatus.mxr s.hgatp e.1,
        (P.share && P.isInMmio (hpa ||| (e.1 &&& PAGE_MASK))) = false)
    (hfit : ∀ a ∈ twoStageGpas P.paddrRead .read (s.mode == MODE_U) s.vsstatus.sum
      (s.mstatus.mxr || s.vsstatus.mxr) s.mstatus.mxr s.vsatp s.hgatp vaddr,
        ∀ g ∈ gTrace P.paddrRead s.hgatp a, g.2.ppn.toNat < 2 ^ 32)
    (hfail : P.memRetFail &&& PAGE_MASK ≠ 0#64) {len : Nat}
    (hlen : len = 1 ∨ len = 2 ∨ len = 4 ∨ len = 8) (hal : P.acSoft = true → vaddr.toNat % len = 0)
    (hcross : (vaddr &&& PAGE_MASK).toNat + len ≤ PAGE_SIZE) (hv : s.v = true)
    (hmprv : s.mstatus.mprv = false) (hhld : s.hld_st = false) (hlvx : s.hlvx = false)
    (hsatp : s.satp.mode = 8 ∨ s.satp.mode = 9) (hvs : s.vsatp.mode = 8 ∨ s.vsatp.mode = 9)
    (hg : s.hgatp.mode = 8)
    (hguide : (s.guided_exec && s.execution_guide.force_raise_exception) = false)
    (h : refTwoStage P.paddrRead .read (s.mode == MODE_U) s.vsstatus.sum
      (s.mstatus.mxr || s.vsstatus.mxr) s.mstatus.mxr s.vsatp s.hgatp vaddr = some pa) :
    outcome (vaddrTranslate P vaddr len .read s) = .ret (pa ||| P.memRetOk) := by
  have hi := hr.inv h₀
  have hmode : s.mode = MODE_U ∨ s.mode = MODE_S := by
    have := hi.v hv
    rcases hi.mode with h | h | h
    exacts [.inl h, .inr h, absurd h this]
  have hp : ptwPriv s .read = (true, s.mode) := by simp [ptwPriv, hmprv, hhld, hv]
  have heff : effMode s false = s.mode := by simp [effMode, hmprv]
  have hlt : effMode s false < MODE_M := by rw [heff]; rcases hmode with h | h <;> rw [h] <;> decide
  -- the range check passes and the cached data-side state says translate
  have hcheck : mmuCheckRange vaddr .read s = .ok .translate s := by
    have hm : mmuCheckAddr s (MemType.read == .ifetch) vaddr = (true, false) :=
      (mmuCheckAddr_of_virt hv hvs hlt vaddr).trans
        (by rw [isCanonical_of_vsatp hvs (refTwoStage_canonical h)])
    rw [mmuCheckRange_pass hm]
    show EStateM.Result.ok (cachedMmuState s false) s = _
    simp only [cachedMmuState, hv, hhld, Bool.true_and, Bool.false_eq_true, if_false,
      hi.fresh.data, updateMmuStateInternal, hlt, if_true]
    rcases hsatp with h | h <;> simp [h]
  unfold vaddrTranslate
  rw [run_bind, EStateM.bind, isaMmuCheck_aligned (.inr (by
    rw [misaligned_iff vaddr hlen]
    cases hac : P.acSoft
    · simp
    · simp [hal hac])), hcheck]
  dsimp only
  rw [isaMmuTranslate_unguided (Nat.not_lt.2 hcross) hguide,
    ptw_eq_ptwWalk hp (by rcases hvs with h | h <;> rw [h] <;> decide), if_pos rfl,
    ptwWalk_virt_complete hmmio hfit hfail hmode hg hlvx h]
  rfl

def twoStageFreshHart : Hart :=
  { twoStageHart with
    satp := ⟨8, 0⟩, ifetch_mmu_state := .translate, data_mmu_state := .translate,
    h_mmu_state := .translate }

theorem twoStageFreshHart_inv : Inv twoStageFreshHart :=
  ⟨⟨rfl, rfl, rfl⟩, .inr (.inl rfl), by decide, by decide⟩

theorem vaddrTranslate_virt_read_complete_gigapages :
    outcome (vaddrTranslate twoStagePlatform 0x1000 8 .read twoStageFreshHart) =
      .ret (0x1000 ||| twoStagePlatform.memRetOk) := by
  have hgpas : twoStageGpas twoStagePlatform.paddrRead .read (twoStageFreshHart.mode == MODE_U)
      twoStageFreshHart.vsstatus.sum (twoStageFreshHart.mstatus.mxr || twoStageFreshHart.vsstatus.mxr)
      twoStageFreshHart.mstatus.mxr twoStageFreshHart.vsatp twoStageFreshHart.hgatp 0x1000 =
        [0, 0x1000] := by
    decide
  refine vaddrTranslate_virt_read_complete (P := twoStagePlatform) .init twoStageFreshHart_inv
    (fun _ _ _ _ => rfl) ?_ (by decide) (by decide) (fun _ => by decide) (by decide) rfl rfl rfl rfl
    (.inl rfl) (.inl rfl) rfl rfl (by decide)
  simp only [hgpas, List.forall_mem_cons, List.not_mem_nil, false_implies, implies_true, and_true]
  decide

end NemuPriv
