import NemuPriv.System
import NemuPriv.TrapSpec

namespace NemuPriv

section FaultTval

theorem forceRaise_of_eraseWalk {s s' : Hart} (h : s'.eraseWalk = s.eraseWalk) :
    (s'.guided_exec && s'.execution_guide.force_raise_exception) =
      (s.guided_exec && s.execution_guide.force_raise_exception) :=
  (congrArg (fun t : Hart => t.guided_exec && t.execution_guide.force_raise_exception) h :)

/-- The harts whose accesses raise through `INTR_TVAL_REG`: V, HLV/HSV and the forced exception
clear, and a walk that is not virtualized. -/
def Unvirtualized (type : MemType) (s : Hart) : Prop :=
  s.v = false ∧ s.hld_st = false ∧ (ptwPriv s type).1 = false ∧
    (s.guided_exec && s.execution_guide.force_raise_exception) = false

theorem Unvirtualized.of_eraseWalk {type : MemType} {s s' : Hart} (h : s'.eraseWalk = s.eraseWalk)
    (hs : Unvirtualized type s) : Unvirtualized type s' := by
  have hv : s'.v = s.v := (congrArg Hart.v h :)
  have hhld : s'.hld_st = s.hld_st := (congrArg Hart.hld_st h :)
  obtain ⟨h1, h2, h3, h4⟩ := hs
  exact ⟨hv ▸ h1, hhld ▸ h2, ptwPriv_of_eraseWalk h type ▸ h3, (forceRaise_of_eraseWalk h).trans h4⟩

/-- Every exception an unvirtualized access raises outside guided execution is a page, access or
misaligned fault, and the trap `raise_intr` takes leaves `vaddr` in its level's trap-value register. -/
theorem vaddrTranslate_fault_tval {P : Platform} {s : Hart} {vaddr : BitVec 64} {len : Nat}
    {type : MemType} {c : BitVec 64} (hv : s.v = false) (hhld : s.hld_st = false)
    (hvirt : (ptwPriv s type).1 = false)
    (hguide : (s.guided_exec && s.execution_guide.force_raise_exception) = false)
    (h : outcome (vaddrTranslate P vaddr len type s) = .raise (.exception c)) (epc : BitVec 64) :
    c ∈ siteTvalCauses ∧ (raiseIntr P c epc (final (vaddrTranslate P vaddr len type s))).2.tval
      (raiseIntr P c epc (final (vaddrTranslate P vaddr len type s))).2.level.tvalReg = vaddr := by
  obtain ⟨hc, ht⟩ := vaddrTranslate_tval (List.Subset.refl _) (fun _ _ => Unvirtualized.of_eraseWalk)
    (fun _ hs => hs.2.2.2) (fun _ hs hv => by rw [hs.1] at hv; cases hv)
    (fun _ hs h => by simp [hs.1, hs.2.1, hs.2.2.1] at h) s ⟨hv, hhld, hvirt, hguide⟩ c h
  exact ⟨hc, (raiseIntr_siteTval P epc _ (.inl hc)).trans ht⟩

/-- An S-mode hart with Sv39 over zero memory that delegates the load page fault to S. -/
def faultHart : Hart :=
  { Hart.base with
    mode := MODE_S, satp := ⟨8, 0x80000⟩, medeleg := 1 <<< 13
    ifetch_mmu_state := .translate, data_mmu_state := .translate }

theorem vaddrTranslate_fault_tval_sv39 :
    faultHart.v = false ∧ faultHart.hld_st = false ∧ (ptwPriv faultHart .read).1 = false ∧
      (faultHart.guided_exec && faultHart.execution_guide.force_raise_exception) = false ∧
      outcome (vaddrTranslate Platform.base 0x1000 8 .read faultHart) = .raise (.exception EX_LPF) ∧
      EX_LPF ∈ siteTvalCauses ∧
      (raiseIntr Platform.base EX_LPF 0 (final (vaddrTranslate Platform.base 0x1000 8 .read faultHart))).2.tval
        (raiseIntr Platform.base EX_LPF 0
          (final (vaddrTranslate Platform.base 0x1000 8 .read faultHart))).2.level.tvalReg = 0x1000 :=
  have h₁ : faultHart.v = false := rfl
  have h₂ : faultHart.hld_st = false := rfl
  have h₃ : (ptwPriv faultHart .read).1 = false := rfl
  have h₄ : (faultHart.guided_exec && faultHart.execution_guide.force_raise_exception) = false := rfl
  have h₅ : outcome (vaddrTranslate Platform.base 0x1000 8 .read faultHart) =
      .raise (.exception EX_LPF) := by decide
  ⟨h₁, h₂, h₃, h₄, h₅, vaddrTranslate_fault_tval h₁ h₂ h₃ h₄ h₅ 0⟩

end FaultTval

section GuestTval

/-- The delegation a hypervisor sets up for its guests: no guest-page fault delegated to VS, and
while V is set every page fault `medeleg` delegates delegated on to VS. -/
structure GuestDelegated (s : Hart) : Prop where
  unguided : (s.guided_exec && s.execution_guide.force_raise_exception) = false
  gpf : ∀ i ∈ [20, 21, 23], s.hedeleg.getLsbD i = false
  pf : s.v = true → ∀ i ∈ [12, 13, 15], s.medeleg.getLsbD i = true → s.hedeleg.getLsbD i = true

theorem GuestDelegated.of_eraseWalk {s s' : Hart} (h : s'.eraseWalk = s.eraseWalk)
    (hs : GuestDelegated s) : GuestDelegated s' := by
  have hv : s'.v = s.v := (congrArg Hart.v h :)
  have hme : s'.medeleg = s.medeleg := (congrArg Hart.medeleg h :)
  have hhe : s'.hedeleg = s.hedeleg := (congrArg Hart.hedeleg h :)
  exact ⟨(forceRaise_of_eraseWalk h).trans hs.unguided, hhe ▸ hs.gpf, hv ▸ hme ▸ hhe ▸ hs.pf⟩

theorem intrDelegVS_gpf_eq_false {s : Hart} (hgpf : ∀ i ∈ [20, 21, 23], s.hedeleg.getLsbD i = false) :
    ∀ c ∈ gpfCauses, intrDelegVS s c = false := by
  have hvs : ∀ i ∈ [20, 21, 23], intrDelegVS s (BitVec.ofNat 64 i) = false := fun i hi => by
    have hi63 : i < 63 := by
      simp only [List.mem_cons, List.mem_singleton, List.not_mem_nil, or_false] at hi; omega
    simp [intrDelegVS_exc s hi63, hgpf i hi]
  intro c hc
  simp only [gpfCauses, List.mem_cons, List.mem_singleton, List.not_mem_nil, or_false] at hc
  rcases hc with rfl | rfl | rfl
  exacts [hvs 20 (by decide), hvs 21 (by decide), hvs 23 (by decide)]

theorem GuestDelegated.gpfReported {s : Hart} (hs : GuestDelegated s) :
    GpfReported (siteTvalCauses ++ gpfCauses) s :=
  fun c hc => ⟨List.mem_append_right _ hc, intrDelegVS_gpf_eq_false hs.gpf c hc⟩

theorem GuestDelegated.guestPfReported {s : Hart} (hs : GuestDelegated s) (hv : s.v = true) :
    GuestPfReported s := by
  have hpf : ∀ i ∈ [12, 13, 15], guestTvalReg s (BitVec.ofNat 64 i) = intrTvalReg s (BitVec.ofNat 64 i) :=
    fun i hi => by
      have hi63 : i < 63 := by
        simp only [List.mem_cons, List.mem_singleton, List.not_mem_nil, or_false] at hi; omega
      refine guestTvalReg_eq_intrTvalReg fun hS => ?_
      rw [intrDelegS_exc s hi63, Bool.and_eq_true] at hS
      simp [intrDelegVS_exc s hi63, hS.1, hS.2, hv, hs.pf hv i hi hS.1]
  intro c hc
  simp only [List.mem_cons, List.mem_singleton, List.not_mem_nil, or_false] at hc
  rcases hc with rfl | rfl | rfl
  exacts [hpf 12 (by decide), hpf 13 (by decide), hpf 15 (by decide)]

/-- Every exception an access of a hart with that delegation raises is a misaligned, access, page
or guest-page fault, and the trap `raise_intr` takes leaves `vaddr` in its level's trap-value
register. -/
theorem vaddrTranslate_guest_fault_tval {P : Platform} {s : Hart} {vaddr : BitVec 64} {len : Nat}
    {type : MemType} {c : BitVec 64}
    (hguide : (s.guided_exec && s.execution_guide.force_raise_exception) = false)
    (hgpf : ∀ i ∈ [20, 21, 23], s.hedeleg.getLsbD i = false)
    (hpf : s.v = true → ∀ i ∈ [12, 13, 15], s.medeleg.getLsbD i = true → s.hedeleg.getLsbD i = true)
    (h : outcome (vaddrTranslate P vaddr len type s) = .raise (.exception c)) (epc : BitVec 64) :
    c ∈ siteTvalCauses ++ gpfCauses ∧ (raiseIntr P c epc (final (vaddrTranslate P vaddr len type s))).2.tval
      (raiseIntr P c epc (final (vaddrTranslate P vaddr len type s))).2.level.tvalReg = vaddr := by
  have hs : GuestDelegated s := ⟨hguide, hgpf, hpf⟩
  obtain ⟨hc, ht⟩ := vaddrTranslate_tval (List.subset_append_left _ _)
    (fun _ _ => GuestDelegated.of_eraseWalk) (fun _ h => h.unguided) (fun _ h => h.guestPfReported)
    (fun _ h _ => h.gpfReported) s hs c h
  have hfin := GuestDelegated.of_eraseWalk (vaddrTranslate_frame P vaddr len type s) hs
  refine ⟨hc, (raiseIntr_siteTval P epc _ ?_).trans ht⟩
  rcases List.mem_append.1 hc with h' | h'
  · exact .inl h'
  · exact .inr ⟨h', (hfin.gpfReported c h').2⟩

/-- A VS-mode hart with a Bare VS stage and an Sv39x4 G stage over zero memory. -/
def guestFaultHart : Hart :=
  { Hart.base with
    mode := MODE_S, v := true, satp := ⟨8, 0x80000⟩, hgatp := ⟨8, 0x80000⟩, medeleg := 1 <<< 21
    ifetch_mmu_state := .translate, data_mmu_state := .translate }

theorem vaddrTranslate_guest_fault_tval_bare_vs :
    (guestFaultHart.guided_exec && guestFaultHart.execution_guide.force_raise_exception) = false ∧
      (∀ i ∈ [20, 21, 23], guestFaultHart.hedeleg.getLsbD i = false) ∧
      (guestFaultHart.v = true → ∀ i ∈ [12, 13, 15], guestFaultHart.medeleg.getLsbD i = true →
        guestFaultHart.hedeleg.getLsbD i = true) ∧
      outcome (vaddrTranslate Platform.base 0x1000 8 .read guestFaultHart) = .raise (.exception EX_LGPF) ∧
      EX_LGPF ∈ siteTvalCauses ++ gpfCauses ∧
      (raiseIntr Platform.base EX_LGPF 0
          (final (vaddrTranslate Platform.base 0x1000 8 .read guestFaultHart))).2.tval
        (raiseIntr Platform.base EX_LGPF 0
          (final (vaddrTranslate Platform.base 0x1000 8 .read guestFaultHart))).2.level.tvalReg = 0x1000 :=
  have h₁ : (guestFaultHart.guided_exec && guestFaultHart.execution_guide.force_raise_exception) = false :=
    rfl
  have h₂ : ∀ i ∈ [20, 21, 23], guestFaultHart.hedeleg.getLsbD i = false := by decide
  have h₃ : guestFaultHart.v = true → ∀ i ∈ [12, 13, 15], guestFaultHart.medeleg.getLsbD i = true →
      guestFaultHart.hedeleg.getLsbD i = true := by decide
  have h₄ : outcome (vaddrTranslate Platform.base 0x1000 8 .read guestFaultHart) =
      .raise (.exception EX_LGPF) := by decide
  ⟨h₁, h₂, h₃, h₄, vaddrTranslate_guest_fault_tval h₁ h₂ h₃ h₄ 0⟩

/-- Every fault of the G-stage translation is a guest-page fault that `raise_intr` takes into HS
or M, whose handler finds `vaddr`, `gpaddr >> 2` and GVA set in its level's registers. -/
theorem gpaStage_fault_handler {P : Platform} {s : Hart} {gpaddr vaddr : BitVec 64} {type : MemType}
    {c : BitVec 64} (hguide : (s.guided_exec && s.execution_guide.force_raise_exception) = false)
    (hgpf : ∀ i ∈ [20, 21, 23], s.hedeleg.getLsbD i = false)
    (h : outcome (gpaStage P gpaddr vaddr type s) = .raise (.exception c)) (epc : BitVec 64) :
    c ∈ gpfCauses ∧
      (((raiseIntr P c epc (final (gpaStage P gpaddr vaddr type s))).2.level = .HS ∧
          (raiseIntr P c epc (final (gpaStage P gpaddr vaddr type s))).2.stval = vaddr ∧
          (raiseIntr P c epc (final (gpaStage P gpaddr vaddr type s))).2.htval = gpaddr >>> 2 ∧
          (raiseIntr P c epc (final (gpaStage P gpaddr vaddr type s))).2.hstatus.gva = true) ∨
        ((raiseIntr P c epc (final (gpaStage P gpaddr vaddr type s))).2.level = .M ∧
          (raiseIntr P c epc (final (gpaStage P gpaddr vaddr type s))).2.mtval = vaddr ∧
          (raiseIntr P c epc (final (gpaStage P gpaddr vaddr type s))).2.mtval2 = gpaddr >>> 2 ∧
          (raiseIntr P c epc (final (gpaStage P gpaddr vaddr type s))).2.mstatus.gva = true)) := by
  have hq : WalkStable fun t : Hart => (t.guided_exec && t.execution_guide.force_raise_exception) = false :=
    fun _ _ he ht => (forceRaise_of_eraseWalk he).trans ht
  obtain ⟨hc, hv, h2⟩ := gpaStage_gpf hq (fun _ ht => ht) s hguide c h
  have hvs : intrDelegVS (final (gpaStage P gpaddr vaddr type s)) c = false := by
    rw [intrDelegVS_of_eraseWalk (gpaStage_frame P gpaddr vaddr type s)]
    exact intrDelegVS_gpf_eq_false hgpf c hc
  refine ⟨hc, ?_⟩
  rcases raiseIntr_gpf P hc epc _ hvs with ⟨hS, hl, hst, hht, hgva⟩ | ⟨hS, hl, hmt, hmt2, hgva⟩
  · rw [hS] at hv h2
    exact .inl ⟨hl, hst.trans hv, hht.trans h2, hgva⟩
  · rw [hS] at hv h2
    exact .inr ⟨hl, hmt.trans hv, hmt2.trans h2, hgva⟩

theorem gpaStage_fault_handler_root :
    (guestFaultHart.guided_exec && guestFaultHart.execution_guide.force_raise_exception) = false ∧
      (∀ i ∈ [20, 21, 23], guestFaultHart.hedeleg.getLsbD i = false) ∧
      outcome (gpaStage Platform.base 0x1000 0x1000 .read guestFaultHart) = .raise (.exception EX_LGPF) ∧
      EX_LGPF ∈ gpfCauses ∧
      (((raiseIntr Platform.base EX_LGPF 0 (final (gpaStage Platform.base 0x1000 0x1000 .read
            guestFaultHart))).2.level = .HS ∧
          (raiseIntr Platform.base EX_LGPF 0 (final (gpaStage Platform.base 0x1000 0x1000 .read
            guestFaultHart))).2.stval = 0x1000 ∧
          (raiseIntr Platform.base EX_LGPF 0 (final (gpaStage Platform.base 0x1000 0x1000 .read
            guestFaultHart))).2.htval = 0x1000 >>> 2 ∧
          (raiseIntr Platform.base EX_LGPF 0 (final (gpaStage Platform.base 0x1000 0x1000 .read
            guestFaultHart))).2.hstatus.gva = true) ∨
        ((raiseIntr Platform.base EX_LGPF 0 (final (gpaStage Platform.base 0x1000 0x1000 .read
            guestFaultHart))).2.level = .M ∧
          (raiseIntr Platform.base EX_LGPF 0 (final (gpaStage Platform.base 0x1000 0x1000 .read
            guestFaultHart))).2.mtval = 0x1000 ∧
          (raiseIntr Platform.base EX_LGPF 0 (final (gpaStage Platform.base 0x1000 0x1000 .read
            guestFaultHart))).2.mtval2 = 0x1000 >>> 2 ∧
          (raiseIntr Platform.base EX_LGPF 0 (final (gpaStage Platform.base 0x1000 0x1000 .read
            guestFaultHart))).2.mstatus.gva = true)) :=
  have h₁ : (guestFaultHart.guided_exec && guestFaultHart.execution_guide.force_raise_exception) = false :=
    rfl
  have h₂ : ∀ i ∈ [20, 21, 23], guestFaultHart.hedeleg.getLsbD i = false := by decide
  have h₃ : outcome (gpaStage Platform.base 0x1000 0x1000 .read guestFaultHart) =
      .raise (.exception EX_LGPF) := by decide
  ⟨h₁, h₂, h₃, gpaStage_fault_handler h₁ h₂ h₃ 0⟩

end GuestTval

section Nesting

theorem Hart.level_eq_M {s : Hart} : s.level = .M ↔ s.mode = MODE_M := by
  unfold Hart.level
  split_ifs <;> simp_all

theorem Hart.level_eq_HS {s : Hart} : s.level = .HS ↔ s.mode = MODE_S ∧ s.v = false := by
  unfold Hart.level
  split_ifs <;> simp_all [show MODE_M ≠ MODE_S by decide]

theorem Hart.level_eq_VS {s : Hart} : s.level = .VS ↔ s.mode = MODE_S ∧ s.v = true := by
  unfold Hart.level
  split_ifs <;> simp_all [show MODE_M ≠ MODE_S by decide]

theorem Hart.level_of_eraseWalk {s s' : Hart} (h : s'.eraseWalk = s.eraseWalk) : s'.level = s.level := by
  have hm : s'.mode = s.mode := (congrArg Hart.mode h :)
  have hv : s'.v = s.v := (congrArg Hart.v h :)
  simp only [Hart.level, hm, hv]

/-- A trap handler runs: the hart is at M, HS or VS with that level's global interrupt enable
clear. -/
structure Masked (s : Hart) : Prop where
  level : s.level = .M ∨ s.level = .HS ∨ s.level = .VS
  ie : s.level.globalIE s = false

theorem raiseIntr_masked (P : Platform) (NO epc : BitVec 64) (s : Hart) :
    Masked (raiseIntr P NO epc s).2 := by
  rcases raiseIntr_cases P NO epc s with ⟨-, h⟩ | ⟨-, -, h⟩ | ⟨-, -, h⟩ <;>
    refine ⟨?_, ?_⟩ <;> rw [h, updateMmuState_level]
  · exact .inr (.inr (trapToVS_level _ _ _ _))
  · rw [trapToVS_level, Level.globalIE, updateMmuState_vsstatus, trapToVS_vsstatus]
  · exact .inr (.inl (trapToHS_level _ _ _ _ _))
  · rw [trapToHS_level, Level.globalIE, updateMmuState_mstatus, trapToHS_mstatus]
  · exact .inl (trapToM_level _ _ _ _ _)
  · rw [trapToM_level, Level.globalIE, updateMmuState_mstatus, trapToM_mstatus]

theorem Masked.of_eraseWalk {s s' : Hart} (h : s'.eraseWalk = s.eraseWalk) (hm : Masked s) :
    Masked s' := by
  have hl := Hart.level_of_eraseWalk h
  have hms : s'.mstatus = s.mstatus := (congrArg Hart.mstatus h :)
  have hvs : s'.vsstatus = s.vsstatus := (congrArg Hart.vsstatus h :)
  have hie : ∀ l : Level, l.globalIE s' = l.globalIE s := fun l => by
    cases l <;> simp only [Level.globalIE, hms, hvs]
  exact ⟨hl ▸ hm.level, by rw [hl, hie]; exact hm.ie⟩

/-- Every step keeps a handler masked and never lowers its level. -/
theorem Step.masked {P : Platform} {s s' : Hart} (h : Step P s s') (hm : Masked s) :
    Masked s' ∧ s'.level.AtLeast s.level = true := by
  cases h with
  | @access _ vaddr len type _ h =>
    have hf := vaddrTranslate_frame P vaddr len type s
    rw [h] at hf
    exact ⟨hm.of_eraseWalk hf, Hart.level_of_eraseWalk hf ▸ Level.atLeast_refl _⟩
  | @fault _ vaddr len type _ pc h =>
    have hf := vaddrTranslate_frame P vaddr len type s
    rw [h] at hf
    exact ⟨raiseIntr_masked _ _ _ _,
      raiseIntr_level_dominates _ _ _ (Hart.level_of_eraseWalk hf ▸ Level.atLeast_refl _)⟩
  | interrupt pc _ =>
    exact ⟨raiseIntr_masked _ _ _ _, raiseIntr_level_dominates _ _ _ (Level.atLeast_refl _)⟩

theorem Reachable.masked {P : Platform} {s₀ s : Hart} (hr : Reachable P s₀ s) (hm : Masked s₀) :
    Masked s ∧ s.level.AtLeast s₀.level = true := by
  induction hr with
  | init => exact ⟨hm, Level.atLeast_refl _⟩
  | step _ hstep ih =>
    obtain ⟨hm', hl⟩ := hstep.masked ih.1
    exact ⟨hm', Level.atLeast_trans hl ih.2⟩

theorem globalEnable_masked (P : Platform) (epc : BitVec 64) {s : Hart}
    (hv : s.v = true → s.mode ≠ MODE_M) (hm : Masked s) {i : Nat} (hi : i < 64)
    (hen : globalEnable s i = true) :
    intrDest s i ≠ s.level ∧ (intrDest s i).AtLeast s.level = true ∧
      (raiseIntr P (BitVec.ofNat 64 i ||| INTR_BIT) epc s).2.level = intrDest s i := by
  rw [globalEnable_eq_destEnabled s hi] at hen
  rw [raiseIntr_level, intrDelegVS_intr s hi, intrDelegS_intr s hi]
  have hie := hm.ie
  rcases hm.level with hl | hl | hl
  · have hmode := Hart.level_eq_M.1 hl
    have hvf : s.v = false := Bool.eq_false_iff.2 fun h => hv h hmode
    rw [hl] at hie ⊢
    cases hmi : s.mideleg.getLsbD i <;> cases hhi : s.hideleg.getLsbD i <;>
      simp_all [intrDest, destEnabled, Level.globalIE, MODE_M, MODE_S]
  · obtain ⟨hmode, hvf⟩ := Hart.level_eq_HS.1 hl
    rw [hl] at hie ⊢
    cases hmi : s.mideleg.getLsbD i <;> cases hhi : s.hideleg.getLsbD i <;>
      simp_all [intrDest, destEnabled, Level.globalIE, Level.AtLeast, MODE_M, MODE_S]
  · obtain ⟨hmode, hvt⟩ := Hart.level_eq_VS.1 hl
    rw [hl] at hie ⊢
    cases hmi : s.mideleg.getLsbD i <;> cases hhi : s.hideleg.getLsbD i <;>
      simp_all [intrDest, destEnabled, Level.globalIE, Level.AtLeast, MODE_M, MODE_S]

/-- After any trap, along every run that follows, the hart stays masked at or above the level the
trap was taken in, and every interrupt `isa_query_intr` selects is bound for a strictly more
privileged level, where `raise_intr` takes it. -/
theorem trap_handler_preempted_only_above {P : Platform} {t s : Hart} (ht : Inv t) (NO epc : BitVec 64)
    (hr : Reachable P (raiseIntr P NO epc t).2 s) :
    s.level.globalIE s = false ∧ s.level.AtLeast (raiseIntr P NO epc t).2.level = true ∧
      ∀ i < 64, ∀ pc, isaQueryIntr P s = BitVec.ofNat 64 i ||| INTR_BIT →
        intrDest s i ≠ s.level ∧ (intrDest s i).AtLeast s.level = true ∧
          (raiseIntr P (BitVec.ofNat 64 i ||| INTR_BIT) pc s).2.level = intrDest s i := by
  obtain ⟨hm, hl⟩ := hr.masked (raiseIntr_masked P NO epc t)
  have hi := hr.inv (raiseIntr_inv P NO epc ht)
  exact ⟨hm.ie, hl, fun i hi64 pc hq =>
    globalEnable_masked P pc hi.v hm hi64 (isaQueryIntr_found P s hi64 hq).2⟩

def timerFaultHart : Hart := { faultHart with mip := 0x80, mie := 0x80 }

theorem timerFaultHart_inv : Inv timerFaultHart :=
  ⟨⟨rfl, rfl, rfl⟩, .inr (.inl rfl), by decide, by decide⟩

/-- The HS-level handler of the load page fault of `timerFaultHart`, after one read. -/
def lpfHandlerRead : Hart :=
  final (vaddrTranslate gigaLeafPlatform 0x1000 8 .read
    (raiseIntr gigaLeafPlatform EX_LPF 0 timerFaultHart).2)

theorem trap_handler_preempted_only_above_timer :
    Inv timerFaultHart ∧
      Reachable gigaLeafPlatform (raiseIntr gigaLeafPlatform EX_LPF 0 timerFaultHart).2
        lpfHandlerRead ∧
      isaQueryIntr gigaLeafPlatform lpfHandlerRead = BitVec.ofNat 64 IRQ_MTIP ||| INTR_BIT ∧
      intrDest lpfHandlerRead IRQ_MTIP ≠ lpfHandlerRead.level ∧
      (intrDest lpfHandlerRead IRQ_MTIP).AtLeast lpfHandlerRead.level = true ∧
      (raiseIntr gigaLeafPlatform (BitVec.ofNat 64 IRQ_MTIP ||| INTR_BIT) 0 lpfHandlerRead).2.level =
        intrDest lpfHandlerRead IRQ_MTIP :=
  have hr : Reachable gigaLeafPlatform (raiseIntr gigaLeafPlatform EX_LPF 0 timerFaultHart).2
      lpfHandlerRead :=
    .step .init (.access (rfl : vaddrTranslate gigaLeafPlatform 0x1000 8 .read
      (raiseIntr gigaLeafPlatform EX_LPF 0 timerFaultHart).2 = .ok 0x80001000 lpfHandlerRead))
  have hq : isaQueryIntr gigaLeafPlatform lpfHandlerRead = BitVec.ofNat 64 IRQ_MTIP ||| INTR_BIT := by
    decide
  ⟨timerFaultHart_inv, hr, hq,
    (trap_handler_preempted_only_above timerFaultHart_inv EX_LPF 0 hr).2.2 IRQ_MTIP (by decide) 0 hq⟩

end Nesting

end NemuPriv
